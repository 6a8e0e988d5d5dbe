/-
# TableLake.Grid — rows of texts as a table with borders

Every column is as wide as its widest text; texts stand to the left, with a blank on
either side.  A text of several lines takes several lines of its row.  A table
without rows, or without columns, is only its borders.
-/
import TableLake.Text.Split
import TableLake.Text.Width

namespace TableLake

open TableLake.Text

set_option autoImplicit false

/-- A header and rows of as many texts. -/
structure Grid where
  header : List String
  rows : List (List String)
deriving DecidableEq, Repr

namespace Grid

/-- The lines of a text. -/
def linesOf (text : String) : List String := split '\n' text

/-- The places of the widest line. -/
def textWidth (text : String) : Nat := ((linesOf text).map width).foldl max 0

/-- The places of each column. -/
def widths (g : Grid) : List Nat :=
  g.rows.foldl (fun ws row => List.zipWith (fun w t => max w (textWidth t)) ws row)
    (g.header.map textWidth)

/-- The line between rows. -/
def border (widths : List Nat) : String :=
  "+" ++ String.join (widths.map fun w => "".pushn '-' (w + 2) ++ "+")

/-- One line of a row: the line of each text, blank where a text has no more. -/
def rowLine (widths : List Nat) (row : List (List String)) (i : Nat) : String :=
  "|" ++ String.join (List.zipWith
    (fun w lines => " " ++ padded w ((lines[i]?).getD "") ++ " |") widths row)

/-- The lines of a row. -/
def rowLines (widths : List Nat) (row : List String) : List String :=
  let cells := row.map linesOf
  let height := (cells.map List.length).foldl max 1
  (List.range height).map (rowLine widths cells)

/-- All lines of the table. -/
def lines (g : Grid) : List String :=
  let ws := g.widths
  [border ws] ++ rowLines ws g.header ++ [border ws] ++ g.rows.flatMap (rowLines ws) ++ [border ws]

/-- The table as a text that ends in a new line. -/
def render (g : Grid) : String :=
  let lines := if g.header.isEmpty || g.rows.isEmpty then ["++", "++"] else g.lines
  String.join (lines.map fun line => line ++ "\n")

end Grid

end TableLake
