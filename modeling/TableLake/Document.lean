/-
# TableLake.Document — nested data written for readers

Texts, truth values, lists and records, written one entry a line, two blanks deeper
with every level.
-/
import TableLake.Text.Integer

namespace TableLake

open TableLake.Text

set_option autoImplicit false

inductive Document where
  | text (s : String)
  | truth (b : Bool)
  | list (items : List Document)
  | record (entries : List (String × Document))

namespace Document

/-- The four digits of a control character. -/
def controlDigits (c : Char) : String :=
  let digits := String.ofList (Nat.toDigits 16 c.toNat)
  "".pushn '0' (4 - digits.length) ++ digits

/-- A character inside quotes. -/
def escaped (c : Char) : String :=
  match c with
  | '"' => "\\\""
  | '\\' => "\\\\"
  | '\n' => "\\n"
  | '\r' => "\\r"
  | '\t' => "\\t"
  | '\x08' => "\\b"
  | '\x0c' => "\\f"
  | c => if c.toNat < 32 then "\\u" ++ controlDigits c else c.toString

/-- A text between quotes. -/
def quotedText (s : String) : String :=
  "\"" ++ String.join (s.toList.map escaped) ++ "\""

/-- Entries between brackets, one a line. -/
def block (opening closing : String) (depth : Nat) (entries : List String) : String :=
  if entries.isEmpty then opening ++ closing
  else
    let line (entry : String) := "\n" ++ "".pushn ' ' (2 * (depth + 1)) ++ entry
    opening ++ String.intercalate "," (entries.map line) ++ "\n" ++ "".pushn ' ' (2 * depth) ++
      closing

mutual

/-- The document at a depth. -/
def render (depth : Nat) : Document → String
  | .text s => quotedText s
  | .truth b => if b then "true" else "false"
  | .list items => block "[" "]" depth (renderItems (depth + 1) items)
  | .record entries => block "\x7b" "\x7d" depth (renderEntries (depth + 1) entries)

def renderItems (depth : Nat) : List Document → List String
  | [] => []
  | item :: rest => item.render depth :: renderItems depth rest

def renderEntries (depth : Nat) : List (String × Document) → List String
  | [] => []
  | (key, value) :: rest =>
      (quotedText key ++ ": " ++ value.render depth) :: renderEntries depth rest

end

end Document

end TableLake
