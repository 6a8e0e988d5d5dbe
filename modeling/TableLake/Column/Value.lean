/-
# TableLake.Column.Value — values, cells and columns

A cell is a value or is missing.  A column is a type and its cells from the first
row to the last; a scalar is a single cell with its type.
-/
import TableLake.Column.Type
import TableLake.Number.Double

namespace TableLake

open TableLake.Number

set_option autoImplicit false

/-- A value that is there. -/
inductive Datum where
  | boolean (b : Bool)
  | integer (n : Int)
  | double (d : Double)
  | text (s : String)
deriving DecidableEq, Repr

/-- A value, or none. -/
abbrev Cell := Option Datum

/-- One cell with its type. -/
structure Scalar where
  type : ColumnType
  cell : Cell
deriving DecidableEq, Repr

namespace Scalar

/-- The missing value of a type. -/
def missing (type : ColumnType) : Scalar := ⟨type, none⟩

def ofText (s : String) : Scalar := ⟨.utf8, some (.text s)⟩
def ofInt64 (n : Int) : Scalar := ⟨.int64, some (.integer n)⟩
def ofUInt64 (n : Nat) : Scalar := ⟨.uint64, some (.integer n)⟩
def ofBool (b : Bool) : Scalar := ⟨.boolean, some (.boolean b)⟩
def ofDouble (d : Double) : Scalar := ⟨.float64, some (.double d)⟩

/-- The text that a scalar of a text type holds; of another type, `none`. -/
def text? (s : Scalar) : Option (Option String) :=
  if s.type.isText then
    match s.cell with
    | none => some none
    | some (.text t) => some (some t)
    | some _ => none
  else none

end Scalar

/-- The cells of one type, one a row. -/
structure Column where
  type : ColumnType
  cells : List Cell
deriving DecidableEq, Repr

namespace Column

/-- The number of rows. -/
def length (c : Column) : Nat := c.cells.length

/-- A column of missing values. -/
def missing (type : ColumnType) (rows : Nat) : Column := ⟨type, List.replicate rows none⟩

/-- How many cells are marked as missing; a column of the null type marks none. -/
def nullCount (c : Column) : Nat :=
  if c.type = .null then 0 else c.cells.countP (·.isNone)

/-- Whether a cell is missing, also in a column of the null type. -/
def hasMissing (c : Column) : Bool := c.cells.any (·.isNone)

@[simp]
theorem length_missing (type : ColumnType) (rows : Nat) : (missing type rows).length = rows := by
  simp [missing, length]

end Column

end TableLake
