/-
# TableLake.Column.Fault — what can be wrong with columns put together

The causes for which a batch is refused, those for which a column or a value has no
counterpart of another type, and those for which arithmetic has no result.
-/
import TableLake.Column.Value
import TableLake.Text.Integer

namespace TableLake

open TableLake.Text TableLake.Number

set_option autoImplicit false

/-- A reason to refuse data. -/
inductive DataFault where
  | columnCount (columns fields : Nat)
  | noColumns
  | missingRequired (field : String)
  | unequalLengths
  | typeMismatch (expected found : ColumnType) (index : Nat)
  | uncastable (source target : ColumnType)
  | listToPlain
  | unreadable (source : ColumnType) (value : Datum) (target : ColumnType)
  | divisionByZero
  | overflow
  | noColumnAt (index fields : Nat)
deriving DecidableEq, Repr

/-- The fault for a value that does not fit a type. -/
def unfitMessage (source : ColumnType) (value : Datum) (target : ColumnType) : String :=
  let number (text : String) : String :=
    "Can't cast value " ++ text ++ " to type " ++ target.name
  match value with
  | .text s =>
      if target = .boolean then "Cannot cast value '" ++ s ++ "' to value of Boolean type"
      else "Cannot cast string '" ++ s ++ "' to value of " ++ target.name ++ " type"
  | .integer n => number (signedDecimal n)
  | .boolean b => number (if b then "true" else "false")
  | .double d =>
      number (if source = .float32 then
        d.render (fun m q => Double.placed (-4) 16 (Double.shortestSingle m q)) "0.0" else d.text)

/-- The wording of a fault. -/
def DataFault.message : DataFault → String
  | .columnCount columns fields =>
      "Invalid argument error: number of columns(" ++ decimal columns ++
        ") must match number of fields(" ++ decimal fields ++ ") in schema"
  | .noColumns =>
      "Invalid argument error: must either specify a row count or at least one column"
  | .missingRequired field =>
      "Invalid argument error: Column '" ++ field ++
        "' is declared as non-nullable but contains null values"
  | .unequalLengths =>
      "Invalid argument error: all columns in a record batch must have the same length"
  | .typeMismatch expected found index =>
      "Invalid argument error: column types must match schema types, expected " ++
        expected.name ++ " but found " ++ found.name ++ " at column index " ++ decimal index
  | .uncastable source target =>
      "Cast error: Casting from " ++ source.name ++ " to " ++ target.name ++ " not supported"
  | .listToPlain => "Cast error: Cannot cast list to non-list data types"
  | .unreadable source value target => "Cast error: " ++ unfitMessage source value target
  | .divisionByZero => "Divide by zero error"
  | .overflow => "Arithmetic overflow: a number is too large for its type"
  | .noColumnAt index fields =>
      "Schema error: project index " ++ decimal index ++ " out of bounds, max field " ++
        decimal fields

end TableLake
