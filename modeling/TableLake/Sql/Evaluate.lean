/-
# TableLake.Sql.Evaluate — expressions over the columns of a row

In a query the operands of an operator are brought to the types it takes first
(`BinaryOp.types`); a value that has no counterpart there is a fault.
-/
import TableLake.Sql.Fold

namespace TableLake.Sql

open TableLake.Text TableLake.Number

set_option autoImplicit false

/-- An operator on two values. -/
def apply (op : BinaryOp) (a b : Scalar) : Except EngineError Scalar := do
  let types ← (op.types a.type b.type).mapError .plan
  let a ← (a.cast types.left).mapError .data
  let b ← (b.cast types.right).mapError .data
  match combine op a b with
  | some s => return s
  | none => .error (.data (if b.cell = some (.integer 0) then .divisionByZero else .overflow))

/-- A number with the other sign; that of a column wraps around where the type has none. -/
def negate (fixed : Bool) (s : Scalar) : Except EngineError Scalar :=
  if !hasSign s.type then .error (.plan .noSign)
  else
    match s.type, s.cell with
    | .integer t, some (.integer n) =>
        if fixed && !t.holds (-n) then .error (.data .overflow)
        else .ok ⟨s.type, some (.integer (t.wrap (-n)))⟩
    | _, some (.double d) => .ok ⟨s.type, some (.double d.negate)⟩
    | _, _ => .ok s

/-- The negation of a truth value. -/
def contrary (s : Scalar) : Except EngineError Scalar :=
  match negation? s with
  | some s => .ok s
  | none => .error (.plan (.notTruth s.type))

/-- Whether a value is one of some constants, or for the contrary is none of them. -/
def among (negated : Bool) (s : Scalar) (values : List Scalar) : Except EngineError Scalar := do
  let cells ← values.mapM fun v => return (← apply .equal s v).cell
  let found : Scalar := ⟨.boolean, cells.foldl orCells (some (.boolean false))⟩
  return if negated then (negation? found).getD found else found

/-- The value of an expression where the columns have values. -/
def evaluate (columns : ColumnName → Option Scalar) : Expr → Except EngineError Scalar
  | .literal s => .ok s
  | .column c =>
      match columns c with
      | some s => .ok s
      | none => .error (.column (.unknown c []))
  | .binary op left right => do apply op (← evaluate columns left) (← evaluate columns right)
  | .not operand => do contrary (← evaluate columns operand)
  | .negative operand => do negate (!operand.hasColumn) (← evaluate columns operand)
  | .isNull operand => do return .ofBool (← evaluate columns operand).cell.isNone
  | .isNotNull operand => do return .ofBool (← evaluate columns operand).cell.isSome
  | .oneOf negated c values =>
      match columns c with
      | some s => among negated s values
      | none => .error (.column (.unknown c []))

end TableLake.Sql
