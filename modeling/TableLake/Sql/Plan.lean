/-
# TableLake.Sql.Plan — written expressions as expressions

Names are looked up among the columns at hand, literals take their types: a whole
number is of sixty-four bits with a sign, else without one, and any other number is
a floating point number.
-/
import TableLake.Sql.Syntax
import TableLake.Sql.Typing
import TableLake.Text.Numeral

namespace TableLake.Sql

open TableLake.Text TableLake.Number

set_option autoImplicit false

/-- The digits of a number; an `L` behind them says that it is a long one. -/
def plainDigits (digits : String) : String := String.ofList (digits.toList.filter (· ≠ 'L'))

/-- The number written by digits, after a minus sign or not. -/
def numberLiteral (negative : Bool) (digits : String) : Except EngineError Expr :=
  let digits := plainDigits digits
  let text := if negative then "-" ++ digits else digits
  match readSigned 64 text with
  | .ok n => .ok (.literal (.ofInt64 n))
  | .error _ =>
      match negative, readUnsigned maxUnsigned64 digits with
      | false, .ok n => .ok (.literal (.ofUInt64 n))
      | _, _ =>
          match readNumeral text with
          | some n => .ok (.literal (.ofDouble (Double.ofNumeral n)))
          | none => .error .malformed

/-- What the names of columns are looked up in: the name of a table, part by part, and
its columns. -/
structure Source where
  table : List String
  fields : List Field
deriving DecidableEq, Repr

namespace Source

/-- No table. -/
def empty : Source := ⟨[], []⟩

/-- The name of a column of the table. -/
def column (s : Source) (name : String) : ColumnName := ⟨s.table, name⟩

/-- The names of all columns. -/
def known (s : Source) : List ColumnName := s.fields.map fun f => s.column f.name

/-- The field of a column. -/
def scope (s : Source) : Scope := fun c =>
  if c.mayBelong s.table then s.fields.find? fun f => f.name == c.name else none

/-- The column that a name means, if it is one of the table's. -/
def columnNamed (s : Source) (parts : List Ident) : Except EngineError Expr :=
  match ColumnName.ofParts? (parts.map Ident.normalized) with
  | none => .error .malformed
  | some c =>
      match s.scope c with
      | some f => .ok (.column (s.column f.name))
      | none => .error (.column (.unknown c s.known))

end Source

/-- An expression behind a plus sign: it has to be a number or an instant. -/
def unsigned (scope : Scope) (e : Expr) : Except EngineError Expr := do
  match ← e.type scope with
  | .timestamp _ => return e
  | t => if t.isNumeric then return e else .error (.plan .unsigned)

/-- The expression that is written. -/
def Term.toExpr (s : Source) : Term → Except EngineError Expr
  | .name parts => s.columnNamed parts
  | .number digits => numberLiteral false digits
  | .text t _ => .ok (.literal (.ofText t))
  | .boolean b => .ok (.literal (.ofBool b))
  | .null => .ok (.literal (.missing .null))
  | .nested inner => inner.toExpr s
  | .signed .plus operand => do unsigned s.scope (← operand.toExpr s)
  | .signed .minus (.number digits) => numberLiteral true digits
  | .signed .minus operand => Expr.negative <$> operand.toExpr s
  | .signed .not operand => Expr.not <$> operand.toExpr s
  | .binary op left right => do
      return .binary op (← left.toExpr s) (← right.toExpr s)
  | .isNull false operand => Expr.isNull <$> operand.toExpr s
  | .isNull true operand => Expr.isNotNull <$> operand.toExpr s
  | .countAll => .error (.column (.unknown ⟨[], "count(*)"⟩ s.known))

end TableLake.Sql
