/-
# TableLake.Sql.Membership — a column among constants

Several equations of one column joined by `OR` say that the column is one of some
constants, which is a single expression here (`Expr.listed?`, `Expr.merged?`).  Two
such expressions about one column are one again, by what their constants have in common
(`Expr.met?`).  At the end a few constants are written out as equations
(`Expr.spelledOut`).
-/
import TableLake.Sql.Operation

namespace TableLake.Sql

set_option autoImplicit false

namespace Expr

/-- A column and the constants of which it is one, if an expression says so. -/
def listed? : Expr → Option (ColumnName × List Scalar)
  | .oneOf false c values => some (c, values)
  | .binary .equal (.column c) (.literal s) => some (c, [s])
  | .binary .equal (.literal s) (.column c) => some (c, [s])
  | _ => none

/-- Two expressions about one column joined by `OR`: the constants of both, each once. -/
def merged? (left right : Expr) : Option Expr :=
  match left.listed?, right.listed? with
  | some (c, values), some (c', values') =>
      if c = c' then some (.oneOf false c (values ++ values').eraseDups) else none
  | _, _ => none

/-- A column is one of no constants: that is false, and its contrary is true. -/
def oneOfSome (negated : Bool) (c : ColumnName) (values : List Scalar) : Expr :=
  if values.isEmpty then .literal (.ofBool negated) else .oneOf negated c values

/-- The constants that are in another list as well, or those that are not. -/
def kept (inBoth : Bool) (values others : List Scalar) : List Scalar :=
  values.filter fun s => others.contains s == inBoth

/-- What two expressions about one column, each with its constants, are together. -/
def met? (op : BinaryOp) (left right : Expr) : Option Expr :=
  match left, right with
  | .oneOf n c values, .oneOf n' c' others =>
      if c ≠ c' then none
      else
        match op, n, n' with
        | .and, false, false => some (oneOfSome false c (kept true values others))
        | .and, false, true => some (oneOfSome false c (kept false values others))
        | .and, true, false => some (oneOfSome false c (kept false others values))
        | .and, true, true => some (.oneOf true c (values ++ kept false others values))
        | .or, true, true => some (oneOfSome true c (kept true values others))
        | _, _, _ => none
  | _, _ => none

/-- Lists of more constants than these are not written out. -/
def mostWritten : Nat := 3

/-- The equations, or their contraries, of a column with each of some constants. -/
def equations (negated : Bool) (c : ColumnName) : List Scalar → Expr
  | [] => .literal (.ofBool negated)
  | s :: more =>
      let equation (v : Scalar) : Expr :=
        .binary (if negated then .notEqual else .equal) (.column c) (.literal v)
      more.foldl (fun e v => .binary (if negated then .and else .or) e (equation v)) (equation s)

/-- The expression with a few constants written out wherever a column is one of them. -/
def spelledOut : Expr → Expr
  | .literal s => .literal s
  | .column c => .column c
  | .binary op left right => .binary op left.spelledOut right.spelledOut
  | .not operand => .not operand.spelledOut
  | .negative operand => .negative operand.spelledOut
  | .isNull operand => .isNull operand.spelledOut
  | .isNotNull operand => .isNotNull operand.spelledOut
  | .oneOf negated c values =>
      if values.length ≤ mostWritten then equations negated c values else .oneOf negated c values

end Expr

end TableLake.Sql
