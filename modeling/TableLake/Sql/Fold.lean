/-
# TableLake.Sql.Fold — expressions without columns become constants

`fold` first puts the column of a comparison on its left side.  Then it works out what
holds no column (`constants`) and applies the rules for unknown operands
(`Expr.simplify`) by turns: one can make room for the other.  It ends when neither
changes anything, and at the latest after three turns; what says that a column is one of
a few constants is written out last.
-/
import TableLake.Sql.Simplify

namespace TableLake.Sql

set_option autoImplicit false

/-- The comparison that holds with the operands exchanged. -/
def mirrored? : BinaryOp → Option BinaryOp
  | .equal => some .equal
  | .notEqual => some .notEqual
  | .less => some .greater
  | .lessEqual => some .greaterEqual
  | .greater => some .less
  | .greaterEqual => some .lessEqual
  | _ => none

namespace Expr

/-- A comparison with its column on the left; of two columns the greater one. -/
def turned (op : BinaryOp) (left right : Expr) : Expr :=
  match left, right, mirrored? op with
  | .literal _, .column _, some op' => .binary op' right left
  | .column a, .column b, some op' =>
      if a.order b == .lt then .binary op' right left else .binary op left right
  | _, _, _ => .binary op left right

/-- The expression with every comparison turned. -/
def arranged : Expr → Expr
  | .literal s => .literal s
  | .column c => .column c
  | .oneOf negated c values => .oneOf negated c values
  | .binary op left right => turned op left.arranged right.arranged
  | .not operand => .not operand.arranged
  | .negative operand => .negative operand.arranged
  | .isNull operand => .isNull operand.arranged
  | .isNotNull operand => .isNotNull operand.arranged

/-- An expression as a literal if it has a value, and whether that was looked for: an
expression with a column is let be. -/
def worked (e : Expr) (changed : Bool) : Expr × Bool :=
  if e.hasColumn then (e, changed)
  else
    match e.value? with
    | some s => (.literal s, true)
    | none => (e, true)

/-- The expression with everything worked out that holds no column, and whether there
was something to work out. -/
def constants : Expr → Expr × Bool
  | .literal s => (.literal s, false)
  | .column c => (.column c, false)
  | .oneOf negated c values => (.oneOf negated c values, false)
  | .binary op left right =>
      let (left, changedLeft) := left.constants
      let (right, changedRight) := right.constants
      worked (.binary op left right) (changedLeft || changedRight)
  | .not operand => worked (.not operand.constants.1) operand.constants.2
  | .negative operand => worked (.negative operand.constants.1) operand.constants.2
  | .isNull operand => worked (.isNull operand.constants.1) operand.constants.2
  | .isNotNull operand => worked (.isNotNull operand.constants.1) operand.constants.2

/-- Both by turns. -/
def turns : Nat → Expr → Except EngineError Expr
  | 0, e => .ok e
  | n + 1, e => do
      let (e, workedOut) := e.constants
      let (e, simplified) ← e.simplify
      if workedOut || simplified then turns n e else return e

end Expr

/-- The expression with everything constant worked out. -/
def fold (e : Expr) : Except EngineError Expr := Expr.spelledOut <$> e.arranged.turns 3

end TableLake.Sql
