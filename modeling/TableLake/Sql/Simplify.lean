/-
# TableLake.Sql.Simplify — rules for operands that are not known

Some operators can be taken away whatever the values of their operands are.  `simplify`
goes from the leaves to the root and applies one rule at each place: true and false
decide `AND` and `OR`, an operand that is there already adds nothing to either, what both
sides of `OR` ask for is asked for once, equations of one column are put together, one
leaves a product as it is, and `NOT` goes inwards as far as it can.

Some rules hold only for operands that have a value or that are exact numbers; where
such a rule has to look at a column, it fails, for nothing is known of columns here.
-/
import TableLake.Sql.Membership

namespace TableLake.Sql

open TableLake.Number

set_option autoImplicit false

namespace Expr

/-! ## Literals -/

/-- The value of a literal of the Boolean type. -/
def truth? : Expr → Option Cell
  | .literal s => if s.type = .boolean then some s.cell else none
  | _ => none

def isTrue (e : Expr) : Bool := e.truth? == some (some (.boolean true))

def isFalse (e : Expr) : Bool := e.truth? == some (some (.boolean false))

/-- A literal that is missing. -/
def isMissing : Expr → Bool
  | .literal s => s.cell.isNone
  | _ => false

def isOne : Expr → Bool
  | .literal s =>
      match s.cell with
      | some (.integer n) => n = 1
      | some (.double d) => d = Double.ofInt 1
      | _ => false
  | _ => false

def isZero : Expr → Bool
  | .literal s =>
      match s.cell with
      | some (.integer n) => n = 0
      | some (.double d) => d.isZero
      | _ => false
  | _ => false

def ofBool (b : Bool) : Expr := .literal (.ofBool b)

/-! ## Shapes -/

/-- Whether an expression is the negation of another. -/
def isNotOf (e other : Expr) : Bool := e == .not other

/-- Whether an expression is one of those that an operator strings together. -/
def strings (op : BinaryOp) (e : Expr) : Expr → Bool
  | .binary op' left right =>
      if op' = op then strings op e left || strings op e right else .binary op' left right == e
  | other => other == e

/-- Whether an expression is an operator with another as one of its operands. -/
def hasOperand (op : BinaryOp) (operand : Expr) : Expr → Bool
  | .binary op' left right => op' = op && (left == operand || right == operand)
  | _ => false

/-- The operands that `AND` strings together. -/
def conjuncts : Expr → List Expr
  | .binary .and left right => left.conjuncts ++ right.conjuncts
  | e => [e]

/-- Operands strung together by `AND`, if there are some. -/
def allOf? : List Expr → Option Expr
  | [] => none
  | e :: es => some (es.foldl (.binary .and) e)

/-- Whether an expression is a truth value. -/
def isTruthValue (e : Expr) : Bool :=
  match e.type .empty with
  | .ok t => t = .boolean
  | .error _ => false

/-- Whether an expression is a number that is there and exact. -/
def isExact (e : Expr) : Except EngineError Bool := do
  if ← e.nullable .empty then return false else return !(← e.type .empty).isFloating

/-- Whether an expression has a value. -/
def isPresent (e : Expr) : Except EngineError Bool := do return !(← e.nullable .empty)

/-! ## Rules -/

/-- Equality with a truth value, or where `same` is false its contrary. -/
def equalTruth? (same : Bool) (truth other : Expr) : Option Expr :=
  match truth.truth? with
  | none => none
  | some cell =>
      if other.isTruthValue then
        match cell with
        | some (.boolean b) => some (if b = same then other else .not other)
        | _ => some (.literal (.missing .boolean))
      else none

/-- The rules of `AND` and of `OR`, which is `AND` with truth values exchanged: `neutral`
leaves the other operand as it is and `decisive` decides. -/
def lattice? (op dual : BinaryOp) (neutral decisive : Expr → Bool) (contrary : Bool)
    (left right : Expr) : Except EngineError (Option Expr) := do
  if decisive left then return some left
  if neutral left then return some right
  if decisive right then return some right
  if neutral right then return some left
  if right.isNotOf left then
    if ← left.isPresent then return some (.ofBool contrary)
  if left.isNotOf right then
    if ← right.isPresent then return some (.ofBool contrary)
  if strings op right left then return some left
  if strings op left right then return some right
  if hasOperand dual left right then return some left
  if hasOperand dual right left then return some right
  return none

/-- Operands of `AND` that stand on both sides of `OR` go in front of it. -/
def factored? (left right : Expr) : Option Expr :=
  let here := left.conjuncts.eraseDups
  let (common, there) := right.conjuncts.partition here.contains
  (allOf? common).map fun shared =>
    match allOf? (here.filter fun e => !common.contains e), allOf? there with
    | some l, some r => .binary .and shared (.binary .or l r)
    | _, _ => shared

/-- The rules of products. -/
def product? (left right : Expr) : Except EngineError (Option Expr) := do
  if right.isOne then return some left
  if left.isOne then return some right
  if right.isMissing then return some right
  if left.isMissing then return some left
  if (← left.isExact) && right.isZero then return some right
  if (← right.isExact) && left.isZero then return some left
  return none

/-- The rules of quotients. -/
def quotient? (left right : Expr) : Option Expr :=
  if right.isOne then some left
  else if left.isMissing then some left
  else if right.isMissing then some right
  else none

/-- The zero of a type of whole numbers. -/
def zeroOf? : ColumnType → Option Expr
  | .integer t => some (.literal ⟨.integer t, some (.integer 0)⟩)
  | _ => none

/-- The rules of remainders. -/
def remainder? (left right : Expr) : Except EngineError (Option Expr) := do
  if right.isMissing then return some right
  if left.isMissing then return some left
  if (← left.isExact) && right.isOne then return zeroOf? (← left.type .empty)
  return none

/-- What an operator becomes, if a rule applies to it. -/
def shorter? (op : BinaryOp) (left right : Expr) : Except EngineError (Option Expr) :=
  match op with
  | .equal => .ok ((equalTruth? true left right).or (equalTruth? true right left))
  | .notEqual => .ok ((equalTruth? false left right).or (equalTruth? false right left))
  | .or => do
      let shorter ← lattice? .or .and isFalse isTrue true left right
      return shorter.or ((factored? left right).or ((merged? left right).or (met? .or left right)))
  | .and => do
      let shorter ← lattice? .and .or isTrue isFalse false left right
      return shorter.or (met? .and left right)
  | .times => product? left right
  | .divide => .ok (quotient? left right)
  | .modulo => remainder? left right
  | _ => .ok none

/-- The comparison that holds where another does not. -/
def contrary? : BinaryOp → Option BinaryOp
  | .equal => some .notEqual
  | .notEqual => some .equal
  | .less => some .greaterEqual
  | .lessEqual => some .greater
  | .greater => some .lessEqual
  | .greaterEqual => some .less
  | _ => none

/-- The negation of an expression, which goes inwards. -/
def negated : Expr → Expr
  | .not e => e
  | .isNull e => .isNotNull e
  | .isNotNull e => .isNull e
  | .oneOf n c values => .oneOf (!n) c values
  | .binary op left right =>
      match op, contrary? op with
      | _, some op' => .binary op' left right
      | .and, _ => .binary .or left.negated right.negated
      | .or, _ => .binary .and left.negated right.negated
      | _, _ => .not (.binary op left right)
  | e => .not e

/-- The number of the other sign; two signs fall away. -/
def opposite : Expr → Expr
  | .negative e => e
  | e => .negative e

/-! ## The whole expression -/

/-- An expression with one rule applied at each place, and whether one was. -/
def simplify : Expr → Except EngineError (Expr × Bool)
  | .literal s => .ok (.literal s, false)
  | .column c => .ok (.column c, false)
  | .oneOf negated c values => .ok (.oneOf negated c values, false)
  | .binary op left right => do
      let (left, changedLeft) ← left.simplify
      let (right, changedRight) ← right.simplify
      match ← shorter? op left right with
      | some e => return (e, true)
      | none => return (.binary op left right, changedLeft || changedRight)
  | .not operand => do
      let (operand, _) ← operand.simplify
      return (operand.negated, true)
  | .negative operand => do
      let (operand, _) ← operand.simplify
      return (operand.opposite, true)
  | .isNull operand => do
      let (operand, changed) ← operand.simplify
      if ← operand.isPresent then return (.ofBool false, true)
      else return (.isNull operand, changed)
  | .isNotNull operand => do
      let (operand, changed) ← operand.simplify
      if ← operand.isPresent then return (.ofBool true, true)
      else return (.isNotNull operand, changed)

end Expr

end TableLake.Sql
