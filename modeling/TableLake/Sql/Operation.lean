/-
# TableLake.Sql.Operation — operators on constants

An operator has a value on constants of the types on which it is defined, and nothing is
converted here: `combine` gives none on any others.  Whole numbers wrap around; numbers
are compared by the total order of their bits; what is missing makes the result missing,
but for `AND` and `OR` where the other operand decides.  `Expr.value?` is the value of an
expression without columns.
-/
import TableLake.Sql.Typing

namespace TableLake.Sql

open TableLake.Text TableLake.Number

set_option autoImplicit false

/-! ## Numbers -/

/-- A number by the rule of a whole-number operator; division by zero has none, nor has a
quotient that the type does not hold. -/
def wholeResult (t : IntegerType) (op : BinaryOp) (a b : Int) : Option Int :=
  match op with
  | .plus => some (t.wrap (a + b))
  | .minus => some (t.wrap (a - b))
  | .times => some (t.wrap (a * b))
  | .divide => if b = 0 || !t.holds (a.tdiv b) then none else some (a.tdiv b)
  | .modulo => if b = 0 then none else some (a.tmod b)
  | _ => none

def doubleResult (op : BinaryOp) (a b : Double) : Option Double :=
  match op with
  | .plus => some (a.add b)
  | .minus => some (a.sub b)
  | .times => some (a.mul b)
  | .divide => some (a.div b)
  | _ => none

/-- The result of arithmetic on two values of the operands' types. -/
def arithmetic (op : BinaryOp) (a b : ColumnType) (x y : Datum) : Option Datum :=
  match a, b, x, y with
  | .integer t, .integer _, .integer m, .integer n => (wholeResult t op m n).map .integer
  | .float32, .float32, .double m, .double n => (doubleResult op m n).map (.double ·.toSingle)
  | .float64, .float64, .double m, .double n => (doubleResult op m n).map .double
  | _, _, _, _ => none

/-! ## Comparisons -/

/-- What a comparison says of an order. -/
def holdsFor (op : BinaryOp) (order : Ordering) : Bool :=
  match op with
  | .equal => order == .eq
  | .notEqual => order != .eq
  | .less => order == .lt
  | .lessEqual => order != .gt
  | .greater => order == .gt
  | .greaterEqual => order != .lt
  | _ => false

/-- The order of two values of one type. -/
def orderOf : Datum → Datum → Option Ordering
  | .boolean a, .boolean b => some (compare a.toNat b.toNat)
  | .integer a, .integer b => some (compare a b)
  | .double a, .double b => some (compare a.orderKey b.orderKey)
  | .text a, .text b => some (compareOfLessAndEq a b)
  | _, _ => none

/-! ## Truth values -/

/-- Conjunction with a value that may be missing. -/
def andCells : Cell → Cell → Cell
  | some (.boolean false), _ | _, some (.boolean false) => some (.boolean false)
  | some (.boolean true), some (.boolean true) => some (.boolean true)
  | _, _ => none

/-- Disjunction with a value that may be missing. -/
def orCells : Cell → Cell → Cell
  | some (.boolean true), _ | _, some (.boolean true) => some (.boolean true)
  | some (.boolean false), some (.boolean false) => some (.boolean false)
  | _, _ => none

/-- Negation of a truth value; of any missing value it is missing. -/
def negation? (s : Scalar) : Option Scalar :=
  match s.cell with
  | none => some (.missing .boolean)
  | some (.boolean b) => some (.ofBool (!b))
  | some _ => none

/-! ## Constants -/

/-- An operator on two constants; `none` where it has no value. -/
def combine (op : BinaryOp) (a b : Scalar) : Option Scalar :=
  match op with
  | .equal | .notEqual | .less | .lessEqual | .greater | .greaterEqual =>
      if a.type = b.type then
        match a.cell, b.cell with
        | some x, some y => (orderOf x y).map fun order => .ofBool (holdsFor op order)
        | _, _ => some (.missing .boolean)
      else none
  | .and | .or =>
      if a.type = .boolean && b.type = .boolean then
        some ⟨.boolean, if op = .and then andCells a.cell b.cell else orCells a.cell b.cell⟩
      else none
  | .concat =>
      if a.type = b.type && a.type.isText then
        match a.cell, b.cell with
        | some (.text s), some (.text t) => some ⟨a.type, some (.text (s ++ t))⟩
        | _, _ => some (.missing a.type)
      else none
  | .plus | .minus | .times | .divide | .modulo =>
      match exactResult? op a.type b.type with
      | none => none
      | some t =>
          match a.cell, b.cell with
          | some x, some y => (arithmetic op a.type b.type x y).map fun z => ⟨t, some z⟩
          | _, _ => some (.missing t)

/-- The number of the other sign, where the type has it; of the missing values those of
the null type, of numbers with a sign and of single floating point numbers have one. -/
def opposite? (s : Scalar) : Option Scalar :=
  match s.type, s.cell with
  | .null, _ => some s
  | .integer t, none => if t.signed then some s else none
  | .float32, none => some s
  | .integer t, some (.integer n) =>
      if t.signed && t.holds (-n) then some ⟨s.type, some (.integer (-n))⟩ else none
  | .float32, some (.double d) | .float64, some (.double d) =>
      some ⟨s.type, some (.double d.negate)⟩
  | _, _ => none

/-- The value of an expression without columns. -/
def Expr.value? : Expr → Option Scalar
  | .literal s => some s
  | .column _ | .oneOf _ _ _ => none
  | .binary op left right => do
      let a ← left.value?
      combine op a (← right.value?)
  | .not operand => operand.value?.bind negation?
  | .negative operand => operand.value?.bind opposite?
  | .isNull operand => operand.value?.map fun s => .ofBool s.cell.isNone
  | .isNotNull operand => operand.value?.map fun s => .ofBool s.cell.isSome

end TableLake.Sql
