/-
# TableLake.Sql.Typing — the types of expressions

An operator brings its operands to types on which it is defined and has a result type
(`BinaryOp.types`): comparisons and `||` bring both operands to one type, `AND` and
`OR` take truth values, and arithmetic takes what it is defined on (`exactResult?`), else
the wider of two types of numbers.  `Expr.type` and `Expr.nullable` say what is known of an
expression before it is evaluated, where a scope knows the columns.
-/
import TableLake.Batch
import TableLake.Engine.Error

namespace TableLake.Sql

set_option autoImplicit false

/-! ## Types of operands -/

/-- The types that an operator takes and gives. -/
structure OperatorType where
  left : ColumnType
  right : ColumnType
  result : ColumnType
deriving DecidableEq, Repr

/-- The digits and the places of a decimal, no more than there is room for. -/
def decimalOf (precision scale : Nat) : ColumnType := .decimal128 (min 38 precision) scale

/-- The result of arithmetic on decimals: no digit of a sum or a product is lost. -/
def decimalResult (op : BinaryOp) (p s p' s' : Nat) : Option ColumnType :=
  match op with
  | .plus | .minus => some (decimalOf (max s s' + max (p - s) (p' - s') + 1) (max s s'))
  | .times => some (decimalOf (p + p' + 1) (s + s'))
  | .divide =>
      let scale := min 38 (s + 4)
      some (decimalOf (scale - s + s' + p) scale)
  | .modulo => some (decimalOf (max s s' + min (p - s) (p' - s')) (max s s'))
  | _ => none

/-- The result of an operator on numbers, and on dates and times, as they are. -/
def exactResult? (op : BinaryOp) (a b : ColumnType) : Option ColumnType :=
  match a, b with
  | .integer t, .integer t' => if t = t' then some a else none
  | .float32, .float32 => some .float32
  | .float64, .float64 => some .float64
  | .decimal128 p s, .decimal128 p' s' => decimalResult op p s p' s'
  | .date32, .date32 => if op = .minus then some (.duration .second) else none
  | .date64, .date64 => if op = .minus then some (.duration .millisecond) else none
  | .timestamp u, .timestamp u' => if u = u' && op = .minus then some (.duration u) else none
  | .timestamp u, .duration u' =>
      if u = u' && (op = .plus || op = .minus) then some (.timestamp u) else none
  | .duration u, .timestamp u' => if u = u' && op = .plus then some (.timestamp u) else none
  | .duration u, .duration u' =>
      if u = u' && (op = .plus || op = .minus) then some (.duration u) else none
  | _, _ => none

/-- The types of numbers, the wider before the narrower. -/
def widest : List ColumnType :=
  [.float64, .float32, .integer .int64, .integer .int32, .integer .int16, .integer .int8,
    .integer .uint64, .integer .uint32, .integer .uint16, .integer .uint8]

/-- The type in which numbers of two types are reckoned; one of them may be missing. -/
def commonNumber? (a b : ColumnType) : Option ColumnType :=
  if (a.isNumeric && b.isNumeric) || (a = .null && b.isNumeric) || (a.isNumeric && b = .null) then
    widest.find? fun t => a = t || b = t
  else none

/-- The type in which numbers of two types are compared. -/
def comparedNumber (a b : ColumnType) : ColumnType :=
  match a, b with
  | .float64, _ | _, .float64 => .float64
  | .float32, _ | _, .float32 => .float32
  | .integer t, .integer t' =>
      if t.signed = t'.signed then (if t'.bits < t.bits then a else b)
      else if max t.bits t'.bits = 64 && (t = .uint64 || t' = .uint64) then .decimal128 20 0
      else .int64
  | _, _ => .decimal128 38 10

/-- The type of two texts put together. -/
def commonText (a b : ColumnType) : ColumnType :=
  if a = .utf8View || b = .utf8View then .utf8View
  else if a = .largeUtf8 || b = .largeUtf8 then .largeUtf8
  else .utf8

/-- The type in which dates and times are compared; texts are read as such. -/
def comparedTemporal? (a b : ColumnType) : Option ColumnType :=
  match a, b with
  | .date32, .date64 | .date64, .date32 => some .date64
  | .timestamp u, .timestamp _ => some (.timestamp u)
  | .timestamp u, .date32 | .timestamp u, .date64 => some (.timestamp u)
  | .date32, .timestamp u | .date64, .timestamp u => some (.timestamp u)
  | .duration u, .duration _ => some (.duration u)
  | text, .date32 | .date32, text => if text.isText then some .date32 else none
  | text, .date64 | .date64, text => if text.isText then some .date64 else none
  | text, .time32 u | .time32 u, text => if text.isText then some (.time32 u) else none
  | text, .timestamp u | .timestamp u, text => if text.isText then some (.timestamp u) else none
  | _, _ => none

/-- The type in which values of two types are compared. -/
def compared? (a b : ColumnType) : Option ColumnType :=
  if a = b then some a
  else if a.isNumeric && b.isNumeric then some (comparedNumber a b)
  else if a.isText && b.isText then some (commonText a b)
  else if a = .null then (if castable .null b then some b else none)
  else if b = .null then (if castable .null a then some a else none)
  else if a.isText && b.isNumeric then some a
  else if a.isNumeric && b.isText then some b
  else if (a = .binary && b.isText) || (a.isText && b = .binary) then some .binary
  else comparedTemporal? a b

/-- The type in which two values are put together as texts. -/
def joined? (a b : ColumnType) : Option ColumnType :=
  if a.isText && b.isText then some (commonText a b)
  else if a.isText && castable b a then some a
  else if b.isText && castable a b then some b
  else none

/-- Truth values, which may be missing. -/
def isTruth (t : ColumnType) : Bool := t = .boolean || t = .null

/-- The types whose values have an opposite; what is missing is its own. -/
def hasSign : ColumnType → Bool
  | .integer t => t.signed
  | .float32 | .float64 | .decimal128 _ _ | .timestamp _ | .null => true
  | _ => false

/-- How an operator is carried out on values of two types. -/
def BinaryOp.types (op : BinaryOp) (a b : ColumnType) : Except PlanFault OperatorType :=
  match op with
  | .equal | .notEqual | .less | .lessEqual | .greater | .greaterEqual =>
      match compared? a b with
      | some t => .ok ⟨t, t, .boolean⟩
      | none => .error (.notCompared a op b)
  | .and | .or =>
      if isTruth a && isTruth b then .ok ⟨.boolean, .boolean, .boolean⟩
      else .error (.notLogical a op b)
  | .concat =>
      match joined? a b with
      | some t => .ok ⟨t, t, t⟩
      | none => .error (.notJoined a op b)
  | .plus | .minus | .times | .divide | .modulo =>
      match exactResult? op a b, commonNumber? a b with
      | some t, _ => .ok ⟨a, b, t⟩
      | none, some t => .ok ⟨t, t, t⟩
      | none, none => .error (.notArithmetic a op b)

/-! ## Types of expressions -/

/-- What is known of the columns. -/
abbrev Scope := ColumnName → Option Field

/-- No column is known. -/
def Scope.empty : Scope := fun _ => none

namespace Expr

/-- Whether an expression may have no value. -/
def nullable (scope : Scope) : Expr → Except EngineError Bool
  | .literal s => .ok s.cell.isNone
  | .column c =>
      match scope c with
      | some f => .ok f.nullable
      | none => .error (.column (.unknown c []))
  | .binary _ left right => do
      if ← left.nullable scope then return true else right.nullable scope
  | .not operand | .negative operand => operand.nullable scope
  | .isNull _ | .isNotNull _ => .ok false
  | .oneOf _ c values =>
      match scope c with
      | some f => .ok (f.nullable || values.any fun s => s.cell.isNone)
      | none => .error (.column (.unknown c []))

/-- The type of an expression. -/
def type (scope : Scope) : Expr → Except EngineError ColumnType
  | .literal s => .ok s.type
  | .column c =>
      match scope c with
      | some f => .ok f.type
      | none => .error (.column (.unknown c []))
  | .binary op left right => do
      let a ← left.type scope
      let b ← right.type scope
      return (← (op.types a b).mapError .plan).result
  | .negative operand => operand.type scope
  | .not _ | .isNull _ | .isNotNull _ | .oneOf _ _ _ => .ok .boolean

/-- What is wrong with the operands of operators and of `NOT`, from the leaves on. -/
def checkOperands (scope : Scope) : Expr → Except EngineError Unit
  | .literal _ | .column _ | .oneOf _ _ _ => .ok ()
  | .binary op left right => do
      left.checkOperands scope
      right.checkOperands scope
      let _ ← (op.types (← left.type scope) (← right.type scope)).mapError .plan
  | .not operand => do
      operand.checkOperands scope
      let t ← operand.type scope
      unless isTruth t do throw (.plan (.notTruth t))
  | .negative operand | .isNull operand | .isNotNull operand => operand.checkOperands scope

/-- Only numbers with a sign, and instants, have an opposite. -/
def checkSigns (scope : Scope) : Expr → Except EngineError Unit
  | .literal _ | .column _ | .oneOf _ _ _ => .ok ()
  | .binary _ left right => do
      left.checkSigns scope
      right.checkSigns scope
  | .negative operand => do
      operand.checkSigns scope
      unless hasSign (← operand.type scope) do throw (.plan .noSign)
  | .not operand | .isNull operand | .isNotNull operand => operand.checkSigns scope

end Expr

end TableLake.Sql
