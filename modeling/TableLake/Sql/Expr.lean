/-
# TableLake.Sql.Expr — expressions over constants and columns

`Expr.text` writes an expression as messages show it: a literal with its type, an
operand in parentheses where it binds more loosely than the operator around it.
`Expr.title` leaves the parentheses out.
-/
import TableLake.Column.Value
import TableLake.Sql.ColumnName

namespace TableLake.Sql

open TableLake.Text TableLake.Number

set_option autoImplicit false

inductive BinaryOp where
  | plus
  | minus
  | times
  | divide
  | modulo
  | equal
  | notEqual
  | less
  | lessEqual
  | greater
  | greaterEqual
  | and
  | or
  | concat
deriving DecidableEq, Repr

namespace BinaryOp

def symbol : BinaryOp → String
  | .plus => "+"
  | .minus => "-"
  | .times => "*"
  | .divide => "/"
  | .modulo => "%"
  | .equal => "="
  | .notEqual => "!="
  | .less => "<"
  | .lessEqual => "<="
  | .greater => ">"
  | .greaterEqual => ">="
  | .and => "AND"
  | .or => "OR"
  | .concat => "||"

/-- How tightly an operator binds in the text of an expression. -/
def tightness : BinaryOp → Nat
  | .or => 5
  | .and => 10
  | .equal | .notEqual | .lessEqual | .greaterEqual => 15
  | .less | .greater => 20
  | .concat => 30
  | .plus | .minus => 40
  | .times | .divide | .modulo => 45

end BinaryOp

inductive Expr where
  | literal (value : Scalar)
  | column (name : ColumnName)
  | binary (op : BinaryOp) (left right : Expr)
  | not (operand : Expr)
  | negative (operand : Expr)
  | isNull (operand : Expr)
  | isNotNull (operand : Expr)
  | oneOf (negated : Bool) (column : ColumnName) (values : List Scalar)
deriving DecidableEq, Repr

/-! ## Literals -/

/-- The text of the value in a literal. -/
def datumText (type : ColumnType) : Datum → String
  | .boolean b => if b then "true" else "false"
  | .integer n => signedDecimal n
  | .double d => if type = .float32 then d.singleLiteralText else d.literalText
  | .text s => "\"" ++ s ++ "\""

/-- A literal without a value. -/
def missingText : ColumnType → String
  | .null => "NULL"
  | .date32 => "Date32(\"NULL\")"
  | .date64 => "Date64(\"NULL\")"
  | .time32 unit => "Time32" ++ unit.name ++ "(\"NULL\")"
  | .time64 unit => "Time64" ++ unit.name ++ "(\"NULL\")"
  | .duration unit => "Duration" ++ unit.name ++ "(\"NULL\")"
  | .timestamp unit => "Timestamp" ++ unit.name ++ "(NULL, None)"
  | .decimal128 precision scale =>
      "Decimal128(None," ++ decimal precision ++ "," ++ decimal scale ++ ")"
  | .list _ => "List()"
  | t => t.name ++ "(NULL)"

/-- A literal with its type. -/
def literalText (s : Scalar) : String :=
  match s.cell with
  | none => missingText s.type
  | some v => s.type.name ++ "(" ++ datumText s.type v ++ ")"

/-- The text for a column that is one of some constants, or for the contrary. -/
def memberText (negated : Bool) (c : ColumnName) (values : List Scalar) : String :=
  c.text ++ (if negated then " NOT IN ([" else " IN ([") ++
    String.intercalate ", " (values.map literalText) ++ "])"

namespace Expr

/-- How tightly the outermost operator binds; `none` for all but operators with two
operands. -/
def tightness : Expr → Option Nat
  | .binary op _ _ => some op.tightness
  | _ => none

/-- An operand inside an operator that binds with some tightness. -/
def wrapped (outer : Nat) (inner : Option Nat) (text : String) : String :=
  match inner with
  | some p => if p < outer then "(" ++ text ++ ")" else text
  | none => text

def text : Expr → String
  | .literal value => literalText value
  | .column c => c.text
  | .binary op left right =>
      wrapped op.tightness left.tightness left.text ++ " " ++ op.symbol ++ " " ++
        wrapped op.tightness right.tightness right.text
  | .not operand => "NOT " ++ operand.text
  | .negative operand => "(- " ++ operand.text ++ ")"
  | .isNull operand => operand.text ++ " IS NULL"
  | .isNotNull operand => operand.text ++ " IS NOT NULL"
  | .oneOf negated c values => memberText negated c values

/-- The text under which a column of an answer is known: no operand is in parentheses. -/
def title : Expr → String
  | .literal value => literalText value
  | .column c => c.text
  | .binary op left right => left.title ++ " " ++ op.symbol ++ " " ++ right.title
  | .not operand => "NOT " ++ operand.title
  | .negative operand => "(- " ++ operand.title ++ ")"
  | .isNull operand => operand.title ++ " IS NULL"
  | .isNotNull operand => operand.title ++ " IS NOT NULL"
  | .oneOf negated c values => memberText negated c values

/-- The missing value of a type as an expression, where the type has one. -/
def typedNull (type : ColumnType) : Option Expr :=
  if type.hasTypedNull then some (.literal (.missing type)) else none

/-- Whether a column stands somewhere in the expression. -/
def hasColumn : Expr → Bool
  | .literal _ => false
  | .column _ | .oneOf _ _ _ => true
  | .binary _ left right => left.hasColumn || right.hasColumn
  | .not operand | .negative operand | .isNull operand | .isNotNull operand => operand.hasColumn

end Expr

end TableLake.Sql
