/-
# TableLake.Column.Type — the types a column can have

A type is known by its name: `ofName? t.name = some t` for every type that can be
written.  Which types hold values of which kind is said by `ColumnType.isNumeric`
and its neighbours; the integer types carry the range of their numbers.
-/

namespace TableLake

set_option autoImplicit false

/-- Whole numbers of a fixed width, with or without a sign. -/
inductive IntegerType where
  | int8
  | int16
  | int32
  | int64
  | uint8
  | uint16
  | uint32
  | uint64
deriving DecidableEq, Repr

namespace IntegerType

def name : IntegerType → String
  | .int8 => "Int8"
  | .int16 => "Int16"
  | .int32 => "Int32"
  | .int64 => "Int64"
  | .uint8 => "UInt8"
  | .uint16 => "UInt16"
  | .uint32 => "UInt32"
  | .uint64 => "UInt64"

def bits : IntegerType → Nat
  | .int8 | .uint8 => 8
  | .int16 | .uint16 => 16
  | .int32 | .uint32 => 32
  | .int64 | .uint64 => 64

def signed : IntegerType → Bool
  | .int8 | .int16 | .int32 | .int64 => true
  | .uint8 | .uint16 | .uint32 | .uint64 => false

/-- The least number of the type. -/
def low (t : IntegerType) : Int :=
  if t.signed then -(Int.ofNat (Nat.pow 2 (t.bits - 1))) else 0

/-- The greatest number of the type. -/
def high (t : IntegerType) : Int :=
  Int.ofNat (Nat.pow 2 (if t.signed then t.bits - 1 else t.bits)) - 1

/-- Whether a number is one of the type. -/
def holds (t : IntegerType) (n : Int) : Bool :=
  t.low ≤ n && n ≤ t.high

/-- The number of the type that differs by a multiple of the type's size. -/
def wrap (t : IntegerType) (n : Int) : Int :=
  if t.signed then n.bmod (Nat.pow 2 t.bits) else n % Int.ofNat (Nat.pow 2 t.bits)

end IntegerType

/-- What a time is counted in. -/
inductive TimeUnit where
  | second
  | millisecond
deriving DecidableEq, Repr

def TimeUnit.name : TimeUnit → String
  | .second => "Second"
  | .millisecond => "Millisecond"

/-- The type of a column's values. -/
inductive ColumnType where
  | null
  | boolean
  | integer (type : IntegerType)
  | float32
  | float64
  | utf8
  | largeUtf8
  | utf8View
  | binary
  | date32
  | date64
  | timestamp (unit : TimeUnit)
  | decimal128 (precision scale : Nat)
  | duration (unit : TimeUnit)
  | time32 (unit : TimeUnit)
  | time64 (unit : TimeUnit)
  | list (item : ColumnType)
  | listView (item : ColumnType)
deriving DecidableEq, Repr

namespace ColumnType

abbrev int32 : ColumnType := .integer .int32
abbrev int64 : ColumnType := .integer .int64
abbrev uint64 : ColumnType := .integer .uint64

def name : ColumnType → String
  | .null => "Null"
  | .boolean => "Boolean"
  | .integer t => t.name
  | .float32 => "Float32"
  | .float64 => "Float64"
  | .utf8 => "Utf8"
  | .largeUtf8 => "LargeUtf8"
  | .utf8View => "Utf8View"
  | .binary => "Binary"
  | .date32 => "Date32"
  | .date64 => "Date64"
  | .timestamp unit => "Timestamp(" ++ unit.name ++ ", None)"
  | .decimal128 precision scale =>
      "Decimal128(" ++ toString precision ++ ", " ++ toString scale ++ ")"
  | .duration unit => "Duration(" ++ unit.name ++ ")"
  | .time32 unit => "Time32(" ++ unit.name ++ ")"
  | .time64 unit => "Time64(" ++ unit.name ++ ")"
  | .list item => "List(" ++ item.name ++ ")"
  | .listView item => "ListView(" ++ item.name ++ ")"

/-- The types that have a written name. -/
def named : List ColumnType :=
  [.null, .boolean, .integer .int8, .integer .int16, .integer .int32, .integer .int64,
    .integer .uint8, .integer .uint16, .integer .uint32, .integer .uint64, .float32, .float64,
    .utf8, .largeUtf8, .utf8View, .binary, .date32, .date64, .timestamp .second,
    .timestamp .millisecond, .decimal128 10 2, .duration .second, .time32 .second,
    .time64 .second, .list int32, .listView int32]

/-- The type with a written name. -/
def ofName? (name : String) : Option ColumnType :=
  named.find? fun t => t.name == name

def isInteger : ColumnType → Bool
  | .integer _ => true
  | _ => false

def isFloating : ColumnType → Bool
  | .float32 | .float64 => true
  | _ => false

/-- Integers, floating point numbers and decimals. -/
def isNumeric : ColumnType → Bool
  | .integer _ | .float32 | .float64 | .decimal128 _ _ => true
  | _ => false

/-- Dates, times, instants and durations. -/
def isTemporal : ColumnType → Bool
  | .date32 | .date64 | .timestamp _ | .duration _ | .time32 _ | .time64 _ => true
  | _ => false

/-- Text of any layout. -/
def isText : ColumnType → Bool
  | .utf8 | .largeUtf8 | .utf8View => true
  | _ => false

/-- Truth values, numbers and texts: the types whose values become one another. -/
def isPlain : ColumnType → Bool
  | .boolean | .integer _ | .float32 | .float64 | .utf8 | .largeUtf8 | .utf8View => true
  | _ => false

/-- Whether a missing value of the type can be written as a literal.  A time of 64 bits is
counted in finer units than these. -/
def hasTypedNull : ColumnType → Bool
  | .listView _ | .time64 _ => false
  | _ => true

end ColumnType

end TableLake
