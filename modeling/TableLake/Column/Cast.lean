/-
# TableLake.Column.Cast — values of one type as values of another

`castable` says between which types columns can be carried over.  What becomes of the
values is said twice.  A `Casting` is any way of carrying columns over; of it only two
things are known, that its columns have the wanted type and as many rows as before.
Tables are read through a casting, so what is said about reading does not depend on how a
date is written as text or a decimal is rounded.

`Casting.plain` is the casting of truth values, numbers and texts.  It goes cell by cell,
and a value that does not fit the target (`Datum.cast` is `none`) is then missing.  Of dates
and times, decimals, bytes and lists it knows no values: it carries over their missing cells
and refuses a column with others.
-/
import TableLake.Column.Value
import TableLake.Column.Fault

namespace TableLake

open TableLake.Text TableLake.Number

set_option autoImplicit false

/-- Text to a type whose values can be read. -/
def textCastable (target : ColumnType) : Bool :=
  target.isText || target.isNumeric ||
    match target with
    | .boolean | .binary | .date32 | .date64 | .timestamp _ => true
    | .time32 _ => true
    | _ => false

/-- Between times and numbers, and between times. -/
def temporalCastable : ColumnType → ColumnType → Bool
  | .integer .int32, .date32 | .integer .int32, .date64 | .integer .int32, .time32 _ => true
  | .integer .int64, .date32 | .integer .int64, .date64 => true
  | .date32, .integer .int32 | .date32, .integer .int64 => true
  | .date64, .integer .int32 | .date64, .integer .int64 => true
  | .time32 _, .integer .int32 | .time32 _, .time32 _ => true
  | .date32, .date64 | .date64, .date32 => true
  | .date32, .timestamp _ | .date64, .timestamp _ => true
  | .timestamp _, .timestamp _ | .timestamp _, .date32 | .timestamp _, .date64
  | .timestamp _, .time32 _ => true
  | .duration _, .duration _ => true
  | .timestamp _, target | .duration _, target => target.isNumeric
  | source, .timestamp _ | source, .duration _ => source.isNumeric
  | _, _ => false

/-- Whether values of the first type have counterparts of the second. -/
def castable (source target : ColumnType) : Bool :=
  source = target ||
    match source, target with
    | .null, .listView _ => false
    | .null, _ => true
    | .list item, .list item' => castable item item'
    | .list item, .utf8 => castable item .utf8
    | .list item, .largeUtf8 => castable item .largeUtf8
    | .list _, _ => false
    | source, .list item => castable source item
    | source, .boolean => source.isInteger || source.isFloating || source.isText
    | .boolean, target => target.isInteger || target.isFloating || target.isText
    | .binary, target => target.isText
    | .utf8, target | .largeUtf8, target | .utf8View, target => textCastable target
    | source, .utf8 | source, .largeUtf8 | source, .utf8View =>
        source.isNumeric || source.isTemporal
    | .integer _, .binary | .decimal128 _ _, .null => true
    | source, target => (source.isNumeric && target.isNumeric) || temporalCastable source target

/-- Why values of the first type have no counterparts of the second: lists stay lists,
and where a list is wanted its items are. -/
def castFault : ColumnType → ColumnType → DataFault
  | .list item, .list item' => castFault item item'
  | .list _, _ => .listToPlain
  | source, .list item => castFault source item
  | source, target => .uncastable source target

/-- The words for true. -/
def trueWords : List String :=
  ["t", "tr", "tru", "true", "y", "ye", "yes", "on", "1"]

/-- The words for false. -/
def falseWords : List String :=
  ["f", "fa", "fal", "fals", "false", "n", "no", "of", "off", "0"]

/-- Read a truth value: one of the words, letters of any case, white space around. -/
def readTruth (s : String) : Option Bool :=
  let word := lower (trim s)
  if word ∈ trueWords then some true else if word ∈ falseWords then some false else none

/-- Read a whole number: digits after an optional sign. -/
def readWhole (s : String) : Option Int :=
  let (negative, digits) := takeSign s.toList
  if digits.isEmpty || !digits.all isDigit then none
  else
    let n := Int.ofNat (decimalValue digits)
    some (if negative then -n else n)

/-- The number, if it is one of the type. -/
def IntegerType.keep (t : IntegerType) (n : Int) : Option Datum :=
  if t.holds n then some (.integer n) else none

/-- The text of a value of a type. -/
def Datum.asText (source : ColumnType) : Datum → String
  | .boolean b => if b then "true" else "false"
  | .integer n => signedDecimal n
  | .double d => if source = .float32 then d.singleText else d.text
  | .text s => s

/-- The counterpart of a plain value among those of another plain type. -/
def Datum.cast (source target : ColumnType) (v : Datum) : Option Datum :=
  match target, v with
  | .boolean, .integer n => some (.boolean (n ≠ 0))
  | .boolean, .double d => some (.boolean (!d.isZero))
  | .boolean, .text s => (readTruth s).map .boolean
  | .integer _, .boolean b => some (.integer (if b then 1 else 0))
  | .integer t, .integer n => t.keep n
  | .integer t, .double d => d.truncate.bind t.keep
  | .integer t, .text s => (readWhole s).bind t.keep
  | .float32, .boolean b => some (.double (Double.ofInt (if b then 1 else 0)))
  | .float64, .boolean b => some (.double (Double.ofInt (if b then 1 else 0)))
  | .float32, .integer n => some (.double (Double.singleOfInt n))
  | .float64, .integer n => some (.double (Double.ofInt n))
  | .float32, .double d => some (.double d.toSingle)
  | .float64, .double d => some (.double d)
  | .float32, .text s => (readNumeral s).map fun n => .double (Double.singleOfNumeral n)
  | .float64, .text s => (readNumeral s).map fun n => .double (Double.ofNumeral n)
  | .utf8, v | .largeUtf8, v | .utf8View, v => some (.text (v.asText source))
  | _, v => some v

/-- Why cells of the first type are not carried over to the second, if so: there is no way
between the types, or there are values and one of the types is not plain. -/
def carriageFault? (source target : ColumnType) (cells : List Cell) : Option DataFault :=
  if !castable source target then some (castFault source target)
  else if cells.any Option.isSome && !(source.isPlain && target.isPlain) then
    some (.uncastable source target)
  else none

/-- A way of carrying columns over to types that they do not have.  It may refuse; what it
gives has the wanted type and as many rows as before. -/
structure Casting where
  convert : Column → ColumnType → Except DataFault Column
  typed : ∀ {c d : Column} {target : ColumnType}, convert c target = .ok d → d.type = target
  rows : ∀ {c d : Column} {target : ColumnType}, convert c target = .ok d → d.length = c.length

namespace Casting

/-- Between plain types every cell is cast, and values that do not fit are missing. -/
def plain : Casting where
  convert c target :=
    match carriageFault? c.type target c.cells with
    | some fault => .error fault
    | none => .ok ⟨target, c.cells.map fun cell => cell.bind (Datum.cast c.type target)⟩
  typed done := by
    split at done
    · cases done
    · cases done
      rfl
  rows done := by
    split at done
    · cases done
    · cases done
      exact List.length_map _

/-- Carry a column over to a type; one that has the type stays as it is. -/
def cast (k : Casting) (c : Column) (target : ColumnType) : Except DataFault Column :=
  if c.type = target then .ok c else k.convert c target

variable {k : Casting} {c d : Column} {target : ColumnType}

theorem cast_self (k : Casting) (c : Column) : k.cast c c.type = .ok c := if_pos rfl

/-- A cast column has the wanted type. -/
theorem type_of_cast (done : k.cast c target = .ok d) : d.type = target := by
  unfold cast at done
  split at done
  · next same =>
      cases done
      exact same
  · exact k.typed done

/-- A cast column has as many rows as before. -/
theorem length_of_cast (done : k.cast c target = .ok d) : d.length = c.length := by
  unfold cast at done
  split at done
  · cases done
    rfl
  · exact k.rows done

end Casting

/-- Cast a single value as `Casting.plain` casts a column of it, but here it has to fit. -/
def Scalar.cast (s : Scalar) (target : ColumnType) : Except DataFault Scalar :=
  if s.type = target then .ok s
  else
    match carriageFault? s.type target [s.cell] with
    | some fault => .error fault
    | none =>
        match s.cell with
        | none => .ok (.missing target)
        | some v =>
            match v.cast s.type target with
            | some w => .ok ⟨target, some w⟩
            | none => .error (.unreadable s.type v target)

end TableLake
