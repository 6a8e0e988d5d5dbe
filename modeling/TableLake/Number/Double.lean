/-
# TableLake.Number.Double — floating point numbers as sixty-four bits

A double is its bit pattern.  `classify` reads the pattern as zero, infinity, no
number, or sign and `m * 2 ^ q`; the conversions to whole numbers, the order and
the texts are computed from that reading in exact arithmetic.  Sums, differences
and products are those of the machine.
-/
import TableLake.Text.Numeral
import TableLake.Number.Shortest

namespace TableLake.Number

open TableLake.Text

set_option autoImplicit false

/-- A floating point number in the binary format of sixty-four bits. -/
structure Double where
  bits : UInt64
deriving DecidableEq, Repr

namespace Double

/-- What a bit pattern stands for; `finite` is `± mantissa * 2 ^ exponent` with a
positive mantissa. -/
inductive Reading where
  | zero (negative : Bool)
  | finite (negative : Bool) (mantissa : Nat) (exponent : Int)
  | infinite (negative : Bool)
  | notANumber
deriving DecidableEq, Repr

def isNegative (d : Double) : Bool :=
  d.bits >>> 63 = 1

/-- The eleven bits of the exponent. -/
def exponentField (d : Double) : Nat :=
  ((d.bits >>> 52) &&& 0x7FF).toNat

/-- The fifty-two bits of the fraction. -/
def fractionField (d : Double) : Nat :=
  (d.bits &&& 0xFFFFFFFFFFFFF).toNat

def classify (d : Double) : Reading :=
  let e := d.exponentField
  let f := d.fractionField
  if e = 0x7FF then
    if f = 0 then .infinite d.isNegative else .notANumber
  else if e = 0 then
    if f = 0 then .zero d.isNegative else .finite d.isNegative f (-1074)
  else .finite d.isNegative (Nat.pow 2 52 + f) (Int.ofNat e - 1075)

def isNaN (d : Double) : Bool :=
  d.classify = .notANumber

def toFloat (d : Double) : Float :=
  Float.ofBits d.bits

def ofFloat (x : Float) : Double :=
  ⟨x.toBits⟩

/-- A number of the thirty-two bit format. -/
def ofSingle (x : Float32) : Double :=
  ofFloat x.toFloat

/-- The nearest double of a whole number, ties to the even neighbour. -/
def ofInt (n : Int) : Double :=
  let size := ofFloat (Float.ofScientific n.natAbs false 0)
  if n < 0 then ⟨size.bits ||| 0x8000000000000000⟩ else size

/-- The nearest number of the thirty-two bit format of a whole number; rounding once
differs from rounding to a double first. -/
def singleOfInt (n : Int) : Double :=
  ofSingle (Float32.ofInt n)

/-- The number of a numeral; `nearest` rounds `m * 10 ^ e`, or `m / 10 ^ e` where it is
told that the exponent is negative. -/
def ofNumeralBy (nearest : Nat → Bool → Nat → Double) : NumeralValue → Double
  | .notANumber => ⟨0x7FF8000000000000⟩
  | .infinite negative => ⟨if negative then 0xFFF0000000000000 else 0x7FF0000000000000⟩
  | .finite numeral =>
      let digits := (numeral.whole ++ numeral.fraction).dropWhile (· = '0')
      let exponent := numeral.exponent - numeral.fraction.length
      let size : Double :=
        if digits.isEmpty || exponent + digits.length < -400 then ⟨0⟩
        else if 400 < exponent + digits.length then ⟨0x7FF0000000000000⟩
        else nearest (decimalValue digits) (decide (exponent < 0)) exponent.natAbs
      if numeral.negative then ⟨size.bits ||| 0x8000000000000000⟩ else size

/-- The nearest double of a numeral. -/
def ofNumeral : NumeralValue → Double :=
  ofNumeralBy fun m isNegative e => ofFloat (Float.ofScientific m isNegative e)

/-- The nearest number of the thirty-two bit format of a numeral. -/
def singleOfNumeral : NumeralValue → Double :=
  ofNumeralBy fun m isNegative e => ofSingle (Float32.ofScientific m isNegative e)

/-- The whole number next towards zero; infinities and no-numbers have none. -/
def truncate (d : Double) : Option Int :=
  let signed (negative : Bool) (n : Nat) : Int := if negative then -(Int.ofNat n) else Int.ofNat n
  match d.classify with
  | .zero _ => some 0
  | .finite negative m q =>
      some (signed negative (if 0 ≤ q then m * Nat.pow 2 q.toNat else m / Nat.pow 2 (-q).toNat))
  | .infinite _ => none
  | .notANumber => none

/-- Zero of either sign. -/
def isZero (d : Double) : Bool :=
  match d.classify with
  | .zero _ => true
  | _ => false

/-- A key whose order is the total order of bit patterns: negative numbers below
positive ones, the negative zero below the positive. -/
def orderKey (d : Double) : Int :=
  if d.isNegative then -(Int.ofNat (d.bits &&& 0x7FFFFFFFFFFFFFFF).toNat) - 1
  else Int.ofNat d.bits.toNat

def negate (d : Double) : Double := ⟨d.bits ^^^ 0x8000000000000000⟩

def add (a b : Double) : Double := ofFloat (a.toFloat + b.toFloat)
def sub (a b : Double) : Double := ofFloat (a.toFloat - b.toFloat)
def mul (a b : Double) : Double := ofFloat (a.toFloat * b.toFloat)
def div (a b : Double) : Double := ofFloat (a.toFloat / b.toFloat)

/-- The nearest number of the thirty-two bit format. -/
def toSingle (d : Double) : Double :=
  ofFloat d.toFloat.toFloat32.toFloat

/-! ## Texts -/

/-- The shortest decimal of a finite double that is not zero. -/
def shortestDecimal (m : Nat) (q : Int) : Decimal :=
  shortest m q (m = Nat.pow 2 52 && decide (-1074 < q))

/-- The same finite number counted in units of the thirty-two bit format. -/
def singleUnits (m : Nat) (q : Int) : Nat × Int :=
  let unit : Int := max (q + (Int.ofNat m.log2 - 23)) (-149)
  if q ≤ unit then (m / Nat.pow 2 (unit - q).toNat, unit)
  else (m * Nat.pow 2 (q - unit).toNat, unit)

/-- The shortest decimal of a finite number of the thirty-two bit format. -/
def shortestSingle (m : Nat) (q : Int) : Decimal :=
  let (m', q') := singleUnits m q
  shortest m' q' (m' = Nat.pow 2 23 && decide (-149 < q'))

/-- Where the point goes, with at least one digit after it: positional where the first
digit stands after the power `low` of ten and at most at the power `high`, and
scientific outside. -/
def placed (low high : Int) (d : Decimal) : String :=
  let digits := Nat.toDigits 10 d.coefficient
  let n : Int := digits.length
  let point := n + d.exponent
  if 0 ≤ d.exponent && point ≤ high then
    String.ofList (digits ++ List.replicate d.exponent.toNat '0') ++ ".0"
  else if 0 < point && point ≤ high then
    String.ofList (digits.take point.toNat ++ '.' :: digits.drop point.toNat)
  else if low < point && point ≤ 0 then
    "0." ++ String.ofList (List.replicate (-point).toNat '0' ++ digits)
  else
    let head := digits.take 1
    let tail := digits.drop 1
    let mantissa := if tail.isEmpty then head else head ++ '.' :: tail
    String.ofList mantissa ++ "e" ++ signedDecimal (point - 1)

/-- All digits around the point, no point for a whole number. -/
def spread (d : Decimal) : String :=
  let digits := Nat.toDigits 10 d.coefficient
  let n : Int := digits.length
  let point := n + d.exponent
  if 0 ≤ d.exponent then String.ofList (digits ++ List.replicate d.exponent.toNat '0')
  else if 0 < point then
    String.ofList (digits.take point.toNat ++ '.' :: digits.drop point.toNat)
  else "0." ++ String.ofList (List.replicate (-point).toNat '0' ++ digits)

/-- The text with a given way to write a finite number and a given text of zero. -/
def render (finite : Nat → Int → String) (zero : String) (d : Double) : String :=
  let sign (negative : Bool) := if negative then "-" else ""
  match d.classify with
  | .zero negative => sign negative ++ zero
  | .finite negative m q => sign negative ++ finite m q
  | .infinite negative => sign negative ++ "inf"
  | .notANumber => "NaN"

/-- The text of a value: the fewest digits that read back, always with a point
or an exponent; positional from `10 ^ -5` to below `10 ^ 16`. -/
def text (d : Double) : String :=
  d.render (fun m q => placed (-5) 16 (shortestDecimal m q)) "0.0"

/-- The text of a number of the thirty-two bit format: the fewest digits that read
back in that format; positional from `10 ^ -6` to below `10 ^ 13`. -/
def singleText (d : Double) : String :=
  d.render (fun m q => placed (-6) 13 (shortestSingle m q)) "0.0"

/-- The text of a literal: the fewest digits that read back, no exponent. -/
def literalText (d : Double) : String :=
  d.render (fun m q => spread (shortestDecimal m q)) "0"

/-- The text of a literal of the thirty-two bit format. -/
def singleLiteralText (d : Double) : String :=
  d.render (fun m q => spread (shortestSingle m q)) "0"

end Double

end TableLake.Number
