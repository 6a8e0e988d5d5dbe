/-
# TableLake.Text.Numeral — which texts are numbers with a point or an exponent

A numeral is an optional sign followed by digits with an optional point (at
least one digit in all) and an optional exponent, or by one of the words
`inf`, `infinity` and `nan` in letters of any case.
-/
import TableLake.Text.Blank
import TableLake.Text.Integer

namespace TableLake.Text

set_option autoImplicit false

/-- The parts of a numeral: its digits before and after the point and the
exponent of ten that follows. -/
structure Numeral where
  negative : Bool
  whole : List Char
  fraction : List Char
  exponent : Int
deriving DecidableEq, Repr

/-- What a numeral text denotes. -/
inductive NumeralValue where
  | finite (numeral : Numeral)
  | infinite (negative : Bool)
  | notANumber
deriving DecidableEq, Repr

/-- The sign at the front, and the rest. -/
def takeSign : List Char → Bool × List Char
  | '-' :: cs => (true, cs)
  | '+' :: cs => (false, cs)
  | cs => (false, cs)

/-- An exponent that fills the rest of the text. -/
def readExponent : List Char → Option Int
  | [] => some 0
  | c :: cs =>
      if c = 'e' || c = 'E' then
        let (negative, digits) := takeSign cs
        if digits.isEmpty || !digits.all isDigit then none
        else
          let n := Int.ofNat (decimalValue digits)
          some (if negative then -n else n)
      else none

/-- Read a whole text as a numeral. -/
def readNumeral (s : String) : Option NumeralValue :=
  let (negative, cs) := takeSign s.toList
  let word := lower (String.ofList cs)
  if word = "inf" || word = "infinity" then some (.infinite negative)
  else if word = "nan" then some .notANumber
  else
    let whole := cs.takeWhile isDigit
    let afterWhole := cs.dropWhile isDigit
    let (fraction, rest) :=
      match afterWhole with
      | '.' :: ds => (ds.takeWhile isDigit, ds.dropWhile isDigit)
      | ds => ([], ds)
    if whole.isEmpty && fraction.isEmpty then none
    else (readExponent rest).map fun e => .finite ⟨negative, whole, fraction, e⟩

/-- Whether a text is a numeral. -/
def isNumeral (s : String) : Bool :=
  (readNumeral s).isSome

end TableLake.Text
