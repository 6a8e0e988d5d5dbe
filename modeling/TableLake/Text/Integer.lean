/-
# TableLake.Text.Integer — whole numbers written in decimal

A number is a run of ASCII digits after an optional sign.  Reading goes from
left to right and stops at the first fault: a character that is no digit, or the
digit that takes the number past its bound.  A lone sign is an invalid digit,
and so is the minus sign of a number that cannot be negative.
-/

namespace TableLake.Text

set_option autoImplicit false

/-- Why a text is not a number of the wanted range. -/
inductive IntegerFault where
  | empty
  | invalidDigit
  | tooLarge
  | tooSmall
deriving DecidableEq, Repr

/-- The wording of a fault. -/
def IntegerFault.message : IntegerFault → String
  | .empty => "cannot parse integer from empty string"
  | .invalidDigit => "invalid digit found in string"
  | .tooLarge => "number too large to fit in target type"
  | .tooSmall => "number too small to fit in target type"

/-- The ten ASCII digits. -/
def isDigit (c : Char) : Bool :=
  '0' ≤ c && c ≤ '9'

/-- The number a digit stands for. -/
def digitValue (c : Char) : Nat :=
  c.toNat - '0'.toNat

/-- The number a run of digits stands for. -/
def decimalValue (cs : List Char) : Nat :=
  cs.foldl (fun n c => 10 * n + digitValue c) 0

/-- Read digits after the number `n`; `beyond` is the fault of leaving the bound. -/
def readDigits (bound : Nat) (beyond : IntegerFault) : Nat → List Char → Except IntegerFault Nat
  | n, [] => .ok n
  | n, c :: cs =>
      if isDigit c then
        let next := 10 * n + digitValue c
        if next ≤ bound then readDigits bound beyond next cs else .error beyond
      else .error .invalidDigit

/-- Read at least one digit. -/
def readNumber (bound : Nat) (beyond : IntegerFault) : List Char → Except IntegerFault Nat
  | [] => .error .invalidDigit
  | c :: cs => readDigits bound beyond 0 (c :: cs)

/-- The largest number of sixty-four bits. -/
def maxUnsigned64 : Nat := Nat.pow 2 64 - 1

/-- Read a number from zero to `bound`; a plus sign may stand before it. -/
def readUnsigned (bound : Nat) (s : String) : Except IntegerFault Nat :=
  match s.toList with
  | [] => .error .empty
  | '+' :: cs => readNumber bound .tooLarge cs
  | cs => readNumber bound .tooLarge cs

/-- Read a number from `-2 ^ (bits - 1)` to `2 ^ (bits - 1) - 1`. -/
def readSigned (bits : Nat) (s : String) : Except IntegerFault Int :=
  match s.toList with
  | [] => .error .empty
  | '+' :: cs => (readNumber (Nat.pow 2 (bits - 1) - 1) .tooLarge cs).map Int.ofNat
  | '-' :: cs => (readNumber (Nat.pow 2 (bits - 1)) .tooSmall cs).map fun n => -(Int.ofNat n)
  | cs => (readNumber (Nat.pow 2 (bits - 1) - 1) .tooLarge cs).map Int.ofNat

/-- The digits of a number, no leading zero. -/
def decimal (n : Nat) : String :=
  String.ofList (Nat.toDigits 10 n)

/-- The digits of a number after a minus sign if it is negative. -/
def signedDecimal : Int → String
  | .ofNat n => decimal n
  | .negSucc n => "-" ++ decimal (n + 1)

end TableLake.Text
