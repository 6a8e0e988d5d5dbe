/-
# TableLake.Text.Quoted — names quoted in messages

A quoted name stands between double quotes; the quote and the backslash are
written after a backslash, four control characters have letters of their own,
and a character that cannot be shown is written as `\u`, its number in braces.
A list of names is written between square brackets, comma and space between.
-/
import TableLake.Text.Unprintable

namespace TableLake.Text

set_option autoImplicit false

/-- The digits of a number in base sixteen, small letters, at least one digit. -/
def hexDigits (n : Nat) : List Char :=
  Nat.toDigits 16 n

/-- How one character is written between double quotes. -/
def quotedChar (c : Char) : List Char :=
  if c = '"' then ['\\', '"']
  else if c = '\\' then ['\\', '\\']
  else if c = '\n' then ['\\', 'n']
  else if c = '\t' then ['\\', 't']
  else if c = '\r' then ['\\', 'r']
  else if c.toNat = 0 then ['\\', '0']
  else if isUnprintable c then ['\\', 'u', '\x7b'] ++ hexDigits c.toNat ++ ['\x7d']
  else [c]

/-- The text between double quotes. -/
def quoted (s : String) : String :=
  String.ofList ('"' :: s.toList.flatMap quotedChar ++ ['"'])

/-- The quoted names between square brackets. -/
def quotedList (names : List String) : String :=
  "[" ++ String.intercalate ", " (names.map quoted) ++ "]"

end TableLake.Text
