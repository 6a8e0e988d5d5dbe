/-
# TableLake.Text.Blank — white space, and the text without it at its ends

White space is the Unicode property White_Space: twenty-five characters, among
them the next-line sign and the no-break and ideographic spaces, and neither the
zero-width space nor the byte order mark.  `trimmed` removes the longest runs of
white space at both ends of a character list; `trim` does so on strings.
-/

namespace TableLake.Text

set_option autoImplicit false

/-- The characters with the Unicode property White_Space. -/
def isBlank (c : Char) : Bool :=
  let n := c.toNat
  (9 ≤ n && n ≤ 13) || n = 0x20 || n = 0x85 || n = 0xA0 || n = 0x1680 ||
    (0x2000 ≤ n && n ≤ 0x200A) || n = 0x2028 || n = 0x2029 || n = 0x202F ||
    n = 0x205F || n = 0x3000

/-- The characters without the white space before the first other one. -/
def trimmedLeft (cs : List Char) : List Char :=
  cs.dropWhile isBlank

/-- The characters without the white space after the last other one. -/
def trimmedRight : List Char → List Char
  | [] => []
  | c :: cs =>
      match trimmedRight cs with
      | [] => if isBlank c then [] else [c]
      | d :: ds => c :: d :: ds

/-- The characters without the white space at either end. -/
def trimmed (cs : List Char) : List Char :=
  trimmedRight (trimmedLeft cs)

/-- The text without the white space at either end. -/
def trim (s : String) : String :=
  String.ofList (trimmed s.toList)

/-- Whether the text holds white space only. -/
def blank (s : String) : Bool :=
  s.toList.all isBlank

/-- ASCII letters become small; every other character stays. -/
def lower (s : String) : String :=
  String.ofList (s.toList.map Char.toLower)

/-- Equality up to the case of ASCII letters. -/
def sameLetters (s t : String) : Bool :=
  lower s == lower t

end TableLake.Text
