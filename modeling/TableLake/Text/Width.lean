/-
# TableLake.Text.Width — how many places a text takes on a screen

Most texts are as wide as their characters together.  Some characters change with what
stands behind them: a selector makes a picture or a sign of text, a joiner ties
pictographs into one, and letters of some scripts flow together.  So a text is measured
from its end: `Behind` is what the characters behind a place are to the one before it,
and `advance` measures one character in that light.
-/
import TableLake.Text.Advance

namespace TableLake.Text

set_option autoImplicit false

/-! ## What stands behind a character -/

/-- The end of two letters that flow together, the first of which is still to come. -/
inductive Ligature where
  | alef
  | lamed
  | buginese
  | bugineseVowel
  | tifinagh
  | tifinaghJoined
  | lisu
  | turkic
  | khmer
deriving DecidableEq, Repr

/-- The end of a pictograph that a joiner ties to the one behind it. -/
inductive Tied where
  | joiner
  | keycap
  | flagLetter
  | flags
  | flagsAndLetter
  | tagEnd
  | tagDigits (n : Nat)
  | tagLetters (n : Nat)
deriving DecidableEq, Repr

inductive Behind where
  | plain
  | lineFeed
  | pictograph
  | skinTone
  | flagLetter
  | flagLetters
  | tied (part : Tied)
  | ligature (l : Ligature) (joined : Bool)
  | kiratE
  | kiratAi
deriving DecidableEq, Repr

/-- A character that selects a variant of the one before it. -/
inductive Selector where
  | picture
  | text
  | fullWidth
deriving DecidableEq, Repr

def Selector.of? (c : Char) : Option Selector :=
  match c.toNat with
  | 0xFE0F => some .picture
  | 0xFE0E => some .text
  | 0xFE01 => some .fullWidth
  | _ => none

/-- What stands behind a place, and the selector directly behind it. -/
structure Context where
  behind : Behind
  selector : Option Selector
deriving DecidableEq, Repr

/-- Nothing that matters. -/
def Context.plain : Context := ⟨.plain, none⟩

/-- A selector in front of what is behind; letters that flow together do so through it,
and so do the ends of tied pictographs. -/
def Context.select (s : Selector) (next : Context) : Context :=
  match next.behind, s with
  | .ligature l joined, _ => ⟨.ligature l joined, some s⟩
  | .tied .joiner, .picture => ⟨.tied .joiner, some s⟩
  | .tied .keycap, .picture => ⟨.tied .keycap, some s⟩
  | _, _ => ⟨.plain, some s⟩

/-- The context where the selector selects nothing. -/
def Context.unselect (next : Context) : Context :=
  match next.selector, next.behind with
  | none, _ => next
  | some _, .ligature l joined => ⟨.ligature l joined, none⟩
  | some _, _ => .plain

/-- Letters of Tifinagh. -/
def isTifinagh (n : Nat) : Bool := within 0x2D31 0x2D65 n || n = 0x2D6F

/-- The forms of alef. -/
def alefs : Intervals :=
  [(0x622, 0x623), (0x625, 0x625), (0x627, 0x627), (0x671, 0x673), (0x675, 0x675),
    (0x773, 0x774), (0x870, 0x882)]

/-- The forms of lam. -/
def lams : Intervals :=
  [(0x644, 0x644), (0x6B5, 0x6B8), (0x76A, 0x76A), (0x8A6, 0x8A6), (0x8C7, 0x8C7)]

/-- The letters of Khmer that can stand below another. -/
def subjoined : Intervals :=
  [(0x1780, 0x1782), (0x1784, 0x1787), (0x1789, 0x178C), (0x178E, 0x1793), (0x1795, 0x1798),
    (0x179B, 0x179D), (0x17A0, 0x17A0), (0x17A2, 0x17A2), (0x17A7, 0x17A7), (0x17AB, 0x17AC),
    (0x17AF, 0x17AF)]

/-- The letters that flow together with one before them. -/
def Ligature.of? (c : Char) : Option Ligature :=
  let n := c.toNat
  if alefs.contains c then some .alef
  else if n = 0x5DC then some .lamed
  else if n = 0x1A10 then some .buginese
  else if isTifinagh n then some .tifinagh
  else if within 0xA4FC 0xA4FD n then some .lisu
  else if n = 0x10C03 then some .turkic
  else if subjoined.contains c then some .khmer
  else none

/-- What a character by itself is to those before it. -/
def Behind.of (c : Char) : Behind :=
  match Ligature.of? c with
  | some l => .ligature l false
  | none =>
      if c = '\n' then .lineFeed
      else if c.toNat = 0x16D67 then .kiratE
      else if c.toNat = 0x16D68 then .kiratAi
      else if isFlagLetter c then .flagLetter
      else if isSkinTone c then .skinTone
      else if isPictograph c then .pictograph
      else .plain

/-! ## Characters before something -/

/-- Unseen signs of format that Arabic letters flow together through. -/
def arabicFormats : Intervals :=
  [(0xAD, 0xAD), (0x61C, 0x61C), (0x70F, 0x70F), (0x200B, 0x200B), (0x200E, 0x200F),
    (0x202A, 0x202E), (0x2060, 0x2064), (0x206A, 0x206F), (0xFEFF, 0xFEFF), (0x1BCA0, 0x1BCA3),
    (0x1D173, 0x1D17A), (0xE0001, 0xE0001)]

/-- Whether Arabic letters flow together through a character. -/
def isArabicTransparent (c : Char) : Bool :=
  (isMark c && !isSpacing c && !isPlacedMark c) || arabicFormats.contains c

/-- A character in front of the end of a ligature: the places it adds and what is then
behind the next, or `none` where the letters do not flow together. -/
def Ligature.before? (l : Ligature) (joined : Bool) (c : Char) : Option (Int × Behind) :=
  let n := c.toNat
  let stays : Int × Behind := (0, .ligature l joined)
  if l = .alef then
    if lams.contains c then some (0, .plain)
    else if isArabicTransparent c then some stays
    else none
  else if n = 0x200D then some (0, .ligature l true)
  else if isMark c && isIgnorable c && n ≠ 0x200C && !within 0xE0020 0xE007F n then some stays
  else
    match l with
    | .alef => none
    | .lamed => if joined && n = 0x5D0 then some (0, .plain) else none
    | .buginese =>
        if joined && n = 0x1A17 then some (0, .ligature .bugineseVowel true) else none
    | .bugineseVowel => if n = 0x1A15 then some (0, .plain) else none
    | .tifinagh =>
        if n = 0x2D7F then some (1, .ligature .tifinaghJoined true)
        else if joined && isTifinagh n then some (0, .plain)
        else none
    | .tifinaghJoined => if isTifinagh n then some (-1, .plain) else none
    | .lisu => if within 0xA4F8 0xA4FB n then some (0, .plain) else none
    | .turkic => if joined && n = 0x10C32 then some (0, .plain) else none
    | .khmer => if n = 0x17D2 then some (-1, .plain) else none

/-- A character in front of a pictograph that is tied to another. -/
def Tied.before? (part : Tied) (c : Char) : Option (Int × Behind) :=
  let n := c.toNat
  let isDigit := within 0xE0030 0xE0039 n
  let isLetter := within 0xE0061 0xE007A n
  let isFlag := n = 0x1F3F4
  match part with
  | .joiner =>
      if n = 0x20E3 then some (0, .tied .keycap)
      else if n = 0xE007F then some (0, .tied .tagEnd)
      else if isFlagLetter c then some (1, .tied .flagLetter)
      else if isSkinTone c then some (0, .skinTone)
      else if isPictograph c then some (0, .pictograph)
      else none
  | .keycap => none
  | .flagLetter => if isFlagLetter c then some (-1, .tied .flags) else none
  | .flags =>
      if isFlagLetter c then some (3, .tied .flagsAndLetter)
      else if n = 0x200D then some (0, .tied .joiner)
      else none
  | .flagsAndLetter =>
      if isFlagLetter c then some (-1, .tied .flags)
      else if n = 0x200D then some (0, .tied .joiner)
      else none
  | .tagEnd =>
      if isLetter then some (0, .tied (.tagLetters 1))
      else if isDigit then some (0, .tied (.tagDigits 1))
      else none
  | .tagDigits k =>
      if isDigit && k < 3 then some (0, .tied (.tagDigits (k + 1)))
      else if isFlag && k = 3 then some (0, .pictograph)
      else none
  | .tagLetters k =>
      if isLetter && k < 6 then some (0, .tied (.tagLetters (k + 1)))
      else if isDigit && k ≤ 4 then some (0, .tied (.tagDigits 1))
      else if isFlag && 3 ≤ k then some (0, .pictograph)
      else none

/-- A character in front of something that changes it. -/
def Behind.before? (b : Behind) (c : Char) : Option (Int × Behind) :=
  let n := c.toNat
  let ties : Option (Int × Behind) := if n = 0x200D then some (0, .tied .joiner) else none
  match b with
  | .plain => none
  | .lineFeed => if c = '\r' then some (0, .plain) else none
  | .pictograph => ties
  | .skinTone => if isModifiable c then some (0, .pictograph) else ties
  | .flagLetter => if isFlagLetter c then some (1, .flagLetters) else none
  | .flagLetters => if isFlagLetter c then some (1, .flagLetters) else ties
  | .tied part => part.before? c
  | .ligature l joined => l.before? joined c
  | .kiratE =>
      if n = 0x16D63 || n = 0x16D69 then some (0, .plain)
      else if n = 0x16D67 then some (0, .kiratAi)
      else if n = 0x16D68 then some (1, .kiratE)
      else none
  | .kiratAi => if n = 0x16D63 then some (0, .plain) else none

/-! ## Texts -/

/-- The quotation marks that have a form of full width. -/
def isQuotation (n : Nat) : Bool := within 0x2018 0x2019 n || within 0x201C 0x201D n

/-- The places of a character whose variant is selected. -/
def selectedWidth? (c : Char) (next : Context) : Option (Int × Context) :=
  match next.selector with
  | none => none
  | some .picture =>
      if isSelectable c then
        let tied := next.behind = .tied .joiner || next.behind = .tied .keycap
        some (if tied then 0 else 2, ⟨.pictograph, none⟩)
      else none
  | some .text => if isTextual c then some (1, .plain) else none
  | some .fullWidth => if isQuotation c.toNat then some (2, .plain) else none

/-- The places that a character adds in front of what is behind, and what is then behind
the next one. -/
def advance (c : Char) (next : Context) : Int × Context :=
  match selectedWidth? c next, Selector.of? c with
  | some step, _ => step
  | none, some s => (0, next.unselect.select s)
  | none, none =>
      match next.unselect.behind.before? c with
      | some (places, behind) => (places, ⟨behind, none⟩)
      | none => (charWidth c, ⟨.of c, none⟩)

/-- The places of a text, and what it is to the characters before it. -/
def measure : List Char → Int × Context
  | [] => (0, .plain)
  | c :: cs =>
      let (behind, next) := measure cs
      let (places, context) := advance c next
      (places + behind, context)

/-- The places of a text. -/
def width (s : String) : Nat := (measure s.toList).1.toNat

/-- The text with blanks behind it, up to a number of places. -/
def padded (places : Nat) (s : String) : String := s.pushn ' ' (places - width s)

end TableLake.Text
