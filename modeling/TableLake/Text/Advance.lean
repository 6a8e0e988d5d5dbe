/-
# TableLake.Text.Advance — the places that a character takes by itself

A wide character of the East Asian scripts and a pictograph take two places; a mark, a
character that is to stay unseen and the later part of a Korean syllable take none.
-/
import TableLake.Text.Emoji
import TableLake.Text.Mark

namespace TableLake.Text

set_option autoImplicit false

/-- The wide characters, pictographs apart. -/
def wide : Intervals := [
  (0x1100, 0x115F), (0x17A4, 0x17A4), (0x2329, 0x232A), (0x2630, 0x2637), (0x268A, 0x268F),
  (0x2E80, 0x2E99), (0x2E9B, 0x2EF3), (0x2F00, 0x2FD5), (0x2FF0, 0x3029), (0x3030, 0x303E),
  (0x3041, 0x3096), (0x309B, 0x30FF), (0x3105, 0x312F), (0x3131, 0x3163), (0x3165, 0x318E),
  (0x3190, 0x31E5), (0x31EF, 0x321E), (0x3220, 0x3247), (0x3250, 0xA48C), (0xA490, 0xA4C6),
  (0xA960, 0xA97C), (0xAC00, 0xD7A3), (0xF900, 0xFAFF), (0xFE10, 0xFE19), (0xFE30, 0xFE52),
  (0xFE54, 0xFE66), (0xFE68, 0xFE6B), (0xFF01, 0xFF60), (0xFFE0, 0xFFE6), (0x16FE0, 0x16FE3),
  (0x16FF2, 0x16FF6), (0x17000, 0x18CD5), (0x18CFF, 0x18D1E), (0x18D80, 0x18DF2),
  (0x1AFF0, 0x1AFF3), (0x1AFF5, 0x1AFFB), (0x1AFFD, 0x1AFFE), (0x1B000, 0x1B122),
  (0x1B132, 0x1B132), (0x1B150, 0x1B152), (0x1B155, 0x1B155), (0x1B164, 0x1B167),
  (0x1B170, 0x1B2FB), (0x1D300, 0x1D356), (0x1D360, 0x1D376), (0x1F200, 0x1F200),
  (0x1F202, 0x1F202), (0x1F210, 0x1F219), (0x1F21B, 0x1F22E), (0x1F230, 0x1F231),
  (0x1F237, 0x1F237), (0x1F23B, 0x1F23B), (0x1F240, 0x1F248), (0x1F260, 0x1F265),
  (0x20000, 0x2FFFD), (0x30000, 0x3FFFD)]

/-- Signs drawn around the characters behind them, and the caret of Devanagari. -/
def prepended : Intervals := [
  (0x605, 0x605), (0x70F, 0x70F), (0x890, 0x891), (0x8E2, 0x8E2), (0xD4E, 0xD4E), (0xA8FA, 0xA8FA),
  (0x111C2, 0x111C3), (0x113D1, 0x113D1), (0x1193F, 0x1193F), (0x11941, 0x11941),
  (0x11A84, 0x11A89), (0x11D46, 0x11D46), (0x11F02, 0x11F02)]

/-- Whether the character is a vowel or an end consonant of a Korean syllable. -/
def isLaterJamo (c : Char) : Bool :=
  within 0x1160 0x11FF c.toNat || within 0xD7B0 0xD7C6 c.toNat || within 0xD7CB 0xD7FB c.toNat

/-- Marks that take a place: the sounds of halfwidth Japanese and the Tifinagh joiner. -/
def isPlacedMark (c : Char) : Bool := within 0xFF9E 0xFF9F c.toNat || c.toNat = 0x2D7F

/-- Whether the character takes no place. -/
def takesNoPlace (c : Char) : Bool :=
  (isMark c && !isPlacedMark c) || isLaterJamo c || prepended.contains c ||
    (isIgnorable c && c.toNat ≠ 0x115F)

/-- The places of a character. -/
def charWidth (c : Char) : Nat :=
  if c.toNat = 0x17D8 then 3
  else if takesNoPlace c then 0
  else if wide.contains c || isPictograph c then 2
  else 1

end TableLake.Text
