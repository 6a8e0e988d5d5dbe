/-
# TableLake.Text.Unprintable — characters that cannot be shown by themselves

A character without a picture, one that attaches itself to the character before, and
one that is to stay unseen.
-/
import TableLake.Text.Glyphless
import TableLake.Text.Mark

namespace TableLake.Text

set_option autoImplicit false

/-- Whether the character cannot be shown by itself. -/
def isUnprintable (c : Char) : Bool := isGlyphless c || isMark c || isIgnorable c

end TableLake.Text
