import LowRank.Text.Blank
import LowRank.Text.Extending
import LowRank.Text.Graphic

/-!
# Visible characters

A character is visible when a reader can tell it from its picture alone: it is graphic, it is not
drawn onto the character before it, and its picture is not empty.  The plain space is the one blank
that counts as visible.
-/

namespace LowRank.Text

/-- The code points of the letters with an empty picture, which fill an incomplete syllable. -/
def fillerRanges : CodePoints :=
  [(0x115F, 0x1160), (0x3164, 0x3164), (0xFFA0, 0xFFA0)]

/-- Whether a character is a letter with an empty picture. -/
def isFiller (char : Char) : Bool :=
  fillerRanges.covers char

/-- Whether a character shows as itself. -/
def isVisible (char : Char) : Bool :=
  char == ' ' ||
    isGraphic char && !isBlank char && !isExtending char && !isFiller char

end LowRank.Text
