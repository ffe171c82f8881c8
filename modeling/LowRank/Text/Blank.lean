import LowRank.Text.CodePoints

/-!
# White space

A character is blank when it has the white space property of the character standard: twenty-five
characters in ten ranges.  Trimming removes blank characters from both ends of a text and touches
nothing between them.
-/

namespace LowRank.Text

/-- The code points of the blank characters. -/
def blankRanges : CodePoints :=
  [(0x0009, 0x000D), (0x0020, 0x0020), (0x0085, 0x0085), (0x00A0, 0x00A0), (0x1680, 0x1680),
    (0x2000, 0x200A), (0x2028, 0x2029), (0x202F, 0x202F), (0x205F, 0x205F), (0x3000, 0x3000)]

def isBlank (char : Char) : Bool :=
  blankRanges.covers char

example : blankRanges.ascending ∧ blankRanges.count = 25 := by
  decide +kernel

/-- A text without the blank characters at its beginning. -/
def trimStart (text : List Char) : List Char :=
  text.dropWhile isBlank

/-- A text without the blank characters at its end. -/
def trimEnd (text : List Char) : List Char :=
  (text.reverse.dropWhile isBlank).reverse

/-- A text without the blank characters at either end. -/
def trim (text : List Char) : List Char :=
  trimEnd (trimStart text)

end LowRank.Text
