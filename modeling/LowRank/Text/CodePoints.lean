/-!
# Sets of characters

A set of characters that a standard lists is written down as ranges of code points, each by its
first and its last one, in ascending order and with a gap between every two neighbours.
-/

namespace LowRank.Text

-- Sums begin with the zero that the language defines, whatever else is imported.
attribute [local instance (high)] Zero.ofOfNat0

/-- Ranges of code points, each given by its first and its last one. -/
abbrev CodePoints : Type :=
  List (Nat × Nat)

namespace CodePoints

/-- Whether a character is in one of the ranges. -/
def covers (ranges : CodePoints) (char : Char) : Bool :=
  ranges.any fun range => range.1 ≤ char.toNat && char.toNat ≤ range.2

/-- Whether no range is empty and all of them ascend with gaps between them. -/
def ascending : CodePoints → Bool
  | [] => true
  | [range] => range.1 ≤ range.2
  | range :: next :: rest =>
      range.1 ≤ range.2 && range.2 + 1 < next.1 && ascending (next :: rest)

/-- How many code points the ranges have together. -/
def count (ranges : CodePoints) : Nat :=
  (ranges.map fun range => range.2 + 1 - range.1).sum

end CodePoints

end LowRank.Text
