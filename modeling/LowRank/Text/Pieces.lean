/-!
# Cutting a text at a delimiter

`pieces` cuts a text at every occurrence of one character and keeps empty pieces, so a text always
has one piece more than it has delimiters.  `joined` puts the delimiter back between the pieces.
-/

namespace LowRank.Text

/-- The pieces of a text between the occurrences of a delimiter, empty ones included. -/
def pieces (delimiter : Char) : List Char → List (List Char)
  | [] => [[]]
  | char :: rest =>
      if char = delimiter then [] :: pieces delimiter rest
      else (pieces delimiter rest).modifyHead (char :: ·)

/-- The given pieces in order, with a delimiter between every two neighbours. -/
def joined (delimiter : Char) : List (List Char) → List Char
  | [] => []
  | [piece] => piece
  | piece :: next :: rest => piece ++ delimiter :: joined delimiter (next :: rest)

theorem pieces_ne_nil (delimiter : Char) (text : List Char) : pieces delimiter text ≠ [] := by
  induction text with
  | nil => simp [pieces]
  | cons char rest ih =>
      unfold pieces
      split
      · simp
      · cases h : pieces delimiter rest with
        | nil => exact absurd h ih
        | cons piece others => simp

theorem joined_pieces (delimiter : Char) (text : List Char) :
    joined delimiter (pieces delimiter text) = text := by
  induction text with
  | nil => rfl
  | cons char rest ih =>
      unfold pieces
      cases h : pieces delimiter rest with
      | nil => exact absurd h (pieces_ne_nil delimiter rest)
      | cons piece others =>
          rw [h] at ih
          split
          · rename_i atDelimiter
            subst atDelimiter
            simp [joined, ih]
          · rw [← ih]
            cases others <;> simp [joined]

end LowRank.Text
