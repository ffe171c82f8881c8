import LowRank.Text.Pieces

/-!
# Cutting what was joined

Pieces that do not contain the delimiter are found again when the text that joins them is cut. The
joined text begins as its first piece begins and ends as its last piece ends.
-/

namespace LowRank.Text

variable (delimiter : Char)

theorem pieces_of_not_mem (piece : List Char) (clean : delimiter ∉ piece) :
    pieces delimiter piece = [piece] := by
  induction piece with
  | nil => rfl
  | cons char rest ih =>
      rw [List.mem_cons, not_or] at clean
      rcases clean with ⟨different, restClean⟩
      rw [pieces, if_neg fun same => different same.symm, ih restClean]
      rfl

theorem pieces_append_delimiter (piece rest : List Char) (clean : delimiter ∉ piece) :
    pieces delimiter (piece ++ delimiter :: rest) = piece :: pieces delimiter rest := by
  induction piece with
  | nil => simp [pieces]
  | cons char others ih =>
      rw [List.mem_cons, not_or] at clean
      rcases clean with ⟨different, othersClean⟩
      rw [List.cons_append, pieces, if_neg fun same => different same.symm, ih othersClean]
      rfl

/-- Cutting a joined text gives the joined pieces back. -/
theorem pieces_joined (listed : List (List Char)) (nonempty : listed ≠ [])
    (clean : ∀ piece ∈ listed, delimiter ∉ piece) :
    pieces delimiter (joined delimiter listed) = listed := by
  induction listed with
  | nil => exact absurd rfl nonempty
  | cons piece rest ih =>
      have pieceClean := clean piece List.mem_cons_self
      cases rest with
      | nil => exact pieces_of_not_mem delimiter piece pieceClean
      | cons next others =>
          have restClean : ∀ other ∈ next :: others, delimiter ∉ other := by
            intro other other_mem
            exact clean other (List.mem_cons_of_mem piece other_mem)
          rw [joined, pieces_append_delimiter _ _ _ pieceClean, ih (by simp) restClean]

theorem not_mem_of_mem_pieces (text piece : List Char) (piece_mem : piece ∈ pieces delimiter text) :
    delimiter ∉ piece := by
  induction text generalizing piece with
  | nil =>
      simp only [pieces, List.mem_singleton] at piece_mem
      simp [piece_mem]
  | cons char rest ih =>
      simp only [pieces] at piece_mem
      split at piece_mem
      · rcases List.mem_cons.mp piece_mem with rfl | rest_mem
        · simp
        · exact ih piece rest_mem
      · rename_i different
        cases cut : pieces delimiter rest with
        | nil => simp [cut] at piece_mem
        | cons first others =>
            rw [cut] at ih piece_mem
            rcases List.mem_cons.mp piece_mem with rfl | others_mem
            · have firstClean := ih first List.mem_cons_self
              rw [List.mem_cons, not_or]
              exact ⟨fun same => different same.symm, firstClean⟩
            · exact ih piece (List.mem_cons_of_mem first others_mem)

theorem joined_cons (piece : List Char) (rest : List (List Char)) (more : rest ≠ []) :
    joined delimiter (piece :: rest) = piece ++ delimiter :: joined delimiter rest := by
  cases rest with
  | nil => exact absurd rfl more
  | cons next others => rfl

/-- A joined text is the same around one of its pieces, whatever that piece is. -/
theorem exists_joined_around (before after : List (List Char)) :
    ∃ front back, ∀ piece,
      joined delimiter (before ++ piece :: after) = front ++ piece ++ back := by
  induction before with
  | nil =>
      cases after with
      | nil => exact ⟨[], [], fun piece => (List.append_nil piece).symm⟩
      | cons next others => exact ⟨[], delimiter :: joined delimiter (next :: others), fun _ => rfl⟩
  | cons first rest ih =>
      rcases ih with ⟨front, back, around⟩
      refine ⟨first ++ delimiter :: front, back, ?_⟩
      intro piece
      rw [List.cons_append, joined_cons delimiter first _ (by simp), around piece]
      simp

theorem head?_joined (piece : List Char) (rest : List (List Char)) (char : Char)
    (first : piece.head? = some char) :
    (joined delimiter (piece :: rest)).head? = some char := by
  cases rest with
  | nil => exact first
  | cons next others =>
      rw [joined, List.head?_append, first]
      rfl

theorem getLast?_joined (listed : List (List Char)) (piece : List Char) (char : Char)
    (last : piece.getLast? = some char) :
    (joined delimiter (listed ++ [piece])).getLast? = some char := by
  induction listed with
  | nil => exact last
  | cons first rest ih =>
      have more : ∃ next others, rest ++ [piece] = next :: others := by
        cases rest with
        | nil => exact ⟨piece, [], rfl⟩
        | cons next others => exact ⟨next, others ++ [piece], rfl⟩
      rcases more with ⟨next, others, rest_eq⟩
      rw [List.cons_append, rest_eq, joined, ← rest_eq, List.getLast?_append, List.getLast?_cons,
        ih]
      rfl

end LowRank.Text
