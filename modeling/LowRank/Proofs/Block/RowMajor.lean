import LowRank.Proofs.Kernel.Built

/-!
# Cells in row-major order

The cells of a built block fill its array, one row after another, so that the rows and columns of
the block and the places of the array correspond to each other. A cell that is written is read back,
and no other cell changes.

Reading and writing by position check the place only. They therefore take a column beyond the last
one for a column of a later row, and fail at the end of the array. A block without columns has its
rows all at one place, and so any row of it can be read. A place is a word: a row so far beyond the
last one that its place does not fit a word is taken for a row near the beginning.
-/

namespace LowRank.Block

variable {α : Type}

/-- A block that is read and written by rows and columns as a matrix is. -/
structure RowMajor [Cell α] (block : Block α) : Prop where
  size_cells : block.cells.size = block.rows * block.cols
  position_injective : ∀ row < block.rows, ∀ col < block.cols, ∀ row' < block.rows,
    ∀ col' < block.cols,
      block.position row col = block.position row' col' → row = row' ∧ col = col'
  setCell?_inside : ∀ row < block.rows, ∀ col < block.cols, ∀ cell,
    ∃ after, block.setCell? row col cell = some after ∧
      after.rows = block.rows ∧ after.cols = block.cols ∧
      ∀ row' < block.rows, ∀ col' < block.cols,
        after.cell? row' col' =
          if row' = row ∧ col' = col then some cell else block.cell? row' col'
  row?_inside : ∀ row < block.rows, ∃ listed, block.row? row = some listed ∧
    listed.map some = (List.range block.cols).map (block.cell? row)
  value_inside : ∀ row < block.rows, ∀ col < block.cols,
    block.cell? row col = some (block.value row col)
  value_outside : ∀ row col, ¬(row < block.rows ∧ col < block.cols) →
    block.value row col = Cell.zero
  cell?_eq_none_iff : ∀ row col, block.cell? row col = none ↔
    block.rows * block.cols ≤ (row * block.cols + col) % Word.size
  setCell?_eq_none_iff : ∀ row col cell, block.setCell? row col cell = none ↔
    block.rows * block.cols ≤ (row * block.cols + col) % Word.size
  row?_eq_none_iff : block.cols < Word.size → ∀ row, block.row? row = none ↔
    block.rows * block.cols < row * block.cols % Word.size + block.cols

section Places

variable (block : Block α) (wellFormed : block.WellFormed) (row : Nat) (row_lt : row < block.rows)
  (col : Nat) (col_lt : col < block.cols)
include wellFormed row_lt col_lt

theorem position_div_cols : block.position row col / block.cols = row := by
  have cols_pos : 0 < block.cols := Nat.zero_lt_of_lt col_lt
  rw [block.position_eq wellFormed row row_lt col col_lt, Nat.add_comm,
    Nat.add_mul_div_right _ _ cols_pos, Nat.div_eq_of_lt col_lt, Nat.zero_add]

theorem position_mod_cols : block.position row col % block.cols = col := by
  rw [block.position_eq wellFormed row row_lt col col_lt, Nat.mul_add_mod',
    Nat.mod_eq_of_lt col_lt]

theorem eq_of_position_eq (row' : Nat) (row'_lt : row' < block.rows) (col' : Nat)
    (col'_lt : col' < block.cols) (same : block.position row col = block.position row' col') :
    row = row' ∧ col = col' := by
  have div := block.position_div_cols wellFormed row row_lt col col_lt
  have mod := block.position_mod_cols wellFormed row row_lt col col_lt
  rw [same, block.position_div_cols wellFormed row' row'_lt col' col'_lt] at div
  rw [same, block.position_mod_cols wellFormed row' row'_lt col' col'_lt] at mod
  exact ⟨div.symm, mod.symm⟩

end Places

theorem exists_setCell? (block : Block α) (row col : Nat) (cell : α)
    (inside : block.position row col < block.cells.size) :
    ∃ after, block.setCell? row col cell = some after := by
  rw [setCell?, dif_pos inside]
  exact ⟨_, rfl⟩

section Written

variable (block after : Block α) (row col : Nat) (cell : α)
  (made : block.setCell? row col cell = some after)
include made

theorem shape_of_setCell? : after.rows = block.rows ∧ after.cols = block.cols := by
  simp only [setCell?] at made
  split at made
  · cases made
    exact ⟨rfl, rfl⟩
  · cases made

theorem cell?_of_setCell? (row' col' : Nat) :
    after.cell? row' col' =
      if block.position row' col' = block.position row col then some cell
      else block.cell? row' col' := by
  simp only [setCell?] at made
  split at made
  · cases made
    simp only [cell?, position, Array.getElem?_set, eq_comm]
  · cases made

end Written

section Ends

variable (block : Block α) (wellFormed : block.WellFormed) (row col : Nat)
include wellFormed

theorem cell?_eq_none_iff_of_wellFormed :
    block.cell? row col = none ↔
      block.rows * block.cols ≤ (row * block.cols + col) % Word.size := by
  rw [cell?, Array.getElem?_eq_none_iff, wellFormed.size_cells]
  rfl

theorem setCell?_eq_none_iff_of_wellFormed (cell : α) :
    block.setCell? row col cell = none ↔
      block.rows * block.cols ≤ (row * block.cols + col) % Word.size := by
  rw [← wellFormed.size_cells, ← Nat.not_lt]
  by_cases inside : block.position row col < block.cells.size
  · exact iff_of_false (by simp [setCell?, inside]) (not_not_intro inside)
  · exact iff_of_true (dif_neg inside) inside

/-- Where the end of a row wraps around, it comes before the beginning. -/
theorem row?_eq_none_iff_of_wellFormed (cols_lt : block.cols < Word.size) :
    block.row? row = none ↔
      block.rows * block.cols < row * block.cols % Word.size + block.cols := by
  have start_eq : block.position row 0 = row * block.cols % Word.size := rfl
  have start_lt : row * block.cols % Word.size < Word.size := Nat.mod_lt _ (by decide)
  have countable : block.rows * block.cols < Word.size := wellFormed.countable
  have stop_eq : Word.wrap (row * block.cols % Word.size + block.cols) =
      (row * block.cols % Word.size + block.cols) % Word.size := rfl
  simp only [row?, start_eq, stop_eq, wellFormed.size_cells, ite_eq_right_iff, reduceCtorEq,
    imp_false]
  simp only [Word.size] at start_lt countable cols_lt ⊢
  omega

end Ends

theorem reset_eq [Cell α] (block : Block α) (rows cols : Nat) :
    block.reset rows cols =
      { rows, cols, cells := Array.replicate (rows * cols % Word.size) Cell.zero } := by
  simp [reset, Word.wrap]

theorem rowMajor_of_wellFormed [Cell α] (block : Block α) (wellFormed : block.WellFormed) :
    block.RowMajor where
  size_cells := wellFormed.size_cells
  position_injective row row_lt col col_lt :=
    block.eq_of_position_eq wellFormed row row_lt col col_lt
  setCell?_inside := by
    intro row row_lt col col_lt cell
    have inside := block.position_lt wellFormed row row_lt col col_lt
    rcases block.exists_setCell? row col cell inside with ⟨after, made⟩
    have shape := block.shape_of_setCell? after row col cell made
    refine ⟨after, made, shape.1, shape.2, ?_⟩
    intro row' row'_lt col' col'_lt
    rw [block.cell?_of_setCell? after row col cell made]
    apply if_congr _ rfl rfl
    constructor
    · exact block.eq_of_position_eq wellFormed row' row'_lt col' col'_lt row row_lt col col_lt
    · rintro ⟨rfl, rfl⟩
      rfl
  row?_inside := by
    intro row row_lt
    refine ⟨_, block.row?_eq_some_map_value wellFormed row row_lt, ?_⟩
    rw [List.map_map]
    apply List.map_congr_left
    intro col col_mem
    exact (block.cell?_eq_some_value wellFormed row row_lt col (List.mem_range.mp col_mem)).symm
  value_inside row row_lt col := block.cell?_eq_some_value wellFormed row row_lt col
  value_outside _ _ outside := if_neg outside
  cell?_eq_none_iff := block.cell?_eq_none_iff_of_wellFormed wellFormed
  setCell?_eq_none_iff := block.setCell?_eq_none_iff_of_wellFormed wellFormed
  row?_eq_none_iff cols_lt row := block.row?_eq_none_iff_of_wellFormed wellFormed row cols_lt

end LowRank.Block
