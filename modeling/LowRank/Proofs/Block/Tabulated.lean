import LowRank.Block.Basic

/-!
# Blocks given cell by cell

A well-formed block is determined by its shape and by the value of each row and column. This file
relates the flat array of cells to these values: reading a position and cutting out a row agree with
them, a block can be tabulated from them, and filling a tabulated block row by row tabulates what
each row is filled with. Blocks without rows or without columns are no exception.
-/

namespace LowRank.Block

variable {α : Type}

/-- The block of the given shape with the given cells. -/
def tabulate (rows cols : Nat) (cell : Nat → Nat → α) : Block α :=
  { rows, cols
    cells := ((List.range rows).map fun row => (List.range cols).map (cell row)).flatten.toArray }

theorem length_flatten_of_even (width : Nat) (listed : List (List α))
    (even : ∀ row ∈ listed, row.length = width) :
    listed.flatten.length = listed.length * width := by
  induction listed with
  | nil => simp
  | cons first rest ih =>
      have firstLength := even first List.mem_cons_self
      have restLength := ih fun row row_mem => even row (List.mem_cons_of_mem first row_mem)
      rw [List.flatten_cons, List.length_append, List.length_cons, firstLength, restLength,
        Nat.succ_mul, Nat.add_comm]

/-- In a list of rows of one width, a row and a column stand at one place of the flat list. -/
theorem getElem?_flatten_of_even (width : Nat) (listed : List (List α)) (row col : Nat)
    (even : ∀ row ∈ listed, row.length = width) (col_lt : col < width) :
    listed.flatten[row * width + col]? = listed[row]?.bind fun cells => cells[col]? := by
  induction listed generalizing row with
  | nil => simp
  | cons first rest ih =>
      have firstLength := even first List.mem_cons_self
      rw [List.flatten_cons]
      cases row with
      | zero =>
          rw [List.getElem?_append_left (by omega)]
          simp
      | succ row =>
          have beyond : first.length ≤ (row + 1) * width + col := by
            rw [Nat.succ_mul]
            omega
          have place : (row + 1) * width + col - first.length = row * width + col := by
            rw [Nat.succ_mul]
            omega
          rw [List.getElem?_append_right beyond, place,
            ih row fun row row_mem => even row (List.mem_cons_of_mem first row_mem)]
          simp

/-- The row at an index ends within the rows. -/
theorem row_end_le (block : Block α) (row : Nat) (row_lt : row < block.rows) :
    row * block.cols + block.cols ≤ block.rows * block.cols := by
  rw [← Nat.succ_mul]
  exact Nat.mul_le_mul_right _ row_lt

theorem position_of_lt (block : Block α) (row col : Nat)
    (place_lt : row * block.cols + col < Word.size) :
    block.position row col = row * block.cols + col :=
  Word.wrap_of_lt place_lt

theorem getElem?_rowSlice (block : Block α) (row col : Nat) (col_lt : col < block.cols) :
    (block.rowSlice row)[col]? = block.cells[row * block.cols + col]? := by
  simp only [rowSlice, Array.getElem?_toList, Array.getElem?_extract]
  by_cases inside : row * block.cols + col < block.cells.size
  · rw [if_pos (by omega)]
  · rw [if_neg (by omega), Array.getElem?_eq_none (by omega)]

section Formed

variable (block : Block α) (wellFormed : block.WellFormed)
include wellFormed

theorem cellCount_eq : block.cellCount = block.rows * block.cols :=
  Word.wrap_of_lt wellFormed.countable

variable (row : Nat) (row_lt : row < block.rows)
include row_lt

theorem position_eq (col : Nat) (col_lt : col < block.cols) :
    block.position row col = row * block.cols + col := by
  have inside := block.row_end_le row row_lt
  have countable := wellFormed.countable
  apply position_of_lt
  omega

theorem position_lt (col : Nat) (col_lt : col < block.cols) :
    block.position row col < block.cells.size := by
  have inside := block.row_end_le row row_lt
  rw [block.position_eq wellFormed row row_lt col col_lt, wellFormed.size_cells]
  omega

theorem length_rowSlice : (block.rowSlice row).length = block.cols := by
  have inside := block.row_end_le row row_lt
  have size_cells := wellFormed.size_cells
  simp only [rowSlice, Array.length_toList, Array.size_extract]
  omega

/-- The end of a row does not wrap around, because it is within the cells. -/
theorem row?_eq_some_rowSlice : block.row? row = some (block.rowSlice row) := by
  have inside := block.row_end_le row row_lt
  have countable := wellFormed.countable
  have start_eq : block.position row 0 = row * block.cols := by
    apply position_of_lt
    omega
  have stop_eq : Word.wrap (row * block.cols + block.cols) = row * block.cols + block.cols := by
    apply Word.wrap_of_lt
    omega
  simp only [row?, start_eq, stop_eq]
  apply if_pos
  rw [wellFormed.size_cells]
  omega

variable [Cell α]

theorem cell?_eq_some_value (col : Nat) (col_lt : col < block.cols) :
    block.cell? row col = some (block.value row col) := by
  have inside := block.position_lt wellFormed row row_lt col col_lt
  simp only [value, row_lt, col_lt, and_self, if_true, cell?, Array.getElem?_eq_getElem inside,
    Option.getD_some]

/-- A row of a well-formed block lists the values of its columns. -/
theorem rowSlice_eq_map_value :
    block.rowSlice row = (List.range block.cols).map (block.value row) := by
  have length_eq := block.length_rowSlice wellFormed row row_lt
  apply List.ext_getElem?
  intro col
  by_cases col_lt : col < block.cols
  · have found := block.cell?_eq_some_value wellFormed row row_lt col col_lt
    rw [cell?, block.position_eq wellFormed row row_lt col col_lt] at found
    simp [block.getElem?_rowSlice row col col_lt, found, col_lt]
  · rw [List.getElem?_eq_none (by omega), List.getElem?_eq_none (by simpa using col_lt)]

theorem row?_eq_some_map_value :
    block.row? row = some ((List.range block.cols).map (block.value row)) := by
  rw [block.row?_eq_some_rowSlice wellFormed row row_lt,
    block.rowSlice_eq_map_value wellFormed row row_lt]

end Formed

/-- Well-formed blocks of one shape are equal if they have the same cells. -/
theorem eq_of_cell? (first second : Block α) (firstFormed : first.WellFormed)
    (secondFormed : second.WellFormed) (rows_eq : first.rows = second.rows)
    (cols_eq : first.cols = second.cols)
    (same : ∀ row < first.rows, ∀ col < first.cols, first.cell? row col = second.cell? row col) :
    first = second := by
  rcases first with ⟨rows, cols, cells⟩
  rcases second with ⟨_, _, others⟩
  simp only at rows_eq cols_eq
  subst rows_eq cols_eq
  have size_cells := firstFormed.size_cells
  have size_others := secondFormed.size_cells
  simp only at size_cells size_others
  have cells_eq : cells = others := by
    apply Array.ext (by omega)
    intro place place_lt others_lt
    -- Every place is that of a row and a column.
    have cols_pos : 0 < cols := by
      apply Nat.pos_of_ne_zero
      rintro rfl
      omega
    have row_lt : place / cols < rows := by
      rw [Nat.div_lt_iff_lt_mul cols_pos]
      omega
    have col_lt : place % cols < cols := Nat.mod_lt place cols_pos
    have found := same (place / cols) row_lt (place % cols) col_lt
    simp only [cell?, position_eq _ firstFormed _ row_lt _ col_lt,
      position_eq _ secondFormed _ row_lt _ col_lt, Nat.div_add_mod'] at found
    simpa [place_lt, others_lt] using found
  rw [cells_eq]

section Tabulate

variable (rows cols : Nat) (cell : Nat → Nat → α)

theorem length_of_mem_tabulated (listed : List α)
    (listed_mem : listed ∈ (List.range rows).map fun row => (List.range cols).map (cell row)) :
    listed.length = cols := by
  rcases List.mem_map.mp listed_mem with ⟨_, _, rfl⟩
  rw [List.length_map, List.length_range]

variable (countable : rows * cols < Word.size)

include countable in
theorem wellFormed_tabulate : (tabulate rows cols cell).WellFormed := by
  have length_eq := length_flatten_of_even cols _ (length_of_mem_tabulated rows cols cell)
  refine ⟨?_, countable⟩
  simpa [tabulate] using length_eq

theorem rowSlice_tabulate (row : Nat) (row_lt : row < rows) :
    (tabulate rows cols cell).rowSlice row = (List.range cols).map (cell row) := by
  have even := length_of_mem_tabulated rows cols cell
  have length_eq := length_flatten_of_even cols _ even
  have inside := (tabulate rows cols cell).row_end_le row row_lt
  rw [List.length_map, List.length_range] at length_eq
  apply List.ext_getElem?
  intro col
  by_cases col_lt : col < cols
  · rw [getElem?_rowSlice _ row col col_lt, tabulate, List.getElem?_toArray,
      getElem?_flatten_of_even cols _ row col even col_lt]
    simp [row_lt]
  · rw [List.getElem?_eq_none, List.getElem?_eq_none (by simpa using col_lt)]
    simp only [rowSlice, tabulate, Array.length_toList, Array.size_extract, List.size_toArray]
      at inside ⊢
    omega

include countable

theorem cell?_tabulate (row col : Nat) (row_lt : row < rows) (col_lt : col < cols) :
    (tabulate rows cols cell).cell? row col = some (cell row col) := by
  have formed := wellFormed_tabulate rows cols cell countable
  have listed := rowSlice_tabulate rows cols cell row row_lt
  rw [cell?, position_eq _ formed row row_lt col col_lt, ← getElem?_rowSlice _ row col col_lt,
    listed]
  simp [col_lt]

theorem value_tabulate [Cell α] (row col : Nat) (row_lt : row < rows) (col_lt : col < cols) :
    (tabulate rows cols cell).value row col = cell row col := by
  rw [value, cell?_tabulate rows cols cell countable row col row_lt col_lt]
  exact if_pos ⟨row_lt, col_lt⟩

theorem row?_tabulate (row : Nat) (row_lt : row < rows) :
    (tabulate rows cols cell).row? row = some ((List.range cols).map (cell row)) := by
  have formed := wellFormed_tabulate rows cols cell countable
  rw [row?_eq_some_rowSlice _ formed row row_lt, rowSlice_tabulate rows cols cell row row_lt]

omit countable in
theorem tabulate_congr (other : Nat → Nat → α)
    (same : ∀ row < rows, ∀ col < cols, cell row col = other row col) :
    tabulate rows cols cell = tabulate rows cols other := by
  simp only [tabulate]
  congr 3
  apply List.map_congr_left
  intro row row_mem
  apply List.map_congr_left
  intro col col_mem
  exact same row (List.mem_range.mp row_mem) col (List.mem_range.mp col_mem)

end Tabulate

theorem reset_eq_tabulate [Cell α] (block : Block α) (rows cols : Nat)
    (countable : rows * cols < Word.size) :
    block.reset rows cols = tabulate rows cols fun _ _ => Cell.zero := by
  have zeros : List.replicate (rows * cols) (Cell.zero : α) =
      ((List.range rows).map fun _ => (List.range cols).map fun _ => Cell.zero).flatten := by
    simp [List.map_const']
  simp only [reset, tabulate, ← zeros, Word.wrap_of_lt countable]
  simp

end LowRank.Block
