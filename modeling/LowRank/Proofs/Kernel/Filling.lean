import Mathlib.Data.List.Basic
import LowRank.Kernel.Dense
import LowRank.Proofs.Block.Tabulated
import LowRank.Proofs.Traversal

/-!
# Filling the rows of a result

The kernel fills the rows of its result one after another, and each row cell by cell or by adding
rows of a factor to it. Each of these loops reads and writes through checked positions. If the
single computations succeed then so does the loop, and what it computes is given without a loop:
each cell by itself, with the same operations on the same numbers in the same order.
-/

namespace LowRank

variable {α : Type}

theorem updateFrom_eq_ok (update : Nat → α → Computed α) (initial result : Nat → α)
    (start count : Nat)
    (updates : ∀ col, start ≤ col → col < start + count →
      update col (initial col) = .ok (result col)) :
    updateFrom update start ((List.range' start count).map initial) =
      .ok ((List.range' start count).map result) := by
  induction count generalizing start with
  | zero => rfl
  | succ count ih =>
      have first := updates start (Nat.le_refl start) (by omega)
      have others := ih (start + 1) fun col after before => updates col (by omega) (by omega)
      simp only [List.range'_succ, List.map_cons, updateFrom, first, others]
      rfl

theorem updateRow_eq_ok (update : Nat → α → Computed α) (initial result : Nat → α) (cols : Nat)
    (updates : ∀ col < cols, update col (initial col) = .ok (result col)) :
    updateRow update ((List.range cols).map initial) = .ok ((List.range cols).map result) := by
  rw [List.range_eq_range', updateRow]
  apply updateFrom_eq_ok
  intro col _ before
  exact updates col (by omega)

variable [Cell α]

omit [Cell α] in
theorem Block.filledRows_of_wellFormed (block : Block α) (wellFormed : block.WellFormed)
    (nonempty : block.rows * block.cols ≠ 0) : block.filledRows = block.rows := by
  have cols_pos : 0 < block.cols := by
    apply Nat.pos_of_ne_zero
    rintro no_cols
    exact nonempty (by rw [no_cols, Nat.mul_zero])
  rw [filledRows, wellFormed.size_cells, Nat.add_sub_assoc cols_pos,
    Nat.mul_comm, Nat.mul_add_div cols_pos, Nat.div_eq_of_lt (Nat.sub_one_lt_of_lt cols_pos),
    Nat.add_zero]

omit [Cell α] in
/-- Filling each row of a tabulated block tabulates what the rows are filled with. -/
theorem Block.fillRows_tabulate (rows cols : Nat) (countable : rows * cols < Word.size)
    (fill : Nat → List α → Computed (List α)) (initial result : Nat → Nat → α)
    (fills : ∀ row < rows,
      fill row ((List.range cols).map (initial row)) = .ok ((List.range cols).map (result row))) :
    (tabulate rows cols initial).fillRows fill = .ok (tabulate rows cols result) := by
  have formed := wellFormed_tabulate rows cols initial countable
  have cellCount : (tabulate rows cols initial).cellCount = rows * cols := cellCount_eq _ formed
  simp only [fillRows]
  by_cases empty : rows * cols = 0
  · have same : tabulate rows cols initial = tabulate rows cols result := by
      apply tabulate_congr
      intro row row_lt col col_lt
      have := Nat.mul_pos (Nat.zero_lt_of_lt row_lt) (Nat.zero_lt_of_lt col_lt)
      omega
    rw [if_pos (by simp [isEmpty, cellCount, empty]), same]
    rfl
  · have filled := mapM_eq_ok_map
      (fun row => fill row ((tabulate rows cols initial).rowSlice row))
      (fun row => (List.range cols).map (result row)) (List.range rows)
      (by
        intro row row_mem
        have row_lt := List.mem_range.mp row_mem
        simp only [rowSlice_tabulate rows cols initial row row_lt, fills row row_lt])
    have count : (tabulate rows cols initial).filledRows = rows :=
      filledRows_of_wellFormed _ formed empty
    rw [if_neg (by simp [isEmpty, cellCount, empty]), count, filled]
    rfl

namespace Dense

/-- A total to which products are added in order, except those whose first factor is zero. -/
def sparseSum (count : Nat) (weight value : Nat → α) (total : α) : α :=
  (List.range count).foldl (fun total index =>
    if Cell.isZero (weight index) then total else total + weight index * value index) total

/-- Equal weights leave out the same values, and these need not be equal. -/
theorem sparseSum_congr (count : Nat) (weight otherWeight value otherValue : Nat → α) (total : α)
    (weights : ∀ index < count, weight index = otherWeight index)
    (values : ∀ index < count, Cell.isZero (weight index) = false →
      value index = otherValue index) :
    sparseSum count weight value total = sparseSum count otherWeight otherValue total := by
  apply List.foldl_ext
  intro total index index_mem
  have index_lt := List.mem_range.mp index_mem
  rw [← weights index index_lt]
  cases zero : Cell.isZero (weight index) with
  | true => rfl
  | false => rw [values index index_lt zero]

/-- Adding multiples of rows is adding multiples of the values in each column by itself. -/
theorem addMultiples_eq_ok (count : Nat) (multiple : Nat → Computed α) (factor : Block α)
    (weight initial : Nat → α) (wellFormed : factor.WellFormed) (rows_eq : factor.rows = count)
    (multiples : ∀ index < count, multiple index = .ok (weight index)) :
    addMultiples count multiple factor ((List.range factor.cols).map initial) =
      .ok ((List.range factor.cols).map fun col =>
        sparseSum count weight (fun index => factor.value index col) (initial col)) := by
  -- The state of the loop is one total for each column.
  have looped := foldlM_eq_ok_foldl
    (fun sums index => do
      let weight ← multiple index
      if Cell.isZero weight then return sums
      return addMultiple weight sums (← factor.readRow index))
    (fun totals index col =>
      if Cell.isZero (weight index) then totals col
      else totals col + weight index * factor.value index col)
    (fun totals => (List.range factor.cols).map totals) (List.range count) initial
    (by
      intro index index_mem totals
      have index_lt := List.mem_range.mp index_mem
      have row := factor.row?_eq_some_map_value wellFormed index (by omega)
      simp only [multiples index index_lt, Block.readRow, row, ok_bind]
      cases Cell.isZero (weight index) with
      | true => rfl
      | false => exact congrArg Except.ok (zipWith_map_self _ _ _ _))
  rw [addMultiples, looped]
  congr 2
  funext col
  exact foldl_apply
    (fun col total index =>
      if Cell.isZero (weight index) then total
      else total + weight index * factor.value index col)
    (List.range count) initial col

end Dense

end LowRank
