import LowRank.Proofs.Kernel.Filling

/-!
# Reading fitting inputs

The kernel checks the shapes of its inputs once. In well-formed inputs that pass this check, every
cell and every row that a computation asks for is there, so that reading never fails and gives the
value of the cell, and a row of the left factor meets a row of the right one in full length.
-/

namespace LowRank.Dense

variable {α : Type} [Cell α]

/-- Well-formed inputs whose shapes fit together. -/
structure Fit (inputs : Inputs (Block α)) : Prop where
  weighted : inputs.weighted.WellFormed
  left : inputs.left.WellFormed
  right : inputs.right.WellFormed
  fourth : ∀ block, inputs.fourth = some block → block.WellFormed
  left_rows : inputs.left.rows = inputs.weighted.rows
  right_rows : inputs.right.rows = inputs.weighted.cols
  ranks : inputs.left.cols = inputs.right.cols
  fourth_rows : ∀ block, inputs.fourth = some block → block.rows = inputs.weighted.rows
  fourth_cols : ∀ block, inputs.fourth = some block → block.cols = inputs.weighted.cols

omit [Cell α] in
instance (inputs : Inputs (Block α)) : Decidable (Fit inputs) :=
  decidable_of_iff
    (inputs.weighted.WellFormed ∧ inputs.left.WellFormed ∧ inputs.right.WellFormed ∧
      (∀ block ∈ inputs.fourth, block.WellFormed) ∧ inputs.left.rows = inputs.weighted.rows ∧
      inputs.right.rows = inputs.weighted.cols ∧ inputs.left.cols = inputs.right.cols ∧
      (∀ block ∈ inputs.fourth, block.rows = inputs.weighted.rows) ∧
      ∀ block ∈ inputs.fourth, block.cols = inputs.weighted.cols)
    ⟨fun ⟨weighted, left, right, fourth, leftRows, rightRows, ranks, fourthRows, fourthCols⟩ =>
      ⟨weighted, left, right, fourth, leftRows, rightRows, ranks, fourthRows, fourthCols⟩,
      fun fit => ⟨fit.weighted, fit.left, fit.right, fit.fourth, fit.left_rows, fit.right_rows,
        fit.ranks, fit.fourth_rows, fit.fourth_cols⟩⟩

omit [Cell α] in
/-- Inputs that fit also do so without a fourth one. -/
theorem Fit.keepFourth {inputs : Inputs (Block α)} (fit : Fit inputs) (keep : Bool) :
    Fit (inputs.keepFourth keep) := by
  cases keep with
  | true => exact fit
  | false =>
      refine ⟨fit.weighted, fit.left, fit.right, ?_, fit.left_rows, fit.right_rows, fit.ranks,
        ?_, ?_⟩
      all_goals
        intro block present
        cases present

section Countable

variable {inputs : Inputs (Block α)} (fit : Fit inputs)
include fit

omit [Cell α] in
theorem Fit.countable_left : inputs.weighted.rows * inputs.left.cols < Word.size := by
  rw [← fit.left_rows]
  exact fit.left.countable

omit [Cell α] in
theorem Fit.countable_right : inputs.weighted.cols * inputs.left.cols < Word.size := by
  rw [fit.ranks, ← fit.right_rows]
  exact fit.right.countable

end Countable

/-- The product of a row of the left factor and a row of the right one, added up in order. -/
def dotAt (inputs : Inputs (Block α)) (row col : Nat) : α :=
  (List.range inputs.left.cols).foldl (fun total rank =>
    total + inputs.left.value row rank * inputs.right.value col rank) Cell.negZero

theorem read_eq_ok_value (block : Block α) (row col : Nat) (wellFormed : block.WellFormed)
    (row_lt : row < block.rows) (col_lt : col < block.cols) :
    block.read row col = .ok (block.value row col) := by
  rw [Block.read, block.cell?_eq_some_value wellFormed row row_lt col col_lt]

theorem readRow_eq_ok_map_value (block : Block α) (row : Nat) (wellFormed : block.WellFormed)
    (row_lt : row < block.rows) :
    block.readRow row = .ok ((List.range block.cols).map (block.value row)) := by
  rw [Block.readRow, block.row?_eq_some_map_value wellFormed row row_lt]

variable (inputs : Inputs (Block α)) (fit : Fit inputs)
include fit

omit [Cell α] in
theorem checkShapes_eq_ok : checkShapes inputs = .ok () := by
  rcases inputs with ⟨weighted, left, right, fourth⟩
  have leftRows := fit.left_rows
  have rightRows := fit.right_rows
  have ranks := fit.ranks
  simp only at leftRows rightRows ranks
  cases fourth with
  | none => simp [checkShapes, leftRows, rightRows, ranks]
  | some block =>
      have fourthRows := fit.fourth_rows block rfl
      have fourthCols := fit.fourth_cols block rfl
      simp only at fourthRows fourthCols
      simp [checkShapes, leftRows, rightRows, ranks, fourthRows, fourthCols]

/-- The kernel applies the operator to inputs that fit if it gets the pool that it asks for. -/
theorem kernel_eq_operate (workers : Workers) (operator : Operator) (out : Block α)
    (threads : Int32) (pool : Option Pool)
    (granted : workers.pool? threads inputs.weighted.cellCount = .ok pool) :
    kernel workers { operator, inputs, out, threads } = operate pool operator inputs out := by
  simp only [kernel, checkShapes_eq_ok inputs fit, granted]
  rfl

section Row

variable (row : Nat) (row_lt : row < inputs.weighted.rows)
include row_lt

theorem readRow_left :
    inputs.left.readRow row = .ok ((List.range inputs.left.cols).map (inputs.left.value row)) := by
  apply readRow_eq_ok_map_value inputs.left row fit.left
  rwa [fit.left_rows]

theorem readRow_weighted :
    inputs.weighted.readRow row =
      .ok ((List.range inputs.weighted.cols).map (inputs.weighted.value row)) :=
  readRow_eq_ok_map_value inputs.weighted row fit.weighted row_lt

end Row

variable (row col : Nat) (col_lt : col < inputs.weighted.cols)
include col_lt

theorem productWith_eq_ok_dotAt :
    productWith inputs ((List.range inputs.left.cols).map (inputs.left.value row)) col =
      .ok (dotAt inputs row col) := by
  have rightRow := readRow_eq_ok_map_value inputs.right col fit.right (by rwa [fit.right_rows])
  rw [← fit.ranks] at rightRow
  rw [productWith, rightRow, ok_bind]
  simp only [Cell.dot, Cell.sum, dotAt, zipWith_map_self, List.foldl_map]
  rfl

variable (row_lt : row < inputs.weighted.rows)
include row_lt

theorem read_weighted : inputs.weighted.read row col = .ok (inputs.weighted.value row col) :=
  read_eq_ok_value inputs.weighted row col fit.weighted row_lt col_lt

theorem read_fourth (block : Block α) (present : inputs.fourth = some block) :
    block.read row col = .ok (block.value row col) := by
  apply read_eq_ok_value block row col (fit.fourth block present)
  · rwa [fit.fourth_rows block present]
  · rwa [fit.fourth_cols block present]

theorem product_eq_ok_dotAt : product inputs row col = .ok (dotAt inputs row col) := by
  rw [product, readRow_left inputs fit row row_lt, ok_bind,
    productWith_eq_ok_dotAt inputs fit row col col_lt]

end LowRank.Dense
