import LowRank.Proofs.Inputs
import LowRank.Proofs.Kernel.WeightedProduct

/-!
# Totals over the rows

The squared loss and the cross entropy are single numbers: each row of the weighted matrix gives a
sum of its own, and the kernel adds these up. For inputs that fit, all reads succeed and the result
is a plain sum of plain sums, taken from the same starting values. The cells of a row are added in
order, and so are the rows if there is no pool; a pool adds them along its own division.
-/

namespace LowRank

variable {α : Type}

/-- The block that holds a single number. -/
def Block.ofCell (cell : α) : Block α :=
  { rows := 1, cols := 1, cells := #[cell] }

namespace Dense

variable [Cell α]

/-- The sum of the values at consecutive indices along a division. -/
def totalAlong (value : Nat → α) : Division → Nat → Nat → α
  | .whole, count, start =>
      (List.range' start count).foldl (fun total index => total + value index) Cell.negZero
  | .halves first second, count, start =>
      totalAlong value first (count / 2) start +
        totalAlong value second (count - count / 2) (start + count / 2)

/-- The sum of a value for each row, in order or along the division of a pool. -/
def totalOf (pool : Option Pool) (rows : Nat) (value : Nat → α) : α :=
  match pool with
  | none => (List.range rows).foldl (fun total row => total + value row) Cell.negZero
  | some pool => totalAlong value (pool.division rows) rows 0

theorem totalAlong_congr (division : Division) (value other : Nat → α) (count start : Nat)
    (same : ∀ index, start ≤ index → index < start + count → value index = other index) :
    totalAlong value division count start = totalAlong other division count start := by
  induction division generalizing count start with
  | whole =>
      apply List.foldl_ext
      intro total index index_mem
      rcases List.mem_range'_1.mp index_mem with ⟨after, before⟩
      rw [same index after before]
  | halves first second ihFirst ihSecond =>
      apply congrArg₂ (· + ·)
      · apply ihFirst
        intro index after before
        apply same <;> omega
      · apply ihSecond
        intro index after before
        apply same <;> omega

/-- The same values for the rows have the same sum in the same pool. -/
theorem totalOf_congr (pool : Option Pool) (rows : Nat) (value other : Nat → α)
    (same : ∀ row < rows, value row = other row) :
    totalOf pool rows value = totalOf pool rows other := by
  cases pool with
  | none =>
      apply List.foldl_ext
      intro total row row_mem
      rw [same row (List.mem_range.mp row_mem)]
  | some pool =>
      apply totalAlong_congr
      intro row _ before
      apply same
      omega

theorem single_eq_ok_ofCell (out : Block α) (cell : α) : single out cell = .ok (.ofCell cell) := by
  rw [single, Block.reset_eq_tabulate out 1 1 (by decide)]
  rfl

theorem addFrom_eq_ok (value : Nat → Computed α) (result : Nat → α) (start count : Nat)
    (total : α)
    (values : ∀ index, start ≤ index → index < start + count →
      value index = .ok (result index)) :
    addFrom value count start total =
      .ok ((List.range' start count).foldl (fun total index => total + result index) total) := by
  induction count generalizing start total with
  | zero => rfl
  | succ count ih =>
      have first := values start (Nat.le_refl start) (by omega)
      rw [addFrom, first, ok_bind, ih (start + 1) (total + result start)]
      · rw [List.range'_succ, List.foldl_cons]
      · intro index after before
        apply values <;> omega

theorem addDivided_eq_ok (value : Nat → Computed α) (result : Nat → α) (division : Division)
    (count start : Nat)
    (values : ∀ index, start ≤ index → index < start + count →
      value index = .ok (result index)) :
    addDivided value division count start = .ok (totalAlong result division count start) := by
  induction division generalizing count start with
  | whole => exact addFrom_eq_ok value result start count Cell.negZero values
  | halves first second ihFirst ihSecond =>
      have low := ihFirst (count / 2) start (by
        intro index after before
        apply values <;> omega)
      have high := ihSecond (count - count / 2) (start + count / 2) (by
        intro index after before
        apply values <;> omega)
      rw [addDivided, low, high]
      rfl

theorem addRows_eq_ok (pool : Option Pool) (rows : Nat) (value : Nat → Computed α)
    (result : Nat → α) (values : ∀ row < rows, value row = .ok (result row)) :
    addRows pool rows value = .ok (totalOf pool rows result) := by
  have values' : ∀ index, 0 ≤ index → index < 0 + rows → value index = .ok (result index) := by
    intro row _ before
    apply values
    omega
  cases pool with
  | none =>
      have added := addFrom_eq_ok value result 0 rows Cell.negZero values'
      rw [addRows, added, ← List.range_eq_range']
      rfl
  | some pool => exact addDivided_eq_ok value result (pool.division rows) rows 0 values'

theorem rowTotal_eq_ok (pool : Option Pool) (rows : Nat) (value : Nat → Computed α)
    (result : Nat → α) (out : Block α) (values : ∀ row < rows, value row = .ok (result row)) :
    rowTotal pool rows value out = .ok (.ofCell (totalOf pool rows result)) := by
  rw [rowTotal, addRows_eq_ok pool rows value result values, ok_bind, single_eq_ok_ofCell]

/-- The term that a cell adds to a squared loss, if it adds one. -/
def lossTermAt (kind : LossKind) (inputs : Inputs (Block α)) (row col : Nat) : Option α :=
  let target := inputs.weighted.value row col
  let weight := fourthAt inputs row col
  let difference := target - dotAt inputs row col
  let weightedDifference := target - weight * dotAt inputs row col
  match kind with
  | .post => if Cell.isZero weight then none else some (weight * difference * difference)
  | .pre => some (weightedDifference * weightedDifference)
  | .postNonzero => if Cell.isZero target then none else some (difference * difference)
  | .unweighted => some (difference * difference)

/-- The terms of a row of a squared loss, added up in order. -/
def rowLossAt (kind : LossKind) (inputs : Inputs (Block α)) (row : Nat) : α :=
  (List.range inputs.weighted.cols).foldl (fun loss col =>
    match lossTermAt kind inputs row col with
    | none => loss
    | some term => loss + term) Cell.zero

/-- The terms of a row of the cross entropy, added up in order. -/
def rowEntropyAt (inputs : Inputs (Block α)) (row : Nat) : α :=
  let present := (List.range inputs.weighted.cols).filter fun col =>
    !Cell.isZero (inputs.weighted.value row col)
  present.foldl (fun total col =>
    total + inputs.weighted.value row col * Cell.log (dotAt inputs row col)) Cell.negZero

variable (inputs : Inputs (Block α)) (fit : Fit inputs)
include fit

section Loss

variable (kind : LossKind) (present : kind.needsFourth = true → inputs.fourth.isSome = true)
include present

theorem lossTerm_eq_ok (row col : Nat) (row_lt : row < inputs.weighted.rows)
    (col_lt : col < inputs.weighted.cols) :
    lossTerm kind inputs ((List.range inputs.left.cols).map (inputs.left.value row)) row col =
      .ok (lossTermAt kind inputs row col) := by
  have target := read_weighted inputs fit row col col_lt row_lt
  have product := productWith_eq_ok_dotAt inputs fit row col col_lt
  have weights : kind.needsFourth = true →
      ∃ block, inputs.fourth = some block ∧ block.read row col = .ok (fourthAt inputs row col) := by
    intro needs
    rcases Option.isSome_iff_exists.mp (present needs) with ⟨block, found⟩
    refine ⟨block, found, ?_⟩
    rw [read_fourth inputs fit row col col_lt row_lt block found, fourthAt, found]
    rfl
  cases kind with
  | post =>
      rcases weights rfl with ⟨block, found, weight⟩
      simp only [lossTerm, lossTermAt, target, product, found, weight, ok_bind]
      cases Cell.isZero (fourthAt inputs row col) <;> rfl
  | pre =>
      rcases weights rfl with ⟨block, found, weight⟩
      simp only [lossTerm, lossTermAt, target, product, found, weight, ok_bind]
      rfl
  | postNonzero =>
      simp only [lossTerm, lossTermAt, target, product, ok_bind]
      cases Cell.isZero (inputs.weighted.value row col) <;> rfl
  | unweighted =>
      simp only [lossTerm, lossTermAt, target, product, ok_bind]
      rfl

theorem rowLoss_eq_ok (row : Nat) (row_lt : row < inputs.weighted.rows) :
    rowLoss kind inputs row = .ok (rowLossAt kind inputs row) := by
  rw [rowLoss, readRow_left inputs fit row row_lt, ok_bind]
  apply foldlM_eq_ok_foldl _ _ id
  intro col col_mem loss
  have term := lossTerm_eq_ok inputs fit kind present row col row_lt (List.mem_range.mp col_mem)
  simp only [term, ok_bind, id]
  cases lossTermAt kind inputs row col <;> rfl

/-- The squared loss is the sum over the rows of the sums over their cells. -/
theorem squaredLoss_eq_ok (pool : Option Pool) (out : Block α) :
    squaredLoss pool kind inputs out =
      .ok (.ofCell (totalOf pool inputs.weighted.rows (rowLossAt kind inputs))) := by
  simp only [squaredLoss, inputs.needs_and_isNone_fourth kind.needsFourth present]
  exact rowTotal_eq_ok pool _ _ _ out (rowLoss_eq_ok inputs fit kind present)

end Loss

section Entropy

theorem rowEntropy_eq_ok (row : Nat) (row_lt : row < inputs.weighted.rows) :
    rowEntropy inputs row = .ok (rowEntropyAt inputs row) := by
  have left := readRow_left inputs fit row row_lt
  have weights := readRow_weighted inputs fit row row_lt
  -- A weight is paired with its column, so the weights that are left determine the columns.
  have paired : ((List.range inputs.weighted.cols).map (inputs.weighted.value row)).zipIdx =
      (List.range inputs.weighted.cols).map fun col => (inputs.weighted.value row col, col) := by
    apply List.ext_getElem <;> simp
  have terms := mapM_eq_ok_map
    (fun col => (do
      return inputs.weighted.value row col * Cell.log (← productWith inputs
        ((List.range inputs.left.cols).map (inputs.left.value row)) col) : Computed α))
    (fun col => inputs.weighted.value row col * Cell.log (dotAt inputs row col))
    ((List.range inputs.weighted.cols).filter fun col =>
      !Cell.isZero (inputs.weighted.value row col))
    (by
      intro col col_mem
      have col_lt := List.mem_range.mp (List.mem_filter.mp col_mem).1
      rw [productWith_eq_ok_dotAt inputs fit row col col_lt, ok_bind]
      rfl)
  rw [rowEntropy, left, ok_bind, weights, ok_bind]
  simp only [paired, List.filter_map, List.mapM_map, Function.comp_def]
  rw [terms, ok_bind]
  simp only [Cell.sum, List.foldl_map, rowEntropyAt]
  rfl

/-- The cross entropy is the sum over the rows of the sums over their cells. -/
theorem crossEntropy_eq_ok (pool : Option Pool) (out : Block α) :
    crossEntropy pool inputs out =
      .ok (.ofCell (totalOf pool inputs.weighted.rows (rowEntropyAt inputs))) :=
  rowTotal_eq_ok pool _ _ _ out (rowEntropy_eq_ok inputs fit)

end Entropy

end Dense

end LowRank
