import Mathlib.Data.List.Basic
import LowRank.Proofs.Kernel.Outcome

/-!
# Squared losses

A squared loss is a total over the rows of the weighted matrix. Each row has a loss of its own, to
which the cells that count are added from left to right. Without a pool the losses of the rows are
added up from the first to the last; a pool adds them along its division of the rows, and then the
loss may be another number. The kinds differ in the cells that count and in where a weight enters.
-/

namespace LowRank

namespace Dense

variable {α : Type} [Cell α]

/-- Whether a cell counts for a squared loss. -/
def countsAt (kind : LossKind) (inputs : Inputs (Block α)) (row col : Nat) : Bool :=
  match kind with
  | .post => !Cell.isZero (fourthAt inputs row col)
  | .postNonzero => !Cell.isZero (inputs.weighted.value row col)
  | .pre | .unweighted => true

/-- The squared difference of a cell with its weight. -/
def lossAt (kind : LossKind) (inputs : Inputs (Block α)) (row col : Nat) : α :=
  let target := inputs.weighted.value row col
  let weight := fourthAt inputs row col
  let product := dotAt inputs row col
  match kind with
  | .post => weight * (target - product) * (target - product)
  | .pre => (target - weight * product) * (target - weight * product)
  | .postNonzero | .unweighted => (target - product) * (target - product)

/-- The loss of a row: the cells that count, added to zero from left to right. -/
def rowLossOf (kind : LossKind) (inputs : Inputs (Block α)) (row : Nat) : α :=
  ((List.range inputs.weighted.cols).filter (countsAt kind inputs row)).foldl
    (fun loss col => loss + lossAt kind inputs row col) Cell.zero

/--
The losses of the rows, added up from the first to the last if there is no pool, and otherwise along
the division of the pool.
-/
def lossOf (pool : Option Pool) (kind : LossKind) (inputs : Inputs (Block α)) : α :=
  match pool with
  | none =>
      (List.range inputs.weighted.rows).foldl
        (fun total row => total + rowLossOf kind inputs row) Cell.negZero
  | some pool =>
      totalAlong (rowLossOf kind inputs) (pool.division inputs.weighted.rows)
        inputs.weighted.rows 0

section Terms

variable (kind : LossKind) (inputs : Inputs (Block α))

theorem lossTermAt_eq_ite (row col : Nat) :
    lossTermAt kind inputs row col =
      if countsAt kind inputs row col then some (lossAt kind inputs row col) else none := by
  cases kind with
  | post =>
      cases zero : Cell.isZero (fourthAt inputs row col) <;>
        simp [lossTermAt, countsAt, lossAt, zero]
  | postNonzero =>
      cases zero : Cell.isZero (inputs.weighted.value row col) <;>
        simp [lossTermAt, countsAt, lossAt, zero]
  | pre => rfl
  | unweighted => rfl

/-- Leaving a cell out of the loop over a row is leaving it out of the columns. -/
theorem rowLossAt_eq_rowLossOf (row : Nat) :
    rowLossAt kind inputs row = rowLossOf kind inputs row := by
  rw [rowLossAt, rowLossOf, List.foldl_filter]
  apply List.foldl_ext
  intro loss col _
  rw [lossTermAt_eq_ite]
  cases countsAt kind inputs row col <;> rfl

theorem lossOf_without_rows (rows_eq : inputs.weighted.rows = 0) :
    lossOf none kind inputs = Cell.negZero := by
  simp only [lossOf, rows_eq]
  rfl

theorem lossOf_without_cols (cols_eq : inputs.weighted.cols = 0) :
    lossOf none kind inputs =
      (List.replicate inputs.weighted.rows Cell.zero).foldl (· + ·) Cell.negZero := by
  have rowLoss : rowLossOf kind inputs = fun _ => Cell.zero := by
    funext row
    rw [rowLossOf, cols_eq]
    rfl
  have zeros : List.replicate inputs.weighted.rows (Cell.zero : α) =
      (List.range inputs.weighted.rows).map fun _ => Cell.zero := by
    simp [List.map_const']
  simp only [lossOf, rowLoss, zeros, List.foldl_map]

theorem totalOf_rowLossAt (pool : Option Pool) :
    totalOf pool inputs.weighted.rows (rowLossAt kind inputs) = lossOf pool kind inputs := by
  rw [funext (rowLossAt_eq_rowLossOf kind inputs)]
  cases pool <;> rfl

end Terms

/--
The kernel's squared loss is the sum of the losses of the rows, whatever storage it is given: added
up in order if the computation runs without a pool, and otherwise along the division of the pool.
A fourth input has no influence on the kinds that do not consume it. In order and without rows the
loss is the number where sums start, and without columns each row adds a plain zero to it.
-/
theorem kernel_squaredLoss (workers : Workers) (kind : LossKind) (inputs : Inputs (Block α))
    (out : Block α) (threads : Int32) (fit : Fit inputs)
    (present : kind.needsFourth = true → inputs.fourth.isSome = true) (pool : Option Pool)
    (granted : workers.pool? threads inputs.weighted.cellCount = .ok pool) :
    kernel workers ⟨.squaredLoss kind, inputs, out, threads⟩ =
        .ok ⟨1, 1, #[lossOf pool kind inputs]⟩ ∧
      (kind.needsFourth = false →
        kernel workers ⟨.squaredLoss kind, inputs.keepFourth false, out, threads⟩ =
          .ok ⟨1, 1, #[lossOf pool kind inputs]⟩) ∧
      (inputs.weighted.rows = 0 → lossOf none kind inputs = Cell.negZero) ∧
      (inputs.weighted.cols = 0 → lossOf none kind inputs =
        (List.replicate inputs.weighted.rows Cell.zero).foldl (· + ·) Cell.negZero) := by
  have result : resultOf pool (.squaredLoss kind) inputs =
      .ok ⟨1, 1, #[lossOf pool kind inputs]⟩ := by
    simp only [resultOf, totalOf_rowLossAt]
    rfl
  refine ⟨?_, ?_, lossOf_without_rows kind inputs, lossOf_without_cols kind inputs⟩
  · rw [kernel_eq_resultOf workers ⟨.squaredLoss kind, inputs, out, threads⟩ fit pool granted
      present, result]
  · intro ignored
    have noneNeeded := (Operator.squaredLoss kind).hasFourth_of_needs_eq_false
      (inputs.keepFourth false) ignored
    have same := resultOf_keepFourth pool (.squaredLoss kind) inputs
    simp only [Operator.needsFourth, ignored] at same
    rw [kernel_eq_resultOf workers ⟨.squaredLoss kind, inputs.keepFourth false, out, threads⟩
      (fit.keepFourth false) pool granted noneNeeded, same, result]

theorem kernel_squaredLoss_skipped_weight :
    ∃ inputs : Inputs (Block Float),
      inputs.fourth = some ⟨2, 2, #[1.0, 2.0, -0.0, 1.0]⟩ ∧
        kernel ⟨.standard 8, fun _ => .error "no threads"⟩
          ⟨.squaredLoss .post, inputs, ⟨1, 2, #[7.0, 8.0]⟩, 4⟩ = .ok ⟨1, 1, #[34.0]⟩ := by
  let inputs : Inputs (Block Float) :=
    { weighted := ⟨2, 2, #[1.0, 0.0, 2.0, 5.0]⟩
      left := ⟨2, 1, #[1.0, 1.5]⟩
      right := ⟨2, 1, #[2.0, 4.0]⟩
      fourth := some ⟨2, 2, #[1.0, 2.0, -0.0, 1.0]⟩ }
  have fit : Fit inputs := by decide
  have loss : lossOf none .post inputs = 34.0 := by decide +kernel
  refine ⟨inputs, rfl, ?_⟩
  rw [← loss]
  exact (kernel_squaredLoss _ .post inputs _ 4 fit (fun _ => rfl) none rfl).1

/-- Two threads add four rows in pairs, and then a loss need not be the sum in order. -/
theorem kernel_squaredLoss_in_pairs :
    ∃ (workers : Workers) (inputs : Inputs (Block Float)),
      Fit inputs ∧ inputs.fourth = none ∧
        kernel workers ⟨.squaredLoss .unweighted, inputs, .empty, 2⟩ =
          .ok ⟨1, 1, #[9007199254740994.0]⟩ ∧
        lossOf none .unweighted inputs = 9007199254740992.0 := by
  let pairs : Division := .halves (.halves .whole .whole) (.halves .whole .whole)
  let workers : Workers :=
    { settings := { Settings.standard 2 with parallelThreshold := 0 }
      pool := fun _ => .ok ⟨fun _ => pairs⟩ }
  let inputs : Inputs (Block Float) :=
    { weighted := ⟨4, 2, #[67108864.0, 67108864.0, 0.0, 0.0, 1.0, 0.0, 1.0, 0.0]⟩
      left := ⟨4, 1, #[0.0, 0.0, 0.0, 0.0]⟩
      right := ⟨2, 1, #[0.0, 0.0]⟩
      fourth := none }
  have fit : Fit inputs := by decide
  refine ⟨workers, inputs, fit, rfl, ?_, ?_⟩
  · decide +kernel
  · decide +kernel

end Dense

end LowRank
