import LowRank.Proofs.Kernel.Outcome

/-!
# What a result does not depend on

The kernel is handed a block whose storage may hold the result. Before anything is written, that
block is reset to zeros of the result's shape, so neither its shape nor its cells get into a result.
A fourth matrix that the operator does not consume has its shape checked and is not read. Two calls
are compared that run in the same pool, so that both take a sum over the rows in the same way.
-/

namespace LowRank

variable {α : Type} [Cell α]

theorem Block.reset_congr (first second : Block α) (rows cols : Nat) :
    first.reset rows cols = second.reset rows cols := by
  simp [reset]

/-- The inputs with another fourth matrix, or with none. -/
def Inputs.withFourth {β : Type} (inputs : Inputs β) (fourth : Option β) : Inputs β :=
  { inputs with fourth }

namespace Dense

section Storage

variable (inputs : Inputs (Block α)) (out other : Block α)

omit inputs in
theorem rowTotal_congr (pool : Option Pool) (rows : Nat) (value : Nat → Computed α) :
    rowTotal pool rows value out = rowTotal pool rows value other := by
  simp only [rowTotal, single, Block.reset_congr out other]

theorem fillWeighted_congr (combine : α → α → α) :
    fillWeighted inputs out combine = fillWeighted inputs other combine := by
  rw [fillWeighted, fillWeighted, Block.reset_congr out other]

theorem weightedProduct_congr (kind : ProductKind) :
    weightedProduct kind inputs out = weightedProduct kind inputs other := by
  simp only [weightedProduct, Block.reset_congr out other]

theorem operate_congr_out (pool : Option Pool) (operator : Operator) :
    operate pool operator inputs out = operate pool operator inputs other := by
  cases operator with
  | squaredLoss kind => simp only [operate, squaredLoss, rowTotal_congr out other]
  | crossEntropy => exact rowTotal_congr out other pool _ _
  | weightedProduct kind => exact weightedProduct_congr inputs out other kind
  | sigmoid kind => exact fillWeighted_congr inputs out other _
  | unary kind code =>
      simp only [operate]
      cases UnaryFunction.ofCode? code with
      | none => rfl
      | some function => exact fillWeighted_congr inputs out other _

/-- Two calls that differ in the storage for the result have the same result. -/
theorem kernel_congr_out (workers : Workers) (operator : Operator) (threads : Int32) :
    kernel workers ⟨operator, inputs, out, threads⟩ =
      kernel workers ⟨operator, inputs, other, threads⟩ := by
  simp only [kernel, operate_congr_out inputs out other]

end Storage

section Fourth

variable (inputs : Inputs (Block α)) (fourth : Block α)

omit [Cell α] in
theorem checkShapes_withFourth (rows_eq : fourth.rows = inputs.weighted.rows)
    (cols_eq : fourth.cols = inputs.weighted.cols) :
    checkShapes (inputs.withFourth fourth) = checkShapes (inputs.withFourth none) := by
  simp only [checkShapes, Inputs.withFourth, rows_eq, cols_eq, and_self, if_true]
  rfl

theorem lossTerm_withFourth (kind : LossKind) (ignored : kind.needsFourth = false) :
    lossTerm kind (inputs.withFourth fourth) = lossTerm kind (inputs.withFourth none) := by
  cases kind with
  | post => cases ignored
  | pre => cases ignored
  | postNonzero => rfl
  | unweighted => rfl

theorem weightedCell_withFourth (combination : Combination)
    (ignored : combination ≠ .multiplyMinus) :
    weightedCell combination (inputs.withFourth fourth) =
      weightedCell combination (inputs.withFourth none) := by
  cases combination with
  | multiply => rfl
  | divide => rfl
  | multiplyMinus => exact absurd rfl ignored

theorem squaredLoss_withFourth (pool : Option Pool) (kind : LossKind)
    (ignored : kind.needsFourth = false) (out : Block α) :
    squaredLoss pool kind (inputs.withFourth fourth) out =
      squaredLoss pool kind (inputs.withFourth none) out := by
  have rowLosses : rowLoss kind (inputs.withFourth fourth) =
      rowLoss kind (inputs.withFourth none) := by
    funext row
    simp only [rowLoss, lossTerm_withFourth inputs fourth kind ignored]
    rfl
  simp only [squaredLoss, ignored, Bool.false_and, rowLosses]
  rfl

theorem weightedProduct_withFourth (kind : ProductKind) (ignored : kind.needsFourth = false)
    (out : Block α) :
    weightedProduct kind (inputs.withFourth fourth) out =
      weightedProduct kind (inputs.withFourth none) out := by
  simp only [weightedProduct, ignored, Bool.false_and]
  cases kind with
  | basic => rfl
  | sided combination side =>
      have noMinus : combination ≠ .multiplyMinus := by
        rintro rfl
        cases ignored
      cases side with
      | left => simp only [weightedCell_withFourth inputs fourth combination noMinus]; rfl
      | right => simp only [weightedCell_withFourth inputs fourth combination noMinus]; rfl

theorem operate_withFourth (pool : Option Pool) (operator : Operator) (out : Block α)
    (ignored : operator.needsFourth = false) :
    operate pool operator (inputs.withFourth fourth) out =
      operate pool operator (inputs.withFourth none) out := by
  cases operator with
  | squaredLoss kind => exact squaredLoss_withFourth inputs fourth pool kind ignored out
  | weightedProduct kind => exact weightedProduct_withFourth inputs fourth kind ignored out
  | sigmoid kind => rfl
  | crossEntropy => rfl
  | unary kind code => rfl

/-- A fourth matrix that is not consumed makes no difference if it has the expected shape. -/
theorem kernel_withFourth (workers : Workers) (operator : Operator) (out : Block α)
    (threads : Int32) (ignored : operator.needsFourth = false)
    (rows_eq : fourth.rows = inputs.weighted.rows)
    (cols_eq : fourth.cols = inputs.weighted.cols) :
    kernel workers ⟨operator, inputs.withFourth fourth, out, threads⟩ =
      kernel workers ⟨operator, inputs.withFourth none, out, threads⟩ := by
  simp only [kernel, checkShapes_withFourth inputs fourth rows_eq cols_eq,
    operate_withFourth inputs fourth _ operator out ignored]
  rfl

end Fourth

/--
What the kernel answers is the same for any two storages, and for an operator that does not consume
a fourth input it is the same with and without a fourth matrix of the expected shape. For inputs
that fit, threads that can be started, a fourth input where it is consumed and a function that is
known, the answer is a block.
-/
theorem kernel_unaffected (workers : Workers) (operator : Operator) (inputs : Inputs (Block α))
    (threads : Int32) :
    (∀ out other : Block α,
      kernel workers ⟨operator, inputs, out, threads⟩ =
        kernel workers ⟨operator, inputs, other, threads⟩) ∧
      (operator.needsFourth = false → ∀ fourth : Block α,
        fourth.rows = inputs.weighted.rows → fourth.cols = inputs.weighted.cols →
          ∀ out other : Block α,
            kernel workers ⟨operator, inputs.withFourth fourth, out, threads⟩ =
              kernel workers ⟨operator, inputs.withFourth none, other, threads⟩) ∧
      (Fit inputs → ∀ pool, workers.pool? threads inputs.weighted.cellCount = .ok pool →
        operator.HasFourth inputs → operator.KnowsFunction →
          ∃ block, ResultFor operator inputs block ∧
            ∀ out : Block α, kernel workers ⟨operator, inputs, out, threads⟩ = .ok block) := by
  refine ⟨?_, ?_, ?_⟩
  · intro out other
    exact kernel_congr_out inputs out other workers operator threads
  · intro ignored fourth rows_eq cols_eq out other
    rw [kernel_congr_out (inputs.withFourth none) other out]
    exact kernel_withFourth inputs fourth workers operator out threads ignored rows_eq cols_eq
  · intro fit pool granted present known
    rcases kernel_of_fit workers ⟨operator, inputs, .empty, threads⟩ fit pool granted present known
      with ⟨block, computed, result⟩
    refine ⟨block, result, ?_⟩
    intro out
    rw [kernel_congr_out inputs out .empty workers operator threads]
    exact computed

theorem kernel_unaffected_not_a_number :
    ∃ (workers : Workers) (inputs : Inputs (Block Float)) (stale fourth block : Block Float),
      inputs.fourth = none ∧ stale = ⟨3, 1, #[0.0 / 0.0, 7.0, -0.0]⟩ ∧
        fourth = ⟨2, 2, #[0.0 / 0.0, 1.0 / 0.0, 0.0, 5.0]⟩ ∧
        (block.rows, block.cols) = (2, 1) ∧
        kernel workers ⟨.weightedProduct (.sided .divide .left), inputs, stale, 4⟩ =
          .ok block ∧
        kernel workers ⟨.weightedProduct (.sided .divide .left), inputs, .empty, 4⟩ =
          .ok block ∧
        kernel workers
          ⟨.weightedProduct (.sided .divide .left), inputs.withFourth fourth, stale, 4⟩ =
          .ok block := by
  let workers : Workers := ⟨.standard 8, fun _ => .error "no threads"⟩
  let inputs : Inputs (Block Float) :=
    { weighted := ⟨2, 2, #[1.0, 0.0, 3.0, -0.0]⟩
      left := ⟨2, 1, #[2.0, 4.0]⟩
      right := ⟨2, 1, #[3.0, 5.0]⟩
      fourth := none }
  have fit : Fit inputs := by decide
  rcases kernel_unaffected workers (.weightedProduct (.sided .divide .left)) inputs 4 with
    ⟨sameStorage, sameFourth, succeeds⟩
  rcases succeeds fit none rfl nofun nofun with ⟨block, result, computed⟩
  refine ⟨workers, inputs, _, _, block, rfl, rfl, rfl, result.shape, computed _, ?_, ?_⟩
  · rw [sameStorage .empty ⟨3, 1, #[0.0 / 0.0, 7.0, -0.0]⟩]
    exact computed _
  · rw [sameFourth rfl ⟨2, 2, #[0.0 / 0.0, 1.0 / 0.0, 0.0, 5.0]⟩ rfl rfl _ .empty]
    exact computed .empty

end Dense

end LowRank
