import LowRank.Proofs.Kernel.Skipping

/-!
# Transposed inputs

An operator can be given the transposed weighted matrix with its factors exchanged. The product of
the factors is then transposed as well, if the multiplication of cells commutes, and so is every
cellwise result. The weighted products on the left are those on the right of transposed inputs, cell
for cell: both loops add the same terms in the same order and leave out the same ones.
-/

namespace LowRank

variable {α : Type} [Cell α]

namespace Block

/-- The transpose of a block. -/
def transposed (block : Block α) : Block α :=
  tabulate block.cols block.rows fun row col => block.value col row

section Transposed

variable (block : Block α)

@[simp]
theorem rows_transposed : block.transposed.rows = block.cols := rfl

@[simp]
theorem cols_transposed : block.transposed.cols = block.rows := rfl

variable (countable : block.rows * block.cols < Word.size)
include countable

theorem wellFormed_transposed : block.transposed.WellFormed :=
  wellFormed_tabulate block.cols block.rows _ (Nat.mul_comm _ _ ▸ countable)

/-- Outside a block and outside its transpose there are zeros alike. -/
theorem value_transposed (row col : Nat) :
    block.transposed.value row col = block.value col row := by
  by_cases inside : row < block.cols ∧ col < block.rows
  · apply value_tabulate block.cols block.rows _ _ row col inside.1 inside.2
    rwa [Nat.mul_comm]
  · have outside : ¬(col < block.rows ∧ row < block.cols) := by omega
    simp only [value, rows_transposed, cols_transposed, inside, outside, if_false]

end Transposed

theorem transposed_tabulate (rows cols : Nat) (cell : Nat → Nat → α)
    (countable : rows * cols < Word.size) :
    (tabulate rows cols cell).transposed = tabulate cols rows fun row col => cell col row := by
  apply tabulate_congr
  intro row row_lt col col_lt
  exact value_tabulate rows cols cell countable col row col_lt row_lt

end Block

/-- The weighted matrix and the fourth input transposed, the factors exchanged. -/
def Inputs.transposed (inputs : Inputs (Block α)) : Inputs (Block α) :=
  { weighted := inputs.weighted.transposed
    left := inputs.right
    right := inputs.left
    fourth := inputs.fourth.map Block.transposed }

namespace Dense

theorem Fit.transposed {inputs : Inputs (Block α)} (fit : Fit inputs) : Fit inputs.transposed := by
  have ofFourth (block : Block α) (present : inputs.transposed.fourth = some block) :
      ∃ original, inputs.fourth = some original ∧ original.transposed = block :=
    Option.map_eq_some_iff.mp present
  refine ⟨inputs.weighted.wellFormed_transposed fit.weighted.countable, fit.right, fit.left, ?_,
    fit.right_rows, fit.left_rows, fit.ranks.symm, ?_, ?_⟩
  all_goals
    intro block present
    rcases ofFourth block present with ⟨original, found, rfl⟩
  · exact original.wellFormed_transposed (fit.fourth original found).countable
  · exact fit.fourth_cols original found
  · exact fit.fourth_rows original found

/-- Multiplying the transpose of a matrix is multiplying the matrix along its columns. -/
theorem transposedTimes_eq_times (matrix factor : Block α)
    (countable : matrix.rows * matrix.cols < Word.size) :
    transposedTimes matrix factor = times matrix.transposed factor := by
  simp only [transposedTimes, times, Block.rows_transposed, Block.cols_transposed,
    matrix.value_transposed countable]

section Commutative

variable (comm : ∀ first second : α, first * second = second * first)
  (inputs : Inputs (Block α)) (fit : Fit inputs)
include comm fit

theorem dotAt_transposed (row col : Nat) :
    dotAt inputs.transposed col row = dotAt inputs row col := by
  simp only [dotAt, Inputs.transposed, fit.ranks]
  apply List.foldl_ext
  intro total rank _
  rw [comm]

omit comm in
theorem value_weighted_transposed (row col : Nat) :
    inputs.transposed.weighted.value col row = inputs.weighted.value row col :=
  inputs.weighted.value_transposed fit.weighted.countable col row

omit comm in
theorem fourthAt_transposed (row col : Nat) :
    fourthAt inputs.transposed col row = fourthAt inputs row col := by
  simp only [fourthAt, Inputs.transposed]
  cases found : inputs.fourth with
  | none => rfl
  | some fourth => exact fourth.value_transposed (fit.fourth fourth found).countable col row

theorem weightedAt_transposed (combination : Combination) (row col : Nat) :
    weightedAt combination inputs.transposed col row = weightedAt combination inputs row col := by
  simp only [weightedAt, value_weighted_transposed inputs fit, dotAt_transposed comm inputs fit,
    fourthAt_transposed inputs fit]

theorem materialised_transposed (combination : Combination) :
    materialised combination inputs.transposed = (materialised combination inputs).transposed := by
  rw [materialised, materialised, Block.transposed_tabulate _ _ _ fit.weighted.countable]
  apply Block.tabulate_congr
  intro col _ row _
  exact weightedAt_transposed comm inputs fit combination row col

theorem combined_transposed (combine : α → α → α) :
    combined inputs.transposed combine = (combined inputs combine).transposed := by
  rw [combined, combined, Block.transposed_tabulate _ _ _ fit.weighted.countable]
  apply Block.tabulate_congr
  intro col _ row _
  simp only [value_weighted_transposed inputs fit, dotAt_transposed comm inputs fit]

/-- The product on the left of the inputs is the one on the right of the transposed inputs. -/
theorem productOf_right_transposed (combination : Combination) :
    productOf (.sided combination .right) inputs.transposed =
      productOf (.sided combination .left) inputs := by
  calc
    productOf (.sided combination .right) inputs.transposed
      = times (materialised combination inputs.transposed) inputs.left := rfl
    _ = times (materialised combination inputs).transposed inputs.left := by
      rw [materialised_transposed comm inputs fit]
    _ = transposedTimes (materialised combination inputs) inputs.left := by
      rw [transposedTimes_eq_times (materialised combination inputs) _ fit.weighted.countable]

theorem resultOf_transposed (pool : Option Pool) (operator : Operator)
    (cellwise : operator.Cellwise) :
    resultOf pool operator inputs.transposed =
      (resultOf pool operator inputs).map Block.transposed := by
  have combines := combined_transposed comm inputs fit
  cases cellwise with
  | sigmoid kind => exact congrArg Except.ok (combines _)
  | basic => exact congrArg Except.ok (materialised_transposed comm inputs fit .multiply)
  | unary kind code =>
      simp only [resultOf]
      cases UnaryFunction.ofCode? code with
      | none => rfl
      | some function => exact congrArg Except.ok (combines _)

end Commutative

section Double

open Float.Model (UnpackedFloat)

theorem sign_mul_comm (first second : UnpackedFloat.Sign) : first * second = second * first := by
  cases first <;> cases second <;> rfl

theorem unpacked_mul_comm (format : Float.Model.Format) (first second : UnpackedFloat) :
    first.mul format second = second.mul format first := by
  cases first with
  | notANumber => cases second <;> rfl
  | infinity sign =>
      cases second with
      | notANumber => rfl
      | zero other => rfl
      | infinity other => exact congrArg UnpackedFloat.infinity (sign_mul_comm sign other)
      | finite other _ _ _ => exact congrArg UnpackedFloat.infinity (sign_mul_comm sign other)
  | zero sign =>
      cases second with
      | notANumber => rfl
      | infinity other => rfl
      | zero other => exact congrArg UnpackedFloat.zero (sign_mul_comm sign other)
      | finite other _ _ _ => exact congrArg UnpackedFloat.zero (sign_mul_comm sign other)
  | finite sign mantissa exponent _ =>
      cases second with
      | notANumber => rfl
      | infinity other => exact congrArg UnpackedFloat.infinity (sign_mul_comm sign other)
      | zero other => exact congrArg UnpackedFloat.zero (sign_mul_comm sign other)
      | finite other otherMantissa otherExponent _ =>
          change UnpackedFloat.roundWithAccuracy format (sign * other) (mantissa * otherMantissa)
            (exponent + otherExponent) .exact = _
          rw [sign_mul_comm, Nat.mul_comm, Int.add_comm]
          rfl

/-- The multiplication of doubles commutes. -/
theorem double_mul_comm (first second : Float) : first * second = second * first := by
  have models : first.toModel.mul second.toModel = second.toModel.mul first.toModel := by
    simp only [Float.Model.mul, unpacked_mul_comm _ first.toModel.unpack]
  exact congrArg Float.ofModel models

end Double

/--
For cells whose multiplication commutes, the weighted products on the left return what those on the
right return for the transposed inputs, and a cellwise operator returns the transposed block.
-/
theorem kernel_transposed (comm : ∀ first second : α, first * second = second * first)
    (inputs : Inputs (Block α)) (fit : Fit inputs) (out otherOut : Block α) (workers : Workers)
    (threads otherThreads : Int32) (pool otherPool : Option Pool)
    (granted : workers.pool? threads inputs.weighted.cellCount = .ok pool)
    (otherGranted : workers.pool? otherThreads inputs.weighted.cellCount = .ok otherPool) :
    (∀ combination, (Operator.weightedProduct (.sided combination .left)).HasFourth inputs →
      ∃ block,
        kernel workers ⟨.weightedProduct (.sided combination .left), inputs, out, threads⟩ =
            .ok block ∧
          kernel workers ⟨.weightedProduct (.sided combination .right), inputs.transposed, otherOut,
            otherThreads⟩ = .ok block) ∧
      ∀ operator : Operator, operator.Cellwise → operator.KnowsFunction →
        ∃ block,
          kernel workers ⟨operator, inputs, out, threads⟩ = .ok block ∧
            kernel workers ⟨operator, inputs.transposed, otherOut, otherThreads⟩ =
              .ok block.transposed := by
  have count : inputs.transposed.weighted.cellCount = inputs.weighted.cellCount :=
    congrArg Word.wrap (Nat.mul_comm _ _)
  rw [← count] at otherGranted
  refine ⟨?_, ?_⟩
  · intro combination present
    have presentAfter :
        (Operator.weightedProduct (.sided combination .right)).HasFourth inputs.transposed := by
      have needs_eq : (ProductKind.sided combination .left).needsFourth =
          (ProductKind.sided combination .right).needsFourth := by
        cases combination <;> rfl
      intro needs
      simpa [Inputs.transposed] using present (needs_eq.trans needs)
    refine ⟨_, kernel_eq_resultOf workers ⟨_, inputs, out, threads⟩ fit pool granted present, ?_⟩
    rw [kernel_eq_resultOf workers ⟨_, inputs.transposed, otherOut, otherThreads⟩ fit.transposed
      otherPool otherGranted presentAfter]
    exact congrArg Except.ok (productOf_right_transposed comm inputs fit combination)
  · intro operator cellwise known
    have noFourth (given : Inputs (Block α)) : operator.HasFourth given := by
      intro needs
      cases cellwise <;> cases needs
    have matrix : operator.producesScalar = false := by
      cases cellwise <;> rfl
    have result := kernel_eq_resultOf workers ⟨operator, inputs, out, threads⟩ fit pool granted
      (noFourth inputs)
    rcases kernel_of_fit workers ⟨operator, inputs, out, threads⟩ fit pool granted
      (noFourth inputs) known with ⟨block, computed, _⟩
    refine ⟨block, computed, ?_⟩
    rw [result] at computed
    rw [kernel_eq_resultOf workers ⟨operator, inputs.transposed, otherOut, otherThreads⟩
        fit.transposed otherPool otherGranted (noFourth inputs.transposed),
      resultOf_of_matrix otherPool pool operator inputs.transposed matrix,
      resultOf_transposed comm inputs fit pool operator cellwise]
    exact congrArg (Except.map Block.transposed) computed

theorem kernel_transposed_two_by_three :
    ∃ (workers : Workers) (inputs : Inputs (Block Float)) (products quotients : Block Float),
      (inputs.weighted.rows, inputs.weighted.cols, inputs.left.cols) = (2, 3, 1) ∧
        inputs.transposed.weighted = ⟨3, 2, #[1.0, 0.0, 0.0, -2.0, 3.0, 0.5]⟩ ∧
        kernel workers ⟨.weightedProduct (.sided .multiplyMinus .left), inputs, .empty, 1⟩ =
          .ok products ∧
        kernel workers ⟨.weightedProduct (.sided .multiplyMinus .right), inputs.transposed,
          ⟨1, 1, #[7.0]⟩, 4⟩ = .ok products ∧
        kernel workers ⟨.unary .divide " Sqrt", inputs, .empty, 1⟩ = .ok quotients ∧
        kernel workers ⟨.unary .divide " Sqrt", inputs.transposed, ⟨1, 1, #[7.0]⟩, 4⟩ =
          .ok quotients.transposed := by
  let workers : Workers := ⟨.standard 8, fun _ => .error "no threads"⟩
  let inputs : Inputs (Block Float) :=
    { weighted := ⟨2, 3, #[1.0, 0.0, 3.0, 0.0, -2.0, 0.5]⟩
      left := ⟨2, 1, #[2.0, 4.0]⟩
      right := ⟨3, 1, #[3.0, 5.0, 6.0]⟩
      fourth := some ⟨2, 3, #[1.0, 2.0, 3.0, 4.0, 5.0, 6.0]⟩ }
  have fit : Fit inputs := by decide
  rcases kernel_transposed double_mul_comm inputs fit .empty ⟨1, 1, #[7.0]⟩ workers 1 4 none none
    rfl rfl with ⟨sided, cellwise⟩
  rcases sided .multiplyMinus (fun _ => rfl) with ⟨products, left, right⟩
  have known : (Operator.unary .divide " Sqrt").KnowsFunction := by
    rintro code ⟨⟩
    decide
  rcases cellwise (.unary .divide " Sqrt") (.unary .divide " Sqrt") known with
    ⟨quotients, original, transposed⟩
  exact ⟨workers, inputs, products, quotients, rfl, rfl, left, right, original, transposed⟩

end Dense

end LowRank
