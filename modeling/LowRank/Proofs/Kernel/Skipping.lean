import LowRank.Proofs.Kernel.Outcome

/-!
# Skipped cells

Where a weight is zero, the operators that skip cells read nothing else: neither the product of the
factors nor a further matrix. Inputs that agree wherever a weight is not zero have the same result,
so that no infinity and nothing that is not a number gets into it from anywhere else. The one law of
arithmetic in use is that the zero which stands for an absent entry counts as absent.

If all weights are zero then the factors need not agree in anything, not even in their numbers of
columns, and then the results of a weighted product with a factor may differ in their shapes.
-/

namespace LowRank

namespace Operator

/-- The weights of an operator that skips the cells whose weight is zero. -/
def weights? {β : Type} (operator : Operator) (inputs : Inputs β) : Option β :=
  match operator with
  | .squaredLoss .post => inputs.fourth
  | .squaredLoss .pre | .squaredLoss .unweighted => none
  | .squaredLoss .postNonzero | .weightedProduct _ | .sigmoid _ | .crossEntropy | .unary _ _ =>
      some inputs.weighted

/-- The matrix whose cells are read one by one beside the weights, if there is one. -/
def beside? {β : Type} (operator : Operator) (inputs : Inputs β) : Option β :=
  match operator with
  | .squaredLoss .post => some inputs.weighted
  | .weightedProduct (.sided .multiplyMinus _) => inputs.fourth
  | _ => none

/-- The result has a cell for each weight. -/
inductive Cellwise : Operator → Prop where
  | sigmoid (kind : SigmoidKind) : Cellwise (.sigmoid kind)
  | unary (kind : UnaryKind) (code : String) : Cellwise (.unary kind code)
  | basic : Cellwise (.weightedProduct .basic)

end Operator

namespace Block

variable {α : Type} [Cell α]

/-- A cell of a block that does not count as absent. -/
structure Present (block : Block α) (row col : Nat) : Prop where
  row_lt : row < block.rows
  col_lt : col < block.cols
  nonzero : Cell.isZero (block.value row col) = false

/-- Two blocks have the same cells in a row. -/
structure SameRow (first second : Block α) (row : Nat) : Prop where
  cols_eq : first.cols = second.cols
  values : ∀ col < first.cols, first.value row col = second.value row col

end Block

namespace Dense

variable {α : Type} [Cell α]

/--
Inputs that agree wherever a weight is not zero: in the cell beside it, in the row of the left
factor and in the row of the right one.
-/
structure AgreeOnWeights (operator : Operator) (weights : Block α)
    (first second : Inputs (Block α)) : Prop where
  first_weights : operator.weights? first = some weights
  second_weights : operator.weights? second = some weights
  beside : ∀ row col, weights.Present row col →
    (operator.beside? first).map (fun block => block.value row col) =
      (operator.beside? second).map fun block => block.value row col
  left : ∀ row col, weights.Present row col → first.left.SameRow second.left row
  right : ∀ row col, weights.Present row col → first.right.SameRow second.right col

/-- If there is no weight but zero, the results of the inputs have the same shape by themselves. -/
def SameShapeWithoutWeights (operator : Operator) (weights : Block α)
    (first second : Inputs (Block α)) : Prop :=
  (∀ row col, ¬weights.Present row col) →
    operator.resultShape weights.rows weights.cols first.left.cols =
      operator.resultShape weights.rows weights.cols second.left.cols

section Factors

variable (matrix first second : Block α) (cols_eq : first.cols = second.cols)
include cols_eq

theorem transposedTimes_congr
    (rows : ∀ row col, matrix.Present row col → first.SameRow second row) :
    transposedTimes matrix first = transposedTimes matrix second := by
  rw [transposedTimes, transposedTimes, ← cols_eq]
  apply Block.tabulate_congr
  intro col col_lt rank rank_lt
  apply sparseSum_congr _ _ _ _ _ _ fun _ _ => rfl
  intro row row_lt nonzero
  exact (rows row col ⟨row_lt, col_lt, nonzero⟩).values rank rank_lt

theorem times_congr (rows : ∀ row col, matrix.Present row col → first.SameRow second col) :
    times matrix first = times matrix second := by
  rw [times, times, ← cols_eq]
  apply Block.tabulate_congr
  intro row row_lt rank rank_lt
  apply sparseSum_congr _ _ _ _ _ _ fun _ _ => rfl
  intro col col_lt nonzero
  exact (rows row col ⟨row_lt, col_lt, nonzero⟩).values rank rank_lt

end Factors

theorem present_of_materialised (zero : Cell.isZero (Cell.zero : α) = true)
    (combination : Combination) (inputs : Inputs (Block α)) (fit : Fit inputs) (row col : Nat)
    (present : (materialised combination inputs).Present row col) :
    inputs.weighted.Present row col := by
  rcases present with ⟨row_lt, col_lt, nonzero⟩
  refine ⟨row_lt, col_lt, ?_⟩
  rw [value_materialised combination inputs row col fit row_lt col_lt] at nonzero
  simp only [weightedAt] at nonzero
  cases absent : Cell.isZero (inputs.weighted.value row col) with
  | false => rfl
  | true =>
      simp only [absent, if_true, zero] at nonzero
      cases nonzero

section Agreeing

variable (first second : Inputs (Block α))

theorem dotAt_congr (fit : Fit first) (row col : Nat)
    (left : first.left.SameRow second.left row) (right : first.right.SameRow second.right col) :
    dotAt first row col = dotAt second row col := by
  rw [dotAt, dotAt, ← left.cols_eq]
  apply List.foldl_ext
  intro total rank rank_mem
  have rank_lt := List.mem_range.mp rank_mem
  rw [left.values rank rank_lt, right.values rank (fit.ranks ▸ rank_lt)]

section Weighted

variable (weighted : first.weighted = second.weighted)
  (dots : ∀ row col, first.weighted.Present row col → dotAt first row col = dotAt second row col)
include weighted dots

theorem combined_congr (combine : α → α → α) :
    combined first combine = combined second combine := by
  rw [combined, combined, ← weighted]
  apply Block.tabulate_congr
  intro row row_lt col col_lt
  cases zero : Cell.isZero (first.weighted.value row col) with
  | true => simp only [if_true, zero]
  | false => rw [dots row col ⟨row_lt, col_lt, zero⟩]

theorem rowEntropyAt_congr (row : Nat) (row_lt : row < first.weighted.rows) :
    rowEntropyAt first row = rowEntropyAt second row := by
  simp only [rowEntropyAt, ← weighted]
  apply List.foldl_ext
  intro total col col_mem
  rw [List.mem_filter, List.mem_range, Bool.not_eq_true'] at col_mem
  rw [dots row col ⟨row_lt, col_mem.1, col_mem.2⟩]

theorem materialised_congr (combination : Combination)
    (fourths : combination = .multiplyMinus → ∀ row col, first.weighted.Present row col →
      fourthAt first row col = fourthAt second row col) :
    materialised combination first = materialised combination second := by
  rw [materialised, materialised, ← weighted]
  apply Block.tabulate_congr
  intro row row_lt col col_lt
  simp only [weightedAt, ← weighted]
  cases zero : Cell.isZero (first.weighted.value row col) with
  | true => simp only [if_true]
  | false =>
      have dot := dots row col ⟨row_lt, col_lt, zero⟩
      cases combination with
      | multiply => rw [dot]
      | divide => rw [dot]
      | multiplyMinus => rw [dot, fourths rfl row col ⟨row_lt, col_lt, zero⟩]

end Weighted

end Agreeing

namespace AgreeOnWeights

section Shared

variable {operator : Operator} {weights : Block α} {first second : Inputs (Block α)}
  (agree : AgreeOnWeights operator weights first second)
include agree

theorem dots (firstFit : Fit first) (row col : Nat) (present : weights.Present row col) :
    dotAt first row col = dotAt second row col := by
  apply dotAt_congr first second firstFit row col
  · exact agree.left row col present
  · exact agree.right row col present

theorem resultShape_eq (shape : SameShapeWithoutWeights operator weights first second) :
    operator.resultShape weights.rows weights.cols first.left.cols =
      operator.resultShape weights.rows weights.cols second.left.cols := by
  by_cases absent : ∀ row col, ¬weights.Present row col
  · exact shape absent
  · simp only [Classical.not_forall, Classical.not_not] at absent
    rcases absent with ⟨row, col, present⟩
    rw [(agree.left row col present).cols_eq]

theorem weighted_eq
    (own : ∀ inputs : Inputs (Block α), operator.weights? inputs = some inputs.weighted) :
    first.weighted = weights ∧ first.weighted = second.weighted := by
  have first_weights := agree.first_weights
  have second_weights := agree.second_weights
  rw [own, Option.some.injEq] at first_weights second_weights
  exact ⟨first_weights, first_weights.trans second_weights.symm⟩

end Shared

section Loss

variable {kind : LossKind} {weights : Block α} {first second : Inputs (Block α)}
  (agree : AgreeOnWeights (.squaredLoss kind) weights first second) (firstFit : Fit first)
  (secondFit : Fit second)
include agree firstFit

theorem lossTermAt_eq (row col : Nat) (row_lt : row < weights.rows) (col_lt : col < weights.cols) :
    lossTermAt kind first row col = lossTermAt kind second row col := by
  have dots := agree.dots firstFit
  cases kind with
  | post =>
      have first_weights : first.fourth = some weights := agree.first_weights
      have second_weights : second.fourth = some weights := agree.second_weights
      simp only [lossTermAt, fourthAt, first_weights, second_weights, Option.map_some,
        Option.getD_some]
      cases zero : Cell.isZero (weights.value row col) with
      | true => rfl
      | false =>
          have target : first.weighted.value row col = second.weighted.value row col :=
            Option.some.inj (agree.beside row col ⟨row_lt, col_lt, zero⟩)
          rw [target, dots row col ⟨row_lt, col_lt, zero⟩]
  | postNonzero =>
      rcases agree.weighted_eq fun _ => rfl with ⟨rfl, weighted⟩
      simp only [lossTermAt, ← weighted]
      cases zero : Cell.isZero (first.weighted.value row col) with
      | true => rfl
      | false => rw [dots row col ⟨row_lt, col_lt, zero⟩]
  | pre => cases agree.first_weights
  | unweighted => cases agree.first_weights

include secondFit

theorem shapes_eq :
    (first.weighted.rows = weights.rows ∧ first.weighted.cols = weights.cols) ∧
      second.weighted.rows = weights.rows ∧ second.weighted.cols = weights.cols := by
  cases kind with
  | post =>
      refine ⟨⟨?_, ?_⟩, ?_, ?_⟩
      · exact (firstFit.fourth_rows weights agree.first_weights).symm
      · exact (firstFit.fourth_cols weights agree.first_weights).symm
      · exact (secondFit.fourth_rows weights agree.second_weights).symm
      · exact (secondFit.fourth_cols weights agree.second_weights).symm
  | postNonzero =>
      rcases agree.weighted_eq fun _ => rfl with ⟨rfl, weighted⟩
      rw [← weighted]
      exact ⟨⟨rfl, rfl⟩, rfl, rfl⟩
  | pre => cases agree.first_weights
  | unweighted => cases agree.first_weights

theorem resultOf_squaredLoss_eq (pool : Option Pool) :
    resultOf pool (.squaredLoss kind) first = resultOf pool (.squaredLoss kind) second := by
  rcases agree.shapes_eq firstFit secondFit with
    ⟨⟨first_rows, first_cols⟩, second_rows, second_cols⟩
  apply resultOf_squaredLoss_congr
  · rw [first_rows, second_rows]
  · rw [first_cols, second_cols]
  · rw [first_rows, first_cols]
    intro row row_lt col col_lt
    exact agree.lossTermAt_eq firstFit row col row_lt col_lt

end Loss

section Product

variable {kind : ProductKind} {weights : Block α} {first second : Inputs (Block α)}
  (agree : AgreeOnWeights (.weightedProduct kind) weights first second)
include agree

theorem fourthAt_eq (side : Side) (minus : kind = .sided .multiplyMinus side) (row col : Nat)
    (present : weights.Present row col) : fourthAt first row col = fourthAt second row col := by
  subst minus
  rw [fourthAt, fourthAt]
  exact congrArg (fun value => value.getD Cell.zero) (agree.beside row col present)

theorem productOf_eq (firstFit : Fit first) (secondFit : Fit second)
    (shape : SameShapeWithoutWeights (.weightedProduct kind) weights first second)
    (zero : Cell.isZero (Cell.zero : α) = true) :
    productOf kind first = productOf kind second := by
  rcases agree.weighted_eq fun _ => rfl with ⟨rfl, weighted⟩
  have dots := agree.dots firstFit
  cases kind with
  | basic =>
      apply materialised_congr first second weighted dots .multiply
      rintro ⟨⟩
  | sided combination side =>
      -- The weighted cells are the same, and only one that is not zero uses a row of a factor.
      have materials : materialised combination first = materialised combination second := by
        apply materialised_congr first second weighted dots combination
        rintro rfl
        exact agree.fourthAt_eq side rfl
      have present := present_of_materialised zero combination first firstFit
      have shapes := agree.resultShape_eq shape
      cases side with
      | left =>
          have ranks : first.left.cols = second.left.cols := congrArg Prod.snd shapes
          simp only [productOf, ← materials]
          apply transposedTimes_congr _ _ _ ranks
          intro row col nonzero
          exact agree.left row col (present row col nonzero)
      | right =>
          have ranks : first.left.cols = second.left.cols := congrArg Prod.snd shapes
          rw [firstFit.ranks, secondFit.ranks] at ranks
          simp only [productOf, ← materials]
          apply times_congr _ _ _ ranks
          intro row col nonzero
          exact agree.right row col (present row col nonzero)

end Product

section Results

variable {operator : Operator} {weights : Block α} {first second : Inputs (Block α)}
  (agree : AgreeOnWeights operator weights first second) (firstFit : Fit first)
  (secondFit : Fit second)
include agree firstFit secondFit

theorem cellCount_eq : first.weighted.cellCount = second.weighted.cellCount := by
  have own (weighted : first.weighted = weights ∧ first.weighted = second.weighted) :
      first.weighted.cellCount = second.weighted.cellCount := by
    rw [weighted.2]
  cases operator with
  | squaredLoss kind =>
      rcases agree.shapes_eq firstFit secondFit with
        ⟨⟨first_rows, first_cols⟩, second_rows, second_cols⟩
      rw [Block.cellCount, Block.cellCount, first_rows, first_cols, second_rows, second_cols]
  | weightedProduct kind => exact own (agree.weighted_eq fun _ => rfl)
  | sigmoid kind => exact own (agree.weighted_eq fun _ => rfl)
  | crossEntropy => exact own (agree.weighted_eq fun _ => rfl)
  | unary kind code => exact own (agree.weighted_eq fun _ => rfl)

theorem resultOf_eq (shape : SameShapeWithoutWeights operator weights first second)
    (zero : Cell.isZero (Cell.zero : α) = true) (pool : Option Pool) :
    resultOf pool operator first = resultOf pool operator second := by
  have dots := agree.dots firstFit
  cases operator with
  | squaredLoss kind => exact agree.resultOf_squaredLoss_eq firstFit secondFit pool
  | weightedProduct kind =>
      exact congrArg Except.ok (agree.productOf_eq firstFit secondFit shape zero)
  | sigmoid kind =>
      rcases agree.weighted_eq fun _ => rfl with ⟨rfl, weighted⟩
      exact congrArg Except.ok (combined_congr first second weighted dots _)
  | crossEntropy =>
      rcases agree.weighted_eq fun _ => rfl with ⟨rfl, weighted⟩
      have entropies := totalOf_congr pool first.weighted.rows _ _
        (rowEntropyAt_congr first second weighted dots)
      simp only [resultOf, ← weighted, entropies]
  | unary kind code =>
      rcases agree.weighted_eq fun _ => rfl with ⟨rfl, weighted⟩
      simp only [resultOf]
      cases UnaryFunction.ofCode? code with
      | none => rfl
      | some function => exact congrArg Except.ok (combined_congr first second weighted dots _)

end Results

end AgreeOnWeights

/-- A cellwise result is zero wherever the weight is. -/
theorem cell?_of_isZero (pool : Option Pool) (operator : Operator) (inputs : Inputs (Block α))
    (fit : Fit inputs) (block : Block α) (cellwise : operator.Cellwise)
    (computed : resultOf pool operator inputs = .ok block)
    (row col : Nat) (row_lt : row < inputs.weighted.rows) (col_lt : col < inputs.weighted.cols)
    (zero : Cell.isZero (inputs.weighted.value row col) = true) :
    block.cell? row col = some Cell.zero := by
  have countable := fit.weighted.countable
  have combinedZero (combine : α → α → α) :
      (combined inputs combine).cell? row col = some Cell.zero := by
    rw [combined, Block.cell?_tabulate _ _ _ countable row col row_lt col_lt]
    simp only [zero, if_true]
  cases cellwise with
  | sigmoid kind =>
      cases computed
      exact combinedZero _
  | unary kind code =>
      simp only [resultOf] at computed
      split at computed
      · cases computed
      · cases computed
        exact combinedZero _
  | basic =>
      cases computed
      simp only [productOf, materialised]
      rw [Block.cell?_tabulate _ _ _ countable row col row_lt col_lt]
      simp only [weightedAt, zero, if_true]

/--
Whatever stands where the weights are zero, it does not change what the kernel answers with the same
threads. That is a block if the threads can be started, unless the code of a unary function is
unknown, and a cellwise result is zero there.
-/
theorem kernel_eq_of_agree (workers : Workers) (operator : Operator) (weights : Block α)
    (first second : Inputs (Block α)) (firstOut secondOut : Block α) (threads : Int32)
    (zero : Cell.isZero (Cell.zero : α) = true) (firstFit : Fit first) (secondFit : Fit second)
    (firstFourth : operator.HasFourth first) (secondFourth : operator.HasFourth second)
    (agree : AgreeOnWeights operator weights first second)
    (shape : SameShapeWithoutWeights operator weights first second) :
    kernel workers { operator, inputs := first, out := firstOut, threads } =
        kernel workers { operator, inputs := second, out := secondOut, threads } ∧
      ∀ pool, workers.pool? threads first.weighted.cellCount = .ok pool →
        operator.KnowsFunction → ∃ block,
          kernel workers { operator, inputs := first, out := firstOut, threads } = .ok block ∧
            (operator.Cellwise → ∀ row < weights.rows, ∀ col < weights.cols,
              Cell.isZero (weights.value row col) = true →
                block.cell? row col = some Cell.zero) := by
  have count := agree.cellCount_eq firstFit secondFit
  refine ⟨?_, ?_⟩
  · cases granted : workers.pool? threads first.weighted.cellCount with
    | error error =>
        rw [kernel_of_refused workers ⟨operator, first, firstOut, threads⟩ firstFit error granted,
          kernel_of_refused workers ⟨operator, second, secondOut, threads⟩ secondFit error
            (count ▸ granted)]
    | ok pool =>
        rw [kernel_eq_resultOf workers ⟨operator, first, firstOut, threads⟩ firstFit pool granted
            firstFourth,
          kernel_eq_resultOf workers ⟨operator, second, secondOut, threads⟩ secondFit pool
            (count ▸ granted) secondFourth]
        exact agree.resultOf_eq firstFit secondFit shape zero pool
  · intro pool granted known
    have firstResult := kernel_eq_resultOf workers ⟨operator, first, firstOut, threads⟩ firstFit
      pool granted firstFourth
    rcases kernel_of_fit workers ⟨operator, first, firstOut, threads⟩ firstFit pool granted
      firstFourth known with ⟨block, computed, _⟩
    refine ⟨block, computed, ?_⟩
    intro cellwise
    rw [firstResult] at computed
    have own (inputs : Inputs (Block α)) : operator.weights? inputs = some inputs.weighted := by
      cases cellwise <;> rfl
    rcases agree.weighted_eq own with ⟨rfl, _⟩
    intro row row_lt col col_lt
    exact cell?_of_isZero pool operator first firstFit block cellwise computed row col row_lt col_lt

/-- Inputs with one weight that is not zero, and two cells that no weight asks for. -/
def singleWeight (left right : Float) : Inputs (Block Float) :=
  { weighted := ⟨2, 2, #[1.0, -0.0, 0.0, 0.0]⟩
    left := ⟨2, 1, #[2.0, left]⟩
    right := ⟨2, 1, #[3.0, right]⟩
    fourth := none }

theorem kernel_eq_of_agree_not_a_number :
    ∃ (workers : Workers) (block : Block Float),
      (singleWeight (0.0 / 0.0) (1.0 / 0.0)).weighted.value 0 1 = -0.0 ∧
        ((0.0 / 0.0 : Float) == 0.0 / 0.0) = false ∧
        kernel workers
            ⟨.sigmoid ⟨true, false⟩, singleWeight (0.0 / 0.0) (1.0 / 0.0), .empty, 4⟩ =
          kernel workers ⟨.sigmoid ⟨true, false⟩, singleWeight 4.0 5.0, .empty, 4⟩ ∧
        kernel workers
            ⟨.sigmoid ⟨true, false⟩, singleWeight (0.0 / 0.0) (1.0 / 0.0), .empty, 4⟩ =
          .ok block ∧
        block.cell? 0 1 = some 0.0 := by
  let workers : Workers := ⟨.standard 8, fun _ => .error "no threads"⟩
  have fit (left right : Float) : Fit (singleWeight left right) := by
    refine ⟨⟨rfl, ?_⟩, ⟨rfl, ?_⟩, ⟨rfl, ?_⟩, ?_, rfl, rfl, rfl, ?_, ?_⟩
    · exact (by decide : 2 * 2 < Word.size)
    · exact (by decide : 2 * 1 < Word.size)
    · exact (by decide : 2 * 1 < Word.size)
    all_goals rintro block ⟨⟩
  have only : ∀ row col, (singleWeight 4.0 5.0).weighted.Present row col → row = 0 ∧ col = 0 := by
    rintro (_ | _ | row) (_ | _ | col) ⟨row_lt, col_lt, nonzero⟩
    · exact ⟨rfl, rfl⟩
    · exact absurd nonzero (by decide)
    · exact absurd col_lt (by simp [singleWeight])
    · exact absurd nonzero (by decide)
    · exact absurd nonzero (by decide)
    · exact absurd col_lt (by simp [singleWeight])
    all_goals exact absurd row_lt (by simp [singleWeight])
  have sameLeft (left right left' right' : Float) :
      (singleWeight left right).left.SameRow (singleWeight left' right').left 0 := by
    refine ⟨rfl, ?_⟩
    rintro (_ | rank) rank_lt
    · rfl
    · exact absurd rank_lt (by simp [singleWeight])
  have sameRight (left right left' right' : Float) :
      (singleWeight left right).right.SameRow (singleWeight left' right').right 0 := by
    refine ⟨rfl, ?_⟩
    rintro (_ | rank) rank_lt
    · rfl
    · exact absurd rank_lt (by simp [singleWeight])
  have agree : AgreeOnWeights (.sigmoid ⟨true, false⟩) (singleWeight 4.0 5.0).weighted
      (singleWeight (0.0 / 0.0) (1.0 / 0.0)) (singleWeight 4.0 5.0) := by
    refine ⟨rfl, rfl, fun _ _ _ => rfl, ?_, ?_⟩
    · intro row col present
      rcases only row col present with ⟨rfl, rfl⟩
      exact sameLeft _ _ _ _
    · intro row col present
      rcases only row col present with ⟨rfl, rfl⟩
      exact sameRight _ _ _ _
  rcases kernel_eq_of_agree workers (.sigmoid ⟨true, false⟩) _ _ _ .empty .empty 4 (by decide)
    (fit _ _) (fit _ _) (by rintro ⟨⟩) (by rintro ⟨⟩) agree (fun _ => rfl) with ⟨same, succeeds⟩
  rcases succeeds none rfl (by rintro code ⟨⟩) with ⟨block, computed, zeros⟩
  refine ⟨workers, block, rfl, by decide, same, computed, ?_⟩
  exact zeros (.sigmoid ⟨true, false⟩) 0 (by decide) 1 (by decide) (by decide)

/-- With a single weight, which is zero, the factors decide alone how wide the result is. -/
theorem kernel_ne_of_agree_without_weights :
    ∃ (workers : Workers) (weights narrow wide : Block Float),
      let first : Inputs (Block Float) := ⟨weights, narrow, narrow, none⟩
      let second : Inputs (Block Float) := ⟨weights, wide, wide, none⟩
      Fit first ∧ Fit second ∧
        AgreeOnWeights (.weightedProduct (.sided .multiply .left)) weights first second ∧
        kernel workers ⟨.weightedProduct (.sided .multiply .left), first, .empty, 1⟩ =
          .ok ⟨1, 1, #[0.0]⟩ ∧
        kernel workers ⟨.weightedProduct (.sided .multiply .left), second, .empty, 1⟩ =
          .ok ⟨1, 2, #[0.0, 0.0]⟩ := by
  have absent : ∀ row col, ¬(⟨1, 1, #[0.0]⟩ : Block Float).Present row col := by
    rintro (_ | row) (_ | col) ⟨row_lt, col_lt, nonzero⟩
    · exact absurd nonzero (by decide)
    · exact absurd col_lt (by simp)
    all_goals exact absurd row_lt (by simp)
  refine ⟨⟨.standard 8, fun _ => .error "no threads"⟩, ⟨1, 1, #[0.0]⟩, ⟨1, 1, #[5.0]⟩,
    ⟨1, 2, #[6.0, 7.0]⟩, ?_, ?_, ?_, ?_, ?_⟩
  · decide
  · decide
  · exact ⟨rfl, rfl, fun _ _ _ => rfl, fun row col present => absurd present (absent row col),
      fun row col present => absurd present (absent row col)⟩
  · decide +kernel
  · decide +kernel

end Dense

end LowRank
