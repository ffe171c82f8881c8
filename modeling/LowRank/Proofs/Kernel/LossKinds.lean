import LowRank.Proofs.Cell.Doubles
import LowRank.Proofs.Kernel.Outcome

/-!
# Squared losses of one kind as losses of another

Weights that are zero where the target is zero and one elsewhere make the post-weighted loss skip
the cells that the loss over the non-zero cells skips, and weights that are one everywhere make both
weighted losses count every cell. In each case the same terms are added in the same order, because
a weight of one does not change what it is multiplied by. That takes rows which are added in the
same way, by the same threads.
-/

namespace LowRank

variable {α : Type} [Cell α]

namespace Block

/-- The weights that are one where a block has a cell that does not count as absent. -/
def indicator (block : Block α) : Block α :=
  tabulate block.rows block.cols fun row col =>
    if Cell.isZero (block.value row col) then Cell.zero else Cell.one

/-- The weights of the given shape that are one everywhere. -/
def ones (rows cols : Nat) : Block α :=
  tabulate rows cols fun _ _ => Cell.one

end Block

namespace Dense

omit [Cell α] in
/-- Inputs that fit still do so with a fourth matrix of the shape of the weighted one. -/
theorem Fit.tabulated {weighted left right : Block α} (fit : Fit ⟨weighted, left, right, none⟩)
    (cell : Nat → Nat → α) :
    Fit ⟨weighted, left, right, some (Block.tabulate weighted.rows weighted.cols cell)⟩ := by
  refine ⟨fit.weighted, fit.left, fit.right, ?_, fit.left_rows, fit.right_rows, fit.ranks, ?_, ?_⟩
  all_goals
    rintro block ⟨⟩
  · exact Block.wellFormed_tabulate _ _ _ fit.weighted.countable
  · rfl
  · rfl

section Terms

variable (weighted left right : Block α) (countable : weighted.rows * weighted.cols < Word.size)
  (row col : Nat) (row_lt : row < weighted.rows) (col_lt : col < weighted.cols)
include countable row_lt col_lt

theorem fourthAt_tabulated (cell : Nat → Nat → α) :
    fourthAt ⟨weighted, left, right, some (Block.tabulate weighted.rows weighted.cols cell)⟩
      row col = cell row col :=
  Block.value_tabulate _ _ cell countable row col row_lt col_lt

variable (oneTimes : ∀ cell : α, Cell.one * cell = cell)
  (oneCounts : Cell.isZero (Cell.one : α) = false)
include oneTimes oneCounts

/-- Where a target is not zero its indicator is one, and elsewhere neither loss has a term. -/
theorem lossTermAt_indicator (zeroAbsent : Cell.isZero (Cell.zero : α) = true) :
    lossTermAt .postNonzero ⟨weighted, left, right, none⟩ row col =
      lossTermAt .post ⟨weighted, left, right, some weighted.indicator⟩ row col := by
  have weight := fourthAt_tabulated weighted left right countable row col row_lt col_lt
    fun row col => if Cell.isZero (weighted.value row col) then Cell.zero else Cell.one
  simp only [lossTermAt, Block.indicator, weight]
  cases absent : Cell.isZero (weighted.value row col) with
  | true => simp only [if_true, zeroAbsent]
  | false =>
      simp only [Bool.false_eq_true, if_false, oneCounts, oneTimes]
      rfl

theorem lossTermAt_ones (kind : LossKind) (needs : kind.needsFourth = true) :
    lossTermAt .unweighted ⟨weighted, left, right, none⟩ row col =
      lossTermAt kind ⟨weighted, left, right, some (.ones weighted.rows weighted.cols)⟩
        row col := by
  have weight := fourthAt_tabulated weighted left right countable row col row_lt col_lt
    fun _ _ => Cell.one
  cases kind with
  | post =>
      simp only [lossTermAt, Block.ones, weight, Bool.false_eq_true, if_false, oneCounts, oneTimes]
      rfl
  | pre =>
      simp only [lossTermAt, Block.ones, weight, oneTimes]
      rfl
  | postNonzero => cases needs
  | unweighted => cases needs

end Terms

/-- A weighted loss whose cells have the terms of an unweighted one is computed as that loss. -/
theorem kernel_tabulated_of_terms (workers : Workers) (threads : Int32) (pool : Option Pool)
    (kind other : LossKind) (weight : Nat → Nat → α) (weighted left right : Block α)
    (fit : Fit ⟨weighted, left, right, none⟩)
    (terms : ∀ row < weighted.rows, ∀ col < weighted.cols,
      lossTermAt other ⟨weighted, left, right, none⟩ row col =
        lossTermAt kind
          ⟨weighted, left, right, some (Block.tabulate weighted.rows weighted.cols weight)⟩ row col)
    (out : Block α) (granted : workers.pool? threads weighted.cellCount = .ok pool) :
    kernel workers ⟨.squaredLoss kind,
      ⟨weighted, left, right, some (Block.tabulate weighted.rows weighted.cols weight)⟩, out,
      threads⟩ = resultOf pool (.squaredLoss other) ⟨weighted, left, right, none⟩ := by
  have weights := fit.tabulated weight
  rw [kernel_eq_resultOf workers ⟨.squaredLoss kind, _, out, threads⟩ weights pool granted
    fun _ => rfl]
  apply Eq.symm
  exact resultOf_squaredLoss_congr pool other kind _ _ rfl rfl terms

/--
For cells of which it is only known that one times a cell is the cell, that zero counts as absent
and that one does not, the loss over the non-zero cells is the post-weighted loss with the indicator
of these cells, and the unweighted loss is either weighted one with ones as weights. Both are
computed by the same threads, so that they add their rows in the same way.
-/
theorem kernel_lossKinds (oneTimes : ∀ cell : α, Cell.one * cell = cell)
    (zeroAbsent : Cell.isZero (Cell.zero : α) = true)
    (oneCounts : Cell.isZero (Cell.one : α) = false) (weighted left right : Block α)
    (fit : Fit ⟨weighted, left, right, none⟩) (out other : Block α) (workers : Workers)
    (threads : Int32) (pool : Option Pool)
    (granted : workers.pool? threads weighted.cellCount = .ok pool) :
    (∃ block,
      kernel workers ⟨.squaredLoss .postNonzero, ⟨weighted, left, right, none⟩, out, threads⟩ =
          .ok block ∧
        kernel workers ⟨.squaredLoss .post, ⟨weighted, left, right, some weighted.indicator⟩,
          other, threads⟩ = .ok block) ∧
      ∃ block,
        kernel workers ⟨.squaredLoss .unweighted, ⟨weighted, left, right, none⟩, out, threads⟩ =
            .ok block ∧
          kernel workers ⟨.squaredLoss .post,
            ⟨weighted, left, right, some (.ones weighted.rows weighted.cols)⟩, other,
            threads⟩ = .ok block ∧
          kernel workers ⟨.squaredLoss .pre,
            ⟨weighted, left, right, some (.ones weighted.rows weighted.cols)⟩, other,
            threads⟩ = .ok block := by
  have countable := fit.weighted.countable
  have withoutWeights (kind : LossKind) (ignored : kind.needsFourth = false) :=
    kernel_eq_resultOf workers
      ⟨.squaredLoss kind, ⟨weighted, left, right, none⟩, out, threads⟩ fit pool granted
      (Operator.hasFourth_of_needs_eq_false (.squaredLoss kind) _ ignored)
  have withOnes (kind : LossKind) (needs : kind.needsFourth = true) :=
    kernel_tabulated_of_terms workers threads pool kind .unweighted (fun _ _ => Cell.one) weighted
      left right fit
      (fun row row_lt col col_lt =>
        lossTermAt_ones weighted left right countable row col row_lt col_lt oneTimes oneCounts
          kind needs)
      other granted
  refine ⟨⟨_, withoutWeights .postNonzero rfl, ?_⟩, ⟨_, withoutWeights .unweighted rfl, ?_, ?_⟩⟩
  · apply kernel_tabulated_of_terms workers threads pool .post .postNonzero _ weighted left right
      fit _ other granted
    intro row row_lt col col_lt
    exact lossTermAt_indicator weighted left right countable row col row_lt col_lt oneTimes
      oneCounts zeroAbsent
  · exact withOnes .post rfl
  · exact withOnes .pre rfl

theorem kernel_lossKinds_signed_zero :
    ∃ (workers : Workers) (pool : Pool) (weighted left right nonzero whole : Block Float),
      weighted = ⟨2, 2, #[0.0 / 0.0, -0.0, 2.0, 0.0]⟩ ∧
        weighted.indicator = ⟨2, 2, #[1.0, 0.0, 1.0, 0.0]⟩ ∧
        workers.pool? 4 weighted.cellCount = .ok (some pool) ∧
        pool.division 2 = .halves .whole .whole ∧
        kernel workers ⟨.squaredLoss .postNonzero, ⟨weighted, left, right, none⟩, .empty, 4⟩ =
          .ok nonzero ∧
        kernel workers ⟨.squaredLoss .post, ⟨weighted, left, right, some weighted.indicator⟩,
          ⟨1, 2, #[7.0, 8.0]⟩, 4⟩ = .ok nonzero ∧
        kernel workers ⟨.squaredLoss .unweighted, ⟨weighted, left, right, none⟩, .empty, 4⟩ =
          .ok whole ∧
        kernel workers ⟨.squaredLoss .pre, ⟨weighted, left, right, some (.ones 2 2)⟩,
          ⟨1, 2, #[7.0, 8.0]⟩, 4⟩ = .ok whole := by
  let weighted : Block Float := ⟨2, 2, #[0.0 / 0.0, -0.0, 2.0, 0.0]⟩
  let left : Block Float := ⟨2, 1, #[1.0, 1.5]⟩
  let right : Block Float := ⟨2, 1, #[2.0, 4.0]⟩
  let pool : Pool := ⟨fun _ => .halves .whole .whole⟩
  let workers : Workers :=
    { settings := { Settings.standard 2 with parallelThreshold := 0 }
      pool := fun _ => .ok pool }
  have fit : Fit ⟨weighted, left, right, none⟩ := by decide
  rcases kernel_lossKinds Double.one_mul (by decide) (by decide) weighted left right fit .empty
    ⟨1, 2, #[7.0, 8.0]⟩ workers 4 (some pool) rfl with
    ⟨⟨nonzero, skipping, indicated⟩, whole, plain, _, pre⟩
  exact ⟨workers, pool, weighted, left, right, nonzero, whole, rfl, by decide, rfl, rfl, skipping,
    indicated, plain, pre⟩

end Dense

end LowRank
