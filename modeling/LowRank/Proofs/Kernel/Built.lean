import LowRank.Proofs.Block.Listed
import LowRank.Proofs.Kernel.Outcome
import LowRank.Proofs.Random.Prefixes

/-!
# Built blocks

A block is made by one of the constructors or computed by the kernel from such blocks, and it is
changed without touching its shape or reshaped as a whole. If no shape on the way has more cells
than a word can count then the block has exactly one cell for each row and column, however it has
come about.
-/

namespace LowRank

variable {α : Type}

namespace Block

/--
The blocks that the constructors make, and what is made of these in place or by the kernel, of
shapes whose cells a word can count.
-/
inductive Built [Cell α] : Block α → Prop where
  | zeros (rows cols : Nat) (countable : rows * cols < Word.size) : Built (zeros rows cols)
  | ofRows (rows : List (List α)) (block : Block α) (made : ofRows rows = .ok block)
      (countable : rows.flatten.length < Word.size) : Built block
  | drawn {σ : Type} (source : Random.Source σ α) (absent : α) (state : σ) (rows cols : Nat)
      (countable : rows * cols < Word.size) :
      Built (Random.blockFrom source absent state rows cols)
  | setCell (block : Block α) (built : Built block) (row col : Nat) (cell : α) (after : Block α)
      (made : block.setCell? row col cell = some after) : Built after
  | mapCells (block : Block α) (built : Built block) (update : Nat → α → α) :
      Built (block.mapCells update)
  | reset (block : Block α) (built : Built block) (rows cols : Nat)
      (countable : rows * cols < Word.size) : Built (block.reset rows cols)
  | computed (workers : Workers) (call : Call α)
      (inputs : ∀ block ∈ call.inputs.toList, Built block) (block : Block α)
      (made : Dense.kernel workers call = .ok block) : Built block

theorem wellFormed_of_setCell? (block after : Block α) (row col : Nat) (cell : α)
    (wellFormed : block.WellFormed) (made : block.setCell? row col cell = some after) :
    after.WellFormed := by
  simp only [setCell?] at made
  split at made
  · cases made
    refine ⟨?_, wellFormed.countable⟩
    simpa using wellFormed.size_cells
  · cases made

theorem Built.wellFormed [Cell α] {block : Block α} (built : block.Built) : block.WellFormed := by
  induction built with
  | zeros rows cols countable =>
      exact ⟨Array.size_replicate.trans (Word.wrap_of_lt countable), countable⟩
  | ofRows rows block made countable => exact wellFormed_of_ofRows rows block made countable
  | drawn source absent state rows cols countable =>
      exact Random.wellFormed_blockFrom source absent state rows cols countable
  | setCell block _ row col cell after made ih =>
      exact wellFormed_of_setCell? block after row col cell ih made
  | mapCells block _ update ih =>
      refine ⟨?_, ih.countable⟩
      simpa [Block.mapCells] using ih.size_cells
  | reset block _ rows cols countable =>
      rw [block.reset_eq_tabulate rows cols countable]
      exact wellFormed_tabulate rows cols _ countable
  | computed workers call _ block made ih =>
      -- The inputs are well formed by induction, and the kernel asks for no more than that.
      exact (Dense.resultFor_of_ok workers call ih block made).wellFormed

end Block

end LowRank
