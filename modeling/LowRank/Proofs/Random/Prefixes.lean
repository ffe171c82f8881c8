import LowRank.Proofs.Block.Tabulated
import LowRank.Random.Block

/-!
# Random blocks as prefixes of one stream

The cells of a random block are drawn one after another, and not every cell takes as many draws: a
cell may be left at zero after one draw, or be a constant and take none. The state in which a cell
is drawn therefore depends on all cells before it. It depends on nothing else, and the shape of a
block only says how many cells are taken: as many as a word says the shape has.

Nothing is assumed about the generator. A sampler gives a state for each seed and the draws from a
state, and these may be any functions.
-/

namespace LowRank.Random

/-- A block of the given shape that has the first cells of a stream, row after row. -/
structure TakenFrom {α : Type} (stream : Nat → α) (rows cols : Nat) (block : Block α) : Prop where
  rows_eq : block.rows = rows
  cols_eq : block.cols = cols
  cells_eq : block.cells.toList = (List.range (Word.wrap (rows * cols))).map stream
  cell?_eq : rows * cols < Word.size →
    ∀ row < rows, ∀ col < cols, block.cell? row col = some (stream (row * cols + col))

namespace Source

variable {σ α : Type} (source : Source σ α) (absent : α)

/-- The state after a number of cells. -/
def stateAfter (state : σ) : Nat → σ
  | 0 => state
  | count + 1 => stateAfter (source.next absent state).2 count

/-- The cell at a place of the stream of cells that follows a state. -/
def stream (state : σ) (place : Nat) : α :=
  (source.next absent (source.stateAfter absent state place)).1

/-- Cells from a source are appended in the order of its stream. -/
theorem extend_eq_append (count : Nat) (state : σ) (cells : Array α) :
    source.extend absent count state cells =
      cells ++ ((List.range count).map (source.stream absent state)).toArray := by
  -- The state of the generator changes from cell to cell, and with it the stream that is left.
  induction count generalizing state cells with
  | zero => simp [extend]
  | succ count ih =>
      have later : source.stream absent state ∘ Nat.succ =
          source.stream absent (source.next absent state).2 := rfl
      simp only [extend]
      rw [ih, List.range_succ_eq_map, List.map_cons, List.map_map, later]
      simp [stream, stateAfter]

theorem size_extend (count : Nat) (state : σ) (cells : Array α) :
    (source.extend absent count state cells).size = cells.size + count := by
  simp [extend_eq_append]

end Source

theorem wellFormed_blockFrom {σ α : Type} (source : Source σ α) (absent : α) (state : σ)
    (rows cols : Nat) (countable : rows * cols < Word.size) :
    (blockFrom source absent state rows cols).WellFormed := by
  refine ⟨?_, countable⟩
  simp [blockFrom, source.size_extend, Word.wrap_of_lt countable]

theorem takenFrom_blockFrom {σ α : Type} (source : Source σ α) (absent : α) (state : σ)
    (rows cols : Nat) :
    TakenFrom (source.stream absent state) rows cols (blockFrom source absent state rows cols) := by
  have cells_eq : (blockFrom source absent state rows cols).cells =
      ((List.range (Word.wrap (rows * cols))).map (source.stream absent state)).toArray := by
    rw [blockFrom, source.extend_eq_append, Array.empty_append]
  refine ⟨rfl, rfl, congrArg Array.toList cells_eq, ?_⟩
  intro countable row row_lt col col_lt
  have formed := wellFormed_blockFrom source absent state rows cols countable
  have inside := Block.position_lt _ formed row row_lt col col_lt
  rw [Block.position_eq _ formed row row_lt col col_lt] at inside
  simp only [cells_eq, List.size_toArray, List.length_map, List.length_range] at inside
  rw [Block.cell?, Block.position_eq _ formed row row_lt col col_lt, cells_eq,
    List.getElem?_toArray, List.getElem?_map, List.getElem?_range inside]
  rfl

namespace TakenFrom

variable {α : Type} {stream : Nat → α} {rows cols rows' cols' : Nat} {first second : Block α}
  (taken : TakenFrom stream rows cols first) (taken' : TakenFrom stream rows' cols' second)
include taken

theorem take_cells (count : Nat) (count_le : count ≤ Word.wrap (rows * cols)) :
    first.cells.toList.take count = (List.range count).map stream := by
  rw [taken.cells_eq, ← List.map_take, List.take_range, Nat.min_eq_left count_le]

include taken'

theorem agree :
    first.cells.toList.take (min (Word.wrap (rows * cols)) (Word.wrap (rows' * cols'))) =
      second.cells.toList.take (min (Word.wrap (rows * cols)) (Word.wrap (rows' * cols'))) := by
  rw [taken.take_cells _ (Nat.min_le_left _ _), taken'.take_cells _ (Nat.min_le_right _ _)]

theorem agree_of_countable (countable : rows * cols < Word.size)
    (countable' : rows' * cols' < Word.size) :
    first.cells.toList.take (min (rows * cols) (rows' * cols')) =
      second.cells.toList.take (min (rows * cols) (rows' * cols')) := by
  have agree := taken.agree taken'
  rwa [Word.wrap_of_lt countable, Word.wrap_of_lt countable'] at agree

theorem cells_eq_of_size_eq (same : Word.wrap (rows * cols) = Word.wrap (rows' * cols')) :
    first.cells = second.cells := by
  apply Array.toList_inj.mp
  rw [taken.cells_eq, taken'.cells_eq, same]

end TakenFrom

namespace Sampler

variable {σ : Type} (sampler : Sampler σ) (spec : Spec)

/--
All blocks that a seeded spec describes are taken from one stream, whatever the generator is. Of two
of them, one begins with the cells of the other, and if they have equally many cells then they have
the same. How many cells a shape has is what a word says, which is their number unless it is beyond
a word.
-/
theorem blocks_taken_from_stream (valid : (sampler.draw? spec).isSome = true) :
    Random.block? = standard.block? ∧
      ∃ stream : Nat → Float,
        (∀ rows cols, ∃ block, sampler.block? spec rows cols = some block ∧
          TakenFrom stream rows cols block) ∧
        ∀ rows cols rows' cols' first second,
          sampler.block? spec rows cols = some first →
          sampler.block? spec rows' cols' = some second →
          first.cells.toList.take (min (Word.wrap (rows * cols)) (Word.wrap (rows' * cols'))) =
              second.cells.toList.take
                (min (Word.wrap (rows * cols)) (Word.wrap (rows' * cols'))) ∧
            (rows * cols < Word.size → rows' * cols' < Word.size →
              first.cells.toList.take (min (rows * cols) (rows' * cols')) =
                second.cells.toList.take (min (rows * cols) (rows' * cols'))) ∧
            (Word.wrap (rows * cols) = Word.wrap (rows' * cols') →
              first.cells = second.cells) := by
  rcases Option.isSome_iff_exists.mp valid with ⟨draw, drawn⟩
  let source : Source σ Float := ⟨sampler.keep spec.clampedDensity, draw⟩
  have block_eq (rows cols : Nat) : sampler.block? spec rows cols =
      some (blockFrom source 0.0 (sampler.start spec.seed) rows cols) := by
    rw [block?, drawn]
    rfl
  have taken := takenFrom_blockFrom source 0.0 (sampler.start spec.seed)
  refine ⟨rfl, source.stream 0.0 (sampler.start spec.seed), ?_, ?_⟩
  · intro rows cols
    exact ⟨_, block_eq rows cols, taken rows cols⟩
  · intro rows cols rows' cols' first second madeFirst madeSecond
    rw [block_eq, Option.some.injEq] at madeFirst madeSecond
    subst madeFirst madeSecond
    have takenFirst := taken rows cols
    have takenSecond := taken rows' cols'
    exact ⟨takenFirst.agree takenSecond, takenFirst.agree_of_countable takenSecond,
      takenFirst.cells_eq_of_size_eq takenSecond⟩

theorem blocks_taken_from_stream_sparse :
    ∃ first second : Block Float,
      Random.block? { min := -1.0, density := 0.5, seed := 727 } 2 3 = some first ∧
        Random.block? { min := -1.0, density := 0.5, seed := 727 } 4 2 = some second ∧
        first.cells.size = 6 ∧ first.cells.toList = second.cells.toList.take 6 := by
  rcases blocks_taken_from_stream standard { min := -1.0, density := 0.5, seed := 727 }
    (by decide +kernel) with ⟨standard_eq, stream, taken, agree⟩
  rcases taken 2 3 with ⟨first, madeFirst, takenFirst⟩
  rcases taken 4 2 with ⟨second, madeSecond, _⟩
  have size : first.cells.toList.length = 6 := by
    rw [takenFirst.cells_eq, List.length_map, List.length_range]
    rfl
  have same : first.cells.toList.take 6 = second.cells.toList.take 6 :=
    (agree 2 3 4 2 first second madeFirst madeSecond).2.1 (by decide) (by decide)
  rw [List.take_of_length_le (Nat.le_of_eq size)] at same
  rw [standard_eq]
  exact ⟨first, second, madeFirst, madeSecond, size, same⟩

end Sampler

end LowRank.Random
