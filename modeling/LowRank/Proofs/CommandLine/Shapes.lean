import LowRank.Proofs.CommandLine.Lines

/-!
# Lines whose inputs have their shapes

The shapes that seeding gives to the four positions of an instruction fit together, whatever the
operator. A line whose inputs all hold matrices of the shapes of their positions therefore does not
fail, unless it names a unary function that there is not, or there are more bytes in use than a word
can count.
-/

namespace LowRank

/-- A name holds a matrix of the given shape. -/
def Store.HoldsShape {α : Type} (store : Store α) (name : String) (shape : Nat × Nat) : Prop :=
  ∃ block, store.matrix? name = some block ∧ (block.rows, block.cols) = shape

namespace Store.HoldsShape

variable {α : Type} {store : Store α} {name : String} {shape : Nat × Nat}
  (holds : store.HoldsShape name shape)
include holds

theorem congr (other : Store α) (same : other.value? name = store.value? name) :
    other.HoldsShape name shape := by
  rcases holds with ⟨block, held, shape_eq⟩
  exact ⟨block, (other.matrix?_congr store name same).trans held, shape_eq⟩

theorem eq_of_matrix? (block : Block α) (held : store.matrix? name = some block) :
    block.rows = shape.1 ∧ block.cols = shape.2 := by
  rcases holds with ⟨other, heldOther, rfl⟩
  rw [held] at heldOther
  cases heldOther
  exact ⟨rfl, rfl⟩

end Store.HoldsShape

namespace CommandLine

/-- All inputs of an instruction hold matrices of the shapes of their positions. -/
def Shaped (store : Store Float) (instruction : Instruction) : Prop :=
  ∀ name shape, (name, shape) ∈ positions instruction → store.HoldsShape name shape

theorem positions_eq (instruction : Instruction) :
    positions instruction =
      [(instruction.acquired.weighted.name, (seededRows, seededCols)),
        (instruction.acquired.left.name, (seededRows, seededRank)),
        (instruction.acquired.right.name, (seededCols, seededRank))] ++
      instruction.acquired.fourth.toList.map fun operand =>
        (operand.name, (seededRows, seededCols)) := by
  simp only [positions, Instruction.acquiredNames, Inputs.toList, seededShapes]
  cases instruction.acquired.fourth <;> rfl

/-- A name that is used for one shape only has it after seeding if it has it where it is bound. -/
theorem shaped_of_seeds {σ : Type} {host : Host σ} {progress ready : Progress}
    {instruction : Instruction} (seeds : Seeds host progress (positions instruction) ready)
    (single : ∀ name shape other, (name, shape) ∈ positions instruction →
      (name, other) ∈ positions instruction → shape = other)
    (before : ∀ name shape, (name, shape) ∈ positions instruction →
      progress.store.isBound name = true → progress.store.HoldsShape name shape) :
    Shaped ready.store instruction := by
  intro name shape used
  cases bound : progress.store.isBound name with
  | true => exact (before name shape used bound).congr _ (seeds.kept name bound)
  | false =>
      rcases seeds.value?_of_unbound name bound (List.mem_map_of_mem used) with
        ⟨seed, other, block, usedOther, drawn, found⟩
      have shape_mem := mem_seededShapes_of_mem_positions instruction _ usedOther
      have shape_eq := (compact_of_block? host seed other shape_mem block drawn).2
      refine ⟨block, (Store.matrix?_eq_some_iff _ _ _).mpr found, ?_⟩
      exact shape_eq.trans (single name shape other used usedOther).symm

/-- Matrices of the shapes of the positions fit together. -/
theorem shapesFit_of_shaped (store : Store Float) (instruction : Instruction)
    (blocks : Inputs (Block Float)) (shaped : Shaped store instruction)
    (holds : instruction.Holds store blocks) :
    Dense.ShapesFit blocks ∧ blocks.weighted.rows = seededRows ∧
      blocks.weighted.cols = seededCols ∧ blocks.left.cols = seededRank := by
  rw [Shaped, positions_eq] at shaped
  rcases acquired_eq : instruction.acquired with ⟨weighted, left, right, fourth⟩
  rcases blocks with ⟨weightedBlock, leftBlock, rightBlock, fourthBlock⟩
  simp only [acquired_eq] at shaped
  simp only [Instruction.Holds, acquired_eq, Inputs.map, Inputs.mk.injEq] at holds
  rcases holds with ⟨weightedHeld, leftHeld, rightHeld, fourthHeld⟩
  have weightedShape := (shaped weighted.name (seededRows, seededCols) (by simp)).eq_of_matrix?
    weightedBlock weightedHeld
  have leftShape := (shaped left.name (seededRows, seededRank) (by simp)).eq_of_matrix?
    leftBlock leftHeld
  have rightShape := (shaped right.name (seededCols, seededRank) (by simp)).eq_of_matrix?
    rightBlock rightHeld
  refine ⟨⟨?_, ?_, ?_, ?_⟩, weightedShape.1, weightedShape.2, leftShape.2⟩
  · exact leftShape.1.trans weightedShape.1.symm
  · exact rightShape.1.trans weightedShape.2.symm
  · exact leftShape.2.trans rightShape.2.symm
  · rintro block ⟨⟩
    cases fourth with
    | none => cases fourthHeld
    | some operand =>
        have fourthShape := (shaped operand.name (seededRows, seededCols) (by simp)).eq_of_matrix?
          block (Option.some.inj fourthHeld)
        exact ⟨fourthShape.1.trans weightedShape.1.symm, fourthShape.2.trans weightedShape.2.symm⟩

/-- A block of the shape that an operator's result has for seeded inputs. -/
structure SeededResult (operator : Operator) (block : Block Float) : Prop where
  wellFormed : block.WellFormed
  shape : (block.rows, block.cols) = operator.resultShape seededRows seededCols seededRank

/-- A line whose inputs have their shapes prints a result of the operator's shape. -/
theorem exists_runLine_of_shaped {σ : Type} (host : Host σ) (progress ready : Progress)
    (line : String) (instruction : Instruction) (idle : progress.Idle)
    (prepared : Prepared host progress line instruction ready)
    (countable : progress.store.used + 1440 < Word.size)
    (known : instruction.operator.KnowsFunction) (shaped : Shaped ready.store instruction) :
    ∃ block after, SeededResult instruction.operator block ∧
      ready.store.bind instruction.output.name (instruction.result block) = .ok after ∧
      runLine host progress line =
        .ok (bindingText instruction.output.name (instruction.result block),
          { ready with store := after }) := by
  have readyIdle := idle.of_seeds host prepared.seeds
  have accepted : instruction.Accepted := .decoded .standard line prepared.decoded
  have ends := lineEnds_runLine host progress line idle
  generalize runLine host progress line = result at ends ⊢
  cases ends with
  | undecodable error failed =>
      rw [prepared.decoded] at failed
      cases failed
  | unseeded other error decoded failed =>
      rw [prepared.decoded] at decoded
      cases decoded
      rw [prepared.seeded] at failed
      cases failed
  | refused other readyOther preparedOther name name_mem refused =>
      rcases prepared.unique preparedOther with ⟨rfl, rfl⟩
      rw [← map_fst_positions] at name_mem
      rcases List.mem_map.mp name_mem with ⟨⟨_, shape⟩, used, rfl⟩
      rcases shaped _ shape used with ⟨block, held, _⟩
      rw [refused] at held
      cases held
  | failed other readyOther preparedOther blocks error holds failed =>
      rcases prepared.unique preparedOther with ⟨rfl, rfl⟩
      have fits := (shapesFit_of_shaped ready.store instruction blocks shaped holds).1
      have wellFormed := readyIdle.allBuilt.wellFormed_inputs instruction blocks holds
      have compact := readyIdle.compact.of_holds instruction blocks holds blocks.weighted
        (by simp [Inputs.toList])
      have granted := pool?_of_compact host instruction.threads blocks.weighted compact
      rcases Dense.kernel_of_fit host.workers (instruction.call blocks) (fits.fit wellFormed) none
        granted (accepted.hasFourth blocks holds) known with ⟨block, computed, _⟩
      rw [failed] at computed
      cases computed
  | unbound other readyOther preparedOther blocks block error holds computed refused =>
      rcases prepared.unique preparedOther with ⟨rfl, rfl⟩
      have compact := prepared.compact_result idle blocks block holds computed
      have bytes_le := bytes_result_le instruction block compact
      have ready_le := prepared.used_le
      have exceeds := (ready.store.uncountable_of_bind _ _ readyIdle.unlimited error refused).2
      omega
  | printed other readyOther preparedOther blocks block after holds computed bound =>
      rcases prepared.unique preparedOther with ⟨rfl, rfl⟩
      have wellFormed := readyIdle.allBuilt.wellFormed_inputs instruction blocks holds
      have result := Dense.resultFor_of_ok host.workers (instruction.call blocks) wellFormed block
        computed
      rcases shapesFit_of_shaped ready.store instruction blocks shaped holds with
        ⟨_, rows_eq, cols_eq, rank_eq⟩
      have shape := result.shape
      simp only [Instruction.call, rows_eq, cols_eq, rank_eq] at shape
      exact ⟨block, after, ⟨result.wellFormed, shape⟩, bound, rfl⟩

end CommandLine

end LowRank
