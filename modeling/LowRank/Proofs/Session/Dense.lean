import LowRank.Proofs.Kernel.Built
import LowRank.Proofs.Session.Steps

/-!
# Sessions with the dense kernel

In a session whose executions use the dense kernel, and whose other bindings are of scalars and of
built blocks, every bound matrix is built: what the kernel computes from built blocks is built
again. The kernel therefore finds all cells that it looks for, and an execution fails for the
reasons alone that its inputs, its operator and its threads give.

A block of a shape with more cells than a word can count is not built. It lacks cells, and the
kernel does not find them.
-/

namespace LowRank

variable {α : Type}

namespace Store

/-- All matrices of a store have a property. -/
def AllMatrices (store : Store α) (property : Block α → Prop) : Prop :=
  ∀ name block, store.value? name = some (.matrix block) → property block

namespace AllMatrices

variable {store : Store α} {property : Block α → Prop} (all : store.AllMatrices property)
include all

theorem imp (other : Block α → Prop) (implies : ∀ block, property block → other block) :
    store.AllMatrices other := by
  intro name block found
  exact implies block (all name block found)

theorem of_value?_eq (after : Store α) (same : ∀ name, after.value? name = store.value? name) :
    after.AllMatrices property := by
  intro name block found
  rw [same] at found
  exact all name block found

theorem of_bind (name : String) (value : Value α) (after : Store α)
    (bound : store.bind name value = .ok after)
    (own : ∀ block, value = .matrix block → property block) : after.AllMatrices property := by
  intro other block found
  rw [store.value?_of_bind name value after bound] at found
  split at found
  · apply own
    exact Option.some.inj found
  · exact all other block found

theorem of_remove (name : String) : (store.remove name).2.AllMatrices property := by
  intro other block found
  rw [value?_remove] at found
  split at found
  · cases found
  · exact all other block found

theorem of_holds (instruction : Instruction) (blocks : Inputs (Block α))
    (holds : instruction.Holds store blocks) (block : Block α)
    (block_mem : block ∈ blocks.toList) : property block := by
  have held := congrArg Inputs.toList holds
  rw [Inputs.toList_map, Inputs.toList_map] at held
  have some_mem : some block ∈ blocks.toList.map some := List.mem_map_of_mem block_mem
  rw [← held, List.mem_map] at some_mem
  rcases some_mem with ⟨operand, _, found⟩
  rw [matrix?_eq_some_iff] at found
  exact all operand.name block found

end AllMatrices

end Store

variable [Cell α]

namespace Store

namespace AllMatrices

variable {store : Store α} (built : store.AllMatrices Block.Built) (instruction : Instruction)
include built

theorem wellFormed_inputs (blocks : Inputs (Block α)) (holds : instruction.Holds store blocks)
    (block : Block α) (block_mem : block ∈ (instruction.call blocks).inputs.toList) :
    block.WellFormed :=
  (built.of_holds instruction blocks holds block block_mem).wellFormed

theorem of_ends (workers : Workers) (outcome : Outcome α)
    (ends : instruction.Ends (Dense.kernel workers) store outcome) :
    outcome.store.AllMatrices Block.Built := by
  -- Pins do not change what is bound, so only a result can be new in the store.
  cases ends with
  | refused before after name _ _ _ => exact built.of_value?_eq _ (store.value?_pinned before)
  | failed _ _ _ _ => exact built.of_value?_eq _ (store.value?_pinned _)
  | unbound _ _ _ _ _ _ => exact built
  | bound blocks block after holds computed bound =>
      apply built.of_bind _ _ after bound
      intro matrix matrix_eq
      rw [instruction.eq_of_result_eq_matrix block matrix matrix_eq]
      exact .computed workers _ (built.of_holds instruction blocks holds) block computed

end AllMatrices

end Store

namespace Command

/-- A command that binds no block but a built one by itself. -/
def BindsBuilt (command : Command α) : Prop :=
  ∀ name block, command = .bind name (.matrix block) → block.Built

theorem allBuilt_perform (workers : Workers) (store : Store α) (command : Command α)
    (built : store.AllMatrices Block.Built) (nodup : store.boundNames.Nodup)
    (own : command.BindsBuilt) :
    (command.perform (Dense.kernel workers) store).store.AllMatrices Block.Built := by
  cases command with
  | bind name value =>
      simp only [perform]
      cases bound : store.bind name value with
      | error error => exact built
      | ok after =>
          apply built.of_bind name value after bound
          rintro block rfl
          exact own name block rfl
  | remove name => exact built.of_remove name
  | acquire name =>
      simp only [perform]
      cases acquired : store.acquire name with
      | error error => exact built
      | ok result =>
          exact built.of_value?_eq result.2
            (store.value?_of_acquire name result.1 result.2 acquired)
  | release name => exact built.of_value?_eq _ (store.value?_release name)
  | execute instruction =>
      have ends := instruction.ends_perform (Dense.kernel workers) store nodup
      exact built.of_ends instruction workers _ ends

end Command

namespace Store

/--
The stores of a session that uses the dense kernel, with any workers each time, and binds built
blocks.
-/
inductive DenseReachable (limit : Option Nat) : Store α → Prop where
  | start : DenseReachable limit (withLimit limit)
  | perform {store : Store α} (workers : Workers) (command : Command α)
      (reachable : DenseReachable limit store) (own : command.BindsBuilt) :
      DenseReachable limit (command.perform (Dense.kernel workers) store).store

namespace DenseReachable

variable {limit : Option Nat} {store : Store α}

theorem reachable (dense : store.DenseReachable limit) : store.Reachable limit := by
  induction dense with
  | start => exact .start
  | perform workers command _ _ ih => exact .perform (Dense.kernel workers) command ih

theorem allBuilt (dense : store.DenseReachable limit) : store.AllMatrices Block.Built := by
  induction dense with
  | start =>
      intro name block found
      cases found
  | perform workers command dense own ih =>
      exact command.allBuilt_perform workers _ ih dense.reachable.consistent.nodup own

end DenseReachable

end Store

namespace Instruction

variable (instruction : Instruction) (store : Store α) (workers : Workers)

/-- What is bound by a successful execution on given blocks. -/
inductive Produces (blocks : Inputs (Block α)) : Value α → Prop where
  | scalar (family : instruction.operator.family = .squaredLoss ∨
      instruction.operator.family = .crossEntropy) (scalar : Scalar α) :
      Produces blocks (.scalar scalar)
  | matrix (family : ¬(instruction.operator.family = .squaredLoss ∨
      instruction.operator.family = .crossEntropy)) (block : Block α)
      (size : block.cells.size = block.rows * block.cols)
      (shape : (block.rows, block.cols) =
        instruction.operator.resultShape blocks.weighted.rows blocks.weighted.cols
          blocks.left.cols) :
      Produces blocks (.matrix block)

/-- What an execution answers whose inputs hold the given blocks. -/
structure AnswersFor (blocks : Inputs (Block α)) (outcome : Outcome α) : Prop where
  kernel_error_iff : (∃ error, outcome.reply = .error (.kernel error)) ↔
    ¬Dense.ShapesFit blocks ∨
      (∃ error, workers.pool? instruction.threads blocks.weighted.cellCount = .error error) ∨
      ∃ code, instruction.operator.unaryCode? = some code ∧ UnaryFunction.ofCode? code = none
  other_error : ∀ error, outcome.reply = .error error →
    (∃ kernelError, error = .kernel kernelError) ∨
      ∃ needed shortage, error = .outOfMemory instruction.output.name needed shortage
  bound : ∀ reply, outcome.reply = .ok reply →
    ∃ value, outcome.store.value? instruction.output.name = some value ∧
      instruction.Produces blocks value

theorem produces_result (blocks : Inputs (Block α)) (block : Block α)
    (resultFor : Dense.ResultFor instruction.operator blocks block) :
    instruction.Produces blocks (instruction.result block) := by
  have families := Family.producesScalar_iff instruction.operator.family
  by_cases scalar : instruction.operator.producesScalar = true
  · rcases instruction.result_of_scalar block scalar with ⟨bound, result_eq⟩
    rw [result_eq]
    exact .scalar (families.mp scalar) bound
  · rw [instruction.result_of_matrix block (by simpa using scalar)]
    apply Produces.matrix _ block resultFor.wellFormed.size_cells resultFor.shape
    intro family
    exact scalar (families.mpr family)

theorem Accepted.hasFourth {instruction : Instruction} {store : Store α}
    (accepted : instruction.Accepted) (blocks : Inputs (Block α))
    (holds : instruction.Holds store blocks) : instruction.operator.HasFourth blocks := by
  intro needs
  have calls := accepted.callsOn blocks holds
  rw [← needs]
  exact calls.isSome_fourth

section Ended

variable (built : store.AllMatrices Block.Built) (accepted : instruction.Accepted)
  (outcome : Outcome α) (ends : instruction.Ends (Dense.kernel workers) store outcome)
include built accepted ends

/-- A kernel error of an execution is about the shapes of its inputs, its threads or its code. -/
theorem kernel_error_of_ends (error : KernelError)
    (failed : outcome.reply = .error (.kernel error)) :
    ∃ blocks, instruction.Holds store blocks ∧
      ((∃ cause, Dense.Misfit blocks cause ∧ error = .mismatch cause) ∨
        (∃ detail, error = .threadPool detail ∧
          workers.pool? instruction.threads blocks.weighted.cellCount = .error error) ∨
        ∃ code, instruction.operator.unaryCode? = some code ∧
          UnaryFunction.ofCode? code = none ∧ error = .unknownFunction code) := by
  cases ends with
  | refused before after name _ _ _ =>
      simp only [Store.refusal] at failed
      split at failed <;> cases failed
  | failed blocks other holds computed =>
      cases failed
      refine ⟨blocks, holds, ?_⟩
      have wellFormed := built.wellFormed_inputs instruction blocks holds
      have present := accepted.hasFourth blocks holds
      exact Dense.kernel_error_of_hasFourth workers (instruction.call blocks) wellFormed present
        error computed
  | unbound blocks block other holds computed refused =>
      cases failed
      rcases store.eq_outOfMemory_of_bind _ _ _ refused with ⟨shortage, same⟩
      cases same
  | bound blocks block after holds computed bound => cases failed

/-- If all inputs hold matrices, the shapes, the code and the room decide what is answered. -/
theorem answersFor_of_ends
    (held : ∀ name ∈ instruction.acquiredNames, (store.matrix? name).isSome = true) :
    ∃ blocks, instruction.Holds store blocks ∧
      instruction.AnswersFor workers blocks outcome := by
  have faulty : ∀ blocks, instruction.Holds store blocks →
      ((∃ error, Dense.kernel workers (instruction.call blocks) = .error error) ↔
        ¬Dense.ShapesFit blocks ∨
          (∃ error, workers.pool? instruction.threads blocks.weighted.cellCount =
            .error error) ∨
          ∃ code, instruction.operator.unaryCode? = some code ∧
            UnaryFunction.ofCode? code = none) := by
    intro blocks holds
    apply Dense.kernel_error_iff workers (instruction.call blocks)
    · exact built.wellFormed_inputs instruction blocks holds
    · exact accepted.hasFourth blocks holds
  cases ends with
  | refused before after name listed _ refused =>
      have name_held := held name (by simp [listed])
      rw [refused] at name_held
      cases name_held
  | failed blocks error holds computed =>
      refine ⟨blocks, holds, ?_, ?_, ?_⟩
      · rw [← faulty blocks holds]
        exact iff_of_true ⟨error, rfl⟩ ⟨error, computed⟩
      · rintro other ⟨⟩
        exact Or.inl ⟨error, rfl⟩
      · rintro reply ⟨⟩
  | unbound blocks block error holds computed refused =>
      rcases store.eq_outOfMemory_of_bind _ _ _ refused with ⟨shortage, rfl⟩
      refine ⟨blocks, holds, ?_, ?_, ?_⟩
      · rw [← faulty blocks holds, computed]
        simp
      · rintro other ⟨⟩
        exact Or.inr ⟨_, shortage, rfl⟩
      · rintro reply ⟨⟩
  | bound blocks block after holds computed bound =>
      refine ⟨blocks, holds, ?_, ?_, ?_⟩
      · rw [← faulty blocks holds, computed]
        simp
      · rintro other ⟨⟩
      · intro reply _
        have resultFor := Dense.resultFor_of_ok workers (instruction.call blocks)
          (built.wellFormed_inputs instruction blocks holds) block computed
        refine ⟨instruction.result block, ?_, instruction.produces_result blocks block resultFor⟩
        rw [store.value?_of_bind _ _ after bound, if_pos rfl]

end Ended

/-- Blocks without a cell that fit each other, because a word does not count the weights. -/
def hollowInputs : Inputs (Block Float) :=
  ⟨.zeros 2 9223372036854775808, .zeros 2 0, .zeros 9223372036854775808 0, none⟩

/-- A store of blocks without a cell, in which no byte is in use. -/
def hollowStore (bound : List (String × Block Float)) : Store Float :=
  ⟨bound.map fun entry => (entry.1, ⟨.matrix entry.2, 0⟩), none, 0⟩

end Instruction

end LowRank
