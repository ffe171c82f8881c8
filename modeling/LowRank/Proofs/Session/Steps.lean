import LowRank.Proofs.Session.Outcome

/-!
# Steps of executions

The steps of an execution are a word of a fixed form: the acquisitions, one call of the kernel, the
releases of the same names in the same order, and one binding. A failure cuts the word after the
step that failed. The four ways in which an execution ends are collected in one relation, which
holds of its outcome and of no other one, so that later developments need not look at the execution
itself.
-/

namespace LowRank.Instruction

variable {α : Type} [Cell α]

/-- A call on the matrices that the inputs of an instruction have in a store. -/
structure CallsOn (instruction : Instruction) (store : Store α) (call : Call α) : Prop where
  operator_eq : call.operator = instruction.operator
  weighted : store.matrix? instruction.inputs.weighted.name = some call.inputs.weighted
  left : store.matrix? instruction.inputs.left.name = some call.inputs.left
  right : store.matrix? instruction.inputs.right.name = some call.inputs.right
  isSome_fourth : call.inputs.fourth.isSome = instruction.operator.needsFourth
  fourth : ∀ block, call.inputs.fourth = some block →
    ∃ operand, instruction.inputs.fourth = some operand ∧ store.matrix? operand.name = some block
  out_eq : call.out = { rows := 0, cols := 0, cells := #[] }
  threads_eq : call.threads = instruction.threads

variable (instruction : Instruction) (kernel : Kernel α) (store : Store α)

/-- How an execution ends, by the step that is its last one. -/
inductive Ends : Outcome α → Prop where
  | refused (before after : List String) (name : String)
      (listed : instruction.acquiredNames = before ++ name :: after)
      (held : ∀ earlier ∈ before, (store.matrix? earlier).isSome = true)
      (refused : store.matrix? name = none) :
      Ends
        { reply := .error (store.refusal name)
          store := store.pinned before
          events := (before ++ [name]).map .acquire }
  | failed (blocks : Inputs (Block α)) (error : KernelError)
      (holds : instruction.Holds store blocks)
      (failed : kernel (instruction.call blocks) = .error error) :
      Ends
        { reply := .error (.kernel error)
          store := store.pinned instruction.acquiredNames
          events := instruction.acquisitions ++ [.compute (instruction.call blocks)] }
  | unbound (blocks : Inputs (Block α)) (block : Block α) (error : Error)
      (holds : instruction.Holds store blocks)
      (computed : kernel (instruction.call blocks) = .ok block)
      (refused : store.bind instruction.output.name (instruction.result block) = .error error) :
      Ends { reply := .error error, store, events := instruction.steps blocks block }
  | bound (blocks : Inputs (Block α)) (block : Block α) (after : Store α)
      (holds : instruction.Holds store blocks)
      (computed : kernel (instruction.call blocks) = .ok block)
      (bound : store.bind instruction.output.name (instruction.result block) = .ok after) :
      Ends { reply := .ok .done, store := after, events := instruction.steps blocks block }

theorem exists_ends : ∃ outcome, instruction.Ends kernel store outcome := by
  rcases instruction.holds_or_refused store with
    ⟨blocks, holds⟩ | ⟨before, name, after, listed, held, refused⟩
  · cases computed : kernel (instruction.call blocks) with
    | error error => exact ⟨_, .failed blocks error holds computed⟩
    | ok block =>
        cases bound : store.bind instruction.output.name (instruction.result block) with
        | error error => exact ⟨_, .unbound blocks block error holds computed bound⟩
        | ok after => exact ⟨_, .bound blocks block after holds computed bound⟩
  · exact ⟨_, .refused before after name listed held refused⟩

section Perform

variable (nodup : store.boundNames.Nodup)
include nodup

theorem perform_of_ends (outcome : Outcome α) (ends : instruction.Ends kernel store outcome) :
    (Command.execute instruction).perform kernel store = outcome := by
  simp only [Command.perform]
  -- Each way to end has an equation of its own for the execution.
  cases ends with
  | refused before after name listed held refused =>
      rw [instruction.execute_of_refused store kernel before after name nodup listed held refused]
  | failed blocks error holds failed =>
      rw [instruction.execute_of_kernel_error store kernel blocks error nodup holds failed]
  | unbound blocks block error holds computed refused =>
      rw [instruction.execute_of_block store kernel blocks block nodup holds computed]
      simp only [Machine.bind, refused]
      rfl
  | bound blocks block after holds computed bound =>
      rw [instruction.execute_of_block store kernel blocks block nodup holds computed]
      simp only [Machine.bind, bound]
      rfl

theorem ends_perform :
    instruction.Ends kernel store ((Command.execute instruction).perform kernel store) := by
  rcases instruction.exists_ends kernel store with ⟨outcome, ends⟩
  rw [instruction.perform_of_ends kernel store nodup outcome ends]
  exact ends

end Perform

theorem result_of_scalar (block : Block α)
    (scalar : instruction.operator.producesScalar = true) :
    ∃ scalar, instruction.result block = .scalar scalar := by
  rw [result, if_pos scalar]
  exact ⟨_, rfl⟩

theorem result_of_matrix (block : Block α)
    (matrix : instruction.operator.producesScalar = false) :
    instruction.result block = .matrix block := by
  rw [result, matrix]
  rfl

theorem eq_of_result_eq_matrix (block matrix : Block α)
    (same : instruction.result block = .matrix matrix) : matrix = block := by
  cases scalar : instruction.operator.producesScalar with
  | true =>
      rcases instruction.result_of_scalar block scalar with ⟨other, held⟩
      rw [held] at same
      cases same
  | false =>
      rw [instruction.result_of_matrix block scalar] at same
      exact (Value.matrix.inj same).symm

theorem Accepted.callsOn {instruction : Instruction} {store : Store α}
    (accepted : instruction.Accepted) (blocks : Inputs (Block α))
    (holds : instruction.Holds store blocks) :
    instruction.CallsOn store (instruction.call blocks) := by
  have isSome_fourth := accepted.isSome_acquired_fourth
  rcases blocks with ⟨weighted, left, right, fourth⟩
  simp only [Holds, Inputs.map, Inputs.mk.injEq] at holds
  rcases holds with ⟨weightedHeld, leftHeld, rightHeld, fourthHeld⟩
  refine ⟨rfl, weightedHeld, leftHeld, rightHeld, ?_, ?_, rfl, rfl⟩
  · have alike := congrArg Option.isSome fourthHeld
    rw [Option.isSome_map, Option.isSome_map, isSome_fourth] at alike
    exact alike.symm
  · rintro block ⟨⟩
    cases needs : instruction.operator.needsFourth with
    | false => simp [acquired, Inputs.keepFourth, needs] at fourthHeld
    | true => simpa [acquired, Inputs.keepFourth, needs] using fourthHeld

/--
The outcomes of executions with their steps. The kernel is called on the matrices of the inputs, and
the value that is bound is a scalar for the squared loss and the cross entropy alone.
-/
theorem perform_execute_eq_iff (accepted : instruction.Accepted)
    (nodup : store.boundNames.Nodup) :
    (∀ outcome, (Command.execute instruction).perform kernel store = outcome ↔
        instruction.Ends kernel store outcome) ∧
      (∀ blocks, instruction.Holds store blocks →
        instruction.CallsOn store (instruction.call blocks)) ∧
      ∀ block : Block α,
        ((∃ scalar, instruction.result block = .scalar scalar) ↔
          instruction.operator.family = .squaredLoss ∨
            instruction.operator.family = .crossEntropy) ∧
        ((∃ scalar, instruction.result block = .scalar scalar) ∨
          instruction.result block = .matrix block) := by
  refine ⟨?_, accepted.callsOn, ?_⟩
  · intro outcome
    constructor
    · rintro rfl
      exact instruction.ends_perform kernel store nodup
    · exact instruction.perform_of_ends kernel store nodup outcome
  · intro block
    rw [← Family.producesScalar_iff]
    cases scalar : instruction.operator.producesScalar with
    | true =>
        have held := instruction.result_of_scalar block scalar
        exact ⟨iff_of_true held scalar, Or.inl held⟩
    | false =>
        have held := instruction.result_of_matrix block scalar
        have noScalar : ¬∃ scalar, instruction.result block = .scalar scalar := by
          rintro ⟨other, same⟩
          rw [held] at same
          cases same
        refine ⟨iff_of_false noScalar ?_, Or.inr held⟩
        exact Bool.not_eq_true _ ▸ scalar

theorem perform_execute_eq_iff_repeated_name :
    ∃ (store : Store Float) (instruction : Instruction) (call : Call Float) (value : Value Float),
      instruction.Accepted ∧ store.boundNames.Nodup ∧ instruction.CallsOn store call ∧
        call.threads = -3 ∧
        ((Command.execute instruction).perform (fun _ => .ok (Block.zeros 1 1)) store).events =
          ["A", "A", "A", "A"].map .acquire ++ [.compute call] ++
            ["A", "A", "A", "A"].map .release ++ [.bind "A" value] := by
  let kernel : Kernel Float := fun _ => .ok (Block.zeros 1 1)
  let block : Block Float := Block.zeros 2 2
  let store : Store Float := ⟨[("A", ⟨.matrix block, 1⟩)], none, 32⟩
  let matrix : Operand := ⟨"A", .unknown, .int, "A"⟩
  let instruction : Instruction :=
    { operator := .squaredLoss .post
      inputs := ⟨matrix, matrix, matrix, some matrix⟩
      output := matrix
      threads := -3
      subtypeField := "POST"
      threadsField := "-3"
      opcode := "wsloss"
      line := "" }
  let blocks : Inputs (Block Float) := ⟨block, block, block, some block⟩
  have accepted : instruction.Accepted :=
    .built instruction.operator instruction.inputs matrix (-3) "wsloss" "" rfl
  have nodup : store.boundNames.Nodup := by decide
  rcases instruction.perform_execute_eq_iff kernel store accepted nodup with
    ⟨ended, calls, _⟩
  have outcome := (ended _).mpr (.bound blocks (Block.zeros 1 1) _ rfl rfl rfl)
  refine ⟨store, instruction, _, instruction.result (Block.zeros 1 1), accepted, nodup,
    calls blocks rfl, rfl, ?_⟩
  exact congrArg Outcome.events outcome

end LowRank.Instruction
