import LowRank.Proofs.Session.Steps

/-!
# Effects of executions

Apart from the room for its result, an execution depends on the values of its inputs only. What it
amounts to is an error with some names left acquired, or a value for its output. This effect of an
instruction gives the reply and the store of an execution that does not run out of memory.
-/

namespace LowRank

/-- What an execution amounts to if there is room for its result. -/
inductive Effect (α : Type) where
  /-- It stops at an error with some names acquired. -/
  | stops (error : Error) (acquired : List String)
  /-- It binds a value to its output. -/
  | binds (value : Value α)

/-- The result of an execution did not fit. -/
def Outcome.OutOfMemory {α : Type} (outcome : Outcome α) : Prop :=
  ∃ name needed shortage, outcome.reply = .error (.outOfMemory name needed shortage)

namespace Effect

variable {α : Type}

def reply : Effect α → Except Error (Reply α)
  | .stops error _ => .error error
  | .binds _ => .ok .done

/-- The names that are still acquired at the end. -/
def acquired : Effect α → List String
  | .stops _ acquired => acquired
  | .binds _ => []

def value? : Effect α → Option (Value α)
  | .stops _ _ => none
  | .binds value => some value

/-- What an effect makes of a store, by the values and the pins of all names. -/
structure Leaves (effect : Effect α) (output : String) (before after : Store α) : Prop where
  value?_eq : ∀ name, after.value? name =
    if name = output then effect.value?.or (before.value? name) else before.value? name
  pins_eq : ∀ name, after.pins name = before.pins name + effect.acquired.count name

theorem Leaves.value?_of_ne {effect : Effect α} {output : String} {before after : Store α}
    (leaves : effect.Leaves output before after) (name : String) (different : name ≠ output) :
    after.value? name = before.value? name := by
  rw [leaves.value?_eq, if_neg different]

theorem stops_leaves (error : Error) (names : List String) (output : String) (store : Store α)
    (held : ∀ name ∈ names, (store.matrix? name).isSome = true) :
    (stops error names).Leaves output store (store.pinned names) := by
  have gains := store.gainsPins_pinned names held
  refine ⟨?_, gains.pins_eq⟩
  intro name
  rw [gains.value?_eq]
  exact (ite_self _).symm

end Effect

namespace Instruction

/-- An instruction on one thread whose operands are names without types. -/
def onNames (operator : Operator) (names : Inputs String) (output : String) : Instruction :=
  { operator
    inputs := names.map fun name => ⟨name, .unknown, .unknown, name⟩
    output := ⟨output, .unknown, .unknown, output⟩
    threads := 1
    subtypeField := operator.subtype
    threadsField := "1"
    opcode := operator.family.opcode
    line := "" }

variable {α : Type} [Cell α] (instruction : Instruction) (kernel : Kernel α) (store : Store α)

/-- What the execution of an instruction in a store amounts to. -/
inductive HasEffect : Effect α → Prop where
  | refused (before after : List String) (name : String)
      (listed : instruction.acquiredNames = before ++ name :: after)
      (held : ∀ earlier ∈ before, (store.matrix? earlier).isSome = true)
      (refused : store.matrix? name = none) :
      HasEffect (.stops (store.refusal name) before)
  | failed (blocks : Inputs (Block α)) (error : KernelError)
      (holds : instruction.Holds store blocks)
      (failed : kernel (instruction.call blocks) = .error error) :
      HasEffect (.stops (.kernel error) instruction.acquiredNames)
  | computed (blocks : Inputs (Block α)) (block : Block α)
      (holds : instruction.Holds store blocks)
      (computed : kernel (instruction.call blocks) = .ok block) :
      HasEffect (.binds (instruction.result block))

theorem exists_hasEffect : ∃ effect, instruction.HasEffect kernel store effect := by
  rcases instruction.exists_ends kernel store with ⟨_, ends⟩
  cases ends with
  | refused before after name listed held refused =>
      exact ⟨_, .refused before after name listed held refused⟩
  | failed blocks error holds failed => exact ⟨_, .failed blocks error holds failed⟩
  | unbound blocks block error holds computed _ => exact ⟨_, .computed blocks block holds computed⟩
  | bound blocks block after holds computed _ => exact ⟨_, .computed blocks block holds computed⟩

theorem HasEffect.acquired_held {instruction : Instruction} {kernel : Kernel α} {store : Store α}
    {effect : Effect α} (hasEffect : instruction.HasEffect kernel store effect) :
    ∀ name ∈ effect.acquired, (store.matrix? name).isSome = true := by
  cases hasEffect with
  | refused before after name listed held refused => exact held
  | failed blocks error holds failed => exact instruction.isSome_matrix?_of_holds store blocks holds
  | computed blocks block holds computed =>
      intro name name_mem
      cases name_mem

theorem hasEffect_congr (other : Store α) (effect : Effect α)
    (same : ∀ name ∈ instruction.acquiredNames, store.value? name = other.value? name)
    (hasEffect : instruction.HasEffect kernel store effect) :
    instruction.HasEffect kernel other effect := by
  cases hasEffect with
  | refused before after name listed held refused =>
      have name_mem : name ∈ instruction.acquiredNames := by simp [listed]
      rw [Store.refusal_congr store other name (same name name_mem)]
      apply HasEffect.refused before after name listed
      · intro earlier earlier_mem
        have listed_mem : earlier ∈ instruction.acquiredNames := by simp [listed, earlier_mem]
        rw [← Store.matrix?_congr store other earlier (same earlier listed_mem)]
        exact held earlier earlier_mem
      · rw [← Store.matrix?_congr store other name (same name name_mem)]
        exact refused
  | failed blocks error holds failed =>
      exact .failed blocks error (instruction.holds_congr store blocks holds other same) failed
  | computed blocks block holds computed =>
      exact .computed blocks block (instruction.holds_congr store blocks holds other same) computed

/-- An execution that does not run out of memory does what it amounts to. -/
theorem leaves_perform (effect : Effect α) (outcome : Outcome α) (consistent : store.Consistent)
    (hasEffect : instruction.HasEffect kernel store effect)
    (performed : (Command.execute instruction).perform kernel store = outcome)
    (room : ¬outcome.OutOfMemory) :
    outcome.reply = effect.reply ∧
      effect.Leaves instruction.output.name store outcome.store := by
  have ended := instruction.perform_of_ends kernel store consistent.nodup
  have acquired_held := hasEffect.acquired_held
  subst outcome
  cases hasEffect with
  | refused before after name listed held refused =>
      rw [ended _ (.refused before after name listed held refused)]
      exact ⟨rfl, Effect.stops_leaves _ before _ store held⟩
  | failed blocks error holds failed =>
      rw [ended _ (.failed blocks error holds failed)]
      exact ⟨rfl, Effect.stops_leaves _ instruction.acquiredNames _ store acquired_held⟩
  | computed blocks block holds computed =>
      cases bound : store.bind instruction.output.name (instruction.result block) with
      | error error =>
          -- A binding is refused for lack of room alone.
          rw [ended _ (.unbound blocks block error holds computed bound)] at room
          rcases store.eq_outOfMemory_of_bind _ _ error bound with ⟨shortage, rfl⟩
          exact absurd ⟨_, _, shortage, rfl⟩ room
      | ok after =>
          rw [ended _ (.bound blocks block after holds computed bound)]
          refine ⟨rfl, ?_, store.pins_of_bind _ _ after bound⟩
          intro name
          rw [store.value?_of_bind _ _ after bound]
          rfl

end Instruction

end LowRank
