import LowRank.Execution
import LowRank.Proofs.Inputs
import LowRank.Proofs.Store.Pinning
import LowRank.Proofs.Traversal

/-!
# The course of an execution

An execution ends in one of four ways: an input is refused, the kernel fails, the result does not
fit, or the result is bound. For each of them this file gives the error, the store and the recorded
steps, all computed from the store at the beginning. Once the kernel has succeeded and the inputs
are released, the store is the one at the beginning again, and the result is bound on that.
-/

namespace LowRank

variable {α : Type}

namespace Machine

section Sequence

variable {β γ : Type} (first : Action α β) (next : β → Action α γ) (machine after : Machine α)

theorem bind_of_ok (result : β) (ended : first machine = .ok result after) :
    (first >>= next) machine = next result after := by
  simp only [Bind.bind, EStateM.bind, ended]

theorem bind_of_error (error : Error) (ended : first machine = .error error after) :
    (first >>= next) machine = .error error after := by
  simp only [Bind.bind, EStateM.bind, ended]

end Sequence

theorem acquire_of_held (name : String) (block : Block α) (machine : Machine α)
    (nodup : machine.store.boundNames.Nodup) (held : machine.store.matrix? name = some block) :
    acquire name machine =
      .ok block
        { store := machine.store.pinned [name], events := machine.events ++ [.acquire name] } := by
  simp only [acquire, machine.store.acquire_of_matrix? name block nodup held, record]

theorem acquire_of_refused (name : String) (machine : Machine α)
    (refused : machine.store.matrix? name = none) :
    acquire name machine =
      .error (machine.store.refusal name)
        { store := machine.store, events := machine.events ++ [.acquire name] } := by
  simp only [acquire, machine.store.acquire_of_not_matrix name refused, record]

theorem mapM_acquire (names : List String) (blocks : List (Block α)) (machine : Machine α)
    (nodup : machine.store.boundNames.Nodup)
    (held : names.map machine.store.matrix? = blocks.map some) :
    names.mapM acquire machine =
      .ok blocks
        { store := machine.store.pinned names
          events := machine.events ++ names.map .acquire } := by
  induction names generalizing blocks machine with
  | nil =>
      cases blocks with
      | nil => simp [pure, EStateM.pure]
      | cons block blocks => simp at held
  | cons name rest ih =>
      cases blocks with
      | nil => simp at held
      | cons block blocks =>
          simp only [List.map_cons, List.cons.injEq] at held
          rcases held with ⟨first, others⟩
          have acquired := acquire_of_held name block machine nodup first
          have following := ih blocks
            { store := machine.store.pinned [name], events := machine.events ++ [.acquire name] }
            (by simpa using nodup) (by simpa using others)
          rw [List.mapM_cons, bind_of_ok _ _ _ _ _ acquired, bind_of_ok _ _ _ _ _ following]
          simp [Store.pinned_pinned, pure, EStateM.pure]

theorem mapM_acquire_of_refused (before after : List String) (name : String)
    (machine : Machine α) (nodup : machine.store.boundNames.Nodup)
    (held : ∀ earlier ∈ before, (machine.store.matrix? earlier).isSome)
    (refused : machine.store.matrix? name = none) :
    (before ++ name :: after).mapM acquire machine =
      .error (machine.store.refusal name)
        { store := machine.store.pinned before
          events := machine.events ++ (before ++ [name]).map .acquire } := by
  induction before generalizing machine with
  | nil =>
      have failed := acquire_of_refused name machine refused
      rw [List.nil_append, List.mapM_cons, bind_of_error _ _ _ _ _ failed]
      simp
  | cons first rest ih =>
      rcases Option.isSome_iff_exists.mp (held first List.mem_cons_self) with ⟨block, found⟩
      have acquired := acquire_of_held first block machine nodup found
      have following := ih
        { store := machine.store.pinned [first], events := machine.events ++ [.acquire first] }
        (by simpa using nodup)
        (by
          intro earlier earlier_mem
          simpa using held earlier (List.mem_cons_of_mem first earlier_mem))
        (by simpa using refused)
      rw [List.cons_append, List.mapM_cons, bind_of_ok _ _ _ _ _ acquired,
        bind_of_error _ _ _ _ _ following]
      simp [Store.pinned_pinned]

theorem forM_release (names : List String) (store : Store α) (events : List (Event α))
    (nodup : store.boundNames.Nodup) :
    names.forM release { store := store.pinned names, events } =
      .ok () { store, events := events ++ names.map .release } := by
  induction names generalizing events with
  | nil => simp [pure, EStateM.pure]
  | cons name rest ih =>
      have released : release name { store := store.pinned (name :: rest), events } =
          .ok () { store := store.pinned rest, events := events ++ [.release name] } := by
        simp only [release, store.release_pinned name rest nodup, record]
      have following := ih (events ++ [.release name])
      change (release name >>= fun _ => rest.forM release) _ = _
      rw [bind_of_ok _ _ _ _ _ released]
      simpa using following

end Machine

namespace Instruction

variable (instruction : Instruction) (store : Store α)

/-- The inputs of an execution hold the given blocks. -/
def Holds (blocks : Inputs (Block α)) : Prop :=
  (instruction.acquired.map fun operand => store.matrix? operand.name) = blocks.map some

/-- The steps before the kernel is called. -/
def acquisitions : List (Event α) :=
  instruction.acquiredNames.map .acquire

/-- The steps between the kernel call and the binding of the result. -/
def releases : List (Event α) :=
  instruction.acquiredNames.map .release

/-- Either all inputs of an execution hold blocks, or one of them is the first that does not. -/
theorem holds_or_refused :
    (∃ blocks, instruction.Holds store blocks) ∨
      ∃ before name after, instruction.acquiredNames = before ++ name :: after ∧
        (∀ earlier ∈ before, (store.matrix? earlier).isSome = true) ∧
        store.matrix? name = none := by
  by_cases missing : ∃ name ∈ instruction.acquiredNames, store.matrix? name = none
  · exact Or.inr (exists_first_none _ _ missing)
  · left
    apply Inputs.exists_map_eq_map
    intro operand operand_mem
    cases found : store.matrix? operand.name with
    | none => exact absurd ⟨_, List.mem_map_of_mem operand_mem, found⟩ missing
    | some block => exact ⟨block, rfl⟩

theorem toList_names :
    (instruction.acquired.map Operand.name).toList = instruction.acquiredNames := by
  rw [Inputs.toList_map]
  rfl

section Held

variable (blocks : Inputs (Block α)) (holds : instruction.Holds store blocks)
include holds

theorem map_matrix?_of_holds :
    instruction.acquiredNames.map store.matrix? = blocks.toList.map some := by
  rw [← toList_names, ← Inputs.toList_map, ← Inputs.toList_map, Inputs.map_map]
  exact congrArg Inputs.toList holds

theorem isSome_matrix?_of_holds :
    ∀ name ∈ instruction.acquiredNames, (store.matrix? name).isSome = true := by
  intro name name_mem
  have found := List.mem_map_of_mem (f := store.matrix?) name_mem
  rw [instruction.map_matrix?_of_holds store blocks holds] at found
  rcases List.mem_map.mp found with ⟨block, _, same⟩
  rw [← same]
  rfl

theorem holds_congr (other : Store α)
    (same : ∀ name ∈ instruction.acquiredNames, store.value? name = other.value? name) :
    instruction.Holds other blocks := by
  rw [Holds, ← holds]
  apply Inputs.map_congr
  intro operand operand_mem
  symm
  apply Store.matrix?_congr
  exact same operand.name (List.mem_map_of_mem operand_mem)

end Held

theorem mapM_acquire_of_holds (blocks : Inputs (Block α)) (nodup : store.boundNames.Nodup)
    (holds : instruction.Holds store blocks) :
    (instruction.acquired.map Operand.name).mapM Machine.acquire (Machine.start store) =
      .ok blocks
        { store := store.pinned instruction.acquiredNames
          events := instruction.acquisitions } := by
  have held := instruction.map_matrix?_of_holds store blocks holds
  have listed := Machine.mapM_acquire _ blocks.toList (Machine.start store) nodup held
  rw [← toList_names, ← Inputs.toList_mapM, toList_names] at listed
  simp only [Functor.map, EStateM.map, Machine.start, List.nil_append] at listed
  simp only [Machine.start]
  split at listed
  · rename_i found machine acquired
    injection listed with same sameMachine
    rw [acquired, sameMachine, Inputs.toList_injective found blocks same]
    rfl
  · cases listed

variable [Cell α] (kernel : Kernel α)

/-- An execution ends at the first input that is refused. -/
theorem execute_of_refused (before after : List String) (name : String)
    (nodup : store.boundNames.Nodup)
    (listed : instruction.acquiredNames = before ++ name :: after)
    (held : ∀ earlier ∈ before, (store.matrix? earlier).isSome)
    (refused : store.matrix? name = none) :
    instruction.execute kernel (Machine.start store) =
      .error (store.refusal name)
        { store := store.pinned before, events := (before ++ [name]).map .acquire } := by
  have failed := Machine.mapM_acquire_of_refused before after name (Machine.start store) nodup
    held refused
  rw [← listed, ← toList_names, ← Inputs.toList_mapM] at failed
  simp only [Functor.map, EStateM.map, Machine.start, List.nil_append] at failed
  split at failed
  · cases failed
  · rename_i error machine acquired
    injection failed with same sameMachine
    simp only [execute, bind, EStateM.bind, Machine.start, acquired, same, sameMachine]

/-- An execution ends when the kernel fails. -/
theorem execute_of_kernel_error (blocks : Inputs (Block α)) (error : KernelError)
    (nodup : store.boundNames.Nodup) (holds : instruction.Holds store blocks)
    (failed : kernel (instruction.call blocks) = .error error) :
    instruction.execute kernel (Machine.start store) =
      .error (.kernel error)
        { store := store.pinned instruction.acquiredNames
          events := instruction.acquisitions ++ [.compute (instruction.call blocks)] } := by
  have acquired := instruction.mapM_acquire_of_holds store blocks nodup holds
  simp only [execute, bind, EStateM.bind, acquired, Machine.compute, Machine.record, failed]

/-- An execution whose kernel succeeds binds its result on the store that it started from. -/
theorem execute_of_block (blocks : Inputs (Block α)) (block : Block α)
    (nodup : store.boundNames.Nodup) (holds : instruction.Holds store blocks)
    (computed : kernel (instruction.call blocks) = .ok block) :
    instruction.execute kernel (Machine.start store) =
      Machine.bind instruction.output.name (instruction.result block)
        { store
          events := instruction.acquisitions ++ [.compute (instruction.call blocks)] ++
            instruction.releases } := by
  have acquired := instruction.mapM_acquire_of_holds store blocks nodup holds
  have released := Machine.forM_release instruction.acquiredNames store
    (instruction.acquisitions ++ [.compute (instruction.call blocks)]) nodup
  simp only [execute, bind, EStateM.bind, acquired, Machine.compute, Machine.record, computed,
    toList_names, released]
  rfl

end Instruction

end LowRank
