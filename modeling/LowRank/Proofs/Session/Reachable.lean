import LowRank.Proofs.Execution.Course
import LowRank.Session

/-!
# The stores of a session

A session begins with an empty store and carries out commands, some of which fail. Every store that
it reaches is consistent, because each command changes a store in one of four ways, all of which
keep it consistent. An execution is no fifth way: it leaves pins on some of its inputs, or if it
gets that far it binds its result on the store that it started from.
-/

namespace LowRank

variable {α : Type}

namespace Store

/-- The ways in which a command changes a store. It leaves it as it is with no pins added. -/
inductive Changes (store : Store α) : Store α → Prop where
  | pinned (names : List String) : Changes store (store.pinned names)
  | bound (name : String) (value : Value α) (after : Store α)
      (bound : store.bind name value = .ok after) : Changes store after
  | released (name : String) : Changes store (store.release name)
  | removed (name : String) : Changes store (store.remove name).2

namespace Changes

theorem refl (store : Store α) : store.Changes store := by
  have unpinned : store.Changes (store.pinned []) := .pinned []
  rwa [pinned_nil] at unpinned

variable {store after : Store α} (changes : store.Changes after)
include changes

theorem consistent (consistent : store.Consistent) : after.Consistent := by
  cases changes with
  | pinned names => exact consistent.pinned_consistent names
  | bound name value _ bound => exact consistent.bind_consistent name value after bound
  | released name => exact consistent.release_consistent name
  | removed name => exact consistent.remove_consistent name

theorem limit_eq : after.limit = store.limit := by
  cases changes with
  | pinned names => rfl
  | bound name value _ bound => exact store.limit_of_bind name value after bound
  | released name => exact store.limit_release name
  | removed name => exact store.limit_remove name

end Changes

end Store

namespace Command

variable [Cell α] (kernel : Kernel α) (store : Store α)

/-- An execution leaves its store with more pins, or with its result bound. -/
theorem changes_perform_execute (instruction : Instruction) (nodup : store.boundNames.Nodup) :
    store.Changes ((Command.execute instruction).perform kernel store).store := by
  simp only [perform]
  rcases instruction.holds_or_refused store with
    ⟨blocks, holds⟩ | ⟨before, name, after, listed, held, refused⟩
  · cases computed : kernel (instruction.call blocks) with
    | error error =>
        rw [instruction.execute_of_kernel_error store kernel blocks error nodup holds computed]
        exact .pinned _
    | ok block =>
        rw [instruction.execute_of_block store kernel blocks block nodup holds computed]
        simp only [Machine.bind]
        cases bound : store.bind instruction.output.name (instruction.result block) with
        | error error => exact .refl store
        | ok after => exact .bound _ _ after bound
  · rw [instruction.execute_of_refused store kernel before after name nodup listed held refused]
    exact .pinned _

theorem changes_perform (command : Command α) (nodup : store.boundNames.Nodup) :
    store.Changes (command.perform kernel store).store := by
  cases command with
  | bind name value =>
      simp only [perform]
      cases bound : store.bind name value with
      | error error => exact .refl store
      | ok after => exact .bound name value after bound
  | remove name => exact .removed name
  | acquire name =>
      simp only [perform]
      cases held : store.matrix? name with
      | none =>
          rw [store.acquire_of_not_matrix name held]
          exact .refl store
      | some block =>
          rw [store.acquire_of_matrix? name block nodup held]
          exact .pinned [name]
  | release name => exact .released name
  | execute instruction => exact changes_perform_execute kernel store instruction nodup

theorem perform_consistent (command : Command α) (consistent : store.Consistent) :
    (command.perform kernel store).store.Consistent :=
  (command.changes_perform kernel store consistent.nodup).consistent consistent

theorem limit_perform (command : Command α) (consistent : store.Consistent) :
    (command.perform kernel store).store.limit = store.limit :=
  (command.changes_perform kernel store consistent.nodup).limit_eq

end Command

namespace Store

variable [Cell α]

/--
The stores that a session reaches from an empty store with the given limit. Each execution may have
a kernel of its own.
-/
inductive Reachable (limit : Option Nat) : Store α → Prop where
  | start : Reachable limit (withLimit limit)
  /-- A command leaves a store, whether it succeeds or fails. -/
  | perform {store : Store α} (kernel : Kernel α) (command : Command α)
      (reachable : Reachable limit store) : Reachable limit (command.perform kernel store).store

namespace Reachable

variable {limit : Option Nat} {store : Store α}

theorem consistent (reachable : store.Reachable limit) : store.Consistent := by
  induction reachable with
  | start => exact withLimit_consistent limit
  | perform kernel command _ ih => exact command.perform_consistent kernel _ ih

theorem of_bind (reachable : store.Reachable limit) (name : String) (value : Value α)
    (after : Store α) (bound : store.bind name value = .ok after) : after.Reachable limit := by
  have next := perform (fun _ => .ok Block.empty) (.bind name value) reachable
  simp only [Command.perform, bound] at next
  exact next

theorem limit_eq (reachable : store.Reachable limit) : store.limit = limit := by
  induction reachable with
  | start => rfl
  | perform kernel command reachable ih =>
      rw [command.limit_perform kernel _ reachable.consistent, ih]

end Reachable

end Store

end LowRank
