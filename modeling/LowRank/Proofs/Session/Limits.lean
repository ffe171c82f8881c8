import LowRank.Proofs.Session.Effects
import LowRank.Proofs.Store.Alike
import Mathlib.Data.List.Forall2

/-!
# Sessions under different limits

The limit of a store is looked at in one place, before a value is bound. Two sessions of the same
commands, the second one under a larger limit or under none, therefore go the same way until the
first one runs out of memory.

The proof carries along that the two stores differ in their limits and in nothing else. A command
that does not run out of memory under the smaller limit preserves this, because a binding that fits
under it fits under the larger one.
-/

namespace LowRank

variable {α : Type}

/-- The second limit allows at least as much as the first one; no limit allows everything. -/
def LimitLe (limit larger : Option Nat) : Prop :=
  ∀ bytes, larger = some bytes → ∃ fewer, limit = some fewer ∧ fewer ≤ bytes

namespace Store

/-- The store with another limit. -/
def limitedTo (store : Store α) (limit : Option Nat) : Store α :=
  { store with limit }

section LimitedTo

variable (store : Store α) (larger : Option Nat)

@[simp]
theorem limitedTo_withLimit (limit : Option Nat) :
    (withLimit limit : Store α).limitedTo larger = withLimit larger := rfl

theorem alike_limitedTo : store.Alike (store.limitedTo larger) :=
  ⟨fun _ => rfl, fun _ => rfl, rfl, rfl⟩

@[simp]
theorem release_limitedTo (name : String) :
    (store.limitedTo larger).release name = (store.release name).limitedTo larger := by
  simp only [release, limitedTo, Store.entry?]
  split <;> rfl

@[simp]
theorem remove_limitedTo (name : String) :
    (store.limitedTo larger).remove name =
      ((store.remove name).1, (store.remove name).2.limitedTo larger) := by
  simp only [remove, limitedTo, Store.value?, Store.entry?]
  split <;> rfl

theorem acquire_limitedTo (name : String) :
    (store.limitedTo larger).acquire name =
      (store.acquire name).map fun acquired => (acquired.1, acquired.2.limitedTo larger) := by
  simp only [acquire, limitedTo, Store.entry?]
  split <;> rfl

theorem bind_limitedTo (name : String) (value : Value α) (after : Store α)
    (le : LimitLe store.limit larger) (bound : store.bind name value = .ok after) :
    (store.limitedTo larger).bind name value = .ok (after.limitedTo larger) := by
  rw [bind_eq_ok_iff, shortage?_eq_none_iff] at bound
  rcases bound with ⟨⟨countable, within⟩, rfl⟩
  rw [bind_eq_ok_iff, shortage?_eq_none_iff]
  refine ⟨⟨countable, ?_⟩, rfl⟩
  intro bytes limited
  rcases le bytes limited with ⟨fewer, smaller, fewer_le⟩
  exact Nat.le_trans (within fewer smaller) fewer_le

end LimitedTo

end Store

namespace Outcome

/-- The outcome with another limit on its store. -/
def limitedTo (outcome : Outcome α) (limit : Option Nat) : Outcome α :=
  { outcome with store := outcome.store.limitedTo limit }

/-- Two outcomes with the same reply, the same steps and stores that look alike. -/
structure Alike (first second : Outcome α) : Prop where
  reply_eq : first.reply = second.reply
  events_eq : first.events = second.events
  store : first.store.Alike second.store

theorem alike_limitedTo (outcome : Outcome α) (limit : Option Nat) :
    outcome.Alike (outcome.limitedTo limit) :=
  ⟨rfl, rfl, outcome.store.alike_limitedTo limit⟩

end Outcome

variable [Cell α] (kernel : Kernel α) (store : Store α) (larger : Option Nat)

section Step

variable (le : LimitLe store.limit larger)
include le

theorem Instruction.Ends.limitedTo {instruction : Instruction} {outcome : Outcome α}
    (ends : instruction.Ends kernel store outcome) (room : ¬outcome.OutOfMemory) :
    instruction.Ends kernel (store.limitedTo larger) (outcome.limitedTo larger) := by
  cases ends with
  | refused before after name listed held refused =>
      exact .refused before after name listed held refused
  | failed blocks error holds failed => exact .failed blocks error holds failed
  | unbound blocks block error holds computed refused =>
      rcases store.eq_outOfMemory_of_bind _ _ error refused with ⟨shortage, rfl⟩
      exact absurd ⟨_, _, shortage, rfl⟩ room
  | bound blocks block after holds computed bound =>
      have boundAgain := store.bind_limitedTo larger _ _ after le bound
      exact .bound blocks block _ holds computed boundAgain

/-- A command that does not run out of memory does the same under a larger limit. -/
theorem Command.perform_limitedTo (command : Command α) (nodup : store.boundNames.Nodup)
    (room : ¬(command.perform kernel store).OutOfMemory) :
    command.perform kernel (store.limitedTo larger) =
      (command.perform kernel store).limitedTo larger := by
  cases command with
  | bind name value =>
      simp only [perform] at room ⊢
      cases bound : store.bind name value with
      | error error =>
          -- A binding is refused for lack of room alone.
          rcases store.eq_outOfMemory_of_bind name value error bound with ⟨shortage, rfl⟩
          simp only [bound] at room
          exact absurd ⟨_, _, shortage, rfl⟩ room
      | ok after =>
          simp only [store.bind_limitedTo larger name value after le bound]
          rfl
  | remove name =>
      simp only [perform, Store.remove_limitedTo]
      rfl
  | acquire name =>
      simp only [perform, Store.acquire_limitedTo]
      cases store.acquire name <;> rfl
  | release name =>
      simp only [perform, Store.release_limitedTo]
      rfl
  | execute instruction =>
      have ends := instruction.ends_perform kernel store nodup
      apply instruction.perform_of_ends kernel (store.limitedTo larger) nodup
      exact ends.limitedTo kernel store larger le room

end Step

namespace Command

@[simp]
theorem length_performAll (commands : List (Command α)) :
    (performAll kernel store commands).length = commands.length := by
  induction commands generalizing store with
  | nil => rfl
  | cons command rest ih => simp [performAll, ih]

/-- The run lemma: the limit stays the only difference for as long as there is room. -/
theorem performAll_limitedTo (commands : List (Command α)) (count : Nat)
    (consistent : store.Consistent) (le : LimitLe store.limit larger)
    (room : ∀ outcome ∈ (performAll kernel store commands).take count, ¬outcome.OutOfMemory) :
    (performAll kernel (store.limitedTo larger) commands).take count =
      ((performAll kernel store commands).take count).map (·.limitedTo larger) := by
  induction commands generalizing store count with
  | nil => simp [performAll]
  | cons command rest ih =>
      cases count with
      | zero => simp
      | succ count =>
          simp only [performAll, List.take_succ_cons, List.map_cons, List.forall_mem_cons] at room ⊢
          have performed :=
            command.perform_limitedTo kernel store larger le consistent.nodup room.1
          have following := ih (command.perform kernel store).store count
            (command.perform_consistent kernel store consistent)
            (by rwa [command.limit_perform kernel store consistent]) room.2
          simp only [performed, Outcome.limitedTo, following]

/--
Under a larger limit a session goes the same way, at least up to the first command that runs out of
memory under the smaller one: the same replies, the same steps, and stores that look alike. If none
does, then the whole session is the same.
-/
theorem performAll_alike_of_limitLe (commands : List (Command α)) (limit larger : Option Nat)
    (le : LimitLe limit larger) :
    (∀ count,
        (∀ outcome ∈ (performAll kernel (.withLimit limit) commands).take count,
          ¬outcome.OutOfMemory) →
        List.Forall₂ Outcome.Alike ((performAll kernel (.withLimit limit) commands).take count)
          ((performAll kernel (.withLimit larger) commands).take count)) ∧
      ((∀ outcome ∈ performAll kernel (.withLimit limit) commands, ¬outcome.OutOfMemory) →
        List.Forall₂ Outcome.Alike (performAll kernel (.withLimit limit) commands)
          (performAll kernel (.withLimit larger) commands)) := by
  have alike (count : Nat)
      (room : ∀ outcome ∈ (performAll kernel (.withLimit limit) commands).take count,
        ¬outcome.OutOfMemory) :
      List.Forall₂ Outcome.Alike ((performAll kernel (.withLimit limit) commands).take count)
        ((performAll kernel (.withLimit larger) commands).take count) := by
    have same := performAll_limitedTo kernel (.withLimit limit) larger commands count
      (Store.withLimit_consistent limit) le room
    rw [Store.limitedTo_withLimit] at same
    rw [same, List.forall₂_map_right_iff, List.forall₂_same]
    intro outcome _
    exact outcome.alike_limitedTo larger
  refine ⟨alike, ?_⟩
  intro room
  have whole := alike commands.length
  simp only [List.take_of_length_le, length_performAll, Nat.le_refl] at whole
  exact whole room

theorem performAll_alike_of_limitLe_refused :
    ∃ (kernel : Kernel Float) (commands : List (Command Float)),
      (performAll kernel (.withLimit (some 40)) commands).map Outcome.reply =
          [.ok .done, .error (.kernel (.unknownFunction "gamma")), .ok .done,
            .ok (.removed (some (.scalar (.boolean true)))),
            .error (.outOfMemory "B" 48 (.beyondLimit 0 40))] ∧
        (performAll kernel (.withLimit (some 48)) commands).map Outcome.reply =
          [.ok .done, .error (.kernel (.unknownFunction "gamma")), .ok .done,
            .ok (.removed (some (.scalar (.boolean true)))), .ok .done] ∧
        List.Forall₂ Outcome.Alike ((performAll kernel (.withLimit (some 40)) commands).take 4)
          ((performAll kernel (.withLimit (some 48)) commands).take 4) := by
  let kernel : Kernel Float := fun _ => .error (.unknownFunction "gamma")
  let commands : List (Command Float) :=
    [.bind "A" (.matrix (Block.zeros 2 2)),
      .execute (Instruction.onNames (.sigmoid ⟨false, false⟩) ⟨"A", "A", "A", none⟩ "B"),
      .bind "A" (.scalar (.boolean true)), .remove "A", .bind "B" (.matrix (Block.zeros 2 3))]
  have le : LimitLe (some 40) (some 48) := by
    rintro bytes ⟨⟩
    exact ⟨40, rfl, by omega⟩
  have alike := (performAll_alike_of_limitLe kernel commands (some 40) (some 48) le).1 4
  refine ⟨kernel, commands, ?_, ?_, alike ?_⟩
  · rfl
  · rfl
  · simp only [commands, performAll, List.take_succ_cons, List.take_zero, List.forall_mem_cons]
    refine ⟨?_, ?_, ?_, ?_, by simp⟩
    all_goals
      rintro ⟨name, needed, shortage, ranOut⟩
      cases ranOut

end Command

end LowRank
