import LowRank.Proofs.Session.Effects

/-!
# Repeated executions

An execution that succeeds binds its result on the store that it started from. If its output is none
of its inputs, then a second execution reads the same matrices, computes the same result, and binds
it where it is bound already.
-/

namespace LowRank

variable {α : Type} [Cell α]

/-- A command that changes nothing when it is carried out again can be carried out ever again. -/
theorem Command.performAll_replicate (kernel : Kernel α) (command : Command α)
    (outcome : Outcome α) (count : Nat)
    (again : command.perform kernel outcome.store = outcome) :
    performAll kernel outcome.store (List.replicate count command) =
      List.replicate count outcome := by
  induction count with
  | zero => rfl
  | succ count ih => rw [List.replicate_succ, performAll, again, ih, List.replicate_succ]

namespace Instruction

variable (instruction : Instruction) (kernel : Kernel α) (store : Store α)

section Again

variable (apart : instruction.output.name ∉ instruction.acquiredNames)
include apart

theorem ends_after_bound (outcome : Outcome α) (reply : Reply α)
    (ends : instruction.Ends kernel store outcome) (succeeds : outcome.reply = .ok reply) :
    instruction.Ends kernel outcome.store outcome := by
  cases ends with
  | refused before after name listed held refused => cases succeeds
  | failed blocks error holds failed => cases succeeds
  | unbound blocks block error holds computed refused => cases succeeds
  | bound blocks block after holds computed bound =>
      apply Ends.bound blocks block after _ computed
      · exact store.bind_of_bind _ _ after bound
      · apply instruction.holds_congr store blocks holds
        intro name name_mem
        have different : name ≠ instruction.output.name := by
          rintro rfl
          exact apart name_mem
        rw [store.value?_of_bind _ _ after bound, if_neg different]

theorem perform_execute_again (outcome : Outcome α) (reply : Reply α)
    (consistent : store.Consistent)
    (performed : (Command.execute instruction).perform kernel store = outcome)
    (succeeds : outcome.reply = .ok reply) :
    (Command.execute instruction).perform kernel outcome.store = outcome := by
  have consistentAfter := (Command.execute instruction).perform_consistent kernel store consistent
  have ends := instruction.ends_perform kernel store consistent.nodup
  rw [performed] at consistentAfter ends
  apply instruction.perform_of_ends kernel outcome.store consistentAfter.nodup
  exact instruction.ends_after_bound kernel store apart outcome reply ends succeeds

end Again

/--
An instruction whose output is none of its inputs, and that has been executed with success, has the
same outcome each time that it is executed again: the reply, the steps and the whole store.
-/
theorem performAll_replicate_execute (limit : Option Nat) (outcome : Outcome α) (reply : Reply α)
    (count : Nat) (reachable : store.Reachable limit)
    (apart : instruction.output.name ∉ instruction.acquiredNames)
    (performed : (Command.execute instruction).perform kernel store = outcome)
    (succeeds : outcome.reply = .ok reply) :
    (Command.execute instruction).perform kernel outcome.store = outcome ∧
      Command.performAll kernel store (List.replicate count (.execute instruction)) =
        List.replicate count outcome := by
  have again := instruction.perform_execute_again kernel store apart outcome reply
    reachable.consistent performed succeeds
  refine ⟨again, ?_⟩
  cases count with
  | zero => rfl
  | succ count =>
      have rest := Command.performAll_replicate kernel (.execute instruction) outcome count again
      rw [List.replicate_succ, Command.performAll, performed, rest, List.replicate_succ]

theorem performAll_replicate_execute_full :
    ∃ (store : Store Float) (outcome : Outcome Float),
      store.Reachable (some 24) ∧ store.pins "B" = 1 ∧ outcome.reply = .ok .done ∧
        outcome.store.used = 24 ∧ outcome.store.pins "B" = 1 ∧
        Command.performAll (fun _ => .ok (Block.zeros 1 2)) store
            (List.replicate 3
              (.execute (onNames (.sigmoid ⟨false, true⟩) ⟨"A", "A", "A", none⟩ "B"))) =
          List.replicate 3 outcome := by
  have reachable : Store.Reachable (some 24) _ :=
    .perform (fun _ => .ok (Block.zeros 1 2)) (.acquire "B")
      (.perform (fun _ => .ok (Block.zeros 1 2)) (.bind "B" (.matrix (Block.zeros 1 1)))
        (.perform (fun _ => .ok (Block.zeros 1 2))
          (.bind "A" (.matrix (Block.zeros 1 1 : Block Float))) .start))
  have repeated := performAll_replicate_execute
    (onNames (.sigmoid ⟨false, true⟩) ⟨"A", "A", "A", none⟩ "B") (fun _ => .ok (Block.zeros 1 2)) _
    (some 24) _ .done 3 reachable (by decide) rfl rfl
  exact ⟨_, _, reachable, by decide, rfl, rfl, by decide, repeated.2⟩

end Instruction

end LowRank
