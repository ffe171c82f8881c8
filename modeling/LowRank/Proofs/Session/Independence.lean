import LowRank.Proofs.Session.Effects
import LowRank.Proofs.Store.Alike

/-!
# Independent executions

Two instructions that bind different names, neither of which the other one reads, can be executed in
either order. Each amounts to the same after the other one as alone, and what both leave behind does
not depend on which came first: pins are added up, and only the output of each gets another value.
-/

namespace LowRank

variable {α : Type}

namespace Effect.Leaves

variable {first second : Effect α} {firstOutput secondOutput : String}
  {before between between' after after' : Store α}

/-- Effects on different outputs leave the same values in either order. -/
theorem value?_comm (different : firstOutput ≠ secondOutput)
    (firstAlone : first.Leaves firstOutput before between)
    (secondAfter : second.Leaves secondOutput between after)
    (secondAlone : second.Leaves secondOutput before between')
    (firstAfter : first.Leaves firstOutput between' after') (name : String) :
    after.value? name = after'.value? name := by
  rw [secondAfter.value?_eq, firstAfter.value?_eq]
  by_cases isFirst : name = firstOutput
  · have notSecond : name ≠ secondOutput := fun isSecond => different (isFirst.symm.trans isSecond)
    rw [if_neg notSecond, if_pos isFirst, firstAlone.value?_eq, if_pos isFirst,
      secondAlone.value?_of_ne name notSecond]
  · rw [if_neg isFirst, firstAlone.value?_of_ne name isFirst, secondAlone.value?_eq]

theorem pins_comm (firstAlone : first.Leaves firstOutput before between)
    (secondAfter : second.Leaves secondOutput between after)
    (secondAlone : second.Leaves secondOutput before between')
    (firstAfter : first.Leaves firstOutput between' after') (name : String) :
    after.pins name = after'.pins name := by
  rw [secondAfter.pins_eq, firstAlone.pins_eq, firstAfter.pins_eq, secondAlone.pins_eq]
  omega

end Effect.Leaves

namespace Instruction

variable [Cell α]

/--
An execution that leaves alone what another instruction reads does not change what that instruction
amounts to.
-/
theorem HasEffect.after {instruction other : Instruction} {kernel : Kernel α}
    {store after : Store α} {effect otherEffect : Effect α}
    (hasEffect : instruction.HasEffect kernel store effect)
    (leaves : otherEffect.Leaves other.output.name store after)
    (apart : other.output.name ∉ instruction.acquiredNames) :
    instruction.HasEffect kernel after effect := by
  apply instruction.hasEffect_congr kernel store after effect _ hasEffect
  intro name name_mem
  symm
  apply leaves.value?_of_ne
  rintro rfl
  exact apart name_mem

/--
Instructions with different outputs that do not read the output of each other reply the same in
either order if no execution runs out of memory, and they leave stores that look alike. They may
fail, read the same names, and read their own outputs.
-/
theorem perform_execute_comm (limit : Option Nat) (store : Store α) (kernel : Kernel α)
    (first second : Instruction) (reachable : store.Reachable limit)
    (different : first.output.name ≠ second.output.name)
    (firstApart : first.output.name ∉ second.acquiredNames)
    (secondApart : second.output.name ∉ first.acquiredNames)
    (firstAlone secondAfter secondAlone firstAfter : Outcome α)
    (first_alone : (Command.execute first).perform kernel store = firstAlone)
    (second_after : (Command.execute second).perform kernel firstAlone.store = secondAfter)
    (second_alone : (Command.execute second).perform kernel store = secondAlone)
    (first_after : (Command.execute first).perform kernel secondAlone.store = firstAfter)
    (room : ∀ outcome ∈ [firstAlone, secondAfter, secondAlone, firstAfter],
      ¬outcome.OutOfMemory) :
    firstAlone.reply = firstAfter.reply ∧ secondAfter.reply = secondAlone.reply ∧
      secondAfter.store.Alike firstAfter.store := by
  have firstReachable : firstAlone.store.Reachable limit :=
    first_alone ▸ .perform kernel (.execute first) reachable
  have secondReachable : secondAlone.store.Reachable limit :=
    second_alone ▸ .perform kernel (.execute second) reachable
  rcases first.exists_hasEffect kernel store with ⟨firstEffect, firstHas⟩
  rcases second.exists_hasEffect kernel store with ⟨secondEffect, secondHas⟩
  rcases first.leaves_perform kernel store firstEffect firstAlone reachable.consistent firstHas
    first_alone (room _ (by simp)) with ⟨firstReply, firstLeaves⟩
  rcases second.leaves_perform kernel store secondEffect secondAlone reachable.consistent secondHas
    second_alone (room _ (by simp)) with ⟨secondReply, secondLeaves⟩
  -- After the other instruction each of them has the effect that it has alone.
  rcases second.leaves_perform kernel firstAlone.store secondEffect secondAfter
    firstReachable.consistent (secondHas.after firstLeaves firstApart) second_after
    (room _ (by simp)) with ⟨secondReplyAfter, secondLeavesAfter⟩
  rcases first.leaves_perform kernel secondAlone.store firstEffect firstAfter
    secondReachable.consistent (firstHas.after secondLeaves secondApart) first_after
    (room _ (by simp)) with ⟨firstReplyAfter, firstLeavesAfter⟩
  refine ⟨?_, ?_, ?_⟩
  · rw [firstReply, firstReplyAfter]
  · rw [secondReplyAfter, secondReply]
  · have secondAfterReachable : secondAfter.store.Reachable limit :=
      second_after ▸ .perform kernel (.execute second) firstReachable
    have firstAfterReachable : firstAfter.store.Reachable limit :=
      first_after ▸ .perform kernel (.execute first) secondReachable
    apply Store.alike_of_values
    · exact firstLeaves.value?_comm different secondLeavesAfter secondLeaves firstLeavesAfter
    · exact secondAfterReachable.consistent
    · exact firstAfterReachable.consistent
    · exact firstLeaves.pins_comm secondLeavesAfter secondLeaves firstLeavesAfter

theorem perform_execute_comm_refused :
    ∃ (store : Store Float) (left right : Store Float),
      store.Reachable (some 48) ∧
        (Command.performAll (fun _ => .ok (Block.zeros 1 1)) store
            [.execute (onNames (.sigmoid ⟨false, false⟩) ⟨"A", "A", "s", none⟩ "C"),
              .execute (onNames (.sigmoid ⟨false, false⟩) ⟨"A", "B", "A", none⟩ "B")]).map
            Outcome.reply = [.error (.notMatrix "s"), .ok .done] ∧
        (Command.performAll (fun _ => .ok (Block.zeros 1 1)) store
            [.execute (onNames (.sigmoid ⟨false, false⟩) ⟨"A", "B", "A", none⟩ "B"),
              .execute (onNames (.sigmoid ⟨false, false⟩) ⟨"A", "A", "s", none⟩ "C")]).map
            Outcome.reply = [.ok .done, .error (.notMatrix "s")] ∧
        left.Alike right ∧ left.pins "A" = 2 ∧ right.used = 24 := by
  have reachable : Store.Reachable (some 48) _ :=
    .perform (fun _ => .ok (Block.zeros 1 1)) (.bind "s" (.scalar (.boolean true)))
      (.perform (fun _ => .ok (Block.zeros 1 1)) (.bind "B" (.matrix (Block.zeros 2 2)))
        (.perform (fun _ => .ok (Block.zeros 1 1))
          (.bind "A" (.matrix (Block.zeros 1 1 : Block Float))) .start))
  have commuted := perform_execute_comm (some 48) _ (fun _ => .ok (Block.zeros 1 1))
    (onNames (.sigmoid ⟨false, false⟩) ⟨"A", "A", "s", none⟩ "C")
    (onNames (.sigmoid ⟨false, false⟩) ⟨"A", "B", "A", none⟩ "B")
    reachable (by decide) (by decide) (by decide) _ _ _ _ rfl rfl rfl rfl (by
      simp only [List.mem_cons, List.not_mem_nil, or_false]
      rintro outcome (rfl | rfl | rfl | rfl) ⟨_, _, _, ranOut⟩
      all_goals cases ranOut)
  exact ⟨_, _, _, reachable, rfl, rfl, commuted.2.2, rfl, rfl⟩

end Instruction

end LowRank
