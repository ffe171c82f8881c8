import LowRank.Proofs.Session.Reachable

/-!
# Bytes in use during a session

In every store that a session reaches, the bytes in use are the charges of the bound names added up,
each name counted once and each charge as far as a word counts it, and they do not exceed the limit.
No subtraction in the count is cut off at zero: what a name takes is never more than what is in use.
-/

namespace LowRank

variable {α : Type}

/-- What a value is charged with: eight bytes a cell for a matrix, eight for a single value. -/
def Value.charge : Value α → Nat
  | .matrix block => 8 * block.rows * block.cols
  | .scalar _ => 8

/-- A charge that is too large for a word loses what is above the word. -/
theorem Value.bytes_eq_wrap_charge (value : Value α) : value.bytes = Word.wrap value.charge := by
  cases value with
  | matrix block =>
      simp only [bytes, Block.bytes, Block.cellCount, charge, Word.wrap]
      rw [Nat.mod_mul_mod, Nat.mul_comm _ 8, Nat.mul_assoc]
  | scalar scalar => rfl

namespace Store

/-- What a name is charged with, nothing if it is unbound. -/
def chargeOf (store : Store α) (name : String) : Nat :=
  ((store.value? name).map Value.charge).getD 0

theorem bytesOf_eq_wrap_chargeOf (store : Store α) (name : String) :
    store.bytesOf name = Word.wrap (store.chargeOf name) := by
  rw [bytesOf, chargeOf]
  cases store.value? name with
  | none => rfl
  | some value => exact value.bytes_eq_wrap_charge

variable [Cell α]

/--
The bytes in use are the charges of the bound names, every bound name is counted once, the limit is
kept, and no name takes more bytes than are in use. The last also holds with further pins, that is
between the steps of an execution.
-/
theorem memory_of_reachable (limit : Option Nat) (store : Store α)
    (reachable : store.Reachable limit) :
    (store.used = (store.boundNames.map fun name => Word.wrap (store.chargeOf name)).sum ∧
        ((∀ name ∈ store.boundNames, store.chargeOf name < Word.size) →
          store.used = (store.boundNames.map store.chargeOf).sum)) ∧
      (store.boundNames.Nodup ∧ (∀ name, name ∈ store.boundNames ↔ store.isBound name = true) ∧
        store.size = store.boundNames.length) ∧
      (∀ bytes, limit = some bytes → store.used ≤ bytes) ∧
      ∀ names name, (store.pinned names).bytesOf name ≤ (store.pinned names).used := by
  have consistent := reachable.consistent
  have used_eq : store.used =
      (store.boundNames.map fun name => Word.wrap (store.chargeOf name)).sum := by
    rw [consistent.used_eq_sum]
    congr 1
    apply List.map_congr_left
    intro name _
    exact store.bytesOf_eq_wrap_chargeOf name
  refine ⟨⟨used_eq, ?_⟩, ⟨consistent.nodup, store.mem_boundNames, ?_⟩, ?_, ?_⟩
  · intro countable
    rw [used_eq]
    congr 1
    apply List.map_congr_left
    intro name name_mem
    exact Word.wrap_of_lt (countable name name_mem)
  · rw [boundNames, List.length_map, size]
  · intro bytes limited
    exact consistent.used_le bytes (reachable.limit_eq.trans limited)
  · intro names name
    exact (consistent.pinned_consistent names).bytesOf_le name

theorem memory_of_reachable_refused :
    ∃ store : Store Float,
      store.Reachable (some 64) ∧ store.pins "A" = 1 ∧ store.boundNames = ["A", "s"] ∧
        store.used = 40 ∧ store.used = (store.boundNames.map store.chargeOf).sum ∧
        store.bytesOf "A" ≤ store.used := by
  let kernel : Kernel Float := fun _ => .ok (Block.zeros 1 1)
  have bound : Store.Reachable (some 64) _ :=
    .perform kernel (.bind "s" (.scalar (.boolean true)))
      (.perform kernel (.bind "A" (.matrix (Block.zeros 2 2))) .start)
  have refused : Store.Reachable (some 64) _ :=
    .perform kernel (.bind "A" (.matrix (Block.zeros 3 3)))
      (.perform kernel (.acquire "A") bound)
  have memory := memory_of_reachable (some 64) _ refused
  exact ⟨_, refused, by decide, by decide, by decide, memory.1.2 (by decide),
    by simpa using memory.2.2.2 [] "A"⟩

end Store

end LowRank
