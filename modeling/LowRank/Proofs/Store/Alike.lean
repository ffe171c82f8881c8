import LowRank.Proofs.Store.Consistency

/-!
# Stores that look alike

The variables of a store stand in the order in which their names were bound first, and that order
is never looked at. Two consistent stores with the same values and pins under all names have as many
variables and as many bytes in use.
-/

namespace LowRank.Store

variable {α : Type}

/-- Two stores with the same values and pins under all names and with the same counts. -/
structure Alike (left right : Store α) : Prop where
  value?_eq : ∀ name, left.value? name = right.value? name
  pins_eq : ∀ name, left.pins name = right.pins name
  size_eq : left.size = right.size
  used_eq : left.used = right.used

section Values

variable (left right : Store α) (values : ∀ name, left.value? name = right.value? name)
include values

theorem boundNames_perm (leftNodup : left.boundNames.Nodup) (rightNodup : right.boundNames.Nodup) :
    left.boundNames.Perm right.boundNames := by
  rw [List.perm_ext_iff_of_nodup leftNodup rightNodup]
  intro name
  rw [← not_iff_not, ← value?_eq_none_iff, ← value?_eq_none_iff, values]

theorem alike_of_values (leftConsistent : left.Consistent) (rightConsistent : right.Consistent)
    (pins : ∀ name, left.pins name = right.pins name) : left.Alike right := by
  have names := left.boundNames_perm right values leftConsistent.nodup rightConsistent.nodup
  have bytes : left.bytesOf = right.bytesOf := by
    funext name
    rw [bytesOf, bytesOf, values]
  refine ⟨values, pins, ?_, ?_⟩
  · have count := names.length_eq
    simpa [boundNames, size] using count
  · rw [leftConsistent.used_eq_sum, rightConsistent.used_eq_sum, bytes]
    exact (names.map right.bytesOf).sum_nat

end Values

end LowRank.Store
