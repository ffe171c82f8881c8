import LowRank.Proofs.Store.Views

/-!
# Consistent stores

The bytes in use are counted along while variables come and go. In a consistent store no name is
bound twice, the count is the sum over all bound names, it fits a word and it lies within the limit.
Every operation on a consistent store leaves a consistent store, whether it succeeds or fails, and
the subtractions in the count are exact because a bound value never takes more bytes than are in
use.
-/

namespace LowRank.Store

variable {α : Type}

/-- A store that counts the bytes of its variables correctly and within its limit. -/
structure Consistent (store : Store α) : Prop where
  nodup : store.boundNames.Nodup
  used_eq : store.used = bytesOfAll store.bindings
  used_lt : store.used < Word.size
  used_le : ∀ limit, store.limit = some limit → store.used ≤ limit

/-- Why a value does not fit under a name beside the values of the other names. -/
inductive LacksRoom (store : Store α) (name : String) (value : Value α) : Shortage → Prop where
  | uncountable (exceeds : Word.size ≤ store.bytesOfOthers name + value.bytes) :
      LacksRoom store name value .uncountable
  | beyondLimit (countable : store.bytesOfOthers name + value.bytes < Word.size) (limit : Nat)
      (limited : store.limit = some limit)
      (exceeds : limit < store.bytesOfOthers name + value.bytes) :
      LacksRoom store name value (.beyondLimit (store.bytesOfOthers name) limit)

/-- A value fits under a name beside the values of the other names. -/
structure HasRoom (store : Store α) (name : String) (value : Value α) : Prop where
  countable : store.bytesOfOthers name + value.bytes < Word.size
  withinLimit : ∀ limit, store.limit = some limit →
    store.bytesOfOthers name + value.bytes ≤ limit

theorem hasRoom_or_lacksRoom (store : Store α) (name : String) (value : Value α) :
    store.HasRoom name value ∨ ∃ shortage, store.LacksRoom name value shortage := by
  by_cases countable : store.bytesOfOthers name + value.bytes < Word.size
  · by_cases within : ∀ limit, store.limit = some limit →
        store.bytesOfOthers name + value.bytes ≤ limit
    · exact Or.inl ⟨countable, within⟩
    · simp only [Classical.not_forall, Nat.not_le] at within
      rcases within with ⟨limit, limited, exceeds⟩
      exact Or.inr ⟨_, .beyondLimit countable limit limited exceeds⟩
  · exact Or.inr ⟨_, .uncountable (Nat.le_of_not_lt countable)⟩

/-- A store that differs from another one in the value of one name, which keeps its pins. -/
structure Binds (before after : Store α) (name : String) (value : Value α) : Prop where
  value?_eq : ∀ other,
    after.value? other = if other = name then some value else before.value? other
  pins_eq : ∀ other, after.pins other = before.pins other
  used_eq : after.used + before.bytesOf name = before.used + value.bytes
  limit_eq : after.limit = before.limit

theorem withLimit_consistent (limit : Option Nat) :
    (withLimit limit : Store α).Consistent := by
  refine ⟨?_, ?_, Nat.zero_lt_succ _, ?_⟩
  · simp [boundNames, withLimit]
  · simp [bytesOfAll, withLimit]
  · simp [withLimit]

theorem sum_map_filter_add (names : List String) (name : String) (bytes : String → Nat)
    (nodup : names.Nodup) :
    ((names.filter (· != name)).map bytes).sum + (if name ∈ names then bytes name else 0) =
      (names.map bytes).sum := by
  induction names with
  | nil => simp
  | cons first rest ih =>
      rw [List.nodup_cons] at nodup
      rcases nodup with ⟨absent, restNodup⟩
      have restSum := ih restNodup
      by_cases same : first = name
      · subst first
        simp only [absent, if_false] at restSum
        simp
        omega
      · have different : name ≠ first := fun equal => same equal.symm
        simp [same, different]
        omega

theorem sum_bytesOf_boundNames (store : Store α) (nodup : store.boundNames.Nodup) :
    (store.boundNames.map store.bytesOf).sum = bytesOfAll store.bindings := by
  rw [bytesOfAll, boundNames, List.map_map]
  congr 1
  apply List.map_congr_left
  intro entry entry_mem
  have found := lookup_of_mem store.bindings entry nodup entry_mem
  simp [bytesOf, value?, entry?, found]

namespace Consistent

variable {store : Store α} (consistent : store.Consistent)
include consistent

theorem used_eq_sum : store.used = (store.boundNames.map store.bytesOf).sum := by
  rw [consistent.used_eq, store.sum_bytesOf_boundNames consistent.nodup]

/-- The bytes in use are those of one name and those of the others. -/
theorem bytesOfOthers_add (name : String) :
    store.bytesOfOthers name + store.bytesOf name = store.used := by
  have split := sum_map_filter_add store.boundNames name store.bytesOf consistent.nodup
  rw [consistent.used_eq_sum, ← split, bytesOfOthers]
  by_cases bound : name ∈ store.boundNames
  · simp [bound]
  · simp [bound, store.bytesOf_of_unbound name bound]

theorem bytesOf_le (name : String) : store.bytesOf name ≤ store.used := by
  have := consistent.bytesOfOthers_add name
  omega

theorem used_sub_bytesOf (name : String) :
    store.used - store.bytesOf name = store.bytesOfOthers name := by
  have := consistent.bytesOfOthers_add name
  omega

theorem bind_of_hasRoom (name : String) (value : Value α) (room : store.HasRoom name value) :
    store.bind name value = .ok (store.rebound name value (store.bytesOfOthers name)) := by
  have fits := (store.shortage?_eq_none_iff _ _).mpr ⟨room.countable, room.withinLimit⟩
  simp only [bind, consistent.used_sub_bytesOf, fits]

theorem bind_of_lacksRoom (name : String) (value : Value α) (shortage : Shortage)
    (lacks : store.LacksRoom name value shortage) :
    store.bind name value = .error (.outOfMemory name value.bytes shortage) := by
  have short : store.shortage? (store.bytesOfOthers name) value.bytes = some shortage := by
    cases lacks with
    | uncountable exceeds => exact store.shortage?_eq_uncountable _ _ exceeds
    | beyondLimit countable limit limited exceeds =>
        exact store.shortage?_eq_beyondLimit _ _ countable limit limited exceeds
  simp only [bind, consistent.used_sub_bytesOf, short]

theorem hasRoom_of_bind (name : String) (value : Value α) (after : Store α)
    (bound : store.bind name value = .ok after) : store.HasRoom name value := by
  rcases store.hasRoom_or_lacksRoom name value with room | ⟨shortage, lacks⟩
  · exact room
  · rw [consistent.bind_of_lacksRoom name value shortage lacks] at bound
    cases bound

theorem rebound_consistent (name : String) (value : Value α)
    (room : store.HasRoom name value) :
    (store.rebound name value (store.bytesOfOthers name)).Consistent := by
  refine ⟨?_, ?_, room.countable, room.withinLimit⟩
  · exact nodup_map_fst_put name _ store.bindings consistent.nodup
  · have total := bytesOfAll_put name ⟨value, store.pins name⟩ store.bindings
    have others := consistent.bytesOfOthers_add name
    rw [consistent.used_eq] at others
    simp only [bytesOf, value?, entry?, Option.map_map, Function.comp_def] at others
    change store.bytesOfOthers name + value.bytes = _
    change _ = _ + value.bytes at total
    simp only [rebound]
    omega

theorem rebound_binds (name : String) (value : Value α) :
    store.Binds (store.rebound name value (store.bytesOfOthers name)) name value := by
  refine ⟨?_, ?_, ?_, rfl⟩
  · exact store.value?_rebound name value _
  · exact store.pins_rebound name value _
  · have others := consistent.bytesOfOthers_add name
    simp only [rebound]
    omega

theorem bind_consistent (name : String) (value : Value α) (after : Store α)
    (bound : store.bind name value = .ok after) : after.Consistent := by
  have room := consistent.hasRoom_of_bind name value after bound
  rw [consistent.bind_of_hasRoom name value room] at bound
  cases bound
  exact consistent.rebound_consistent name value room

theorem repinned_consistent (name : String) (value : Value α) (pins pins' : Nat)
    (found : store.entry? name = some ⟨value, pins⟩) :
    { store with bindings := put name ⟨value, pins'⟩ store.bindings : Store α }.Consistent := by
  refine ⟨?_, ?_, consistent.used_lt, consistent.used_le⟩
  · exact nodup_map_fst_put name _ store.bindings consistent.nodup
  · have total := bytesOfAll_put name ⟨value, pins'⟩ store.bindings
    simp only [Store.entry?] at found
    simp only [found, Option.map_some, Option.getD_some] at total
    have used := consistent.used_eq
    simp only
    omega

theorem release_consistent (name : String) : (store.release name).Consistent := by
  simp only [release]
  split
  · exact consistent
  · rename_i found
    exact consistent.repinned_consistent name _ _ _ found

theorem remove_consistent (name : String) : (store.remove name).2.Consistent := by
  have nodup : (store.remove name).2.boundNames.Nodup := by
    rw [boundNames_remove]
    exact consistent.nodup.filter _
  have used_lt := consistent.used_lt
  refine ⟨nodup, ?_, ?_, ?_⟩
  · rw [used_remove, consistent.used_sub_bytesOf, ← sum_bytesOf_boundNames _ nodup,
      boundNames_remove, bytesOfOthers]
    congr 1
    apply List.map_congr_left
    intro other other_mem
    have different : other ≠ name := by simpa using (List.mem_filter.mp other_mem).2
    simp [bytesOf, value?, entry?_remove, different]
  · rw [used_remove]
    omega
  · intro limit limited
    rw [limit_remove] at limited
    rw [used_remove]
    have := consistent.used_le limit limited
    omega

end Consistent

end LowRank.Store
