import LowRank.Proofs.Store.Consistency

/-!
# Acquiring and releasing

A sequence of acquisitions adds a pin for every occurrence of a name and changes nothing else. The
store after it is therefore the given one with the occurrences counted in. Releasing the same names
takes away exactly these pins: a release of an acquired name never meets a variable without pins,
whatever pins the variable had before and however often its name occurs.
-/

namespace LowRank.Store

variable {α : Type}

/-- The store with one more pin for each occurrence of a bound name in a list. -/
def pinned (store : Store α) (names : List String) : Store α :=
  { store with
    bindings := store.bindings.map fun entry =>
      (entry.1, { entry.2 with pins := entry.2.pins + names.count entry.1 }) }

/-- A store with the same data as another one and a pin more for each occurrence of a name. -/
structure GainsPins (before after : Store α) (names : List String) : Prop where
  value?_eq : ∀ name, after.value? name = before.value? name
  boundNames_eq : after.boundNames = before.boundNames
  used_eq : after.used = before.used
  limit_eq : after.limit = before.limit
  pins_eq : ∀ name, after.pins name = before.pins name + names.count name

/-- Why the matrix of a name is refused, if it is. -/
def refusal (store : Store α) (name : String) : Error :=
  if store.isBound name then .notMatrix name else .unbound name

section Congr

variable (left right : Store α) (name : String)
  (same : left.value? name = right.value? name)
include same

theorem matrix?_congr : left.matrix? name = right.matrix? name := by
  rw [matrix?, matrix?, same]

theorem refusal_congr : left.refusal name = right.refusal name := by
  have bound : left.isBound name = right.isBound name := by
    simp only [isBound_eq_isSome_value?, same]
  rw [refusal, refusal, bound]

end Congr

section Views

variable (store : Store α) (names : List String)

theorem entry?_pinned (name : String) :
    entry? (store.pinned names) name =
      (store.entry? name).map fun present =>
        { present with pins := present.pins + names.count name } := by
  simp only [Store.entry?, pinned]
  induction store.bindings with
  | nil => rfl
  | cons first rest ih =>
      rcases first with ⟨bound, present⟩
      by_cases same : name = bound
      · simp [same]
      · rw [List.map_cons, lookup_cons_of_ne _ _ _ _ same, lookup_cons_of_ne _ _ _ _ same, ih]

@[simp]
theorem value?_pinned (name : String) : (store.pinned names).value? name = store.value? name := by
  simp [value?, entry?_pinned, Function.comp_def]

@[simp]
theorem matrix?_pinned : (store.pinned names).matrix? = store.matrix? := by
  funext name
  simp [matrix?]

@[simp]
theorem boundNames_pinned : (store.pinned names).boundNames = store.boundNames := by
  simp [boundNames, pinned, Function.comp_def]

@[simp]
theorem isBound_pinned (name : String) :
    (store.pinned names).isBound name = store.isBound name := by
  simp [isBound, entry?_pinned]

@[simp]
theorem refusal_pinned (name : String) :
    (store.pinned names).refusal name = store.refusal name := by
  simp [refusal]

@[simp]
theorem used_pinned : (store.pinned names).used = store.used := rfl

theorem pins_pinned (name : String) (bound : name ∈ store.boundNames ∨ name ∉ names) :
    (store.pinned names).pins name = store.pins name + names.count name := by
  simp only [pins, entry?_pinned, Option.map_map, Function.comp_def]
  cases found : store.entry? name with
  | some present => simp
  | none =>
      rcases bound with name_mem | absent
      · rw [entry?_eq_none_iff] at found
        exact absurd name_mem found
      · simp [List.count_eq_zero_of_not_mem absent]

theorem gainsPins_pinned (bound : ∀ name ∈ names, (store.matrix? name).isSome = true) :
    store.GainsPins (store.pinned names) names := by
  refine ⟨store.value?_pinned names, store.boundNames_pinned names, rfl, rfl, ?_⟩
  intro name
  apply store.pins_pinned names name
  by_cases name_mem : name ∈ names
  · rcases Option.isSome_iff_exists.mp (bound name name_mem) with ⟨block, held⟩
    exact Or.inl (store.mem_boundNames_of_matrix? name block held)
  · exact Or.inr name_mem

@[simp]
theorem pinned_nil : store.pinned [] = store := by
  simp [pinned]

theorem pinned_pinned (others : List String) :
    (store.pinned names).pinned others = store.pinned (names ++ others) := by
  simp [pinned, Function.comp_def, Nat.add_assoc]

end Views

theorem acquire_of_matrix? (store : Store α) (name : String) (block : Block α)
    (nodup : store.boundNames.Nodup) (held : store.matrix? name = some block) :
    store.acquire name = .ok (block, store.pinned [name]) := by
  rw [matrix?_eq_some_iff, value?, Option.map_eq_some_iff] at held
  rcases held with ⟨⟨value, pins⟩, found, rfl⟩
  have changed := put_eq_map name store.bindings
    (fun present => { present with pins := present.pins + 1 }) _ nodup found
  simp only [acquire, found, changed, pinned]
  congr 4
  funext entry
  by_cases same : entry.1 = name
  · simp [same]
  · have different : name ≠ entry.1 := fun equal => same equal.symm
    simp [same, different]

theorem acquire_of_not_matrix (store : Store α) (name : String)
    (refused : store.matrix? name = none) :
    store.acquire name = .error (store.refusal name) := by
  simp only [acquire]
  split
  · rename_i found
    simp [refusal, isBound, found]
  · rename_i found
    simp [refusal, isBound, found]
  · rename_i found
    simp [matrix?, value?, found, Value.block?] at refused

/-- Releasing a name takes away the pin of its first acquisition. -/
theorem release_pinned (store : Store α) (name : String) (rest : List String)
    (nodup : store.boundNames.Nodup) :
    (store.pinned (name :: rest)).release name = store.pinned rest := by
  have pinnedNodup : (store.pinned (name :: rest)).boundNames.Nodup := by
    rwa [boundNames_pinned]
  simp only [release]
  cases found : entry? (store.pinned (name :: rest)) name with
  | none =>
      rw [entry?_eq_none_iff, boundNames_pinned] at found
      simp only [pinned]
      congr 1
      apply List.map_congr_left
      intro entry entry_mem
      have different : name ≠ entry.1 := by
        rintro rfl
        exact found (List.mem_map.mpr ⟨entry, entry_mem, rfl⟩)
      simp [different]
  | some present =>
      have changed := put_eq_map name (store.pinned (name :: rest)).bindings
        (fun present => { present with pins := present.pins - 1 }) present pinnedNodup found
      simp only [changed]
      simp only [pinned, List.map_map]
      congr 1
      apply List.map_congr_left
      intro entry _
      by_cases same : entry.1 = name
      · simp [same, Nat.add_sub_assoc]
      · have different : name ≠ entry.1 := fun equal => same equal.symm
        simp [same, List.count_cons, different]

theorem Consistent.pinned_consistent {store : Store α} (consistent : store.Consistent)
    (names : List String) : (store.pinned names).Consistent := by
  refine ⟨?_, ?_, consistent.used_lt, consistent.used_le⟩
  · rw [boundNames_pinned]
    exact consistent.nodup
  · rw [used_pinned, consistent.used_eq]
    simp [bytesOfAll, pinned, Function.comp_def]

end LowRank.Store
