import LowRank.Store.Basic
import Mathlib.Algebra.GroupWithZero.Nat

/-!
# What can be seen of a store

A store is observed through the values and the pins of its names, the names that are bound and the
bytes in use. This file says how replacing one variable changes each of these views. The other
developments about stores use these facts and never look at the list of variables again.
-/

namespace LowRank.Store

variable {α : Type}

/-- The bound names, in the order in which they were bound first. -/
def boundNames (store : Store α) : List String :=
  store.bindings.map Prod.fst

/-- The matrix of a name, if the name is bound to one. -/
def matrix? (store : Store α) (name : String) : Option (Block α) :=
  (store.value? name).bind Value.block?

/-- How many bytes listed variables take together. -/
def bytesOfAll (bindings : List (String × Variable α)) : Nat :=
  (bindings.map fun entry => entry.2.value.bytes).sum

/-- How many bytes the bound names other than a given one take together. -/
def bytesOfOthers (store : Store α) (name : String) : Nat :=
  ((store.boundNames.filter (· != name)).map store.bytesOf).sum

theorem lookup_cons_of_ne (name bound : String) (present : Variable α)
    (rest : List (String × Variable α)) (different : name ≠ bound) :
    ((bound, present) :: rest).lookup name = rest.lookup name := by
  simp [List.lookup_cons, beq_false_of_ne different]

theorem mem_boundNames (store : Store α) (name : String) :
    name ∈ store.boundNames ↔ store.isBound name = true := by
  simp only [boundNames, isBound, entry?]
  induction store.bindings with
  | nil => simp
  | cons entry rest ih =>
      rcases entry with ⟨bound, present⟩
      by_cases same : name = bound
      · simp [same]
      · simp [lookup_cons_of_ne _ _ _ _ same, same, ih]

theorem entry?_eq_none_iff (store : Store α) (name : String) :
    store.entry? name = none ↔ name ∉ store.boundNames := by
  rw [mem_boundNames, isBound]
  cases store.entry? name <;> simp

theorem value?_eq_none_iff (store : Store α) (name : String) :
    store.value? name = none ↔ name ∉ store.boundNames := by
  rw [← entry?_eq_none_iff, value?, Option.map_eq_none_iff]

theorem isBound_eq_isSome_value? (store : Store α) (name : String) :
    store.isBound name = (store.value? name).isSome := by
  simp [isBound, value?]

theorem bytesOf_of_unbound (store : Store α) (name : String) (unbound : name ∉ store.boundNames) :
    store.bytesOf name = 0 := by
  rw [bytesOf, (store.value?_eq_none_iff name).mpr unbound]
  rfl

theorem matrix?_eq_some_iff (store : Store α) (name : String) (block : Block α) :
    store.matrix? name = some block ↔ store.value? name = some (.matrix block) := by
  simp only [matrix?]
  cases found : store.value? name with
  | none => simp
  | some value => cases value <;> simp [Value.block?]

theorem mem_boundNames_of_matrix? (store : Store α) (name : String) (block : Block α)
    (held : store.matrix? name = some block) : name ∈ store.boundNames := by
  rw [matrix?_eq_some_iff, value?, Option.map_eq_some_iff] at held
  rcases held with ⟨present, found, _⟩
  rw [mem_boundNames, isBound, found]
  rfl

section Put

variable (name : String) (replacement : Variable α) (bindings : List (String × Variable α))

/-- Replacing a variable changes what is found under its name and under no other one. -/
theorem lookup_put (other : String) :
    (put name replacement bindings).lookup other =
      if other = name then some replacement else bindings.lookup other := by
  induction bindings with
  | nil =>
      by_cases same : other = name
      · simp [put, same]
      · simp [put, lookup_cons_of_ne _ _ _ _ same, same]
  | cons entry rest ih =>
      rcases entry with ⟨bound, present⟩
      by_cases found : bound = name
      · subst bound
        by_cases same : other = name
        · simp [put, same]
        · simp [put, lookup_cons_of_ne _ _ _ _ same, same]
      · by_cases same : other = bound
        · subst other
          simp [put, found]
        · simp [put, found, lookup_cons_of_ne _ _ _ _ same, ih]

theorem put_put :
    put name replacement (put name replacement bindings) = put name replacement bindings := by
  induction bindings with
  | nil => simp [put]
  | cons entry rest ih =>
      rcases entry with ⟨bound, present⟩
      by_cases found : bound = name
      · simp [put, found]
      · simp [put, found, ih]

theorem put_of_lookup (found : bindings.lookup name = some replacement) :
    put name replacement bindings = bindings := by
  induction bindings with
  | nil => simp at found
  | cons entry rest ih =>
      rcases entry with ⟨bound, present⟩
      by_cases same : name = bound
      · subst bound
        have present_eq : present = replacement := by simpa using found
        simp [put, present_eq]
      · have different : bound ≠ name := fun equal => same equal.symm
        rw [lookup_cons_of_ne _ _ _ _ same] at found
        simp [put, different, ih found]

theorem map_fst_put :
    (put name replacement bindings).map Prod.fst =
      if name ∈ bindings.map Prod.fst then bindings.map Prod.fst
      else bindings.map Prod.fst ++ [name] := by
  induction bindings with
  | nil => simp [put]
  | cons entry rest ih =>
      rcases entry with ⟨bound, present⟩
      by_cases found : bound = name
      · simp [put, found]
      · have different : name ≠ bound := fun same => found same.symm
        simp only [put, found, if_false, List.map_cons, ih, List.mem_cons, different, false_or]
        split <;> simp

theorem nodup_map_fst_put (nodup : (bindings.map Prod.fst).Nodup) :
    ((put name replacement bindings).map Prod.fst).Nodup := by
  rw [map_fst_put]
  split
  · exact nodup
  · rename_i absent
    rw [List.nodup_append]
    refine ⟨nodup, by simp, ?_⟩
    intro bound bound_mem added added_mem same
    rw [List.mem_singleton] at added_mem
    subst added_mem
    exact absent (same ▸ bound_mem)

/-- The bytes of a replaced variable leave the total and those of its replacement enter it. -/
theorem bytesOfAll_put :
    bytesOfAll (put name replacement bindings) +
        ((bindings.lookup name).map fun present => present.value.bytes).getD 0 =
      bytesOfAll bindings + replacement.value.bytes := by
  induction bindings with
  | nil => simp [put, bytesOfAll]
  | cons entry rest ih =>
      rcases entry with ⟨bound, present⟩
      by_cases found : bound = name
      · subst bound
        simp [put, bytesOfAll]
        omega
      · have different : name ≠ bound := fun same => found same.symm
        simp only [bytesOfAll] at ih
        simp [put, bytesOfAll, found, lookup_cons_of_ne _ _ _ _ different]
        omega

/-- Where no name is bound twice, changing the variable of a name is changing it wherever it is. -/
theorem put_eq_map (change : Variable α → Variable α) (present : Variable α)
    (nodup : (bindings.map Prod.fst).Nodup) (found : bindings.lookup name = some present) :
    put name (change present) bindings =
      bindings.map fun entry => if entry.1 = name then (entry.1, change entry.2) else entry := by
  induction bindings with
  | nil => simp at found
  | cons entry rest ih =>
      rcases entry with ⟨bound, first⟩
      rw [List.map_cons, List.nodup_cons] at nodup
      rcases nodup with ⟨absent, restNodup⟩
      by_cases same : bound = name
      · subst bound
        have first_eq : first = present := by simpa using found
        have unchanged : ∀ entry ∈ rest, entry.1 ≠ name := by
          intro entry entry_mem same
          exact absent (List.mem_map.mpr ⟨entry, entry_mem, same⟩)
        subst first_eq
        have rest_eq : (rest.map fun entry =>
            if entry.1 = name then (entry.1, change entry.2) else entry) = rest.map id := by
          apply List.map_congr_left
          intro entry entry_mem
          simp [unchanged entry entry_mem]
        rw [List.map_cons, rest_eq]
        simp [put]
      · have different : name ≠ bound := fun equal => same equal.symm
        have foundRest : rest.lookup name = some present := by
          rwa [lookup_cons_of_ne _ _ _ _ different] at found
        simp [put, same, ih restNodup foundRest]

theorem lookup_filter (other : String) :
    (bindings.filter fun entry => entry.1 != name).lookup other =
      if other = name then none else bindings.lookup other := by
  induction bindings with
  | nil => simp
  | cons entry rest ih =>
      rcases entry with ⟨bound, present⟩
      by_cases found : bound = name
      · subst bound
        by_cases same : other = name
        · simpa [same] using ih
        · simpa [lookup_cons_of_ne _ _ _ _ same, same] using ih
      · by_cases same : other = bound
        · subst other
          simp [found]
        · simp [found, lookup_cons_of_ne _ _ _ _ same, ih]

theorem lookup_of_mem (entry : String × Variable α) (nodup : (bindings.map Prod.fst).Nodup)
    (entry_mem : entry ∈ bindings) : bindings.lookup entry.1 = some entry.2 := by
  induction bindings with
  | nil => simp at entry_mem
  | cons first rest ih =>
      rw [List.map_cons, List.nodup_cons] at nodup
      rcases nodup with ⟨absent, restNodup⟩
      rcases List.mem_cons.mp entry_mem with rfl | rest_mem
      · exact List.lookup_cons_self
      · have different : entry.1 ≠ first.1 := by
          intro same
          exact absent (List.mem_map.mpr ⟨entry, rest_mem, same⟩)
        rw [lookup_cons_of_ne _ _ _ _ different]
        exact ih restNodup rest_mem

end Put

section Rebound

variable (store : Store α) (name : String) (value : Value α) (others : Nat)

theorem value?_rebound (other : String) :
    (store.rebound name value others).value? other =
      if other = name then some value else store.value? other := by
  simp only [value?, entry?, rebound, lookup_put]
  split <;> rfl

@[simp]
theorem pins_rebound (other : String) :
    (store.rebound name value others).pins other = store.pins other := by
  simp only [pins, entry?, rebound, lookup_put]
  by_cases same : other = name
  · simp [same]
  · simp [same]

theorem bytesOf_rebound : (store.rebound name value others).bytesOf name = value.bytes := by
  rw [bytesOf, value?_rebound, if_pos rfl]
  rfl

theorem rebound_rebound :
    (store.rebound name value others).rebound name value others =
      store.rebound name value others := by
  have pins := store.pins_rebound name value others name
  simp only [rebound, mk.injEq, and_true] at pins ⊢
  rw [pins]
  exact put_put name _ store.bindings

end Rebound

section Remove

variable (store : Store α) (name : String)

theorem entry?_remove (other : String) :
    entry? (store.remove name).2 other = if other = name then none else store.entry? other := by
  simp only [remove]
  split
  · rename_i unbound
    have absent : store.entry? name = none := by
      rwa [entry?_eq_none_iff, ← value?_eq_none_iff]
    by_cases same : other = name
    · simp [same, absent]
    · simp [same]
  · exact lookup_filter name store.bindings other

theorem boundNames_remove :
    (store.remove name).2.boundNames = store.boundNames.filter (· != name) := by
  simp only [remove]
  split
  · rename_i unbound
    have absent := (store.value?_eq_none_iff name).mp unbound
    symm
    rw [List.filter_eq_self]
    intro other other_mem
    rw [bne_iff_ne]
    rintro rfl
    exact absent other_mem
  · simp only [boundNames, List.filter_map]
    rfl

theorem used_remove : (store.remove name).2.used = store.used - store.bytesOf name := by
  simp only [remove, bytesOf]
  split
  · rename_i unbound
    simp [unbound]
  · rename_i value held
    simp [held]

end Remove

theorem value?_remove (store : Store α) (name other : String) :
    (store.remove name).2.value? other = if other = name then none else store.value? other := by
  simp only [value?, entry?_remove]
  split <;> rfl

theorem pins_remove (store : Store α) (name other : String) :
    (store.remove name).2.pins other = if other = name then 0 else store.pins other := by
  simp only [pins, entry?_remove]
  split <;> rfl

section Repinned

variable (store : Store α) (name : String)

/-- A variable that is replaced by one with the same value is the same to whoever looks it up. -/
theorem value?_repinned (value : Value α) (pins pins' : Nat)
    (found : store.entry? name = some ⟨value, pins⟩) (other : String) :
    value? { store with bindings := put name ⟨value, pins'⟩ store.bindings } other =
      store.value? other := by
  simp only [value?, entry?, lookup_put]
  split
  · rename_i same
    simp only [Store.entry?] at found
    rw [same, found]
    rfl
  · rfl

theorem pins_repinned (value : Value α) (pins : Nat) (other : String) :
    Store.pins { store with bindings := put name ⟨value, pins⟩ store.bindings } other =
      if other = name then pins else store.pins other := by
  simp only [Store.pins, entry?, lookup_put]
  split <;> rfl

theorem pins_of_entry? (value : Value α) (pins : Nat)
    (found : store.entry? name = some ⟨value, pins⟩) : store.pins name = pins := by
  rw [Store.pins, found]
  rfl

theorem value?_release (other : String) :
    (store.release name).value? other = store.value? other := by
  simp only [release]
  split
  · rfl
  · rename_i found
    exact store.value?_repinned name _ _ _ found other

theorem pins_release (other : String) :
    (store.release name).pins other =
      if other = name then store.pins name - 1 else store.pins other := by
  simp only [release]
  split
  · rename_i unbound
    have unpinned : store.pins name = 0 := by
      rw [pins, unbound]
      rfl
    by_cases same : other = name
    · simp [same, unpinned]
    · simp [same]
  · rename_i found
    rw [pins_repinned, store.pins_of_entry? name _ _ found]

/-- There is no pin to be taken from a name without pins. -/
theorem release_of_unpinned (unpinned : store.pins name = 0) : store.release name = store := by
  simp only [release]
  split
  · rfl
  · rename_i value pins found
    have pins_eq : pins = 0 := (store.pins_of_entry? name value pins found).symm.trans unpinned
    subst pins_eq
    rw [put_of_lookup name _ store.bindings found]

theorem value?_of_acquire (block : Block α) (after : Store α)
    (acquired : store.acquire name = .ok (block, after)) (other : String) :
    after.value? other = store.value? other := by
  simp only [acquire] at acquired
  split at acquired
  · cases acquired
  · cases acquired
  · rename_i found
    cases acquired
    exact store.value?_repinned name _ _ _ found other

end Repinned

section Bind

variable (store : Store α) (name : String) (value : Value α) (after : Store α)

theorem bind_eq_ok_iff :
    store.bind name value = .ok after ↔
      store.shortage? (store.used - store.bytesOf name) value.bytes = none ∧
        after = store.rebound name value (store.used - store.bytesOf name) := by
  simp only [bind]
  cases store.shortage? (store.used - store.bytesOf name) value.bytes with
  | none => simp [eq_comm]
  | some shortage => simp

theorem eq_rebound_of_bind (bound : store.bind name value = .ok after) :
    after = store.rebound name value (store.used - store.bytesOf name) :=
  ((store.bind_eq_ok_iff name value after).mp bound).2

theorem value?_of_bind (bound : store.bind name value = .ok after) (other : String) :
    after.value? other = if other = name then some value else store.value? other := by
  rw [store.eq_rebound_of_bind name value after bound]
  exact store.value?_rebound name value _ other

theorem isBound_of_bind (bound : store.bind name value = .ok after) (other : String) :
    after.isBound other = (other == name || store.isBound other) := by
  simp only [isBound_eq_isSome_value?, store.value?_of_bind name value after bound]
  by_cases same : other = name
  · simp [same]
  · simp [same]

theorem pins_of_bind (bound : store.bind name value = .ok after) (other : String) :
    after.pins other = store.pins other := by
  rw [store.eq_rebound_of_bind name value after bound]
  exact store.pins_rebound name value _ other

theorem limit_of_bind (bound : store.bind name value = .ok after) : after.limit = store.limit := by
  rw [store.eq_rebound_of_bind name value after bound]
  rfl

/-- A binding that has been made can be made again, and then it changes nothing. -/
theorem bind_of_bind (bound : store.bind name value = .ok after) :
    after.bind name value = .ok after := by
  have after_eq := store.eq_rebound_of_bind name value after bound
  have limit_eq := store.limit_of_bind name value after bound
  have others : after.used - after.bytesOf name = store.used - store.bytesOf name := by
    rw [after_eq, bytesOf_rebound]
    exact Nat.add_sub_cancel _ _
  have again : after.rebound name value (store.used - store.bytesOf name) = after := by
    rw [after_eq]
    exact store.rebound_rebound name value _
  -- The room is the same as for the first time.
  have room : after.shortage? (store.used - store.bytesOf name) value.bytes =
      store.shortage? (store.used - store.bytesOf name) value.bytes := by
    simp only [shortage?, limit_eq]
  simp only [bind] at bound ⊢
  simp only [others, again, room]
  split at bound
  · rfl
  · cases bound

theorem used_of_bind_le (bound : store.bind name value = .ok after) :
    after.used ≤ store.used + value.bytes := by
  rw [store.eq_rebound_of_bind name value after bound]
  exact Nat.add_le_add_right (Nat.sub_le _ _) _

/-- Without a limit a binding fails only for bytes that a word cannot count. -/
theorem uncountable_of_bind (unlimited : store.limit = none) (error : Error)
    (refused : store.bind name value = .error error) :
    error = .outOfMemory name value.bytes .uncountable ∧
      Word.size ≤ store.used + value.bytes := by
  simp only [bind, shortage?, unlimited] at refused
  split at refused
  · cases refused
  · rename_i short
    split at short
    · cases short
      cases refused
      exact ⟨rfl, by omega⟩
    · cases short

/-- A binding fails for lack of room alone. -/
theorem eq_outOfMemory_of_bind (error : Error) (refused : store.bind name value = .error error) :
    ∃ shortage, error = .outOfMemory name value.bytes shortage := by
  simp only [bind] at refused
  split at refused
  · cases refused
  · cases refused
    exact ⟨_, rfl⟩

end Bind

section Room

variable (store : Store α) (others needed : Nat)

theorem shortage?_eq_none_iff :
    store.shortage? others needed = none ↔
      others + needed < Word.size ∧
        ∀ limit, store.limit = some limit → others + needed ≤ limit := by
  by_cases countable : others + needed < Word.size
  · rw [shortage?, if_neg (by omega)]
    cases store.limit with
    | none => simp [countable]
    | some limit => simp [countable]
  · rw [shortage?, if_pos (by omega)]
    simp [countable]

theorem shortage?_eq_uncountable (uncountable : Word.size ≤ others + needed) :
    store.shortage? others needed = some .uncountable :=
  if_pos uncountable

theorem shortage?_eq_beyondLimit (countable : others + needed < Word.size) (limit : Nat)
    (limited : store.limit = some limit) (exceeds : limit < others + needed) :
    store.shortage? others needed = some (.beyondLimit others limit) := by
  rw [shortage?, if_neg (by omega), limited]
  exact if_pos exceeds

end Room

section Limit

variable (store : Store α) (name : String)

@[simp]
theorem limit_release : (store.release name).limit = store.limit := by
  simp only [release]
  split <;> rfl

@[simp]
theorem used_release : (store.release name).used = store.used := by
  simp only [release]
  split <;> rfl

@[simp]
theorem limit_remove : (store.remove name).2.limit = store.limit := by
  simp only [remove]
  split <;> rfl

end Limit

end LowRank.Store
