import LowRank.Proofs.Session.Memory

/-!
# Operations on single names

A binding, an acquisition, a release and a removal each concern one name of a store. What they
answer depends on that name, and a binding depends on the room that the other names leave besides;
what they change is the value or the pins of that name. An operation that fails changes nothing.

The room for a binding is computed from the count of bytes in use. It is the room beside the bytes
of the other names only because this count is their sum in every store of a session. There is none
beyond the limit, and none beyond what a word can count.
-/

namespace LowRank

variable {α : Type}

namespace Store

/-- What the bound names other than a given one take together, each as far as a word counts it. -/
def countedOfOthers (store : Store α) (name : String) : Nat :=
  ((store.boundNames.filter (· != name)).map fun other => Word.wrap (store.chargeOf other)).sum

/-- A store with the same values and pins as another one under all names but a given one. -/
structure SameBut (before after : Store α) (name : String) : Prop where
  value?_eq : ∀ other, other ≠ name → after.value? other = before.value? other
  pins_eq : ∀ other, other ≠ name → after.pins other = before.pins other

/-- Why the bytes of some names do not fit beside more bytes under a limit. -/
inductive Exceeds (limit : Option Nat) (others needed : Nat) : Shortage → Prop where
  | uncountable (exceeds : Word.size ≤ others + needed) : Exceeds limit others needed .uncountable
  | beyondLimit (countable : others + needed < Word.size) (bytes : Nat)
      (limited : limit = some bytes) (exceeds : bytes < others + needed) :
      Exceeds limit others needed (.beyondLimit others bytes)

/-- How the binding of a value to a name turns out under a limit. -/
structure BindTurnsOut (store : Store α) (limit : Option Nat) (name : String) (value : Value α)
    (outcome : Outcome α) : Prop where
  fails_iff : (∃ error, outcome.reply = .error error) ↔
    Word.size ≤ store.countedOfOthers name + Word.wrap value.charge ∨
      ∃ bytes, limit = some bytes ∧ bytes < store.countedOfOthers name + Word.wrap value.charge
  of_error : ∀ error, outcome.reply = .error error →
    outcome.store = store ∧ ∃ shortage,
      Exceeds limit (store.countedOfOthers name) (Word.wrap value.charge) shortage ∧
        error = .outOfMemory name (Word.wrap value.charge) shortage
  of_ok : ∀ reply, outcome.reply = .ok reply →
    outcome.store.value? name = some value ∧ outcome.store.pins name = store.pins name ∧
      (store.isBound name = false → outcome.store.pins name = 0) ∧
      outcome.store.used = store.countedOfOthers name + Word.wrap value.charge
  others : store.SameBut outcome.store name

/-- How the acquisition of a name turns out. -/
structure AcquireTurnsOut (store : Store α) (name : String) (outcome : Outcome α) : Prop where
  fails_iff : (∃ error, outcome.reply = .error error) ↔
    store.isBound name = false ∨ ∃ scalar, store.value? name = some (.scalar scalar)
  of_error : ∀ error, outcome.reply = .error error →
    outcome.store = store ∧ error = store.refusal name
  of_ok : ∀ reply, outcome.reply = .ok reply →
    ∃ block, reply = .block block ∧ store.value? name = some (.matrix block) ∧
      outcome.store.value? name = store.value? name ∧
      outcome.store.pins name = store.pins name + 1 ∧ outcome.store.used = store.used
  others : store.SameBut outcome.store name

/-- How the release of a name turns out. -/
structure ReleaseTurnsOut (store : Store α) (name : String) (outcome : Outcome α) : Prop where
  reply_eq : outcome.reply = .ok .done
  of_unpinned : store.pins name = 0 → outcome.store = store
  of_pinned : 0 < store.pins name → outcome.store.pins name + 1 = store.pins name
  value?_eq : outcome.store.value? name = store.value? name
  used_eq : outcome.store.used = store.used
  others : store.SameBut outcome.store name

/-- How the removal of a name turns out. -/
structure RemoveTurnsOut (store : Store α) (name : String) (outcome : Outcome α) : Prop where
  reply_eq : outcome.reply = .ok (.removed (store.value? name))
  isBound_eq : outcome.store.isBound name = false
  pins_eq : outcome.store.pins name = 0
  used_eq : outcome.store.used + Word.wrap (store.chargeOf name) = store.used
  others : store.SameBut outcome.store name

theorem bytesOfOthers_eq_countedOfOthers (store : Store α) (name : String) :
    store.bytesOfOthers name = store.countedOfOthers name := by
  have same : store.bytesOf = fun other => Word.wrap (store.chargeOf other) :=
    funext store.bytesOf_eq_wrap_chargeOf
  rw [bytesOfOthers, countedOfOthers, same]

theorem pins_of_unbound (store : Store α) (name : String) (unbound : store.isBound name = false) :
    store.pins name = 0 := by
  rw [isBound, Option.isSome_eq_false_iff, Option.isNone_iff_eq_none] at unbound
  rw [pins, unbound]
  rfl

namespace SameBut

variable (store : Store α) (name : String)

theorem refl : store.SameBut store name :=
  ⟨fun _ _ => rfl, fun _ _ => rfl⟩

theorem of_binds (value : Value α) (after : Store α) (binds : store.Binds after name value) :
    store.SameBut after name := by
  refine ⟨?_, fun other _ => binds.pins_eq other⟩
  intro other different
  rw [binds.value?_eq, if_neg different]

theorem of_gainsPins (after : Store α) (gains : store.GainsPins after [name]) :
    store.SameBut after name := by
  refine ⟨fun other _ => gains.value?_eq other, ?_⟩
  intro other different
  rw [gains.pins_eq, List.count_eq_zero_of_not_mem (by simpa using different), Nat.add_zero]

theorem of_release : store.SameBut (store.release name) name := by
  refine ⟨fun other _ => store.value?_release name other, ?_⟩
  intro other different
  rw [pins_release, if_neg different]

theorem of_remove : store.SameBut (store.remove name).2 name := by
  refine ⟨?_, ?_⟩
  · intro other different
    rw [value?_remove, if_neg different]
  · intro other different
    rw [pins_remove, if_neg different]

end SameBut

end Store

namespace Command

variable [Cell α] (kernel : Kernel α) (store : Store α) (name : String)

theorem perform_bind_turnsOut (limit : Option Nat) (value : Value α)
    (reachable : store.Reachable limit) :
    store.BindTurnsOut limit name value ((bind name value).perform kernel store) := by
  have consistent := reachable.consistent
  have others_eq := store.bytesOfOthers_eq_countedOfOthers name
  have bytes_eq := value.bytes_eq_wrap_charge
  simp only [perform]
  rcases store.hasRoom_or_lacksRoom name value with room | ⟨shortage, lacks⟩
  · have binds := consistent.rebound_binds name value
    rw [consistent.bind_of_hasRoom name value room]
    rcases room with ⟨countable, within⟩
    rw [others_eq, bytes_eq] at countable within
    refine ⟨?_, ?_, ?_, .of_binds store name value _ binds⟩
    · refine iff_of_false (by simp) ?_
      rintro (exceeds | ⟨bytes, limited, exceeds⟩)
      · exact Nat.not_lt.mpr exceeds countable
      · have enough := within bytes (reachable.limit_eq.trans limited)
        omega
    · rintro error ⟨⟩
    · rintro reply ⟨⟩
      refine ⟨?_, binds.pins_eq name, ?_, ?_⟩
      · rw [binds.value?_eq, if_pos rfl]
      · intro unbound
        rw [binds.pins_eq, store.pins_of_unbound name unbound]
      · rw [← others_eq, ← bytes_eq]
        rfl
  · have exceeds : Store.Exceeds limit (store.countedOfOthers name) (Word.wrap value.charge)
        shortage := by
      rw [← others_eq, ← bytes_eq]
      cases lacks with
      | uncountable exceeds => exact .uncountable exceeds
      | beyondLimit countable bytes limited exceeds =>
          exact .beyondLimit countable bytes (reachable.limit_eq.symm.trans limited) exceeds
    rw [consistent.bind_of_lacksRoom name value shortage lacks, bytes_eq]
    refine ⟨iff_of_true ⟨_, rfl⟩ ?_, ?_, ?_, .refl store name⟩
    · cases exceeds with
      | uncountable exceeds => exact Or.inl exceeds
      | beyondLimit _ bytes limited exceeds => exact Or.inr ⟨bytes, limited, exceeds⟩
    · rintro error ⟨⟩
      exact ⟨rfl, shortage, exceeds, rfl⟩
    · rintro reply ⟨⟩

theorem perform_acquire_turnsOut (nodup : store.boundNames.Nodup) :
    store.AcquireTurnsOut name ((acquire name).perform kernel store) := by
  simp only [perform]
  cases held : store.matrix? name with
  | none =>
      rw [store.acquire_of_not_matrix name held]
      refine ⟨iff_of_true ⟨_, rfl⟩ ?_, ?_, ?_, .refl store name⟩
      · rw [Store.isBound_eq_isSome_value?]
        cases found : store.value? name with
        | none => exact Or.inl rfl
        | some value =>
            cases value with
            | matrix block =>
                rw [(store.matrix?_eq_some_iff name block).mpr found] at held
                cases held
            | scalar scalar => exact Or.inr ⟨scalar, rfl⟩
      · rintro error ⟨⟩
        exact ⟨rfl, rfl⟩
      · rintro reply ⟨⟩
  | some block =>
      have found := (store.matrix?_eq_some_iff name block).mp held
      have gains := store.gainsPins_pinned [name] (by simp [held])
      rw [store.acquire_of_matrix? name block nodup held]
      refine ⟨iff_of_false (by simp) ?_, ?_, ?_, .of_gainsPins store name _ gains⟩
      · simp [Store.isBound_eq_isSome_value?, found]
      · rintro error ⟨⟩
      · rintro reply ⟨⟩
        refine ⟨block, rfl, found, gains.value?_eq name, ?_, gains.used_eq⟩
        rw [gains.pins_eq, List.count_singleton_self]

theorem perform_release_turnsOut :
    store.ReleaseTurnsOut name ((release name).perform kernel store) := by
  refine ⟨rfl, store.release_of_unpinned name, ?_, store.value?_release name name,
    store.used_release name, .of_release store name⟩
  intro pinned
  have pins_eq := store.pins_release name name
  rw [if_pos rfl] at pins_eq
  simp only [perform, pins_eq]
  exact Nat.sub_add_cancel pinned

theorem perform_remove_turnsOut (consistent : store.Consistent) :
    store.RemoveTurnsOut name ((remove name).perform kernel store) := by
  have value?_eq := store.value?_remove name name
  have pins_eq := store.pins_remove name name
  rw [if_pos rfl] at value?_eq pins_eq
  refine ⟨?_, ?_, pins_eq, ?_, .of_remove store name⟩
  · simp only [perform, Store.remove]
    cases found : store.value? name <;> rfl
  · rw [Store.isBound_eq_isSome_value?]
    exact congrArg Option.isSome value?_eq
  · have within := consistent.bytesOf_le name
    simp only [perform, store.used_remove, ← store.bytesOf_eq_wrap_chargeOf]
    exact Nat.sub_add_cancel within

end Command

end LowRank
