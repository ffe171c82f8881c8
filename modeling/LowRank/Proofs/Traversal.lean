/-!
# Traversals that may fail

Lists are traversed by steps that may fail, and by loops whose steps may fail. A traversal in which
no step fails is a plain one: it maps, or it folds. A traversal in which some step has no result
ends at the first of them.
-/

namespace LowRank

theorem Except.bind_eq_ok_iff {ε β γ : Type} (first : Except ε β) (next : β → Except ε γ)
    (result : γ) :
    first >>= next = .ok result ↔ ∃ middle, first = .ok middle ∧ next middle = .ok result := by
  cases first with
  | error fault => simp [bind, Except.bind]
  | ok middle => simp [bind, Except.bind]

theorem ok_bind {β γ ε : Type} (result : β) (next : β → Except ε γ) :
    (Except.ok result >>= next) = next result := rfl

theorem mapM_eq_ok_map {β γ ε : Type} (action : β → Except ε γ) (result : β → γ) (listed : List β)
    (succeeds : ∀ item ∈ listed, action item = .ok (result item)) :
    listed.mapM action = .ok (listed.map result) := by
  induction listed with
  | nil => rfl
  | cons first rest ih =>
      have firstResult := succeeds first List.mem_cons_self
      have others := ih fun item item_mem => succeeds item (List.mem_cons_of_mem first item_mem)
      rw [List.mapM_cons, firstResult, others]
      rfl

theorem mapM_eq_error_of_first {β γ ε : Type} (action : β → Except ε γ) (before after : List β)
    (item : β) (fault : ε) (succeed : ∀ earlier ∈ before, ∃ result, action earlier = .ok result)
    (failed : action item = .error fault) :
    (before ++ item :: after).mapM action = .error fault := by
  induction before with
  | nil =>
      rw [List.nil_append, List.mapM_cons, failed]
      rfl
  | cons first rest ih =>
      rcases succeed first List.mem_cons_self with ⟨result, firstResult⟩
      have others :=
        ih fun earlier earlier_mem => succeed earlier (List.mem_cons_of_mem _ earlier_mem)
      rw [List.cons_append, List.mapM_cons, firstResult, others]
      rfl

/--
A loop that may fail computes what a plain loop does if each of its steps, from a state that stands
for a plain one, succeeds with the state that stands for the next plain one.
-/
theorem foldlM_eq_ok_foldl {β σ τ ε : Type} (step : σ → β → Except ε σ) (next : τ → β → τ)
    (represent : τ → σ) (listed : List β) (start : τ)
    (steps : ∀ item ∈ listed, ∀ state,
      step (represent state) item = .ok (represent (next state item))) :
    listed.foldlM step (represent start) = .ok (represent (listed.foldl next start)) := by
  induction listed generalizing start with
  | nil => rfl
  | cons first rest ih =>
      have firstStep := steps first List.mem_cons_self start
      rw [List.foldlM_cons, firstStep, List.foldl_cons]
      exact ih (next start first) fun item item_mem =>
        steps item (List.mem_cons_of_mem first item_mem)

/-- A loop over functions that changes each value by itself is a loop for each value. -/
theorem foldl_apply {β γ δ : Type} (next : γ → δ → β → δ) (listed : List β) (start : γ → δ)
    (argument : γ) :
    listed.foldl (fun state item argument => next argument (state argument) item) start argument =
      listed.foldl (next argument) (start argument) := by
  induction listed generalizing start with
  | nil => rfl
  | cons first rest ih => exact ih _

theorem zipWith_map_self {β γ δ ε : Type} (combine : γ → δ → ε) (left : β → γ) (right : β → δ)
    (listed : List β) :
    List.zipWith combine (listed.map left) (listed.map right) =
      listed.map fun item => combine (left item) (right item) := by
  rw [List.zipWith_map, List.zipWith_self]

theorem exists_first_none {β γ : Type} (listed : List β) (found : β → Option γ)
    (missing : ∃ item ∈ listed, found item = none) :
    ∃ before item after, listed = before ++ item :: after ∧
      (∀ earlier ∈ before, (found earlier).isSome = true) ∧ found item = none := by
  induction listed with
  | nil => simp at missing
  | cons first rest ih =>
      cases absent : found first with
      | none => exact ⟨[], first, rest, rfl, by simp, absent⟩
      | some result =>
          have missingRest : ∃ item ∈ rest, found item = none := by
            rcases missing with ⟨item, item_mem, item_none⟩
            rcases List.mem_cons.mp item_mem with rfl | rest_mem
            · rw [absent] at item_none
              cases item_none
            · exact ⟨item, rest_mem, item_none⟩
          rcases ih missingRest with ⟨before, item, after, split, held, item_none⟩
          refine ⟨first :: before, item, after, by rw [split]; rfl, ?_, item_none⟩
          intro earlier earlier_mem
          rcases List.mem_cons.mp earlier_mem with rfl | before_mem
          · rw [absent]
            rfl
          · exact held earlier before_mem

theorem all_ok_or_first_error {β γ ε : Type} (action : β → Except ε γ) (listed : List β) :
    (∀ item ∈ listed, ∃ result, action item = .ok result) ∨
      ∃ before item after fault, listed = before ++ item :: after ∧
        (∀ earlier ∈ before, ∃ result, action earlier = .ok result) ∧
        action item = .error fault := by
  induction listed with
  | nil =>
      left
      simp
  | cons first rest ih =>
      cases firstResult : action first with
      | error fault =>
          right
          exact ⟨[], first, rest, fault, rfl, by simp, firstResult⟩
      | ok result =>
          rcases ih with succeed | ⟨before, item, after, fault, split, succeed, failed⟩
          · left
            intro item item_mem
            rcases List.mem_cons.mp item_mem with rfl | rest_mem
            · exact ⟨result, firstResult⟩
            · exact succeed item rest_mem
          · right
            refine ⟨first :: before, item, after, fault, by rw [split]; rfl, ?_, failed⟩
            intro earlier earlier_mem
            rcases List.mem_cons.mp earlier_mem with rfl | before_mem
            · exact ⟨result, firstResult⟩
            · exact succeed earlier before_mem

end LowRank
