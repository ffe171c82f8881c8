import LowRank.Inputs

/-!
# Inputs as lists

Acting on the inputs of an operator in order is acting on the list of them. Results by position and
results as a list determine each other, because three positions are always filled.
-/

namespace LowRank.Inputs

variable {β γ : Type}

theorem toList_injective (left right : Inputs β) (same : left.toList = right.toList) :
    left = right := by
  rcases left with ⟨weighted, leftFactor, rightFactor, fourth⟩
  rcases right with ⟨weighted', leftFactor', rightFactor', fourth'⟩
  cases fourth <;> cases fourth' <;> simp_all [toList]

theorem length_toList (inputs : Inputs β) :
    inputs.toList.length = if inputs.fourth.isSome then 4 else 3 := by
  cases fourth : inputs.fourth <;> simp [toList, fourth]

theorem toList_mapM {m : Type → Type} [Monad m] [LawfulMonad m] (action : β → m γ)
    (inputs : Inputs β) : toList <$> inputs.mapM action = inputs.toList.mapM action := by
  rcases inputs with ⟨weighted, left, right, fourth⟩
  cases fourth <;> simp [mapM, toList]

@[simp]
theorem map_map {δ : Type} (first : β → γ) (second : γ → δ) (inputs : Inputs β) :
    (inputs.map first).map second = inputs.map fun input => second (first input) := by
  simp [map, Function.comp_def]

/-- The test for a missing fourth input fails if it is there wherever it is needed. -/
theorem needs_and_isNone_fourth (inputs : Inputs β) (needs : Bool)
    (present : needs = true → inputs.fourth.isSome = true) :
    (needs && inputs.fourth.isNone) = false := by
  cases needs with
  | false => rfl
  | true => simpa using present

/-- An action that may fail has results for all inputs exactly when it has one for each. -/
theorem mapM_eq_ok_iff {ε : Type} (action : β → Except ε γ) (inputs : Inputs β)
    (results : Inputs γ) :
    inputs.mapM action = .ok results ↔ inputs.map action = results.map .ok := by
  rcases inputs with ⟨weighted, left, right, fourth⟩
  rcases results with ⟨weighted', left', right', fourth'⟩
  simp only [mapM, map, mk.injEq]
  cases action weighted with
  | error fault => simp [bind, Except.bind]
  | ok weightedResult =>
      cases action left with
      | error fault => simp [bind, Except.bind]
      | ok leftResult =>
          cases action right with
          | error fault => simp [bind, Except.bind]
          | ok rightResult =>
              cases fourth with
              | none => cases fourth' <;> simp [bind, Except.bind, pure, Except.pure]
              | some input =>
                  cases last : action input <;> cases fourth' <;>
                    simp [bind, Except.bind, pure, Except.pure, last]

/-- If an action fails on a list of all inputs and one further, then so do both in sequence. -/
theorem mapM_bind_eq_error {ε δ : Type} (action : β → Except ε γ) (inputs : Inputs β) (last : β)
    (next : Inputs γ → γ → Except ε δ) (fault : ε)
    (failed : (inputs.toList ++ [last]).mapM action = .error fault) :
    (inputs.mapM action >>= fun results => action last >>= next results) = .error fault := by
  rw [List.mapM_append, ← toList_mapM] at failed
  cases first : inputs.mapM action with
  | error other =>
      rw [first] at failed
      cases failed
      rfl
  | ok results =>
      rw [first] at failed
      cases second : action last with
      | error other =>
          simp only [List.mapM_cons, second] at failed
          cases failed
          rfl
      | ok result =>
          simp only [List.mapM_cons, second] at failed
          cases failed

/-- If an action has results on each input, then these are results on the inputs together. -/
theorem exists_map_eq_map {δ : Type} (action : β → δ) (result : γ → δ) (inputs : Inputs β)
    (succeeds : ∀ input ∈ inputs.toList, ∃ value, action input = result value) :
    ∃ values : Inputs γ, inputs.map action = values.map result := by
  rcases inputs with ⟨weighted, left, right, fourth⟩
  rcases succeeds weighted (by simp [toList]) with ⟨weightedValue, weightedResult⟩
  rcases succeeds left (by simp [toList]) with ⟨leftValue, leftResult⟩
  rcases succeeds right (by simp [toList]) with ⟨rightValue, rightResult⟩
  cases fourth with
  | none =>
      refine ⟨⟨weightedValue, leftValue, rightValue, none⟩, ?_⟩
      simp [map, weightedResult, leftResult, rightResult]
  | some input =>
      rcases succeeds input (by simp [toList]) with ⟨value, fourthResult⟩
      refine ⟨⟨weightedValue, leftValue, rightValue, some value⟩, ?_⟩
      simp [map, weightedResult, leftResult, rightResult, fourthResult]

theorem map_congr (first second : β → γ) (inputs : Inputs β)
    (same : ∀ input ∈ inputs.toList, first input = second input) :
    inputs.map first = inputs.map second := by
  rcases inputs with ⟨weighted, left, right, fourth⟩
  have weightedSame := same weighted (by simp [toList])
  have leftSame := same left (by simp [toList])
  have rightSame := same right (by simp [toList])
  cases fourth with
  | none => simp [map, weightedSame, leftSame, rightSame]
  | some input =>
      have fourthSame := same input (by simp [toList])
      simp [map, weightedSame, leftSame, rightSame, fourthSame]

/-- Two actions that succeed alike have the same results for all inputs. -/
theorem map_eq_map_ok_congr {ε ε' : Type} (first : β → Except ε γ) (second : β → Except ε' γ)
    (alike : ∀ input result, first input = .ok result ↔ second input = .ok result)
    (inputs : Inputs β) (results : Inputs γ) :
    inputs.map first = results.map .ok ↔ inputs.map second = results.map .ok := by
  rcases inputs with ⟨weighted, left, right, fourth⟩
  rcases results with ⟨weighted', left', right', fourth'⟩
  cases fourth <;> cases fourth' <;> simp [map, alike]

end LowRank.Inputs
