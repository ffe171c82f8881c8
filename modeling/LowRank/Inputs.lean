/-!
# The inputs of an operator

Three positions that are always filled and a fourth that may be empty.  The same shape holds
operands, field texts, names and blocks.
-/

namespace LowRank

/-- The inputs of an operator, by position. -/
structure Inputs (β : Type) where
  weighted : β
  left : β
  right : β
  /-- A second matrix of the shape of the weighted one. -/
  fourth : Option β
  deriving Repr, DecidableEq

namespace Inputs

variable {β γ : Type}

/-- The filled positions in order. -/
def toList (inputs : Inputs β) : List β :=
  [inputs.weighted, inputs.left, inputs.right] ++ inputs.fourth.toList

/-- The inputs with a function applied at each filled position. -/
def map (function : β → γ) (inputs : Inputs β) : Inputs γ :=
  { weighted := function inputs.weighted
    left := function inputs.left
    right := function inputs.right
    fourth := inputs.fourth.map function }

/-- The results of an action that is run for each filled position in order. -/
def mapM {m : Type → Type} [Monad m] (action : β → m γ) (inputs : Inputs β) : m (Inputs γ) := do
  let weighted ← action inputs.weighted
  let left ← action inputs.left
  let right ← action inputs.right
  match inputs.fourth with
  | none => return { weighted, left, right, fourth := none }
  | some input =>
      let fourth ← action input
      return { weighted, left, right, fourth := some fourth }

/-- The inputs with the fourth position emptied unless it is kept. -/
def keepFourth (keep : Bool) (inputs : Inputs β) : Inputs β :=
  { inputs with fourth := if keep then inputs.fourth else none }

@[simp]
theorem toList_map (function : β → γ) (inputs : Inputs β) :
    (inputs.map function).toList = inputs.toList.map function := by
  cases h : inputs.fourth <;> simp [map, toList, h]

end Inputs

end LowRank
