import LowRank.Execution

/-!
# Sessions

A session is a sequence of commands on one store: bindings, removals, acquisitions, releases and
executions.  A command that fails does not end the session.
-/

namespace LowRank

inductive Command (α : Type) where
  | bind (name : String) (value : Value α)
  /-- Forgets a name. -/
  | remove (name : String)
  /-- Pins the matrix of a name. -/
  | acquire (name : String)
  /-- Takes a pin from a name. -/
  | release (name : String)
  | execute (instruction : Instruction)
  deriving Repr, DecidableEq

/-- What a command answers when it succeeds. -/
inductive Reply (α : Type) where
  | done
  /-- The matrix that was acquired. -/
  | block (block : Block α)
  /-- The value that was removed, if the name was bound. -/
  | removed (value : Option (Value α))
  deriving Repr, DecidableEq

structure Outcome (α : Type) where
  /-- The answer, or why there is none. -/
  reply : Except Error (Reply α)
  store : Store α
  /-- The steps of an execution, in order. -/
  events : List (Event α)

namespace Command

variable {α : Type} [Cell α]

def perform (kernel : Kernel α) (store : Store α) : Command α → Outcome α
  | .bind name value =>
      match store.bind name value with
      | .ok store => ⟨.ok .done, store, []⟩
      | .error error => ⟨.error error, store, []⟩
  | .remove name =>
      let (value, store) := store.remove name
      ⟨.ok (.removed value), store, []⟩
  | .acquire name =>
      match store.acquire name with
      | .ok (block, store) => ⟨.ok (.block block), store, []⟩
      | .error error => ⟨.error error, store, []⟩
  | .release name => ⟨.ok .done, store.release name, []⟩
  | .execute instruction =>
      match instruction.execute kernel (Machine.start store) with
      | .ok _ machine => ⟨.ok .done, machine.store, machine.events⟩
      | .error error machine => ⟨.error error, machine.store, machine.events⟩

/-- The outcomes of commands that are carried out one after another. -/
def performAll (kernel : Kernel α) (store : Store α) : List (Command α) → List (Outcome α)
  | [] => []
  | command :: rest =>
      let outcome := command.perform kernel store
      outcome :: performAll kernel outcome.store rest

end Command

end LowRank
