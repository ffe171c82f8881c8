import LowRank.Error
import LowRank.Store.Value

/-!
# The variable store

A store binds names to values and counts, for each name, the acquisitions that have not been
released yet: its pins.  It keeps a running count of the bytes of all bound values in a word, and
refuses a binding that would take the count beyond a word, or beyond the limit of the store if it
has one.  A refused binding leaves the store as it was, and an accepted one keeps the pins of its
name.
-/

namespace LowRank

/-- A bound value with its pins. -/
structure Variable (α : Type) where
  value : Value α
  /-- How many acquisitions are outstanding. -/
  pins : Nat
  deriving Repr, DecidableEq

/-- Named values with a count of their bytes. -/
structure Store (α : Type) where
  /-- The variables by name, in the order in which the names were bound first. -/
  bindings : List (String × Variable α)
  /-- How many bytes may be bound at most, if there is a limit. -/
  limit : Option Nat
  used : Nat
  deriving Repr, DecidableEq

namespace Store

variable {α : Type}

/-- The store without variables. -/
def withLimit (limit : Option Nat) : Store α :=
  { bindings := [], limit, used := 0 }

def entry? (store : Store α) (name : String) : Option (Variable α) :=
  store.bindings.lookup name

def value? (store : Store α) (name : String) : Option (Value α) :=
  (store.entry? name).map Variable.value

/-- The pins of a name, none if the name is unbound. -/
def pins (store : Store α) (name : String) : Nat :=
  ((store.entry? name).map Variable.pins).getD 0

def isBound (store : Store α) (name : String) : Bool :=
  (store.entry? name).isSome

def size (store : Store α) : Nat :=
  store.bindings.length

def isEmpty (store : Store α) : Bool :=
  store.bindings.isEmpty

/-- The variables with the one of a name replaced, or added at the end. -/
def put (name : String) (replacement : Variable α) :
    List (String × Variable α) → List (String × Variable α)
  | [] => [(name, replacement)]
  | (bound, present) :: rest =>
      if bound = name then (bound, replacement) :: rest
      else (bound, present) :: put name replacement rest

/-- How many bytes the value of a name takes, none if the name is unbound. -/
def bytesOf (store : Store α) (name : String) : Nat :=
  ((store.value? name).map Value.bytes).getD 0

/-- The store after a name has got a value, given the bytes of the other variables. -/
def rebound (store : Store α) (name : String) (value : Value α) (others : Nat) : Store α :=
  { store with
    bindings := put name ⟨value, store.pins name⟩ store.bindings
    used := others + value.bytes }

/-- Why some more bytes do not fit beside those of the other variables, if they do not. -/
def shortage? (store : Store α) (others needed : Nat) : Option Shortage :=
  if Word.size ≤ others + needed then some .uncountable
  else
    match store.limit with
    | none => none
    | some limit => if limit < others + needed then some (.beyondLimit others limit) else none

/-- Binds a value to a name, in place of the value that the name has. -/
def bind (store : Store α) (name : String) (value : Value α) : Except Error (Store α) :=
  let others := store.used - store.bytesOf name
  match store.shortage? others value.bytes with
  | none => .ok (store.rebound name value others)
  | some shortage => .error (.outOfMemory name value.bytes shortage)

/-- Pins the matrix of a name and hands it out. -/
def acquire (store : Store α) (name : String) : Except Error (Block α × Store α) :=
  match store.entry? name with
  | none => .error (.unbound name)
  | some ⟨.scalar _, _⟩ => .error (.notMatrix name)
  | some ⟨.matrix block, pins⟩ =>
      .ok (block,
        { store with bindings := put name ⟨.matrix block, pins + 1⟩ store.bindings })

/-- Takes one pin from a name; a name without pins stays as it is. -/
def release (store : Store α) (name : String) : Store α :=
  match store.entry? name with
  | none => store
  | some ⟨value, pins⟩ =>
      { store with bindings := put name ⟨value, pins - 1⟩ store.bindings }

/-- Forgets a name with its pins and hands out its value. -/
def remove (store : Store α) (name : String) : Option (Value α) × Store α :=
  match store.value? name with
  | none => (none, store)
  | some value =>
      (some value,
        { store with
          bindings := store.bindings.filter fun entry => entry.1 != name
          used := store.used - value.bytes })

end Store

end LowRank
