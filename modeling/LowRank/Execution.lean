import LowRank.Instruction.Basic
import LowRank.Kernel.Basic
import LowRank.Store.Basic

/-!
# Executing instructions

An execution acquires its inputs in order, calls the kernel once, releases what it acquired and
binds the result.  The first failure ends it; what was acquired before a failure stays pinned.  All
steps are recorded, each before it is taken, so that the order of an execution can be observed.
-/

namespace LowRank

inductive Event (α : Type) where
  | acquire (name : String)
  | compute (call : Call α)
  | release (name : String)
  | bind (name : String) (value : Value α)
  deriving Repr, DecidableEq

/-- A store together with the steps that were taken on it. -/
structure Machine (α : Type) where
  store : Store α
  /-- The steps so far, in order. -/
  events : List (Event α)
  deriving Repr, DecidableEq

/-- An action on a machine; a failing action keeps the changes made before the failure. -/
abbrev Action (α β : Type) : Type :=
  EStateM Error (Machine α) β

namespace Machine

variable {α : Type}

/-- A machine that has taken no step yet. -/
def start (store : Store α) : Machine α :=
  { store, events := [] }

/-- The machine after one more recorded step. -/
def record (machine : Machine α) (event : Event α) : Machine α :=
  { machine with events := machine.events ++ [event] }

def acquire (name : String) : Action α (Block α) := fun machine =>
  let recorded := machine.record (.acquire name)
  match machine.store.acquire name with
  | .ok (block, store) => .ok block { recorded with store }
  | .error error => .error error recorded

def compute (kernel : Kernel α) (call : Call α) : Action α (Block α) := fun machine =>
  let recorded := machine.record (.compute call)
  match kernel call with
  | .ok block => .ok block recorded
  | .error error => .error (.kernel error) recorded

def release (name : String) : Action α Unit := fun machine =>
  .ok () { machine.record (.release name) with store := machine.store.release name }

def bind (name : String) (value : Value α) : Action α Unit := fun machine =>
  let recorded := machine.record (.bind name value)
  match machine.store.bind name value with
  | .ok store => .ok () { recorded with store }
  | .error error => .error error recorded

end Machine

namespace Instruction

variable {α : Type} [Cell α]

/-- The call of an instruction's kernel; the result gets a block without cells to start from. -/
def call (instruction : Instruction) (blocks : Inputs (Block α)) : Call α :=
  { operator := instruction.operator
    inputs := blocks
    out := Block.empty
    threads := instruction.threads }

/--
The value that an instruction binds: the block that the kernel computed, or for a scalar operator
its first cell, narrowed to the value type that the output declares.
-/
def result (instruction : Instruction) (block : Block α) : Value α :=
  if instruction.operator.producesScalar then
    .scalar (Scalar.narrow instruction.output.valueType (block.value 0 0))
  else
    .matrix block

def execute (kernel : Kernel α) (instruction : Instruction) : Action α Unit := do
  let names := instruction.acquired.map Operand.name
  let blocks ← names.mapM Machine.acquire
  let block ← Machine.compute kernel (instruction.call blocks)
  names.toList.forM Machine.release
  Machine.bind instruction.output.name (instruction.result block)

end Instruction

end LowRank
