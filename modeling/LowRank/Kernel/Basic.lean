import LowRank.Block.Basic
import LowRank.Error
import LowRank.Inputs

/-!
# Kernels

A kernel computes the result of an operator from the blocks of its inputs.  It also gets a block
whose storage it may use for the result, and the thread count that the instruction asks for.
-/

namespace LowRank

/-- Everything that a kernel is given for one computation. -/
structure Call (α : Type) where
  operator : Operator
  /-- The blocks of the inputs; the fourth is present where the operator consumes it. -/
  inputs : Inputs (Block α)
  /-- A block whose storage may hold the result. -/
  out : Block α
  /-- The thread count of the instruction, unchanged. -/
  threads : Int32
  deriving Repr, DecidableEq

/-- A function from calls to results.  A single number is the cell at row and column zero. -/
abbrev Kernel (α : Type) : Type :=
  Call α → Except KernelError (Block α)

end LowRank
