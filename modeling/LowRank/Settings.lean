import LowRank.Instruction.Format

/-!
# Settings

What a program can choose about decoding, threads and memory.
-/

namespace LowRank

structure Settings where
  format : Format
  /-- How many threads are used when an instruction asks for none in particular. -/
  defaultThreads : Nat
  /-- From how many cells on a computation is worth more than one thread. -/
  parallelThreshold : Nat
  /-- How many bytes may be bound at most, if there is a limit. -/
  memoryLimit : Option Nat
  deriving Repr, DecidableEq

namespace Settings

/-- The settings that a program has by itself on a machine with some processors. -/
def standard (processors : Nat) : Settings :=
  { format := .standard
    defaultThreads := processors
    parallelThreshold := 10000
    memoryLimit := none }

/--
How many threads a hint stands for: the default for a hint that is not positive, otherwise the hint
itself, but never more than the default and always at least one.
-/
def resolveThreads (settings : Settings) (hint : Int32) : Nat :=
  let most := max settings.defaultThreads 1
  if hint.toInt ≤ 0 then most else min hint.toInt.toNat most

end Settings

end LowRank
