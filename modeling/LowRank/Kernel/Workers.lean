import LowRank.Kernel.Basic
import LowRank.Settings

/-!
# Workers

A kernel computes on the thread that calls it, or if a computation is large enough in a pool of
threads.  A pool that fills the rows of a result writes each row once, and what it writes does not
depend on the order.  A pool that adds up the values of rows divides the rows in halves, and these
again, for as long as there are threads to be kept busy; each part is added from its first row to
its last one, and the sums of two halves are added.

How a pool divides the rows is up to its threads, and so is whether they can be started at all. Both
are therefore given from outside.
-/

namespace LowRank

/-- How the rows of a sum are divided. -/
inductive Division where
  /-- The rows are added one after another. -/
  | whole
  /-- The first half of the rows, rounded down, and the others are added each by itself. -/
  | halves (first second : Division)
  deriving Repr, DecidableEq, Inhabited

/-- Threads that share a computation. -/
structure Pool where
  division : Nat → Division

/-- What a kernel has to compute with. -/
structure Workers where
  settings : Settings
  /-- The pool of a number of threads, or why it cannot be started. -/
  pool : Nat → Except String Pool

namespace Workers

/--
The pool in which a computation on a number of cells runs.  There is none if the thread hint stands
for a single thread or if there are fewer cells than the threshold.
-/
def pool? (workers : Workers) (hint : Int32) (cells : Nat) : Except KernelError (Option Pool) :=
  let threads := workers.settings.resolveThreads hint
  if threads ≤ 1 ∨ cells < workers.settings.parallelThreshold then .ok none
  else
    match workers.pool threads with
    | .ok pool => .ok (some pool)
    | .error detail => .error (.threadPool detail)

end Workers

end LowRank
