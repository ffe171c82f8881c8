import LowRank.Block.Text
import LowRank.CommandLine.Report
import LowRank.Execution
import LowRank.Instruction.Decode
import LowRank.Kernel.Dense
import LowRank.Random.Block
import LowRank.Settings

/-!
# Running programs from the command line

A program is a list of instruction lines.  Before each instruction the names that it acquires and
that are not bound yet get random matrices of the shape that their position calls for, each from a
seed of its own.  After each instruction its output is printed.  The first error ends the program;
what was printed before it stays.

The number of processors, the pools of threads and the generator of random numbers are not part of
a program.  They are given by the host that it runs on.
-/

namespace LowRank.CommandLine

/-- The lines that are run when no line is given. -/
def demonstration : List String :=
  ["wsloss,X,U,V,W,loss,POST,1",
    "wdivmm,W,U,V,X,grad,MULT_MINUS_RIGHT,2",
    "wsigmoid,W,U,V,sig,LOG,2",
    "wcemm,X,U,V,ce,BASIC,1",
    "wumm,exp,X,U,V,um,MULT,2"]

/-- How many rows a weighted matrix gets. -/
def seededRows : Nat :=
  6

/-- How many columns a weighted matrix gets. -/
def seededCols : Nat :=
  5

/-- How many columns the factors get. -/
def seededRank : Nat :=
  2

/-- The seed before the first one that is used. -/
def firstSeed : UInt64 :=
  727

/-- The shapes of the positions of an instruction's inputs, in order. -/
def seededShapes : List (Nat × Nat) :=
  [(seededRows, seededCols), (seededRows, seededRank), (seededCols, seededRank),
    (seededRows, seededCols)]

/-- How the cells of a seeded matrix are chosen. -/
def seededSpec (seed : UInt64) : Random.Spec :=
  { min := 0.1, max := 1.0, density := 0.8, seed }

/-- What a program finds where it runs. -/
structure Host (σ : Type) where
  processors : Nat
  /-- The pool of a number of threads, or why it cannot be started. -/
  pool : Nat → Except String Pool
  sampler : Random.Sampler σ

def Host.settings {σ : Type} (host : Host σ) : Settings :=
  .standard host.processors

/-- What the kernel of a program has to compute with. -/
def Host.workers {σ : Type} (host : Host σ) : Workers :=
  { settings := host.settings, pool := host.pool }

/-- A host with one processor, where no pool is ever asked for, and the standard sampler. -/
def Host.single : Host Random.Generator :=
  { processors := 1
    pool := fun threads => .error s!"no pool of {threads} threads"
    sampler := .standard }

/-- What a program carries from line to line. -/
structure Progress where
  store : Store Float
  /-- The seed that was used last. -/
  seed : UInt64

section Run

variable {σ : Type} (host : Host σ)

def Progress.start : Progress :=
  { store := Store.withLimit host.settings.memoryLimit, seed := firstSeed }

/-- Binds a random matrix of the given shape to a name that is not bound yet. -/
def seedName (progress : Progress) (name : String) (shape : Nat × Nat) :
    Except Error Progress :=
  if progress.store.isBound name then .ok progress
  else
    let seed := progress.seed + 1
    match host.sampler.block? (seededSpec seed) shape.1 shape.2 with
    | none => .error (.undrawable name)
    | some block => do
        let store ← progress.store.bind name (.matrix block)
        return { store, seed }

/-- Binds random matrices to the names of an instruction that are not bound yet. -/
def seedInputs (progress : Progress) (instruction : Instruction) : Except Error Progress :=
  (instruction.acquiredNames.zip seededShapes).foldlM
    (fun progress entry => seedName host progress entry.1 entry.2) progress

/-- The line or lines that show a bound value. -/
def bindingText (name : String) : Value Float → String
  | .scalar scalar => s!"{name} = {scalar.text}\n"
  | .matrix block => s!"{name} =\n{block.text}\n"

/-- Runs one line; the text shows the value that its output has afterwards. -/
def runLine (progress : Progress) (line : String) : Except Error (String × Progress) := do
  let instruction ← Instruction.decode host.settings.format line
  let seeded ← seedInputs host progress instruction
  match instruction.execute (Dense.kernel host.workers) (Machine.start seeded.store) with
  | .error error _ => .error error
  | .ok _ machine =>
      let name := instruction.output.name
      let text := ((machine.store.value? name).map (bindingText name)).getD ""
      return (text, { seeded with store := machine.store })

/-- What a program printed, and the error that ended it if there was one. -/
structure Transcript where
  printed : String
  /-- The error that ended the program. -/
  failure : Option Error

/-- Runs lines in order up to the first error. -/
def runLines : Progress → List String → Transcript
  | _, [] => { printed := "", failure := none }
  | progress, line :: rest =>
      match runLine host progress line with
      | .error error => { printed := "", failure := some error }
      | .ok (text, progress) =>
          let others := runLines progress rest
          { others with printed := text ++ others.printed }

/-- The lines that given arguments stand for. -/
def programOf (arguments : List String) : List String :=
  if arguments.isEmpty then demonstration else arguments

def run (arguments : List String) : Transcript :=
  runLines host (Progress.start host) (programOf arguments)

end Run

/-- The exit code of a transcript, one after a failure. -/
def Transcript.exitCode (transcript : Transcript) : Nat :=
  if transcript.failure.isSome then 1 else 0

/-- The text on the error channel, one line after a failure. -/
def Transcript.complaint (transcript : Transcript) : String :=
  match transcript.failure with
  | none => ""
  | some error => s!"Error: {error.report}\n"

end LowRank.CommandLine
