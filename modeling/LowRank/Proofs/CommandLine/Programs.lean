import LowRank.Proofs.CommandLine.Shapes
import LowRank.Proofs.Session.Effects
import Mathlib.Data.List.Nodup

/-!
# Running a program

The lines of a program are run one after another until one fails. At the start of each line that is
reached nothing is pinned, every matrix has all its cells, and the seed has been counted on once for
each name that was seeded so far. The line therefore finds or seeds all its inputs, there is room
for what it binds, and it prints what it has bound.

A line adds at most five variables of 288 bytes each, so that there is room as long as 1440 bytes
for each line are not more than a word can count. A program beyond that could not have its matrices
in a memory whose places are words.
-/

namespace LowRank.CommandLine

section Host

variable {σ : Type} (host : Host σ)

/--
How far a program gets: its progress, what it has printed, how many names it has seeded and which
lines are left.
-/
inductive Reaches (program : List String) : Progress → String → Nat → List String → Prop where
  | start : Reaches program (.start host) "" 0 program
  | line (progress after : Progress) (printed text : String) (count : Nat) (line : String)
      (rest : List String) (instruction : Instruction)
      (reached : Reaches program progress printed count (line :: rest))
      (decoded : Instruction.decode .standard line = .ok instruction)
      (ran : runLine host progress line = .ok (text, after)) :
      Reaches program after (printed ++ text)
        (count + (missing progress.store.isBound (positions instruction)).length) rest

/-- What the seeding before an instruction does, when a number of names have been seeded before. -/
structure SeedsMissing (progress : Progress) (count : Nat) (instruction : Instruction)
    (ready : Progress) : Prop where
  kept : ∀ name, progress.store.isBound name = true →
    ready.store.value? name = progress.store.value? name
  pins_eq : ∀ name, ready.store.pins name = progress.store.pins name
  isBound_iff : ∀ name, ready.store.isBound name = true ↔
    progress.store.isBound name = true ∨ name ∈ instruction.acquiredNames
  missing_iff : ∀ name,
    name ∈ (missing progress.store.isBound (positions instruction)).map Prod.fst ↔
      name ∈ instruction.acquiredNames ∧ progress.store.isBound name = false
  nodup : ((missing progress.store.isBound (positions instruction)).map Prod.fst).Nodup
  ordered : (missing progress.store.isBound (positions instruction)).Sublist
    (positions instruction)
  first : ∀ name shape,
    (name, shape) ∈ missing progress.store.isBound (positions instruction) →
      ∃ position : Nat, instruction.acquiredNames[position]? = some name ∧
        [(6, 5), (6, 2), (5, 2), (6, 5)][position]? = some shape ∧
        ∀ earlier < position, instruction.acquiredNames[earlier]? ≠ some name
  drawn : ∀ index name shape,
    (missing progress.store.isBound (positions instruction))[index]? = some (name, shape) →
      ∃ block,
        host.sampler.block?
            { min := 0.1, max := 1.0, density := 0.8, seed := .ofNat (727 + (count + index + 1)) }
            shape.1 shape.2 = some block ∧
          ready.store.value? name = some (.matrix block)

/-- A line that binds a value and prints that one. -/
structure PrintsBound (instruction : Instruction) (ready : Progress) (text : String)
    (after : Progress) (value : Value Float) : Prop where
  executed : ∃ earlier,
    instruction.execute (Dense.kernel host.workers) (Machine.start ready.store) =
      .ok ()
        { store := after.store, events := earlier ++ [.bind instruction.output.name value] }
  held : after.store.value? instruction.output.name = some value
  shows : Shows instruction.output.name value text

theorem first_of_mem_missing (bound : String → Bool) (instruction : Instruction) (name : String)
    (shape : Nat × Nat) (missed : (name, shape) ∈ missing bound (positions instruction)) :
    ∃ position : Nat, instruction.acquiredNames[position]? = some name ∧
      [(6, 5), (6, 2), (5, 2), (6, 5)][position]? = some shape ∧
      ∀ earlier < position, instruction.acquiredNames[earlier]? ≠ some name := by
  rcases eq_append_of_mem_missing bound _ _ missed with ⟨before, after, listed, absent⟩
  have found : (positions instruction)[before.length]? = some (name, shape) := by
    simp [listed]
  rcases List.getElem?_zip_eq_some.mp found with ⟨name_eq, shape_eq⟩
  refine ⟨before.length, name_eq, shape_eq, ?_⟩
  intro earlier earlier_lt same
  rw [← map_fst_positions, listed, List.map_append,
    List.getElem?_append_left (by simpa using earlier_lt)] at same
  exact absent (List.mem_of_getElem? same)

variable {host} in
theorem Seeds.seedsMissing {progress ready : Progress} {instruction : Instruction} {count : Nat}
    (seeds : Seeds host progress (positions instruction) ready)
    (seed_eq : progress.seed = .ofNat (727 + count)) :
    SeedsMissing host progress count instruction ready where
  kept := seeds.kept
  pins_eq := seeds.pins_eq
  isBound_iff name := by
    rw [seeds.isBound_iff, map_fst_positions]
  missing_iff name := by
    rw [mem_map_fst_missing, map_fst_positions]
  nodup := nodup_missing _ _
  ordered := missing_sublist _ _
  first := first_of_mem_missing _ instruction
  drawn index name shape found := by
    have drawn := seeds.drawn index name shape found
    rwa [seed_eq, ← UInt64.ofNat_add, Nat.add_assoc, ← Nat.add_assoc count] at drawn

theorem printsBound_of_bind (instruction : Instruction) (ready : Progress) (after : Store Float)
    (nodup : ready.store.boundNames.Nodup) (blocks : Inputs (Block Float)) (block : Block Float)
    (holds : instruction.Holds ready.store blocks)
    (computed : Dense.kernel host.workers (instruction.call blocks) = .ok block)
    (bound : ready.store.bind instruction.output.name (instruction.result block) = .ok after) :
    PrintsBound host instruction ready
      (bindingText instruction.output.name (instruction.result block)) { ready with store := after }
      (instruction.result block) := by
  have executed := instruction.execute_of_block ready.store (Dense.kernel host.workers) blocks
    block nodup holds computed
  simp only [Machine.bind, bound, Machine.record] at executed
  refine ⟨⟨_, executed⟩, ?_, shows_bindingText _ _⟩
  simp [ready.store.value?_of_bind _ _ after bound]

namespace Reaches

variable {host} {program : List String} {progress : Progress} {printed : String} {count : Nat}
  {rest : List String} (reached : Reaches host program progress printed count rest)
include reached

theorem idle : progress.Idle := by
  induction reached with
  | start => exact idle_start host
  | line progress after printed text count line rest instruction reached decoded ran ih =>
      exact (idle_of_runLine host progress line ih text after ran).1

theorem used_le : progress.store.used + 1440 * rest.length ≤ 1440 * program.length := by
  induction reached with
  | start => exact Nat.le_of_eq (Nat.zero_add _)
  | line progress after printed text count line rest instruction reached decoded ran ih =>
      have used_le := (idle_of_runLine host progress line reached.idle text after ran).2
      rw [List.length_cons] at ih
      omega

theorem seed_eq : progress.seed = .ofNat (727 + count) := by
  induction reached with
  | start => rfl
  | line progress after printed text count line rest instruction reached decoded ran ih =>
      have ends := lineEnds_runLine host progress line reached.idle
      rw [ran] at ends
      cases ends with
      | printed other ready prepared blocks block store holds computed bound =>
          have same : instruction = other := Except.ok.inj (decoded.symm.trans prepared.decoded)
          subst same
          simp only [prepared.seeds.seed_eq, ih, ← UInt64.ofNat_add, Nat.add_assoc]

theorem run_eq :
    runLines host (.start host) program =
      { printed := printed ++ (runLines host progress rest).printed
        failure := (runLines host progress rest).failure } := by
  induction reached with
  | start => simp
  | line progress after printed text count line rest instruction reached decoded ran ih =>
      rw [ih]
      simp only [runLines, ran, String.append_assoc]

end Reaches

theorem endsProgram_of_runLines (drawable : host.Drawable) (progress : Progress)
    (lines : List String) (idle : progress.Idle) (error : Error)
    (failed : (runLines host progress lines).failure = some error) :
    error.EndsProgram (progress.store.used + 1440 * lines.length) := by
  induction lines generalizing progress with
  | nil => cases failed
  | cons line rest ih =>
      simp only [runLines] at failed
      rw [List.length_cons]
      cases ran : runLine host progress line with
      | error other =>
          simp only [ran] at failed
          cases failed
          have ends := endsProgram_of_runLine host progress line idle drawable error ran
          exact ends.of_le (by omega)
      | ok result =>
          rcases result with ⟨text, after⟩
          simp only [ran] at failed
          rcases idle_of_runLine host progress line idle text after ran with
            ⟨afterIdle, used_le⟩
          exact (ih after afterIdle failed).of_le (by omega)

end Host

/-- A program whose first line overwrites one of its inputs, which the second line reads. -/
def overwriting : List String :=
  ["wsigmoid,W,U,V,W,LOG,1", "wdivmm,W,U,T,W,G,MULT_MINUS_LEFT,1"]

end LowRank.CommandLine
