import LowRank.Proofs.CommandLine.Seeding
import LowRank.Proofs.Instruction.Grammar

/-!
# Running a line

A line is decoded, its missing inputs are seeded and its instruction is executed. Between two lines
no variable is pinned, every matrix is built and small, and there is no limit on the memory. A line
that starts like this ends in one of a few ways, each of them found in its instruction and the
seeded store, and if it does not fail then the next line starts like this again.

Matrices this small are never worth a pool of threads, and a line adds so few bytes that the bytes
of a program are more than a word can count only after a very great number of lines. Every matrix
has cells of its own, so a memory whose places are words could not hold the matrices of such a
program.
-/

namespace LowRank

/--
The errors that a program on the command line can end with. It runs out of memory only if its bytes,
which are at most the given ones, may be more than a word can count.
-/
inductive Error.EndsProgram (bytes : Nat) : Error → Prop where
  | malformed (line : String) (fault : LineFault) : EndsProgram bytes (.malformed line fault)
  | unknownOpcode (line : String) : EndsProgram bytes (.unknownOpcode line)
  | unknownSubtype (family : Family) (token : String) :
      EndsProgram bytes (.unknownSubtype family token)
  | notMatrix (name : String) : EndsProgram bytes (.notMatrix name)
  | kernel (error : KernelError) : EndsProgram bytes (.kernel error)
  | outOfMemory (name : String) (needed : Nat) (shortage : Shortage)
      (uncountable : Word.size ≤ bytes) : EndsProgram bytes (.outOfMemory name needed shortage)

theorem Error.EndsProgram.of_le {bytes more : Nat} {error : Error}
    (ends : error.EndsProgram bytes) (le : bytes ≤ more) : error.EndsProgram more := by
  cases ends with
  | malformed line fault => exact .malformed line fault
  | unknownOpcode line => exact .unknownOpcode line
  | unknownSubtype family token => exact .unknownSubtype family token
  | notMatrix name => exact .notMatrix name
  | kernel error => exact .kernel error
  | outOfMemory name needed shortage uncountable =>
      exact .outOfMemory name needed shortage (Nat.le_trans uncountable le)

namespace Instruction

theorem Verdict.endsProgram {format : Format} {line : String} {parts : List String}
    {error : Error} (verdict : Verdict format line parts (.error error)) (bytes : Nat) :
    error.EndsProgram bytes := by
  cases verdict <;> constructor

theorem endsProgram_of_decode (format : Format) (line : String) (error : Error)
    (failed : decode format line = .error error) (bytes : Nat) : error.EndsProgram bytes := by
  have nonempty := (format.parts_fields line).nonempty
  rcases exists_verdict format line (format.fields line) nonempty with ⟨result, verdict⟩
  have decoded := decode_of_verdict format line _ rfl result verdict
  rw [failed] at decoded
  subst decoded
  exact verdict.endsProgram bytes

end Instruction

namespace CommandLine

theorem resultShape_le (operator : Operator) (rows cols rank bound : Nat) (positive : 1 ≤ bound)
    (rows_le : rows ≤ bound) (cols_le : cols ≤ bound) (rank_le : rank ≤ bound) :
    (operator.resultShape rows cols rank).1 ≤ bound ∧
      (operator.resultShape rows cols rank).2 ≤ bound := by
  cases operator with
  | squaredLoss kind => exact ⟨positive, positive⟩
  | crossEntropy => exact ⟨positive, positive⟩
  | sigmoid kind => exact ⟨rows_le, cols_le⟩
  | unary kind code => exact ⟨rows_le, cols_le⟩
  | weightedProduct kind =>
      cases kind with
      | basic => exact ⟨rows_le, cols_le⟩
      | sided combination side =>
          cases side with
          | left => exact ⟨cols_le, rank_le⟩
          | right => exact ⟨rows_le, rank_le⟩

/-- What the kernel computes from compact blocks is compact. -/
theorem Compact.of_kernel (workers : Workers) (call : Call Float)
    (compact : ∀ block ∈ call.inputs.toList, Compact block) (block : Block Float)
    (computed : Dense.kernel workers call = .ok block) : Compact block := by
  have built : ∀ block ∈ call.inputs.toList, block.Built :=
    fun block block_mem => (compact block block_mem).built
  have weighted := compact call.inputs.weighted (by simp [Inputs.toList])
  have left := compact call.inputs.left (by simp [Inputs.toList])
  have result := Dense.resultFor_of_ok workers call
    (fun block block_mem => (built block block_mem).wellFormed) block computed
  have shape_le := resultShape_le call.operator _ _ _ seededRows (by decide) weighted.rows_le
    weighted.cols_le left.cols_le
  rw [← result.shape] at shape_le
  exact ⟨.computed workers call built block computed, shape_le.1, shape_le.2⟩

theorem bytes_result_le (instruction : Instruction) (block : Block Float)
    (compact : Compact block) : (instruction.result block).bytes ≤ 288 := by
  rw [Instruction.result]
  split
  · exact (by decide : 8 ≤ 288)
  · exact compact.bytes_le

/-- What holds of a program between two lines. -/
structure Progress.Idle (progress : Progress) : Prop where
  consistent : progress.store.Consistent
  unlimited : progress.store.limit = none
  pins_eq : ∀ name, progress.store.pins name = 0
  compact : progress.store.AllMatrices Compact

theorem Progress.Idle.allBuilt {progress : Progress} (idle : progress.Idle) :
    progress.store.AllMatrices Block.Built :=
  idle.compact.imp _ fun _ compact => compact.built

/-- How a program prints a value under a name. -/
inductive Shows (name : String) : Value Float → String → Prop where
  | scalar (scalar : Scalar Float) :
      Shows name (.scalar scalar) (name ++ " = " ++ scalar.text ++ "\n")
  | matrix (block : Block Float) :
      Shows name (.matrix block) (name ++ " =\n" ++ block.text ++ "\n")

theorem shows_bindingText (name : String) (value : Value Float) :
    Shows name value (bindingText name value) := by
  cases value with
  | scalar scalar => exact .scalar scalar
  | matrix block => exact .matrix block

section Host

variable {σ : Type} (host : Host σ)

theorem idle_start : (Progress.start host).Idle := by
  refine ⟨Store.withLimit_consistent none, rfl, fun _ => rfl, ?_⟩
  intro name block found
  cases found

theorem Progress.Idle.of_seeds {before after : Progress} {instruction : Instruction}
    (idle : before.Idle) (seeds : Seeds host before (positions instruction) after) :
    after.Idle where
  consistent := seeds.consistent idle.consistent
  unlimited := seeds.limit_eq.trans idle.unlimited
  pins_eq name := (seeds.pins_eq name).trans (idle.pins_eq name)
  compact := seeds.compact (mem_seededShapes_of_mem_positions instruction) idle.compact

/-- Blocks as small as those of a program are not worth a pool. -/
theorem pool?_of_compact (hint : Int32) (block : Block Float) (compact : Compact block) :
    host.workers.pool? hint block.cellCount = .ok none := by
  apply if_pos
  right
  exact Nat.lt_of_le_of_lt compact.cellCount_le (by decide : 36 < 10000)

/-- The instruction of a line, and the progress when its missing inputs have been seeded. -/
structure Prepared (progress : Progress) (line : String) (instruction : Instruction)
    (ready : Progress) : Prop where
  decoded : Instruction.decode .standard line = .ok instruction
  seeded : seedInputs host progress instruction = .ok ready

variable {host} in
theorem Prepared.seeds {progress ready : Progress} {line : String} {instruction : Instruction}
    (prepared : Prepared host progress line instruction ready) :
    Seeds host progress (positions instruction) ready :=
  seeds_of_ok host progress ready (positions instruction) prepared.seeded

variable {host} in
theorem Prepared.unique {progress first second : Progress} {line : String}
    {instruction other : Instruction} (left : Prepared host progress line instruction first)
    (right : Prepared host progress line other second) :
    instruction = other ∧ first = second := by
  have same : instruction = other := Except.ok.inj (left.decoded.symm.trans right.decoded)
  subst same
  exact ⟨rfl, Except.ok.inj (left.seeded.symm.trans right.seeded)⟩

/-- How a line ends, and with what. -/
inductive LineEnds (progress : Progress) (line : String) :
    Except Error (String × Progress) → Prop where
  | undecodable (error : Error) (failed : Instruction.decode .standard line = .error error) :
      LineEnds progress line (.error error)
  | unseeded (instruction : Instruction) (error : Error)
      (decoded : Instruction.decode .standard line = .ok instruction)
      (failed : seedInputs host progress instruction = .error error) :
      LineEnds progress line (.error error)
  | refused (instruction : Instruction) (ready : Progress)
      (prepared : Prepared host progress line instruction ready) (name : String)
      (name_mem : name ∈ instruction.acquiredNames)
      (refused : ready.store.matrix? name = none) :
      LineEnds progress line (.error (.notMatrix name))
  | failed (instruction : Instruction) (ready : Progress)
      (prepared : Prepared host progress line instruction ready)
      (blocks : Inputs (Block Float)) (error : KernelError)
      (holds : instruction.Holds ready.store blocks)
      (failed : Dense.kernel host.workers (instruction.call blocks) = .error error) :
      LineEnds progress line (.error (.kernel error))
  | unbound (instruction : Instruction) (ready : Progress)
      (prepared : Prepared host progress line instruction ready)
      (blocks : Inputs (Block Float)) (block : Block Float) (error : Error)
      (holds : instruction.Holds ready.store blocks)
      (computed : Dense.kernel host.workers (instruction.call blocks) = .ok block)
      (refused : ready.store.bind instruction.output.name (instruction.result block) =
        .error error) :
      LineEnds progress line (.error error)
  | printed (instruction : Instruction) (ready : Progress)
      (prepared : Prepared host progress line instruction ready)
      (blocks : Inputs (Block Float)) (block : Block Float) (after : Store Float)
      (holds : instruction.Holds ready.store blocks)
      (computed : Dense.kernel host.workers (instruction.call blocks) = .ok block)
      (bound : ready.store.bind instruction.output.name (instruction.result block) = .ok after) :
      LineEnds progress line
        (.ok (bindingText instruction.output.name (instruction.result block),
          { ready with store := after }))

section Executed

variable (progress ready : Progress) (line : String) (instruction : Instruction)
  (prepared : Prepared host progress line instruction ready)
include prepared

theorem runLine_of_error (error : Error) (machine : Machine Float)
    (executed : instruction.execute (Dense.kernel host.workers) (Machine.start ready.store) =
      .error error machine) :
    runLine host progress line = .error error := by
  have decoded : Instruction.decode host.settings.format line = .ok instruction := prepared.decoded
  simp only [runLine, decoded, prepared.seeded, ok_bind, executed]

theorem runLine_of_ok (machine : Machine Float)
    (executed : instruction.execute (Dense.kernel host.workers) (Machine.start ready.store) =
      .ok () machine)
    (value : Value Float)
    (held : machine.store.value? instruction.output.name = some value) :
    runLine host progress line =
      .ok (bindingText instruction.output.name value, { ready with store := machine.store }) := by
  have decoded : Instruction.decode host.settings.format line = .ok instruction := prepared.decoded
  simp only [runLine, decoded, prepared.seeded, ok_bind, executed, held]
  rfl

end Executed

section Line

variable (progress : Progress) (line : String) (idle : progress.Idle)
include idle

theorem lineEnds_of_prepared (instruction : Instruction) (ready : Progress)
    (prepared : Prepared host progress line instruction ready) :
    LineEnds host progress line (runLine host progress line) := by
  have nodup := (idle.of_seeds host prepared.seeds).consistent.nodup
  let kernel : Kernel Float := Dense.kernel host.workers
  rcases instruction.holds_or_refused ready.store with
    ⟨blocks, holds⟩ | ⟨before, name, after, listed, held, refused⟩
  · cases computed : kernel (instruction.call blocks) with
    | error error =>
        have executed := instruction.execute_of_kernel_error ready.store kernel blocks error nodup
          holds computed
        rw [runLine_of_error host progress ready line instruction prepared _ _ executed]
        exact .failed instruction ready prepared blocks error holds computed
    | ok block =>
        have executed := instruction.execute_of_block ready.store kernel blocks block nodup holds
          computed
        cases bound : ready.store.bind instruction.output.name (instruction.result block) with
        | error error =>
            simp only [Machine.bind, bound] at executed
            rw [runLine_of_error host progress ready line instruction prepared _ _ executed]
            exact .unbound instruction ready prepared blocks block error holds computed bound
        | ok after =>
            simp only [Machine.bind, bound] at executed
            have held := ready.store.value?_of_bind _ _ after bound instruction.output.name
            rw [if_pos rfl] at held
            rw [runLine_of_ok host progress ready line instruction prepared _ executed _ held]
            exact .printed instruction ready prepared blocks block after holds computed bound
  · -- A name that is acquired has been seeded if need be, so it is bound but not to a matrix.
    have name_mem : name ∈ instruction.acquiredNames := by simp [listed]
    have name_bound : ready.store.isBound name = true := by
      rw [prepared.seeds.isBound_iff, map_fst_positions]
      exact Or.inr name_mem
    have refusal_eq : ready.store.refusal name = .notMatrix name := if_pos name_bound
    have executed := instruction.execute_of_refused ready.store kernel before after name nodup
      listed held refused
    rw [runLine_of_error host progress ready line instruction prepared _ _ executed, refusal_eq]
    exact .refused instruction ready prepared name name_mem refused

theorem lineEnds_runLine : LineEnds host progress line (runLine host progress line) := by
  cases decoded : Instruction.decode .standard line with
  | error error =>
      have ended : runLine host progress line = .error error := by
        have failed : Instruction.decode host.settings.format line = .error error := decoded
        simp only [runLine, failed]
        rfl
      rw [ended]
      exact .undecodable error decoded
  | ok instruction =>
      cases seeded : seedInputs host progress instruction with
      | error error =>
          have ended : runLine host progress line = .error error := by
            have accepted : Instruction.decode host.settings.format line = .ok instruction :=
              decoded
            simp only [runLine, accepted, seeded, ok_bind]
            rfl
          rw [ended]
          exact .unseeded instruction error decoded seeded
      | ok ready =>
          exact lineEnds_of_prepared host progress line idle instruction ready ⟨decoded, seeded⟩

section Prepared

variable {host} {progress line} {instruction : Instruction} {ready : Progress}
  (prepared : Prepared host progress line instruction ready)
include prepared

omit idle in
theorem Prepared.used_le : ready.store.used ≤ progress.store.used + 1152 := by
  have used_le := prepared.seeds.used_le (mem_seededShapes_of_mem_positions instruction)
  have length_le := length_positions_le instruction
  omega

theorem Prepared.compact_result (blocks : Inputs (Block Float)) (block : Block Float)
    (holds : instruction.Holds ready.store blocks)
    (computed : Dense.kernel host.workers (instruction.call blocks) = .ok block) :
    Compact block := by
  have readyIdle := idle.of_seeds host prepared.seeds
  exact .of_kernel host.workers _ (readyIdle.compact.of_holds instruction blocks holds) block
    computed

end Prepared

/-- A line that does not fail leaves the program idle and adds few bytes. -/
theorem idle_of_runLine (text : String) (after : Progress)
    (ran : runLine host progress line = .ok (text, after)) :
    after.Idle ∧ after.store.used ≤ progress.store.used + 1440 := by
  have ends := lineEnds_runLine host progress line idle
  rw [ran] at ends
  cases ends with
  | printed instruction ready prepared blocks block after holds computed bound =>
      have readyIdle := idle.of_seeds host prepared.seeds
      have compact := prepared.compact_result idle blocks block holds computed
      have ready_le := prepared.used_le
      have after_le := ready.store.used_of_bind_le _ _ after bound
      have bytes_le := bytes_result_le instruction block compact
      refine ⟨⟨readyIdle.consistent.bind_consistent _ _ after bound, ?_, ?_, ?_⟩, ?_⟩
      · exact (ready.store.limit_of_bind _ _ after bound).trans readyIdle.unlimited
      · intro name
        exact (ready.store.pins_of_bind _ _ after bound name).trans (readyIdle.pins_eq name)
      · apply readyIdle.compact.of_bind _ _ after bound
        intro matrix matrix_eq
        rw [instruction.eq_of_result_eq_matrix block matrix matrix_eq]
        exact compact
      · change after.used ≤ _
        omega

variable (drawable : host.Drawable)
include drawable

theorem uncountable_of_seedInputs (instruction : Instruction) (error : Error)
    (failed : seedInputs host progress instruction = .error error) :
    (∃ name needed shortage, error = .outOfMemory name needed shortage) ∧
      Word.size ≤ progress.store.used + 1152 := by
  rcases uncountable_of_seeding host drawable progress idle.unlimited (positions instruction)
    (mem_seededShapes_of_mem_positions instruction) error failed with ⟨ranOut, exceeds⟩
  have length_le := length_positions_le instruction
  exact ⟨ranOut, by omega⟩

theorem exists_prepared (instruction : Instruction)
    (countable : progress.store.used + 1440 < Word.size)
    (decoded : Instruction.decode .standard line = .ok instruction) :
    ∃ ready, Prepared host progress line instruction ready := by
  cases seeded : seedInputs host progress instruction with
  | ok ready => exact ⟨ready, decoded, seeded⟩
  | error error =>
      have exceeds := (uncountable_of_seedInputs host progress idle drawable instruction error
        seeded).2
      omega

theorem endsProgram_of_runLine (error : Error)
    (failed : runLine host progress line = .error error) :
    error.EndsProgram (progress.store.used + 1440) := by
  have ends := lineEnds_runLine host progress line idle
  rw [failed] at ends
  cases ends with
  | undecodable error failed => exact Instruction.endsProgram_of_decode _ line error failed _
  | unseeded instruction error decoded failed =>
      rcases uncountable_of_seedInputs host progress idle drawable instruction error failed with
        ⟨⟨name, needed, shortage, rfl⟩, exceeds⟩
      exact .outOfMemory name needed shortage (by omega)
  | refused instruction ready prepared name _ _ => exact .notMatrix name
  | failed instruction ready prepared blocks cause _ _ => exact .kernel cause
  | unbound instruction ready prepared blocks block error holds computed refused =>
      have readyIdle := idle.of_seeds host prepared.seeds
      have compact := prepared.compact_result idle blocks block holds computed
      have bytes_le := bytes_result_le instruction block compact
      have ready_le := prepared.used_le
      rcases ready.store.uncountable_of_bind _ _ readyIdle.unlimited error refused with
        ⟨rfl, exceeds⟩
      exact .outOfMemory _ _ _ (by omega)

end Line

end Host

end CommandLine

end LowRank
