import LowRank.Instruction.Decode
import LowRank.Proofs.Inputs
import LowRank.Proofs.Traversal

/-!
# What a decoded instruction consists of

Decoding succeeds with an instruction exactly when each component is what its own field is read as.
The format enters only through the fields of the line and the character between the parts of an
operand, and the fields can be listed from the instruction again.
-/

namespace LowRank

theorem Operand.token_of_read (delimiter : Char) (token : String) (operand : Operand)
    (read : Operand.read delimiter token = .ok operand) : operand.token = token := by
  simp only [Operand.read] at read
  rw [Except.bind_eq_ok_iff] at read
  rcases read with ⟨⟨dataType, valueType⟩, _, named⟩
  simp only at named
  split at named
  · cases named
  · injection named with same
    rw [← same]

theorem readOperand_eq_ok_iff (format : Format) (line token : String) (operand : Operand) :
    readOperand format line token = .ok operand ↔
      Operand.read format.typeDelimiter token = .ok operand := by
  simp only [readOperand]
  split
  · rename_i found read
    simp [read]
  · rename_i fault read
    simp [read]

theorem readThreads_eq_ok_iff (line field : String) (threads : Int32) :
    readThreads line field = .ok threads ↔
      Text.int32? (Text.trim field.toList) = some threads := by
  simp only [readThreads]
  split
  · rename_i found read
    simp [read]
  · rename_i read
    simp [read]

namespace Instruction

/-- An instruction whose components are what the fields of a line are read as. -/
structure ReadFrom (instruction : Instruction) (delimiter : Char) (family : Family)
    (fields : Fields) : Prop where
  inputs : fields.inputs.map (Operand.read delimiter) = instruction.inputs.map .ok
  output : Operand.read delimiter fields.output = .ok instruction.output
  threads : Text.int32? (Text.trim fields.threads.toList) = some instruction.threads
  operator : Operator.resolve? family fields.subtype fields.code = some instruction.operator
  fourth : instruction.operator.needsFourth = true → instruction.inputs.fourth.isSome = true
  subtypeField : instruction.subtypeField = fields.subtype
  threadsField : instruction.threadsField = fields.threads
  opcode : instruction.opcode = fields.opcode

theorem build_eq_ok_iff (operator : Operator) (inputs : Inputs Operand) (output : Operand)
    (threads : Int32) (opcode line : String) (instruction : Instruction) :
    build operator inputs output threads opcode line = .ok instruction ↔
      (operator.needsFourth = true → inputs.fourth.isSome = true) ∧
        instruction =
          { operator, inputs, output, threads, opcode, line
            subtypeField := operator.subtype
            threadsField := Text.numeral threads } := by
  simp only [build]
  cases needs : operator.needsFourth <;> cases fourth : inputs.fourth <;>
    simp [eq_comm]

theorem ofFields_eq_ok_iff (format : Format) (line : String) (family : Family) (fields : Fields)
    (instruction : Instruction) :
    ofFields format line family fields = .ok instruction ↔
      instruction.ReadFrom format.typeDelimiter family fields ∧ instruction.line = line := by
  have alike := Inputs.map_eq_map_ok_congr (readOperand format line)
    (Operand.read format.typeDelimiter) (readOperand_eq_ok_iff format line) fields.inputs
  simp only [ofFields, Except.bind_eq_ok_iff, Inputs.mapM_eq_ok_iff, alike, readOperand_eq_ok_iff,
    readThreads_eq_ok_iff]
  constructor
  · rintro ⟨inputs, inputsRead, output, outputRead, threads, threadsRead, resolved⟩
    split at resolved
    · cases resolved
    · rename_i operator operator_eq
      rw [Except.bind_eq_ok_iff] at resolved
      rcases resolved with ⟨built, isBuilt, kept⟩
      rw [build_eq_ok_iff] at isBuilt
      rcases isBuilt with ⟨fourth, rfl⟩
      injection kept with kept
      subst kept
      exact ⟨⟨inputsRead, outputRead, threadsRead, operator_eq, fourth, rfl, rfl, rfl⟩, rfl⟩
  · rintro ⟨read, rfl⟩
    refine ⟨instruction.inputs, read.inputs, instruction.output, read.output,
      instruction.threads, read.threads, ?_⟩
    simp only [read.operator]
    rw [Except.bind_eq_ok_iff]
    refine ⟨_, (build_eq_ok_iff _ _ _ _ _ _ _).mpr ⟨read.fourth, rfl⟩, ?_⟩
    simp only [← read.subtypeField, ← read.threadsField, ← read.opcode]

theorem headD_of_ofList? (layout : Layout) (listed : List String) (fields : Fields)
    (found : Fields.ofList? layout listed = some fields) : listed.headD "" = fields.opcode := by
  rcases Fields.fits_of_ofList? layout listed fields found with ⟨_, rfl⟩
  rfl

/-- Decoding is reading every component from its own field. -/
theorem decode_eq_ok_iff (format : Format) (line : String) (instruction : Instruction) :
    decode format line = .ok instruction ↔
      ∃ family fields, Family.ofOpcode? fields.opcode = some family ∧
        Fields.ofList? family.layout (format.fields line) = some fields ∧
        instruction.ReadFrom format.typeDelimiter family fields ∧ instruction.line = line := by
  simp only [decode]
  constructor
  · intro decoded
    split at decoded
    · cases decoded
    · rename_i family named
      split at decoded
      · cases decoded
      · rename_i fields found
        rw [headD_of_ofList? _ _ _ found] at named
        rw [ofFields_eq_ok_iff] at decoded
        exact ⟨family, fields, named, found, decoded⟩
  · rintro ⟨family, fields, named, found, read⟩
    rw [headD_of_ofList? _ _ _ found, named]
    simp only [found]
    rw [ofFields_eq_ok_iff]
    exact read

namespace ReadFrom

variable {instruction : Instruction} {delimiter : Char} {family : Family} {fields : Fields}
  (read : instruction.ReadFrom delimiter family fields)
include read

theorem map_token : instruction.inputs.map Operand.token = fields.inputs := by
  rcases fields with ⟨opcode, code, ⟨weighted, left, right, fourth⟩, output, subtype, threads⟩
  rcases instruction with ⟨operator, ⟨weighted', left', right', fourth'⟩⟩
  have inputs := read.inputs
  simp only [Inputs.map, Inputs.mk.injEq] at inputs ⊢
  rcases inputs with ⟨weightedRead, leftRead, rightRead, fourthRead⟩
  refine ⟨Operand.token_of_read _ _ _ weightedRead, Operand.token_of_read _ _ _ leftRead,
    Operand.token_of_read _ _ _ rightRead, ?_⟩
  cases fourth <;> cases fourth' <;> simp at fourthRead
  · rfl
  · exact congrArg some (Operand.token_of_read _ _ _ fourthRead)

theorem unaryCode?_eq (fits : fields.Fits family.layout) :
    instruction.operator.unaryCode? = fields.code := by
  have resolved := read.operator
  cases family with
  | unary =>
      rcases Option.isSome_iff_exists.mp fits.1 with ⟨code, code_eq⟩
      simp only [Operator.resolve?, Option.map_eq_some_iff] at resolved
      rcases resolved with ⟨kind, _, operator_eq⟩
      rw [← operator_eq, code_eq]
      rfl
  | crossEntropy =>
      simp only [Operator.resolve?] at resolved
      split at resolved
      · injection resolved with operator_eq
        rw [← operator_eq, fits.1]
        rfl
      · cases resolved
  | squaredLoss | weightedProduct | sigmoid =>
      simp only [Operator.resolve?, Option.map_eq_some_iff] at resolved
      rcases resolved with ⟨kind, _, operator_eq⟩
      rw [← operator_eq, fits.1]
      rfl

/-- The fields that an instruction was read from are listed from it again. -/
theorem roles_eq (fits : fields.Fits family.layout) : instruction.roles = fields := by
  simp only [roles, read.map_token, read.unaryCode?_eq fits, read.opcode, read.subtypeField,
    read.threadsField, Operand.token_of_read _ _ _ read.output]

end ReadFrom

end Instruction

end LowRank
