import LowRank.Proofs.Instruction.Decoding
import LowRank.Proofs.Operator.Tokens
import LowRank.Proofs.Text.Pieces

/-!
# The grammar of instruction lines

Which lines are instructions, and what is reported of the others. The parts of a line are given by
what they are joined to, and the verdict on them by the first of five conditions that fails: the
opcode, the number of fields, the operands from left to right, the thread count and the sub-type.
The verdict is one for each line, and it is what the decoder answers.
-/

namespace LowRank

namespace Format

/-- Pieces without a delimiter that a delimiter joins to a text. -/
structure SplitsInto (delimiter : Char) (text : List Char) (pieces : List String) : Prop where
  nonempty : pieces ≠ []
  clean : ∀ piece ∈ pieces, delimiter ∉ piece.toList
  joined : Text.joined delimiter (pieces.map String.toList) = text

theorem splitsInto_iff (delimiter : Char) (text : List Char) (pieces : List String) :
    SplitsInto delimiter text pieces ↔
      pieces = (Text.pieces delimiter text).map String.ofList := by
  constructor
  · rintro ⟨nonempty, clean, rfl⟩
    rw [Text.pieces_joined]
    · simp [Function.comp_def]
    · simpa using nonempty
    · intro piece piece_mem
      rcases List.mem_map.mp piece_mem with ⟨field, field_mem, rfl⟩
      exact clean field field_mem
  · rintro rfl
    refine ⟨?_, ?_, ?_⟩
    · simpa using Text.pieces_ne_nil delimiter text
    · intro piece piece_mem
      rcases List.mem_map.mp piece_mem with ⟨field, field_mem, rfl⟩
      simpa using Text.not_mem_of_mem_pieces delimiter text field field_mem
    · simp [Function.comp_def, Text.joined_pieces]

/-- The parts of a line: the pieces of the trimmed line but for an execution type before others. -/
inductive Parts (format : Format) (line : String) : List String → Prop where
  | behindType (executionType first second : String) (rest : List String)
      (split : SplitsInto format.fieldDelimiter (Text.trim line.toList) (first :: second :: rest))
      (declared : format.executionType = some executionType)
      (agrees : Text.agreesIgnoringCase first.toList executionType.toList = true) :
      Parts format line (second :: rest)
  | whole (pieces : List String)
      (split : SplitsInto format.fieldDelimiter (Text.trim line.toList) pieces)
      (kept : ∀ executionType first second rest, format.executionType = some executionType →
        pieces = first :: second :: rest →
        Text.agreesIgnoringCase first.toList executionType.toList = false) :
      Parts format line pieces

theorem Parts.nonempty {format : Format} {line : String} {parts : List String}
    (cut : format.Parts line parts) : parts ≠ [] := by
  cases cut with
  | behindType _ _ second rest _ _ _ => exact List.cons_ne_nil second rest
  | whole _ split _ => exact split.nonempty

theorem parts_fields (format : Format) (line : String) :
    format.Parts line (format.fields line) := by
  have split := (splitsInto_iff format.fieldDelimiter (Text.trim line.toList) _).mpr rfl
  simp only [fields, dropExecutionType]
  split
  · rename_i executionType first second rest declared cut
    rw [cut] at split
    split
    · rename_i agrees
      exact .behindType executionType first second rest split declared agrees
    · rename_i differs
      apply Parts.whole _ split
      rintro other _ _ _ declaredOther ⟨⟩
      rw [declared] at declaredOther
      cases declaredOther
      simpa using differs
  · rename_i alone
    apply Parts.whole _ split
    intro executionType first second rest declared cut
    exact absurd cut (alone executionType first second rest declared)

theorem parts_iff (format : Format) (line : String) (parts : List String) :
    format.Parts line parts ↔ parts = format.fields line := by
  constructor
  · intro cut
    cases cut with
    | behindType executionType first second rest split declared agrees =>
        rw [splitsInto_iff] at split
        simp only [fields, dropExecutionType, ← split, declared, agrees, if_true]
    | whole _ split kept =>
        rw [splitsInto_iff] at split
        simp only [fields, dropExecutionType, ← split]
        split
        · rename_i executionType first second rest declared
          rw [kept executionType first second rest declared rfl]
          rfl
        · rfl
  · rintro rfl
    exact format.parts_fields line

end Format

theorem Family.fieldCount_layout (family : Family) :
    family.layout.fieldCount =
      if family = .sigmoid ∨ family = .crossEntropy then 6 else 7 := by
  cases family <;> rfl

namespace Fields

/-- Fields that make up a line of a family. -/
structure LaidOut (fields : Fields) (family : Family) (parts : List String) : Prop where
  named : Text.agreesIgnoringCase family.opcode.toList fields.opcode.toList = true
  listed : parts =
    [fields.opcode] ++ fields.code.toList ++ fields.inputs.toList ++
      [fields.output, fields.subtype, fields.threads]
  code : fields.code.isSome = true ↔ family = .unary
  fourth : fields.inputs.fourth.isSome = true ↔ family = .squaredLoss ∨ family = .weightedProduct

theorem fits_layout_iff (fields : Fields) (family : Family) :
    fields.Fits family.layout ↔
      (fields.code.isSome = true ↔ family = .unary) ∧
        (fields.inputs.fourth.isSome = true ↔
          family = .squaredLoss ∨ family = .weightedProduct) := by
  cases family <;> simp [Fits, Family.layout]

theorem LaidOut.ofList?_eq {fields : Fields} {family : Family} {parts : List String}
    (laidOut : fields.LaidOut family parts) : ofList? family.layout parts = some fields := by
  rw [laidOut.listed]
  apply ofList?_toList
  rw [fits_layout_iff]
  exact ⟨laidOut.code, laidOut.fourth⟩

theorem laidOut_of_length (family : Family) (opcode : String) (rest : List String)
    (named : Text.agreesIgnoringCase family.opcode.toList opcode.toList = true)
    (count : rest.length = family.layout.fieldCount) :
    ∃ fields : Fields, fields.LaidOut family (opcode :: rest) := by
  have found : (ofList? family.layout (opcode :: rest)).isSome := by
    rw [isSome_ofList?_iff, List.length_cons, count]
  rcases Option.isSome_iff_exists.mp found with ⟨fields, fields_eq⟩
  rcases fits_of_ofList? _ _ fields fields_eq with ⟨fits, listed⟩
  rw [fits_layout_iff] at fits
  refine ⟨fields, ?_, listed.symm, fits.1, fits.2⟩
  have same : fields.opcode = opcode := (List.cons.inj listed).1
  rwa [same]

end Fields

/-- The operands of a line, each read from its own field. -/
structure Fields.OperandsRead (fields : Fields) (delimiter : Char) (inputs : Inputs Operand)
    (output : Operand) : Prop where
  inputs : fields.inputs.map (Operand.read delimiter) = inputs.map .ok
  output : Operand.read delimiter fields.output = .ok output

namespace Instruction

variable (format : Format) (line : String)

/-- What is answered to the parts of a line, by the first condition that fails. -/
inductive Verdict : List String → Except Error Instruction → Prop where
  | unknownOpcode (opcode : String) (rest : List String)
      (unnamed : ∀ family : Family,
        Text.agreesIgnoringCase family.opcode.toList opcode.toList = false) :
      Verdict (opcode :: rest) (.error (.unknownOpcode line))
  | fieldCount (opcode : String) (rest : List String) (family : Family) (expected : Nat)
      (named : Text.agreesIgnoringCase family.opcode.toList opcode.toList = true)
      (expected_eq : expected = if family = .sigmoid ∨ family = .crossEntropy then 6 else 7)
      (count_ne : rest.length ≠ expected) :
      Verdict (opcode :: rest) (.error (.malformed line (.fieldCount expected rest.length)))
  | operand (fields : Fields) (family : Family) (parts : List String)
      (laidOut : fields.LaidOut family parts) (before after : List String) (token : String)
      (fault : OperandFault)
      (listed : fields.inputs.toList ++ [fields.output] = before ++ token :: after)
      (read : ∀ earlier ∈ before, ∃ operand,
        Operand.read format.typeDelimiter earlier = .ok operand)
      (failed : Operand.read format.typeDelimiter token = .error fault) :
      Verdict parts (.error (.malformed line (.operand fault)))
  | threads (fields : Fields) (family : Family) (parts : List String)
      (laidOut : fields.LaidOut family parts) (inputs : Inputs Operand) (output : Operand)
      (operands : fields.OperandsRead format.typeDelimiter inputs output)
      (noNumber : Text.int32? (Text.trim fields.threads.toList) = none) :
      Verdict parts (.error (.malformed line (.threads fields.threads)))
  | subtype (fields : Fields) (family : Family) (parts : List String)
      (laidOut : fields.LaidOut family parts) (inputs : Inputs Operand) (output : Operand)
      (operands : fields.OperandsRead format.typeDelimiter inputs output) (threads : Int32)
      (number : Text.int32? (Text.trim fields.threads.toList) = some threads)
      (unnamed : ∀ operator : Operator, operator.family = family →
        ¬operator.HasToken fields.subtype) :
      Verdict parts (.error (.unknownSubtype family fields.subtype))
  | accepted (fields : Fields) (family : Family) (parts : List String)
      (laidOut : fields.LaidOut family parts) (inputs : Inputs Operand) (output : Operand)
      (operands : fields.OperandsRead format.typeDelimiter inputs output) (threads : Int32)
      (number : Text.int32? (Text.trim fields.threads.toList) = some threads)
      (operator : Operator) (sameFamily : operator.family = family)
      (hasToken : operator.HasToken fields.subtype)
      (code : operator.unaryCode? = fields.code) :
      Verdict parts
        (.ok
          { operator, inputs, output, threads, line
            subtypeField := fields.subtype
            threadsField := fields.threads
            opcode := fields.opcode })

section LaidOut

variable (fields : Fields) (family : Family) (parts : List String)
  (laidOut : fields.LaidOut family parts)
include laidOut

theorem exists_verdict_of_laidOut : ∃ result, Verdict format line parts result := by
  -- The remaining conditions are split in the order of the checks.
  rcases all_ok_or_first_error (Operand.read format.typeDelimiter)
    (fields.inputs.toList ++ [fields.output]) with
    readable | ⟨before, token, after, fault, listed, read, failed⟩
  · rcases fields.inputs.exists_map_eq_map (Operand.read format.typeDelimiter) Except.ok
      (fun token token_mem => readable token (List.mem_append_left _ token_mem)) with
      ⟨inputs, inputsRead⟩
    rcases readable fields.output (by simp) with ⟨output, outputRead⟩
    have operands : fields.OperandsRead format.typeDelimiter inputs output :=
      ⟨inputsRead, outputRead⟩
    cases number : Text.int32? (Text.trim fields.threads.toList) with
    | none => exact ⟨_, .threads fields family parts laidOut inputs output operands number⟩
    | some threads =>
        cases resolved : Operator.resolve? family fields.subtype fields.code with
        | none =>
            rw [Operator.resolve?_eq_none_iff] at resolved
            exact ⟨_, .subtype fields family parts laidOut inputs output operands threads number
              resolved⟩
        | some operator =>
            rw [Operator.resolve?_eq_some_iff _ _ _ _ laidOut.code] at resolved
            rcases resolved with ⟨sameFamily, hasToken, code⟩
            exact ⟨_, .accepted fields family parts laidOut inputs output operands threads number
              operator sameFamily hasToken code⟩
  · exact ⟨_, .operand fields family parts laidOut before after token fault listed read failed⟩

theorem decode_of_laidOut (cut : format.fields line = parts) :
    decode format line = ofFields format line family fields := by
  have named := (Family.ofOpcode?_eq_some_iff fields.opcode family).mpr laidOut.named
  rw [← headD_of_ofList? _ _ _ laidOut.ofList?_eq] at named
  simp only [decode, cut, named, laidOut.ofList?_eq]

end LaidOut

section Operands

variable (fields : Fields) (family : Family)

theorem ofFields_of_first_fault (before after : List String) (token : String)
    (fault : OperandFault)
    (listed : fields.inputs.toList ++ [fields.output] = before ++ token :: after)
    (read : ∀ earlier ∈ before, ∃ operand,
      Operand.read format.typeDelimiter earlier = .ok operand)
    (failed : Operand.read format.typeDelimiter token = .error fault) :
    ofFields format line family fields = .error (.malformed line (.operand fault)) := by
  rw [ofFields]
  apply Inputs.mapM_bind_eq_error
  rw [listed]
  apply mapM_eq_error_of_first
  · intro earlier earlier_mem
    rcases read earlier earlier_mem with ⟨operand, found⟩
    exact ⟨operand, (readOperand_eq_ok_iff format line earlier operand).mpr found⟩
  · simp only [readOperand, failed]

theorem mapM_readOperand_of_operandsRead (inputs : Inputs Operand) (output : Operand)
    (operands : fields.OperandsRead format.typeDelimiter inputs output) :
    fields.inputs.mapM (readOperand format line) = .ok inputs ∧
      readOperand format line fields.output = .ok output := by
  refine ⟨?_, (readOperand_eq_ok_iff format line _ output).mpr operands.output⟩
  rw [Inputs.mapM_eq_ok_iff, Inputs.map_eq_map_ok_congr _ _ (readOperand_eq_ok_iff format line)]
  exact operands.inputs

end Operands

theorem exists_verdict (parts : List String) (nonempty : parts ≠ []) :
    ∃ result, Verdict format line parts result := by
  cases parts with
  | nil => exact absurd rfl nonempty
  | cons opcode rest =>
      by_cases named : ∃ family : Family,
          Text.agreesIgnoringCase family.opcode.toList opcode.toList = true
      · rcases named with ⟨family, named⟩
        by_cases count : rest.length = family.layout.fieldCount
        · rcases Fields.laidOut_of_length family opcode rest named count with ⟨fields, laidOut⟩
          exact exists_verdict_of_laidOut format line fields family _ laidOut
        · exact ⟨_, .fieldCount opcode rest family _ named family.fieldCount_layout count⟩
      · simp only [not_exists, Bool.not_eq_true] at named
        exact ⟨_, .unknownOpcode opcode rest named⟩

theorem decode_of_verdict (parts : List String) (cut : format.fields line = parts)
    (result : Except Error Instruction) (verdict : Verdict format line parts result) :
    decode format line = result := by
  cases verdict with
  | unknownOpcode opcode rest unnamed =>
      have absent := (Family.ofOpcode?_eq_none_iff opcode).mpr unnamed
      simp only [decode, cut, List.headD_cons, absent]
  | fieldCount opcode rest family expected named expected_eq count_ne =>
      have found := (Family.ofOpcode?_eq_some_iff opcode family).mpr named
      rw [← family.fieldCount_layout] at expected_eq
      subst expected_eq
      have unassigned : Fields.ofList? family.layout (opcode :: rest) = none := by
        rw [← Option.not_isSome_iff_eq_none, Fields.isSome_ofList?_iff, List.length_cons]
        omega
      simp only [decode, cut, List.headD_cons, found, unassigned, fieldCountError,
        List.length_cons, Nat.add_sub_cancel]
  | operand fields family _ laidOut before after token fault listed read failed =>
      rw [decode_of_laidOut format line fields family parts laidOut cut]
      exact ofFields_of_first_fault format line fields family before after token fault listed read
        failed
  | threads fields family _ laidOut inputs output operands noNumber =>
      rw [decode_of_laidOut format line fields family parts laidOut cut]
      rcases mapM_readOperand_of_operandsRead format line fields inputs output operands with
        ⟨inputsRead, outputRead⟩
      simp only [ofFields, inputsRead, outputRead, ok_bind, readThreads, noNumber]
      rfl
  | subtype fields family _ laidOut inputs output operands threads number unnamed =>
      rw [decode_of_laidOut format line fields family parts laidOut cut]
      rcases mapM_readOperand_of_operandsRead format line fields inputs output operands with
        ⟨inputsRead, outputRead⟩
      have unresolved := (Operator.resolve?_eq_none_iff family fields.subtype fields.code).mpr
        unnamed
      simp only [ofFields, inputsRead, outputRead, ok_bind, readThreads, number, unresolved]
  | accepted fields family _ laidOut inputs output operands threads number operator sameFamily
      hasToken code =>
      rw [decode_of_laidOut format line fields family parts laidOut cut, ofFields_eq_ok_iff]
      have resolved := (Operator.resolve?_eq_some_iff family fields.subtype fields.code operator
        laidOut.code).mpr ⟨sameFamily, hasToken, code⟩
      refine ⟨⟨operands.inputs, operands.output, number, resolved, ?_, rfl, rfl, rfl⟩, rfl⟩
      intro needs
      have present := laidOut.fourth.mpr (sameFamily ▸ operator.family_of_needsFourth needs)
      have alike := congrArg Option.isSome (congrArg Inputs.fourth operands.inputs)
      simp only [Inputs.map, Option.isSome_map] at alike
      rw [← alike]
      exact present

/--
The decoder answers the verdict on the parts of a line: it accepts the lines of the grammar with
the instruction that their fields describe, and reports of any other line the first fault.
-/
theorem decode_eq_iff (result : Except Error Instruction) :
    decode format line = result ↔
      ∃ parts, format.Parts line parts ∧ Verdict format line parts result := by
  constructor
  · rintro rfl
    have cut := format.parts_fields line
    rcases exists_verdict format line (format.fields line) cut.nonempty with ⟨result, verdict⟩
    rw [decode_of_verdict format line _ rfl result verdict]
    exact ⟨_, cut, verdict⟩
  · rintro ⟨parts, cut, verdict⟩
    rw [Format.parts_iff] at cut
    exact decode_of_verdict format line parts cut.symm result verdict

example :
    decode .standard " cp,wsloss,X,U·MATRIX,V,,out,MEAN,many" =
      .error
        (.malformed " cp,wsloss,X,U·MATRIX,V,,out,MEAN,many"
          (.operand (.partCount "U·MATRIX" 2))) := by
  rfl

end Instruction

end LowRank
