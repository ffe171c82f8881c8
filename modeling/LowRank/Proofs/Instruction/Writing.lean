import LowRank.Proofs.Instruction.Grammar
import LowRank.Proofs.Instruction.RoundTrip
import LowRank.Proofs.Text.Numeral

/-!
# Writing a built instruction

An instruction that is built from its parts gets the canonical name of its sub-type and the numeral
of its thread count as fields. The line that its fields are joined to is decoded to the same
instruction, whether or not an execution type and blanks are written around it. Nothing of the line
is lost to trimming: it begins with an opcode or an execution type and ends with a digit.
-/

namespace LowRank

namespace Format

/-- What may be written before the opcode of a line: nothing, or the execution type. -/
inductive Leads (format : Format) : List String → Prop where
  | nothing : Leads format []
  | executionType (declared written : String)
      (declares : format.executionType = some declared)
      (agrees : Text.agreesIgnoringCase written.toList declared.toList = true)
      (visible : ∃ char, written.toList.head? = some char ∧ Text.isBlank char = false)
      (clean : format.fieldDelimiter ∉ written.toList) : Leads format [written]

/-- The line of the given fields between other characters. -/
def joinBetween (format : Format) (before after : List Char) (listed : List String) : String :=
  String.ofList (before ++ (format.join listed).toList ++ after)

/-- The fields of a line are found again behind an execution type and between blanks. -/
theorem fields_joinBetween (format : Format) (first last : String) (middle lead : List String)
    (before after : List Char)
    (clean : ∀ field ∈ first :: (middle ++ [last]), format.fieldDelimiter ∉ field.toList)
    (keeps : format.Keeps first)
    (firstVisible : ∃ char, first.toList.head? = some char ∧ Text.isBlank char = false)
    (lastVisible : ∃ char, last.toList.getLast? = some char ∧ Text.isBlank char = false)
    (leads : format.Leads lead) (blank : ∀ char ∈ before ++ after, Text.isBlank char = true) :
    format.fields (format.joinBetween before after (lead ++ first :: (middle ++ [last]))) =
      first :: (middle ++ [last]) := by
  rw [fields, joinBetween, String.toList_ofList]
  cases leads with
  | nothing =>
      rw [List.nil_append,
        format.pieces_join first last middle before after clean firstVisible lastVisible blank]
      exact format.dropExecutionType_of_keeps first _ keeps
  | executionType declared written declares agrees visible writtenClean =>
      have allClean : ∀ field ∈ written :: ((first :: middle) ++ [last]),
          format.fieldDelimiter ∉ field.toList := by
        intro field field_mem
        rcases List.mem_cons.mp field_mem with rfl | others_mem
        · exact writtenClean
        · exact clean field others_mem
      have cut := format.pieces_join written last (first :: middle) before after allClean visible
        lastVisible blank
      rw [List.cons_append] at cut
      rw [List.singleton_append, cut]
      simp only [dropExecutionType, declares, agrees, if_true]

end Format

namespace Operator

theorem resolve?_subtype (operator : Operator) :
    resolve? operator.family operator.subtype operator.unaryCode? = some operator := by
  apply resolve?_of_hasToken
  · exact Or.inl rfl
  · intro written code_eq
    rw [code_eq]
    rfl

theorem isSome_unaryCode?_iff (operator : Operator) :
    operator.unaryCode?.isSome = true ↔ operator.family = .unary := by
  cases operator <;> simp [unaryCode?, family]

end Operator

theorem Family.hasFourthInput_iff (family : Family) :
    family.hasFourthInput = true ↔ family = .squaredLoss ∨ family = .weightedProduct := by
  cases family <;> decide

namespace Instruction

/-- Operands that are each what some token is read as. -/
def AllRead (delimiter : Char) (operands : List Operand) : Prop :=
  ∀ operand ∈ operands, ∃ token, Operand.read delimiter token = .ok operand

theorem read_token_of_allRead (delimiter : Char) (operands : List Operand)
    (allRead : AllRead delimiter operands) (operand : Operand) (operand_mem : operand ∈ operands) :
    Operand.read delimiter operand.token = .ok operand := by
  rcases allRead operand operand_mem with ⟨token, read⟩
  rw [Operand.token_of_read delimiter token operand read]
  exact read

/-- The fields of an instruction fit the layout of its family if its fourth operand does. -/
theorem fits_roles (instruction : Instruction)
    (fourth : instruction.inputs.fourth.isSome = instruction.operator.family.hasFourthInput) :
    instruction.roles.Fits instruction.operator.family.layout := by
  rw [Fields.fits_layout_iff]
  refine ⟨instruction.operator.isSome_unaryCode?_iff, ?_⟩
  simp only [roles, Inputs.map, Option.isSome_map, fourth]
  exact instruction.operator.family.hasFourthInput_iff

section Built

variable (operator : Operator) (inputs : Inputs Operand) (output : Operand) (threads : Int32)
  (opcode line : String)

theorem exists_build (fourth : inputs.fourth.isSome = operator.family.hasFourthInput) :
    ∃ instruction, build operator inputs output threads opcode line = .ok instruction := by
  refine ⟨_, (build_eq_ok_iff _ _ _ _ _ _ _).mpr ⟨?_, rfl⟩⟩
  intro needs
  rw [fourth, Family.hasFourthInput_iff]
  exact operator.family_of_needsFourth needs

variable (instruction : Instruction)
  (built : build operator inputs output threads opcode line = .ok instruction)
include built

theorem readFrom_roles_of_build (delimiter : Char)
    (allRead : AllRead delimiter (inputs.toList ++ [output])) :
    instruction.ReadFrom delimiter operator.family instruction.roles := by
  rw [build_eq_ok_iff] at built
  rcases built with ⟨fourth, rfl⟩
  have readAgain := read_token_of_allRead delimiter _ allRead
  refine ⟨?_, ?_, Text.int32?_trim_numeral threads, operator.resolve?_subtype, fourth, rfl, rfl,
    rfl⟩
  · simp only [roles, Inputs.map_map]
    apply Inputs.map_congr
    intro operand operand_mem
    exact readAgain operand (List.mem_append_left [output] operand_mem)
  · exact readAgain output (List.mem_append_right inputs.toList (List.mem_singleton.mpr rfl))

theorem fits_roles_of_build (fourth : inputs.fourth.isSome = operator.family.hasFourthInput) :
    instruction.roles.Fits operator.family.layout := by
  rw [build_eq_ok_iff] at built
  rcases built with ⟨_, rfl⟩
  exact fits_roles _ fourth

theorem fields_joinBetween_of_build (format : Format) (lead : List String)
    (before after : List Char)
    (named : Text.agreesIgnoringCase operator.family.opcode.toList opcode.toList = true)
    (clean : ∀ field ∈ instruction.fields, format.fieldDelimiter ∉ field.toList)
    (keeps : format.Keeps opcode) (leads : format.Leads lead)
    (blank : ∀ char ∈ before ++ after, Text.isBlank char = true) :
    format.fields (format.joinBetween before after (lead ++ instruction.fields)) =
      instruction.fields := by
  rw [build_eq_ok_iff] at built
  rcases built with ⟨_, rfl⟩
  have opcodeVisible := Family.exists_visible_of_ofOpcode? opcode operator.family
    ((Family.ofOpcode?_eq_some_iff opcode operator.family).mpr named)
  have threadsVisible : ∃ char,
      (Text.numeral threads).toList.getLast? = some char ∧ Text.isBlank char = false := by
    have nonempty := Text.ne_nil_of_int32? _ _ (Text.int32?_trim_numeral threads)
    refine ⟨_, List.getLast?_eq_some_getLast nonempty, ?_⟩
    exact Text.isBlank_of_mem_numeral threads _ (List.getLast_mem nonempty)
  rw [fields, Fields.toList_eq_cons_append] at clean ⊢
  exact format.fields_joinBetween _ _ _ lead before after clean keeps opcodeVisible threadsVisible
    leads blank

end Built

/--
An instruction that is built with a fourth operand exactly where its layout has one is decoded again
from the line of its fields, with or without an execution type before it and blanks around it. Every
component but the line itself is the same.
-/
theorem decode_joinBetween_fields (operator : Operator) (inputs : Inputs Operand)
    (output : Operand) (threads : Int32) (opcode line : String)
    (named : Text.agreesIgnoringCase operator.family.opcode.toList opcode.toList = true)
    (fourth : inputs.fourth.isSome = operator.family.hasFourthInput) :
    Operator.resolve? operator.family operator.subtype operator.unaryCode? = some operator ∧
      readThreads line (Text.numeral threads) = .ok threads ∧
      ∃ instruction, build operator inputs output threads opcode line = .ok instruction ∧
        ∀ (format : Format) (lead : List String) (before after : List Char),
          AllRead format.typeDelimiter (inputs.toList ++ [output]) →
          (∀ field ∈ instruction.fields, format.fieldDelimiter ∉ field.toList) →
          format.Keeps opcode → format.Leads lead →
          (∀ char ∈ before ++ after, Text.isBlank char = true) →
          decode format (format.joinBetween before after (lead ++ instruction.fields)) =
            .ok
              { instruction with
                line := format.joinBetween before after (lead ++ instruction.fields) } := by
  rcases exists_build operator inputs output threads opcode line fourth with ⟨instruction, built⟩
  refine ⟨operator.resolve?_subtype, ?_, instruction, built, ?_⟩
  · rw [readThreads_eq_ok_iff]
    exact Text.int32?_trim_numeral threads
  · intro format lead before after allRead clean keeps leads blank
    have opcode_eq : instruction.opcode = opcode := by
      rw [build_eq_ok_iff] at built
      rw [built.2]
    have read := readFrom_roles_of_build operator inputs output threads opcode line instruction
      built format.typeDelimiter allRead
    have fits := fits_roles_of_build operator inputs output threads opcode line instruction built
      fourth
    have listed := fields_joinBetween_of_build operator inputs output threads opcode line
      instruction built format lead before after named clean keeps leads blank
    rw [decode_eq_ok_iff]
    refine ⟨operator.family, instruction.roles, ?_, ?_, ?_, rfl⟩
    · rw [Family.ofOpcode?_eq_some_iff]
      change Text.agreesIgnoringCase _ instruction.opcode.toList = true
      rw [opcode_eq]
      exact named
    · rw [listed]
      exact Fields.ofList?_toList _ _ fits
    · exact ⟨read.inputs, read.output, read.threads, read.operator, read.fourth,
        read.subtypeField, read.threadsField, read.opcode⟩

theorem decode_joinBetween_fields_least_threads :
    ∃ (instruction : Instruction) (written : String),
      instruction.fields =
          ["wUMm", " Exp", "X·MATRIX·DOUBLE", "U ", "V", "out", "MULT", "-2147483648"] ∧
        written =
          " \tcP\twUMm\t Exp\tX·MATRIX·DOUBLE\tU \tV\tout\tMULT\t-2147483648\n" ∧
        decode ⟨'\t', '·', some "Cp"⟩ written = .ok { instruction with line := written } := by
  have read : AllRead '·'
      [⟨"X", .matrix, .double, "X·MATRIX·DOUBLE"⟩, ⟨"U", .unknown, .unknown, "U "⟩,
        ⟨"V", .unknown, .unknown, "V"⟩, ⟨"out", .unknown, .unknown, "out"⟩] := by
    intro operand operand_mem
    refine ⟨operand.token, ?_⟩
    simp only [List.mem_cons, List.not_mem_nil, or_false] at operand_mem
    rcases operand_mem with rfl | rfl | rfl | rfl
    all_goals rfl
  have keeps : Format.Keeps ⟨'\t', '·', some "Cp"⟩ "wUMm" := by
    rintro executionType ⟨⟩
    decide
  have leads : Format.Leads ⟨'\t', '·', some "Cp"⟩ ["cP"] :=
    .executionType "Cp" "cP" rfl (by decide) ⟨'c', rfl, by decide⟩ (by decide)
  have blank : ∀ char ∈ [' ', '\t'] ++ ['\n'], Text.isBlank char = true := by
    intro char char_mem
    simp only [List.cons_append, List.nil_append, List.mem_cons, List.not_mem_nil, or_false]
      at char_mem
    rcases char_mem with rfl | rfl | rfl
    all_goals decide
  rcases decode_joinBetween_fields (.unary .multiply " Exp")
    ⟨⟨"X", .matrix, .double, "X·MATRIX·DOUBLE"⟩, ⟨"U", .unknown, .unknown, "U "⟩,
      ⟨"V", .unknown, .unknown, "V"⟩, none⟩
    ⟨"out", .unknown, .unknown, "out"⟩ (-2147483648) "wUMm" "" (by decide) rfl with
    ⟨_, _, instruction, built, decodes⟩
  have listed : instruction.fields =
      ["wUMm", " Exp", "X·MATRIX·DOUBLE", "U ", "V", "out", "MULT", "-2147483648"] := by
    rw [build_eq_ok_iff] at built
    rw [built.2]
    decide
  have decoded := decodes ⟨'\t', '·', some "Cp"⟩ ["cP"] [' ', '\t'] ['\n'] read
    (by rw [listed]; decide) keeps leads blank
  rw [listed] at decoded
  refine ⟨instruction, _, listed, ?_, decoded⟩
  decide

end Instruction

end LowRank
