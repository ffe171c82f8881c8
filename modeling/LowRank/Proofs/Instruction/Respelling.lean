import LowRank.Proofs.Instruction.Writing

/-!
# Spellings that make no difference

Blank characters around a line, an execution type before its opcode and the letter case of the
opcode have no influence on what a line is decoded to. The answer keeps the line that was given and
an instruction keeps its opcode as written; in everything else the answers to two spellings are the
same, refusals and their reasons included.
-/

namespace LowRank

/-- An error with another line in the place of the one that it reports. -/
def Error.withLine (line : String) : Error → Error
  | .malformed _ fault => .malformed line fault
  | .unknownOpcode _ => .unknownOpcode line
  | error => error

/-- The answer to a line with another line in the place of the one that it keeps. -/
def Instruction.answerWithLine (line : String) :
    Except Error Instruction → Except Error Instruction
  | .ok instruction => .ok { instruction with line }
  | .error error => .error (error.withLine line)

namespace Format

variable (format : Format)

/-- The line of a text behind another field. -/
def behind (field text : String) : String :=
  String.ofList (field.toList ++ format.fieldDelimiter :: text.toList)

/--
How a line is made up: blank characters on both sides, and between them the pieces that are dropped
before the fields of the line, and these fields.
-/
structure Composed (line : String) (before after : List Char) (lead listed : List String) :
    Prop where
  blank : ∀ char ∈ before ++ after, Text.isBlank char = true
  line_eq : line = format.joinBetween before after (lead ++ listed)
  split : SplitsInto format.fieldDelimiter (Text.trim line.toList) (lead ++ listed)
  fields_eq : format.fields line = listed

theorem exists_composed (line : String) :
    ∃ before after lead, format.Composed line before after lead (format.fields line) := by
  rcases Text.exists_blanks_trim line.toList with ⟨before, after, blank, whole⟩
  rcases format.exists_append_dropExecutionType
    ((Text.pieces format.fieldDelimiter (Text.trim line.toList)).map String.ofList)
    with ⟨lead, cut⟩
  have split : SplitsInto format.fieldDelimiter (Text.trim line.toList)
      (lead ++ format.fields line) :=
    (splitsInto_iff _ _ _).mpr cut.symm
  refine ⟨before, after, lead, blank, ?_, split, rfl⟩
  rw [joinBetween, join, String.toList_ofList, split.joined, ← whole, String.ofList_toList]

theorem fields_between_blanks (text : String) (before after : List Char)
    (blank : ∀ char ∈ before ++ after, Text.isBlank char = true) :
    format.fields (String.ofList (before ++ text.toList ++ after)) = format.fields text := by
  rw [fields, fields, String.toList_ofList, Text.trim_append_blanks before _ after blank]

/-- A field and a visible text behind it make a line whose first piece is that field. -/
theorem pieces_behind (field text : String)
    (lineVisible : ∀ char, (format.behind field text).toList.head? = some char →
      Text.isBlank char = false)
    (lastVisible : ∃ char, text.toList.getLast? = some char ∧ Text.isBlank char = false)
    (clean : format.fieldDelimiter ∉ field.toList) :
    Text.pieces format.fieldDelimiter (Text.trim (format.behind field text).toList) =
      field.toList :: Text.pieces format.fieldDelimiter text.toList := by
  rcases lastVisible with ⟨last, isLast, notBlank⟩
  have trimmed :
      Text.trim (format.behind field text).toList = (format.behind field text).toList := by
    apply Text.trim_eq_self _ lineVisible
    intro char found
    rw [behind, String.toList_ofList, List.getLast?_append, List.getLast?_cons, isLast] at found
    cases found
    exact notBlank
  rw [trimmed, behind, String.toList_ofList, Text.pieces_append_delimiter _ _ _ clean]

/-- A text without blank characters at its ends and without an execution type is cut as it is. -/
theorem fields_of_visible (text : String)
    (firstVisible : ∃ char, text.toList.head? = some char ∧ Text.isBlank char = false)
    (lastVisible : ∃ char, text.toList.getLast? = some char ∧ Text.isBlank char = false)
    (keeps : ∀ first rest, SplitsInto format.fieldDelimiter text.toList (first :: rest) →
      format.Keeps first) :
    format.fields text = (Text.pieces format.fieldDelimiter text.toList).map String.ofList := by
  rw [fields, Text.trim_of_visible text.toList firstVisible lastVisible]
  cases cut : (Text.pieces format.fieldDelimiter text.toList).map String.ofList with
  | nil => exact absurd (List.map_eq_nil_iff.mp cut) (Text.pieces_ne_nil _ _)
  | cons first rest =>
      apply format.dropExecutionType_of_keeps
      exact keeps first rest ((splitsInto_iff _ _ _).mpr cut.symm)

theorem head?_visible_behind (executionType written text : String)
    (typeVisible : ∀ char, executionType.toList.head? = some char → Text.isBlank char = false)
    (agrees : Text.agreesIgnoringCase written.toList executionType.toList = true)
    (stays : ¬(written.toList = [] ∧ Text.isBlank format.fieldDelimiter = true)) (char : Char)
    (found : (format.behind written text).toList.head? = some char) :
    Text.isBlank char = false := by
  rw [behind, String.toList_ofList, List.head?_append] at found
  cases first : written.toList.head? with
  | none =>
      rw [first] at found
      cases found
      rw [List.head?_eq_none_iff] at first
      simpa [first] using stays
  | some head =>
      rw [first] at found
      cases found
      have alike := congrArg List.head? (Text.map_isBlank_of_agreesIgnoringCase _ _ agrees)
      rw [List.head?_map, List.head?_map, first] at alike
      cases typeFirst : executionType.toList.head? with
      | none =>
          rw [typeFirst] at alike
          cases alike
      | some letter =>
          rw [typeFirst, Option.map_some, Option.map_some, typeVisible letter typeFirst] at alike
          exact Option.some.inj alike

/-- An execution type before a text that has none makes no difference to the fields. -/
theorem fields_behind (executionType written text : String)
    (declared : format.executionType = some executionType)
    (typeVisible : ∀ char, executionType.toList.head? = some char → Text.isBlank char = false)
    (agrees : Text.agreesIgnoringCase written.toList executionType.toList = true)
    (clean : format.fieldDelimiter ∉ written.toList)
    (firstVisible : ∃ char, text.toList.head? = some char ∧ Text.isBlank char = false)
    (lastVisible : ∃ char, text.toList.getLast? = some char ∧ Text.isBlank char = false)
    (without : ∀ first rest, SplitsInto format.fieldDelimiter text.toList (first :: rest) →
      Text.agreesIgnoringCase first.toList executionType.toList = false) :
    format.fields (format.behind written text) = format.fields text := by
  by_cases vanishes : written.toList = [] ∧ Text.isBlank format.fieldDelimiter = true
  · -- A blank delimiter behind an empty execution type is trimmed away and cuts nothing.
    rcases vanishes with ⟨empty, blank⟩
    have surrounded : format.behind written text =
        String.ofList ([format.fieldDelimiter] ++ text.toList ++ []) := by
      rw [behind, empty, List.append_nil]
      rfl
    rw [surrounded]
    apply format.fields_between_blanks
    intro char char_mem
    rw [List.append_nil, List.mem_singleton] at char_mem
    rw [char_mem]
    exact blank
  · have lineVisible := format.head?_visible_behind executionType written text typeVisible agrees
      vanishes
    have keeps : ∀ first rest, SplitsInto format.fieldDelimiter text.toList (first :: rest) →
        format.Keeps first := by
      intro first rest split other declaredOther
      rw [declared] at declaredOther
      cases declaredOther
      exact without first rest split
    rw [format.fields_of_visible text firstVisible lastVisible keeps, fields,
      format.pieces_behind written text lineVisible lastVisible clean, List.map_cons,
      String.ofList_toList]
    cases cut : (Text.pieces format.fieldDelimiter text.toList).map String.ofList with
    | nil => exact absurd (List.map_eq_nil_iff.mp cut) (Text.pieces_ne_nil _ _)
    | cons first rest => simp only [dropExecutionType, declared, agrees, if_true]

theorem SplitsInto.unique {delimiter : Char} {text : List Char} {first second : List String}
    (firstSplit : SplitsInto delimiter text first)
    (secondSplit : SplitsInto delimiter text second) : first = second := by
  rw [splitsInto_iff] at firstSplit secondSplit
  rw [firstSplit, secondSplit]

/-- A visible word without a delimiter may stand in the place of a piece of a trimmed line. -/
theorem SplitsInto.replace {format : Format} {line : String} {lead rest : List String}
    {piece : String}
    (split : SplitsInto format.fieldDelimiter (Text.trim line.toList) (lead ++ piece :: rest))
    (before after : List Char) (blank : ∀ char ∈ before ++ after, Text.isBlank char = true)
    (other : String) (nonempty : other.toList ≠ [])
    (visible : ∀ char ∈ other.toList, Text.isBlank char = false)
    (clean : format.fieldDelimiter ∉ other.toList) :
    SplitsInto format.fieldDelimiter
      (Text.trim (format.joinBetween before after (lead ++ other :: rest)).toList)
      (lead ++ other :: rest) := by
  rcases Text.exists_joined_around format.fieldDelimiter (lead.map String.toList)
    (rest.map String.toList) with ⟨front, back, around⟩
  have joined_eq : ∀ field : String,
      Text.joined format.fieldDelimiter ((lead ++ field :: rest).map String.toList) =
        front ++ field.toList ++ back := by
    intro field
    rw [List.map_append, List.map_cons, around]
  have trimmed : Text.trim (front ++ piece.toList ++ back) = front ++ piece.toList ++ back := by
    rw [← joined_eq, split.joined, Text.trim_trim]
  refine ⟨by simp, ?_, ?_⟩
  · intro field field_mem
    rcases List.mem_append.mp field_mem with lead_mem | others_mem
    · exact split.clean field (List.mem_append_left _ lead_mem)
    · rcases List.mem_cons.mp others_mem with rfl | rest_mem
      · exact clean
      · exact split.clean field (List.mem_append_right _ (List.mem_cons_of_mem _ rest_mem))
  · rw [joinBetween, join, String.toList_ofList, String.toList_ofList,
      Text.trim_append_blanks _ _ _ blank, joined_eq,
      Text.trim_replace front piece.toList other.toList back trimmed nonempty visible]

/-- An opcode may be replaced by another spelling of it among the fields of a line. -/
theorem fields_respelled (line : String) (before after : List Char) (lead rest : List String)
    (opcode other : String) (composed : format.Composed line before after lead (opcode :: rest))
    (agrees : Text.agreesIgnoringCase other.toList opcode.toList = true)
    (nonempty : other.toList ≠ []) (visible : ∀ char ∈ other.toList, Text.isBlank char = false)
    (clean : format.fieldDelimiter ∉ other.toList) :
    format.fields (format.joinBetween before after (lead ++ other :: rest)) = other :: rest := by
  have split := composed.split.replace before after composed.blank other nonempty visible clean
  have cut := (format.parts_iff line _).mpr composed.fields_eq.symm
  symm
  rw [← parts_iff]
  cases cut with
  | behindType executionType first _ _ typeSplit declared typeAgrees =>
      have lead_eq : [first] = lead :=
        List.append_cancel_right (typeSplit.unique composed.split)
      subst lead_eq
      exact .behindType executionType first other rest split declared typeAgrees
  | whole _ wholeSplit kept =>
      have lead_eq : [] = lead := List.append_cancel_right (wholeSplit.unique composed.split)
      subst lead_eq
      apply Parts.whole _ split
      rintro executionType _ second others declared ⟨⟩
      have differs := kept executionType opcode second others declared rfl
      rw [Text.agreesIgnoringCase, beq_iff_eq] at agrees
      rwa [Text.agreesIgnoringCase, ← agrees] at differs

end Format

theorem Family.visible_of_agrees (family : Family) (opcode : String)
    (agrees : Text.agreesIgnoringCase family.opcode.toList opcode.toList = true) :
    ∀ char ∈ opcode.toList, Text.isBlank char = false := by
  have letters : (family.opcode.toList.all fun letter => !Text.isBlank letter) = true := by
    cases family <;> decide
  apply Text.visible_of_agreesIgnoringCase _ _ agrees
  intro letter letter_mem
  simpa using List.all_eq_true.mp letters letter letter_mem

/-- The opcode is one of the fields of every layout, so it may be exchanged among them. -/
theorem Fields.ofList?_respelled (layout : Layout) (opcode other : String) (rest : List String)
    (fields : Fields) (found : ofList? layout (opcode :: rest) = some fields) :
    ofList? layout (other :: rest) = some { fields with opcode := other } := by
  rcases fits_of_ofList? layout _ fields found with ⟨fits, listed⟩
  have rest_eq := (List.cons.inj listed).2
  rw [← rest_eq]
  exact ofList?_toList { fields with opcode := other } layout fits

namespace Instruction

variable (format : Format)

/-- The verdict on the parts of a line does not depend on the line that the answer keeps. -/
theorem Verdict.withLine {first : String} {parts : List String}
    {result : Except Error Instruction} (verdict : Verdict format first parts result)
    (second : String) : Verdict format second parts (answerWithLine second result) := by
  cases verdict with
  | unknownOpcode opcode rest unnamed => exact .unknownOpcode opcode rest unnamed
  | fieldCount opcode rest family expected named expected_eq count_ne =>
      exact .fieldCount opcode rest family expected named expected_eq count_ne
  | operand fields family parts laidOut before after token fault listed read failed =>
      exact .operand fields family parts laidOut before after token fault listed read failed
  | threads fields family parts laidOut inputs output operands noNumber =>
      exact .threads fields family parts laidOut inputs output operands noNumber
  | subtype fields family parts laidOut inputs output operands threads number unnamed =>
      exact .subtype fields family parts laidOut inputs output operands threads number unnamed
  | accepted fields family parts laidOut inputs output operands threads number operator sameFamily
      hasToken code =>
      exact .accepted fields family parts laidOut inputs output operands threads number operator
        sameFamily hasToken code

/-- Lines with the same fields have the same answer up to the line that it keeps. -/
theorem decode_of_fields_eq (first second : String)
    (same : format.fields second = format.fields first) :
    decode format second = answerWithLine second (decode format first) := by
  rcases exists_verdict format first _ (format.parts_fields first).nonempty with ⟨result, verdict⟩
  rw [decode_of_verdict format first _ rfl result verdict]
  exact decode_of_verdict format second _ same _ (verdict.withLine format second)

section Accepted

variable (line : String) (instruction : Instruction)
  (decoded : decode format line = .ok instruction)
include decoded

theorem exists_composed_of_decode :
    ∃ before after lead rest,
      format.Composed line before after lead (instruction.opcode :: rest) := by
  rcases format.exists_composed line with ⟨before, after, lead, composed⟩
  rw [decode_eq_ok_iff] at decoded
  rcases decoded with ⟨family, fields, _, found, read, _⟩
  rcases Fields.fits_of_ofList? _ _ fields found with ⟨_, listed⟩
  rw [Fields.toList_eq_cons_append, ← read.opcode] at listed
  rw [← listed] at composed
  exact ⟨before, after, lead, _, composed⟩

theorem decode_of_composed (before after : List Char) (lead rest : List String)
    (opcode : String)
    (composed : format.Composed line before after lead (instruction.opcode :: rest))
    (agrees : Text.agreesIgnoringCase opcode.toList instruction.opcode.toList = true)
    (clean : format.fieldDelimiter ∉ opcode.toList) :
    decode format (format.joinBetween before after (lead ++ opcode :: rest)) =
      .ok
        { instruction with
          opcode, line := format.joinBetween before after (lead ++ opcode :: rest) } := by
  rw [decode_eq_ok_iff] at decoded ⊢
  rcases decoded with ⟨family, fields, named, found, read, _⟩
  rw [← read.opcode, Family.ofOpcode?_eq_some_iff] at named
  have renamed : Text.agreesIgnoringCase family.opcode.toList opcode.toList = true := by
    rw [Text.agreesIgnoringCase, beq_iff_eq] at agrees named ⊢
    rw [named, agrees]
  have named' := (Family.ofOpcode?_eq_some_iff opcode family).mpr renamed
  have nonempty : opcode.toList ≠ [] := by
    rcases Family.exists_visible_of_ofOpcode? opcode family named' with ⟨char, found, _⟩
    exact List.ne_nil_of_mem (List.mem_of_head? found)
  have fields_eq := format.fields_respelled line before after lead rest _ opcode composed agrees
    nonempty (family.visible_of_agrees opcode renamed) clean
  rw [composed.fields_eq] at found
  refine ⟨family, { fields with opcode }, named', ?_, ?_, rfl⟩
  · rw [fields_eq]
    exact Fields.ofList?_respelled family.layout _ opcode rest fields found
  · exact ⟨read.inputs, read.output, read.threads, read.operator, read.fourth,
      read.subtypeField, read.threadsField, rfl⟩

end Accepted

/--
Blank characters around a line and an execution type before a line that has none change nothing in
the answer but the line that it keeps. Another spelling of the opcode of an accepted line changes
nothing in the instruction but the line and the opcode. It need not differ from the execution type:
a line whose opcode is the execution type is accepted only behind a piece that is dropped, and no
second piece is dropped.
-/
theorem decode_respelled (format : Format) :
    (∀ (text : String) (before after : List Char),
      (∀ char ∈ before ++ after, Text.isBlank char = true) →
      decode format (String.ofList (before ++ text.toList ++ after)) =
        answerWithLine (String.ofList (before ++ text.toList ++ after)) (decode format text)) ∧
    (∀ executionType written text : String, format.executionType = some executionType →
      (∀ char, executionType.toList.head? = some char → Text.isBlank char = false) →
      Text.agreesIgnoringCase written.toList executionType.toList = true →
      format.fieldDelimiter ∉ written.toList →
      (∃ char, text.toList.head? = some char ∧ Text.isBlank char = false) →
      (∃ char, text.toList.getLast? = some char ∧ Text.isBlank char = false) →
      (∀ first rest, Format.SplitsInto format.fieldDelimiter text.toList (first :: rest) →
        Text.agreesIgnoringCase first.toList executionType.toList = false) →
      decode format (format.behind written text) =
        answerWithLine (format.behind written text) (decode format text)) ∧
    ∀ (line : String) (instruction : Instruction), decode format line = .ok instruction →
      (∃ before after lead rest,
        format.Composed line before after lead (instruction.opcode :: rest)) ∧
      ∀ (before after : List Char) (lead rest : List String) (opcode : String),
        format.Composed line before after lead (instruction.opcode :: rest) →
        Text.agreesIgnoringCase opcode.toList instruction.opcode.toList = true →
        format.fieldDelimiter ∉ opcode.toList →
        decode format (format.joinBetween before after (lead ++ opcode :: rest)) =
          .ok
            { instruction with
              opcode, line := format.joinBetween before after (lead ++ opcode :: rest) } := by
  refine ⟨?_, ?_, ?_⟩
  · intro text before after blank
    exact decode_of_fields_eq format text _ (format.fields_between_blanks text before after blank)
  · intro executionType written text declared typeVisible agrees clean firstVisible lastVisible
      without
    apply decode_of_fields_eq
    exact format.fields_behind executionType written text declared typeVisible agrees clean
      firstVisible lastVisible without
  · intro line instruction decoded
    refine ⟨exists_composed_of_decode format line instruction decoded, ?_⟩
    intro before after lead rest opcode composed agrees clean
    exact decode_of_composed format line instruction decoded before after lead rest opcode composed
      agrees clean

theorem decode_respelled_tabbed :
    ∃ instruction,
      decode ⟨'\t', '·', some "Cp "⟩ "wcemm\tX\tU\tV\tce\tBASIC\t 8" = .ok instruction ∧
        decode ⟨'\t', '·', some "Cp "⟩ "cP \twcemm\tX\tU\tV\tce\tBASIC\t 8" =
          .ok { instruction with line := "cP \twcemm\tX\tU\tV\tce\tBASIC\t 8" } ∧
        decode ⟨'\t', '·', some "Cp "⟩ "cP \tWCemM\tX\tU\tV\tce\tBASIC\t 8" =
          .ok
            { instruction with
              opcode := "WCemM"
              line := "cP \tWCemM\tX\tU\tV\tce\tBASIC\t 8" } ∧
        decode ⟨'\t', '·', some "Cp "⟩ "\n wcemm\tX\tU\tV\tce\tBASIC\tmany\t" =
          .error
            (.malformed "\n wcemm\tX\tU\tV\tce\tBASIC\tmany\t" (.threads "many")) := by
  have accepted : ∃ instruction,
      decode ⟨'\t', '·', some "Cp "⟩ "wcemm\tX\tU\tV\tce\tBASIC\t 8" = .ok instruction ∧
        instruction.opcode = "wcemm" :=
    ⟨_, rfl, rfl⟩
  have refused : decode ⟨'\t', '·', some "Cp "⟩ "wcemm\tX\tU\tV\tce\tBASIC\tmany" =
      .error (.malformed "wcemm\tX\tU\tV\tce\tBASIC\tmany" (.threads "many")) := by
    rfl
  rcases accepted with ⟨instruction, decoded, named⟩
  rcases decode_respelled ⟨'\t', '·', some "Cp "⟩ with ⟨blanks, behind, opcodes⟩
  have without : ∀ first rest,
      Format.SplitsInto '\t' "wcemm\tX\tU\tV\tce\tBASIC\t 8".toList (first :: rest) →
      Text.agreesIgnoringCase first.toList "Cp ".toList = false := by
    intro first rest split
    have pieces := (Format.splitsInto_iff _ _ _).mp split
    have first_eq : first = "wcemm" := (List.cons.inj pieces).1
    rw [first_eq]
    decide
  have typed : decode ⟨'\t', '·', some "Cp "⟩ "cP \twcemm\tX\tU\tV\tce\tBASIC\t 8" =
      .ok { instruction with line := "cP \twcemm\tX\tU\tV\tce\tBASIC\t 8" } := by
    have answer := behind "Cp " "cP " "wcemm\tX\tU\tV\tce\tBASIC\t 8" rfl
      (by rintro char ⟨⟩; decide) (by decide) (by decide) ⟨'w', rfl, by decide⟩
      ⟨'8', rfl, by decide⟩ without
    rw [decoded] at answer
    exact answer
  have composed : Format.Composed ⟨'\t', '·', some "Cp "⟩
      "cP \twcemm\tX\tU\tV\tce\tBASIC\t 8" [] [] ["cP "]
      (instruction.opcode :: ["X", "U", "V", "ce", "BASIC", " 8"]) := by
    rw [named]
    exact ⟨nofun, rfl, (Format.splitsInto_iff _ _ _).mpr rfl, rfl⟩
  refine ⟨instruction, decoded, typed, ?_, ?_⟩
  · apply (opcodes _ _ typed).2 [] [] ["cP "] ["X", "U", "V", "ce", "BASIC", " 8"] "WCemM" composed
    · rw [named]
      decide
    · decide
  · have blank : ∀ char ∈ ['\n', ' '] ++ ['\t'], Text.isBlank char = true :=
      List.all_eq_true.mp (by decide)
    have surrounded := blanks "wcemm\tX\tU\tV\tce\tBASIC\tmany" ['\n', ' '] ['\t'] blank
    rw [refused] at surrounded
    exact surrounded

end Instruction

end LowRank
