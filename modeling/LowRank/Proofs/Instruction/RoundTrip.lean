import LowRank.Proofs.Instruction.Decoding
import LowRank.Proofs.Text.Pieces
import LowRank.Proofs.Text.Trim

/-!
# Writing a decoded instruction in another format

The fields of a decoded instruction are the fields of its line. Joined by the delimiter of any
format that cannot mistake them, they are decoded to the same instruction again. Trimming takes
nothing from the joined line: it begins with an opcode, and it ends as the line that was decoded
first ended after trimming.
-/

namespace LowRank

namespace Format

/-- The line that holds the given fields, with a delimiter between every two neighbours. -/
def join (format : Format) (listed : List String) : String :=
  String.ofList (Text.joined format.fieldDelimiter (listed.map String.toList))

/-- A field that is not dropped when it stands before other fields. -/
def Keeps (format : Format) (field : String) : Prop :=
  ∀ executionType, format.executionType = some executionType →
    Text.agreesIgnoringCase field.toList executionType.toList = false

theorem dropExecutionType_of_keeps (format : Format) (first : String) (rest : List String)
    (keeps : format.Keeps first) :
    format.dropExecutionType (first :: rest) = first :: rest := by
  cases declared : format.executionType with
  | none => simp [dropExecutionType, declared]
  | some executionType =>
      cases rest with
      | nil => simp [dropExecutionType, declared]
      | cons second others => simp [dropExecutionType, declared, keeps executionType declared]

theorem exists_append_dropExecutionType (format : Format) (listed : List String) :
    ∃ dropped, listed = dropped ++ format.dropExecutionType listed := by
  simp only [dropExecutionType]
  split
  · rename_i executionType first second rest declared
    split
    · exact ⟨[first], rfl⟩
    · exact ⟨[], rfl⟩
  · exact ⟨[], rfl⟩

/-- The last field of a line does not end with a blank character. -/
theorem last_visible (format : Format) (line last : String) (front : List String) (char : Char)
    (listed : format.fields line = front ++ [last]) (found : last.toList.getLast? = some char) :
    Text.isBlank char = false := by
  rcases format.exists_append_dropExecutionType
    ((Text.pieces format.fieldDelimiter (Text.trim line.toList)).map String.ofList)
    with ⟨dropped, whole⟩
  change _ = dropped ++ format.fields line at whole
  rw [listed, ← List.append_assoc] at whole
  have cut : Text.pieces format.fieldDelimiter (Text.trim line.toList) =
      (dropped ++ front).map String.toList ++ [last.toList] := by
    have texts := congrArg (List.map String.toList) whole
    simpa [Function.comp_def] using texts
  apply Text.not_isBlank_getLast?_trim line.toList
  rw [← Text.joined_pieces format.fieldDelimiter (Text.trim line.toList), cut]
  exact Text.getLast?_joined _ _ _ _ found

/-- Joined fields are the pieces of their line, whatever blanks are around it. -/
theorem pieces_join (format : Format) (first last : String) (middle : List String)
    (before after : List Char)
    (clean : ∀ field ∈ first :: (middle ++ [last]), format.fieldDelimiter ∉ field.toList)
    (firstVisible : ∃ char, first.toList.head? = some char ∧ Text.isBlank char = false)
    (lastVisible : ∃ char, last.toList.getLast? = some char ∧ Text.isBlank char = false)
    (blank : ∀ char ∈ before ++ after, Text.isBlank char = true) :
    (Text.pieces format.fieldDelimiter (Text.trim
        (before ++ (format.join (first :: (middle ++ [last]))).toList ++ after))).map
          String.ofList =
      first :: (middle ++ [last]) := by
  have trimmed : Text.trim (format.join (first :: (middle ++ [last]))).toList =
      Text.joined format.fieldDelimiter ((first :: (middle ++ [last])).map String.toList) := by
    rcases firstVisible with ⟨firstChar, first_eq, firstNotBlank⟩
    rcases lastVisible with ⟨lastChar, last_eq, lastNotBlank⟩
    rw [join, String.toList_ofList]
    apply Text.trim_of_visible
    · exact ⟨firstChar, Text.head?_joined _ _ _ firstChar first_eq, firstNotBlank⟩
    · refine ⟨lastChar, ?_, lastNotBlank⟩
      rw [← List.cons_append, List.map_append, List.map_singleton]
      exact Text.getLast?_joined _ _ _ lastChar last_eq
  have cut : Text.pieces format.fieldDelimiter
      (Text.joined format.fieldDelimiter ((first :: (middle ++ [last])).map String.toList)) =
      (first :: (middle ++ [last])).map String.toList := by
    apply Text.pieces_joined
    · simp
    · intro piece piece_mem
      rcases List.mem_map.mp piece_mem with ⟨field, field_mem, rfl⟩
      exact clean field field_mem
  rw [Text.trim_append_blanks _ _ _ blank, trimmed, cut, List.map_map]
  simp only [Function.comp_def, String.ofList_toList, List.map_id']

/-- Joined fields are the fields of their line, unless they can be mistaken. -/
theorem fields_join (format : Format) (first last : String) (middle : List String)
    (clean : ∀ field ∈ first :: (middle ++ [last]), format.fieldDelimiter ∉ field.toList)
    (keeps : format.Keeps first)
    (firstVisible : ∃ char, first.toList.head? = some char ∧ Text.isBlank char = false)
    (lastVisible : ∃ char, last.toList.getLast? = some char ∧ Text.isBlank char = false) :
    format.fields (format.join (first :: (middle ++ [last]))) = first :: (middle ++ [last]) := by
  have cut := format.pieces_join first last middle [] [] clean firstVisible lastVisible nofun
  rw [List.nil_append, List.append_nil] at cut
  rw [fields, cut]
  exact format.dropExecutionType_of_keeps first _ keeps

end Format

theorem Family.exists_visible_of_ofOpcode? (opcode : String) (family : Family)
    (named : Family.ofOpcode? opcode = some family) :
    ∃ char, opcode.toList.head? = some char ∧ Text.isBlank char = false := by
  have agrees := List.find?_some named
  cases family <;> exact Text.head?_visible_of_agreesIgnoringCase _ _ _ agrees (by decide)

theorem Fields.toList_eq_cons_append (fields : Fields) :
    fields.toList = fields.opcode ::
      ((fields.code.toList ++ fields.inputs.toList ++ [fields.output, fields.subtype]) ++
        [fields.threads]) := by
  simp [Fields.toList]

theorem Text.ne_nil_of_int32? (text : List Char) (value : Int32)
    (read : Text.int32? (Text.trim text) = some value) : text ≠ [] := by
  rintro rfl
  simp [Text.trim, Text.trimEnd, Text.trimStart, Text.int32?, Text.integer?, Text.natural?] at read

namespace Instruction

/-- The last field of a decoded line ends with a visible character. -/
theorem ReadFrom.threads_visible {instruction : Instruction} {delimiter : Char} {family : Family}
    {fields : Fields} (read : instruction.ReadFrom delimiter family fields) (format : Format)
    (line : String) (listed : fields.toList = format.fields line) :
    ∃ char, fields.threads.toList.getLast? = some char ∧ Text.isBlank char = false := by
  have nonempty := Text.ne_nil_of_int32? _ _ read.threads
  refine ⟨_, List.getLast?_eq_some_getLast nonempty, ?_⟩
  rw [Fields.toList_eq_cons_append, ← List.cons_append] at listed
  exact format.last_visible line _ _ _ listed.symm (List.getLast?_eq_some_getLast nonempty)

/--
Decoding a line, listing the fields of the instruction and decoding them in another format. Every
component but the line itself is the same the second time.
-/
theorem decode_join_fields (first : Format) (line : String) (instruction : Instruction)
    (decoded : decode first line = .ok instruction) :
    instruction.fields = first.fields line ∧
      ∀ second : Format, second.typeDelimiter = first.typeDelimiter →
        (∀ field ∈ instruction.fields, second.fieldDelimiter ∉ field.toList) →
        second.Keeps instruction.opcode →
        decode second (second.join instruction.fields) =
          .ok { instruction with line := second.join instruction.fields } := by
  rw [decode_eq_ok_iff] at decoded
  rcases decoded with ⟨family, fields, named, found, read, _⟩
  rcases Fields.fits_of_ofList? _ _ _ found with ⟨fits, listed⟩
  have fields_eq : instruction.fields = fields.toList := by
    rw [Instruction.fields, read.roles_eq fits]
  refine ⟨fields_eq.trans listed, ?_⟩
  intro second typeDelimiter clean keeps
  have rejoined : second.fields (second.join instruction.fields) = instruction.fields := by
    rw [fields_eq, Fields.toList_eq_cons_append] at clean ⊢
    apply second.fields_join _ _ _ clean
    · rwa [read.opcode] at keeps
    · exact Family.exists_visible_of_ofOpcode? _ _ named
    · exact read.threads_visible first line listed
  rw [decode_eq_ok_iff, rejoined, fields_eq, listed, typeDelimiter]
  exact ⟨family, fields, named, found,
    ⟨read.inputs, read.output, read.threads, read.operator, read.fourth, read.subtypeField,
      read.threadsField, read.opcode⟩, rfl⟩

theorem decode_join_fields_tabbed :
    ∃ instruction,
      decode .native " CP°wUmm° EXP°X·MATRIX·DOUBLE°U°V° out °DIV° -07 " = .ok instruction ∧
        instruction.fields = ["wUmm", " EXP", "X·MATRIX·DOUBLE", "U", "V", " out ", "DIV", " -07"] ∧
        decode ⟨'\t', '·', some "wsloss"⟩
            (Format.join ⟨'\t', '·', some "wsloss"⟩ instruction.fields) =
          .ok
            { instruction with
              line := Format.join ⟨'\t', '·', some "wsloss"⟩ instruction.fields } := by
  have decoded :
      decode .native " CP°wUmm° EXP°X·MATRIX·DOUBLE°U°V° out °DIV° -07 " =
        .ok
          { operator := .unary .divide " EXP"
            inputs :=
              ⟨⟨"X", .matrix, .double, "X·MATRIX·DOUBLE"⟩, ⟨"U", .unknown, .unknown, "U"⟩,
                ⟨"V", .unknown, .unknown, "V"⟩, none⟩
            output := ⟨"out", .unknown, .unknown, " out "⟩
            threads := -7
            subtypeField := "DIV"
            threadsField := " -07"
            opcode := "wUmm"
            line := " CP°wUmm° EXP°X·MATRIX·DOUBLE°U°V° out °DIV° -07 " } := by
    rfl
  have written := (decode_join_fields .native _ _ decoded).2
  refine ⟨_, decoded, rfl, written ⟨'\t', '·', some "wsloss"⟩ rfl (by decide) ?_⟩
  rintro executionType ⟨⟩
  decide

end Instruction

end LowRank
