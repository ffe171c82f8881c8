import LowRank.Proofs.Instruction.Grammar
import LowRank.Proofs.Text.Trim

/-!
# The grammar of operands

Which tokens are operands, and what is reported of the others. A token is given by the parts that
the delimiter joins to it. The delimiter may be any character: if it is a letter of some word, then
no part is that word, and if it is blank, then it is no part of a name. The verdict on a token is
the first of five conditions that fails: the number of parts, the data type, the value type, the
flag and the name. A token that is joined from the parts of an operand is read as this operand.
-/

namespace LowRank

/-- The words for the data types. -/
inductive DataType.HasWord : DataType → String → Prop where
  | matrix : HasWord .matrix "MATRIX"
  | scalar : HasWord .scalar "SCALAR"
  | unknown : HasWord .unknown "UNKNOWN"

/-- The words for the value types. -/
inductive ValueType.HasWord : ValueType → String → Prop where
  | double : HasWord .double "DOUBLE"
  | int : HasWord .int "INT"
  | boolean : HasWord .boolean "BOOLEAN"
  | string : HasWord .string "STRING"
  | unknown : HasWord .unknown "UNKNOWN"

theorem DataType.hasWord_iff (dataType : DataType) (word : String) :
    dataType.HasWord word ↔ word = dataType.token := by
  constructor
  · intro hasWord
    cases hasWord <;> rfl
  · rintro rfl
    cases dataType <;> constructor

theorem ValueType.hasWord_iff (valueType : ValueType) (word : String) :
    valueType.HasWord word ↔ word = valueType.token := by
  constructor
  · intro hasWord
    cases hasWord <;> rfl
  · rintro rfl
    cases valueType <;> constructor

theorem DataType.ofToken?_eq_some_iff (word : String) (dataType : DataType) :
    ofToken? word = some dataType ↔ dataType.HasWord word := by
  rw [hasWord_iff]
  apply find?_name_eq_some_iff
  cases dataType <;> decide

theorem ValueType.ofToken?_eq_some_iff (word : String) (valueType : ValueType) :
    ofToken? word = some valueType ↔ valueType.HasWord word := by
  rw [hasWord_iff]
  apply find?_name_eq_some_iff
  cases valueType <;> decide

theorem DataType.ofToken?_eq_none_iff (word : String) :
    ofToken? word = none ↔ ∀ dataType : DataType, ¬dataType.HasWord word := by
  simp only [← ofToken?_eq_some_iff, Option.eq_none_iff_forall_ne_some, ne_eq]

theorem ValueType.ofToken?_eq_none_iff (word : String) :
    ofToken? word = none ↔ ∀ valueType : ValueType, ¬valueType.HasWord word := by
  simp only [← ofToken?_eq_some_iff, Option.eq_none_iff_forall_ne_some, ne_eq]

namespace Operand

/-- What the parts behind the name of an operand declare. -/
inductive Declares : List String → DataType → ValueType → Prop where
  | nothing : Declares [] .unknown .unknown
  | types (dataPart valuePart : String) (dataType : DataType) (valueType : ValueType)
      (data : dataType.HasWord dataPart) (value : valueType.HasWord valuePart) :
      Declares [dataPart, valuePart] dataType valueType
  | flagged (dataPart valuePart flag : String) (dataType : DataType) (valueType : ValueType)
      (data : dataType.HasWord dataPart) (value : valueType.HasWord valuePart)
      (truth : flag = "true" ∨ flag = "false") :
      Declares [dataPart, valuePart, flag] dataType valueType

/-- What is answered to the parts of a token, by the first condition that fails. -/
inductive Verdict (token : String) : List String → Except OperandFault Operand → Prop where
  | partCount (parts : List String) (count : parts.length ∉ [1, 3, 4]) :
      Verdict token parts (.error (.partCount token parts.length))
  | dataType (first dataPart valuePart : String) (flag : Option String)
      (unnamed : ∀ dataType : DataType, ¬dataType.HasWord dataPart) :
      Verdict token (first :: dataPart :: valuePart :: flag.toList)
        (.error (.dataType token dataPart))
  | valueType (first dataPart valuePart : String) (flag : Option String) (dataType : DataType)
      (data : dataType.HasWord dataPart)
      (unnamed : ∀ valueType : ValueType, ¬valueType.HasWord valuePart) :
      Verdict token (first :: dataPart :: valuePart :: flag.toList)
        (.error (.valueType token valuePart))
  | literalFlag (first dataPart valuePart flag : String) (dataType : DataType)
      (valueType : ValueType) (data : dataType.HasWord dataPart)
      (value : valueType.HasWord valuePart) (noTruth : ¬(flag = "true" ∨ flag = "false")) :
      Verdict token [first, dataPart, valuePart, flag] (.error (.literalFlag token flag))
  | emptyName (first : String) (rest : List String) (dataType : DataType) (valueType : ValueType)
      (declares : Declares rest dataType valueType)
      (blank : ∀ char ∈ first.toList, Text.isBlank char = true) :
      Verdict token (first :: rest) (.error (.emptyName token))
  | accepted (first : String) (rest : List String) (dataType : DataType) (valueType : ValueType)
      (declares : Declares rest dataType valueType)
      (visible : ∃ char ∈ first.toList, Text.isBlank char = false) (name : String)
      (trimmed : Text.TrimsTo first.toList name.toList) :
      Verdict token (first :: rest) (.ok { name, dataType, valueType, token })

section Types

variable (token dataPart valuePart : String)

theorem isFlag_iff (flag : String) : isFlag flag = true ↔ flag = "true" ∨ flag = "false" := by
  simp [isFlag]

theorem readPair_of_words (dataType : DataType) (valueType : ValueType)
    (data : dataType.HasWord dataPart) (value : valueType.HasWord valuePart) :
    readTypes.readPair token dataPart valuePart = .ok (dataType, valueType) := by
  rw [← DataType.ofToken?_eq_some_iff] at data
  rw [← ValueType.ofToken?_eq_some_iff] at value
  simp only [readTypes.readPair, data, value]

theorem readPair_of_no_dataType (unnamed : ∀ dataType : DataType, ¬dataType.HasWord dataPart) :
    readTypes.readPair token dataPart valuePart = .error (.dataType token dataPart) := by
  rw [← DataType.ofToken?_eq_none_iff] at unnamed
  simp only [readTypes.readPair, unnamed]

theorem readPair_of_no_valueType (dataType : DataType) (data : dataType.HasWord dataPart)
    (unnamed : ∀ valueType : ValueType, ¬valueType.HasWord valuePart) :
    readTypes.readPair token dataPart valuePart = .error (.valueType token valuePart) := by
  rw [← DataType.ofToken?_eq_some_iff] at data
  rw [← ValueType.ofToken?_eq_none_iff] at unnamed
  simp only [readTypes.readPair, data, unnamed]

/-- A fault of one of the two types is reported before the flag is looked at. -/
theorem readTypes_of_faulty_pair (flag : Option String) (fault : OperandFault)
    (failed : readTypes.readPair token dataPart valuePart = .error fault) :
    readTypes token (dataPart :: valuePart :: flag.toList) = .error fault := by
  cases flag with
  | none => exact failed
  | some flag =>
      simp only [Option.toList, readTypes, failed]
      rfl

theorem readTypes_of_flag (flag : String) (types : DataType × ValueType)
    (read : readTypes.readPair token dataPart valuePart = .ok types) :
    readTypes token [dataPart, valuePart, flag] =
      if isFlag flag then .ok types else .error (.literalFlag token flag) := by
  simp only [readTypes, read, ok_bind]

theorem readTypes_of_declares (rest : List String) (dataType : DataType) (valueType : ValueType)
    (declares : Declares rest dataType valueType) :
    readTypes token rest = .ok (dataType, valueType) := by
  cases declares with
  | nothing => rfl
  | types dataPart valuePart _ _ data value =>
      exact readPair_of_words token dataPart valuePart dataType valueType data value
  | flagged dataPart valuePart flag _ _ data value truth =>
      have pair := readPair_of_words token dataPart valuePart dataType valueType data value
      rw [readTypes_of_flag token dataPart valuePart flag _ pair]
      exact if_pos ((isFlag_iff flag).mpr truth)

theorem readTypes_of_partCount (first : String) (rest : List String)
    (count : (first :: rest).length ∉ [1, 3, 4]) :
    readTypes token rest = .error (.partCount token (first :: rest).length) := by
  match rest, count with
  | [], count => exact absurd (by simp) count
  | [_], _ => rfl
  | [_, _], count => exact absurd (by simp) count
  | [_, _, _], count => exact absurd (by simp) count
  | _ :: _ :: _ :: _ :: _, _ => rfl

end Types

section Parts

variable (token first : String) (rest : List String)

theorem verdict_of_named (dataType : DataType) (valueType : ValueType)
    (declares : Declares rest dataType valueType) (named : Text.trim first.toList ≠ []) :
    Verdict token (first :: rest)
      (.ok { name := String.ofList (Text.trim first.toList), dataType, valueType, token }) := by
  have visible := (Text.trim_ne_nil_iff first.toList).mp named
  apply Verdict.accepted first rest dataType valueType declares visible
  rw [String.toList_ofList]
  exact Text.trimsTo_trim first.toList

theorem exists_verdict_of_declares (dataType : DataType) (valueType : ValueType)
    (declares : Declares rest dataType valueType) :
    ∃ result, Verdict token (first :: rest) result := by
  by_cases vanishes : Text.trim first.toList = []
  · rw [Text.trim_eq_nil_iff] at vanishes
    exact ⟨_, .emptyName first rest dataType valueType declares vanishes⟩
  · exact ⟨_, verdict_of_named token first rest dataType valueType declares vanishes⟩

theorem exists_verdict_of_pair (dataPart valuePart : String) (flag : Option String) :
    ∃ result, Verdict token (first :: dataPart :: valuePart :: flag.toList) result := by
  -- The remaining conditions are split in the order of the checks.
  by_cases data : ∃ dataType : DataType, dataType.HasWord dataPart
  · rcases data with ⟨dataType, data⟩
    by_cases value : ∃ valueType : ValueType, valueType.HasWord valuePart
    · rcases value with ⟨valueType, value⟩
      cases flag with
      | none =>
          apply exists_verdict_of_declares token first _ dataType valueType
          exact .types dataPart valuePart dataType valueType data value
      | some flag =>
          by_cases truth : flag = "true" ∨ flag = "false"
          · apply exists_verdict_of_declares token first _ dataType valueType
            exact .flagged dataPart valuePart flag dataType valueType data value truth
          · exact ⟨_, .literalFlag first dataPart valuePart flag dataType valueType data value
              truth⟩
    · exact ⟨_, .valueType first dataPart valuePart flag dataType data (not_exists.mp value)⟩
  · exact ⟨_, .dataType first dataPart valuePart flag (not_exists.mp data)⟩

theorem exists_verdict_of_parts : ∃ result, Verdict token (first :: rest) result := by
  by_cases count : (first :: rest).length ∈ [1, 3, 4]
  · match rest, count with
    | [], _ => exact exists_verdict_of_declares token first [] .unknown .unknown .nothing
    | [_], count => simp at count
    | [dataPart, valuePart], _ => exact exists_verdict_of_pair token first dataPart valuePart none
    | [dataPart, valuePart, flag], _ =>
        exact exists_verdict_of_pair token first dataPart valuePart (some flag)
    | _ :: _ :: _ :: _ :: _, count => simp at count
  · exact ⟨_, .partCount (first :: rest) count⟩

variable (delimiter : Char) (cut : parts delimiter token = first :: rest)
include cut

theorem read_of_readTypes_error (fault : OperandFault)
    (failed : readTypes token rest = .error fault) : read delimiter token = .error fault := by
  simp only [read, cut, List.tail_cons, failed]
  rfl

theorem read_of_readTypes_ok (dataType : DataType) (valueType : ValueType)
    (types : readTypes token rest = .ok (dataType, valueType)) :
    read delimiter token =
      if Text.trim first.toList = [] then .error (.emptyName token)
      else .ok
        { name := String.ofList (Text.trim first.toList), dataType, valueType, token } := by
  simp only [read, cut, List.tail_cons, List.headD_cons, types, ok_bind, String.ofList_eq_empty_iff]

end Parts

theorem read_of_verdict (delimiter : Char) (token : String) (listed : List String)
    (split : Format.SplitsInto delimiter token.toList listed)
    (result : Except OperandFault Operand) (verdict : Verdict token listed result) :
    read delimiter token = result := by
  have cut : parts delimiter token = listed := ((Format.splitsInto_iff _ _ _).mp split).symm
  cases verdict with
  | partCount _ count =>
      cases listed with
      | nil => exact absurd rfl split.nonempty
      | cons first rest =>
          apply read_of_readTypes_error token first rest delimiter cut
          exact readTypes_of_partCount token first rest count
  | dataType first dataPart valuePart flag unnamed =>
      apply read_of_readTypes_error token first _ delimiter cut
      apply readTypes_of_faulty_pair
      exact readPair_of_no_dataType token dataPart valuePart unnamed
  | valueType first dataPart valuePart flag dataType data unnamed =>
      apply read_of_readTypes_error token first _ delimiter cut
      apply readTypes_of_faulty_pair
      exact readPair_of_no_valueType token dataPart valuePart dataType data unnamed
  | literalFlag first dataPart valuePart flag dataType valueType data value noTruth =>
      have pair := readPair_of_words token dataPart valuePart dataType valueType data value
      apply read_of_readTypes_error token first _ delimiter cut
      rw [readTypes_of_flag token dataPart valuePart flag _ pair, if_neg]
      rw [isFlag_iff]
      exact noTruth
  | emptyName first rest dataType valueType declares blank =>
      have types := readTypes_of_declares token rest dataType valueType declares
      rw [read_of_readTypes_ok token first rest delimiter cut dataType valueType types]
      exact if_pos ((Text.trim_eq_nil_iff first.toList).mpr blank)
  | accepted first rest dataType valueType declares visible name trimmed =>
      have types := readTypes_of_declares token rest dataType valueType declares
      rw [read_of_readTypes_ok token first rest delimiter cut dataType valueType types,
        if_neg ((Text.trim_ne_nil_iff first.toList).mpr visible),
        ← (Text.trimsTo_iff first.toList name.toList).mp trimmed, String.ofList_toList]

theorem read_eq_iff_verdict (delimiter : Char) (token : String)
    (result : Except OperandFault Operand) :
    read delimiter token = result ↔
      ∃ listed, Format.SplitsInto delimiter token.toList listed ∧ Verdict token listed result := by
  constructor
  · rintro rfl
    have split : Format.SplitsInto delimiter token.toList (parts delimiter token) :=
      (Format.splitsInto_iff _ _ _).mpr rfl
    rcases List.exists_cons_of_ne_nil split.nonempty with ⟨first, rest, cut⟩
    rw [cut] at split
    rcases exists_verdict_of_parts token first rest with ⟨result, verdict⟩
    rw [read_of_verdict delimiter token _ split result verdict]
    exact ⟨_, split, verdict⟩
  · rintro ⟨listed, split, verdict⟩
    exact read_of_verdict delimiter token listed split result verdict

/-- The word for a flag. -/
def flagWord : Bool → String
  | true => "true"
  | false => "false"

/-- The parts of an operand with declared types and, at times, a flag. -/
def typedParts (name : String) (dataType : DataType) (valueType : ValueType)
    (literal : Option Bool) : List String :=
  [name, dataType.token, valueType.token] ++ (literal.map flagWord).toList

/-- The token that the given parts are joined to. -/
def joinParts (delimiter : Char) (listed : List String) : String :=
  String.ofList (Text.joined delimiter (listed.map String.toList))

theorem declares_tail_typedParts (name : String) (dataType : DataType) (valueType : ValueType)
    (literal : Option Bool) :
    Declares (typedParts name dataType valueType literal).tail dataType valueType := by
  have data := (dataType.hasWord_iff _).mpr rfl
  have value := (valueType.hasWord_iff _).mpr rfl
  cases literal with
  | none => exact .types _ _ dataType valueType data value
  | some literal =>
      apply Declares.flagged _ _ _ dataType valueType data value
      cases literal with
      | true => exact Or.inl rfl
      | false => exact Or.inr rfl

/-- An operand is read from its parts if the delimiter is in none of them. -/
theorem read_joinParts (delimiter : Char) (first : String) (rest : List String)
    (dataType : DataType) (valueType : ValueType) (declares : Declares rest dataType valueType)
    (named : Text.trim first.toList ≠ [])
    (clean : ∀ part ∈ first :: rest, delimiter ∉ part.toList) :
    read delimiter (joinParts delimiter (first :: rest)) =
      .ok
        { name := String.ofList (Text.trim first.toList), dataType, valueType
          token := joinParts delimiter (first :: rest) } := by
  have split : Format.SplitsInto delimiter (joinParts delimiter (first :: rest)).toList
      (first :: rest) :=
    ⟨List.cons_ne_nil first rest, clean, String.toList_ofList.symm⟩
  apply read_of_verdict delimiter _ _ split
  exact verdict_of_named _ first rest dataType valueType declares named

theorem name_of_read (delimiter : Char) (token : String) (operand : Operand)
    (accepted : read delimiter token = .ok operand) :
    Text.trim operand.name.toList = operand.name.toList ∧ operand.name.toList ≠ [] ∧
      delimiter ∉ operand.name.toList := by
  rw [read_eq_iff_verdict] at accepted
  rcases accepted with ⟨listed, split, verdict⟩
  cases verdict with
  | accepted first rest dataType valueType declares visible name trimmed =>
      rw [Text.trimsTo_iff] at trimmed
      simp only [trimmed]
      refine ⟨Text.trim_trim first.toList, (Text.trim_ne_nil_iff first.toList).mpr visible, ?_⟩
      intro delimiter_mem
      have first_mem := Text.mem_of_mem_trim first.toList delimiter delimiter_mem
      exact split.clean first List.mem_cons_self first_mem

/-- A name by itself is an operand without declared types. -/
theorem read_name (delimiter : Char) (name : String)
    (trimmed : Text.trim name.toList = name.toList) (nonempty : name.toList ≠ [])
    (clean : delimiter ∉ name.toList) :
    read delimiter name =
      .ok { name, dataType := .unknown, valueType := .unknown, token := name } := by
  have named : Text.trim name.toList ≠ [] := by
    rw [trimmed]
    exact nonempty
  have alone : ∀ part ∈ [name], delimiter ∉ part.toList := by
    intro part part_mem
    rw [List.mem_singleton] at part_mem
    rw [part_mem]
    exact clean
  have written : joinParts delimiter [name] = name := String.ofList_toList
  have readBack := read_joinParts delimiter name [] .unknown .unknown .nothing named alone
  rw [written, trimmed, String.ofList_toList] at readBack
  exact readBack

/--
Reading accepts exactly the tokens of the grammar and reports of any other the first fault of its
parts. A name and two types are read back from the token that the delimiter joins them to, with or
without a flag, unless it occurs in one of them. The name of an operand is read as itself.
-/
theorem read_follows_grammar (delimiter : Char) :
    (∀ token result, read delimiter token = result ↔
      ∃ listed, Format.SplitsInto delimiter token.toList listed ∧ Verdict token listed result) ∧
    (∀ name dataType valueType literal, Text.trim name.toList ≠ [] →
      (∀ part ∈ typedParts name dataType valueType literal, delimiter ∉ part.toList) →
      read delimiter (joinParts delimiter (typedParts name dataType valueType literal)) =
        .ok
          { name := String.ofList (Text.trim name.toList), dataType, valueType
            token := joinParts delimiter (typedParts name dataType valueType literal) }) ∧
    ∀ token operand, read delimiter token = .ok operand →
      delimiter ∉ operand.name.toList ∧
        ∀ other, other ∉ operand.name.toList →
          read other operand.name =
            .ok
              { name := operand.name, dataType := .unknown, valueType := .unknown
                token := operand.name } := by
  refine ⟨read_eq_iff_verdict delimiter, ?_, ?_⟩
  · intro name dataType valueType literal named clean
    exact read_joinParts delimiter name _ dataType valueType
      (declares_tail_typedParts name dataType valueType literal) named clean
  · intro token operand accepted
    rcases name_of_read delimiter token operand accepted with ⟨trimmed, nonempty, clean⟩
    refine ⟨clean, ?_⟩
    intro other otherClean
    exact read_name other operand.name trimmed nonempty otherClean

theorem read_follows_grammar_blank_delimiter :
    read ' ' "\tX\n SCALAR INT true" = .ok ⟨"X", .scalar, .int, "\tX\n SCALAR INT true"⟩ ∧
      read ' ' "X" = .ok ⟨"X", .unknown, .unknown, "X"⟩ ∧
      read ' ' "X  INT maybe" = .error (.dataType "X  INT maybe" "") := by
  rcases read_follows_grammar ' ' with ⟨verdicts, joined, names⟩
  have typed := joined "\tX\n" .scalar .int (some true) (by decide) (by decide)
  refine ⟨typed, (names _ _ typed).2 ' ' (by decide), ?_⟩
  rw [verdicts]
  refine ⟨["X", "", "INT", "maybe"], ?_, ?_⟩
  · exact ⟨by decide, by decide, by decide⟩
  · apply Verdict.dataType "X" "" "INT" (some "maybe")
    exact (DataType.ofToken?_eq_none_iff "").mp rfl

end Operand

end LowRank
