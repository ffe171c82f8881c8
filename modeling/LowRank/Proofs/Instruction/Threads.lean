import LowRank.Proofs.Instruction.Decoding
import LowRank.Proofs.Text.Integers

/-!
# The field of a thread count

The field is read by the numeral that is left of it without the blanks at its ends. There is one
verdict on each field: the integer that the numeral denotes, if that fits into 32 bits, and else an
error that quotes the field as it stands in the line. The size of the integer is not limited before
this decision, so a long row of digits is refused and never taken for a smaller number.
-/

namespace LowRank

/-- What is answered to a field, by the text that is left of it without the blanks at its ends. -/
inductive ThreadsVerdict (line field : String) (numeral : List Char) :
    Except Error Int32 → Prop where
  | inRange (value : Int) (denotes : Text.Denotes numeral value) (threads : Int32)
      (least : -2147483648 ≤ value) (greatest : value ≤ 2147483647)
      (threads_eq : threads.toInt = value) : ThreadsVerdict line field numeral (.ok threads)
  | beyond (value : Int) (denotes : Text.Denotes numeral value)
      (outside : value < -2147483648 ∨ 2147483647 < value) :
      ThreadsVerdict line field numeral (.error (.malformed line (.threads field)))
  | noNumeral (undenoted : ∀ value, ¬Text.Denotes numeral value) :
      ThreadsVerdict line field numeral (.error (.malformed line (.threads field)))

section

variable (line field : String)

theorem readThreads_eq_error_of_int32? (unread : Text.int32? (Text.trim field.toList) = none) :
    readThreads line field = .error (.malformed line (.threads field)) := by
  simp only [readThreads, unread]

theorem threadsVerdict_readThreads :
    ThreadsVerdict line field (Text.trim field.toList) (readThreads line field) := by
  cases read : Text.int32? (Text.trim field.toList) with
  | some threads =>
      have denotes := (Text.int32?_eq_some_iff _ threads).mp read
      have least : -2147483648 ≤ threads.toInt := threads.le_toInt
      have greatest : threads.toInt ≤ 2147483647 := Int.le_of_lt_add_one threads.toInt_lt
      rw [(readThreads_eq_ok_iff line field threads).mpr read]
      exact .inRange threads.toInt denotes threads least greatest rfl
  | none =>
      have beyond := (Text.int32?_eq_none_iff _).mp read
      rw [readThreads_eq_error_of_int32? line field read]
      by_cases numeral : ∃ value, Text.Denotes (Text.trim field.toList) value
      · rcases numeral with ⟨value, denotes⟩
        exact .beyond value denotes (beyond value denotes)
      · exact .noNumeral (not_exists.mp numeral)

theorem readThreads_of_threadsVerdict (result : Except Error Int32)
    (verdict : ThreadsVerdict line field (Text.trim field.toList) result) :
    readThreads line field = result := by
  cases verdict with
  | inRange value denotes threads _ _ threads_eq =>
      subst threads_eq
      apply (readThreads_eq_ok_iff line field threads).mpr
      exact (Text.int32?_eq_some_iff _ threads).mpr denotes
  | beyond value denotes outside =>
      apply readThreads_eq_error_of_int32?
      apply (Text.int32?_eq_none_iff _).mpr
      intro other denotesOther
      rw [← denotes.unique denotesOther]
      exact outside
  | noNumeral undenoted =>
      apply readThreads_eq_error_of_int32?
      apply (Text.int32?_eq_none_iff _).mpr
      intro value denotes
      exact absurd denotes (undenoted value)

/--
A thread count is read from exactly the fields that are, between blanks, a numeral of a 32-bit
integer. The error for any other field carries the line and quotes the field with its blanks.
-/
theorem readThreads_eq_iff :
    (∀ result, readThreads line field = result ↔
      ∃ numeral, Text.TrimsTo field.toList numeral ∧ ThreadsVerdict line field numeral result) ∧
    (Error.malformed line (.threads field)).message =
      s!"Malformed instruction '{line}': " ++ s!"thread count '{field}' is not an integer" := by
  refine ⟨?_, ?_⟩
  · intro result
    constructor
    · rintro rfl
      exact ⟨_, Text.trimsTo_trim field.toList, threadsVerdict_readThreads line field⟩
    · rintro ⟨numeral, trimmed, verdict⟩
      rw [Text.trimsTo_iff] at trimmed
      subst trimmed
      exact readThreads_of_threadsVerdict line field result verdict
  · rfl

end

example : readThreads "line" " -000002147483648\t" = .ok (-2147483648) := by
  rfl

example :
    readThreads "line" " 4294967297" = .error (.malformed "line" (.threads " 4294967297")) := by
  decide

end LowRank
