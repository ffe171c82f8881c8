import LowRank.Proofs.Text.Numeral
import Mathlib.Data.List.Induction
import Mathlib.Data.Nat.Digits.Defs

/-!
# The integers that numerals denote

A numeral is a row of decimal digits behind at most one sign. Each digit counts by its place, so
zeros at the front change nothing and no number of digits is too large. Reading finds the integer
of every numeral and no integer for any other text, and only then asks for the range of 32 bits.
-/

namespace LowRank.Text

/-- Decimal digits as they are written, the highest place first. -/
def written (digits : List (Fin 10)) : List Char :=
  digits.map fun digit : Fin 10 => Nat.digitChar digit.val

/-- The number of decimal digits by their places, the highest place first. -/
def magnitude (digits : List (Fin 10)) : Nat :=
  Nat.ofDigits 10 (digits.map Fin.val).reverse

/-- The numerals and the integers that they stand for. -/
inductive Denotes : List Char → Int → Prop where
  | unsigned (digits : List (Fin 10)) (nonempty : digits ≠ []) :
      Denotes (written digits) (magnitude digits)
  | positive (digits : List (Fin 10)) (nonempty : digits ≠ []) :
      Denotes ('+' :: written digits) (magnitude digits)
  | negative (digits : List (Fin 10)) (nonempty : digits ≠ []) :
      Denotes ('-' :: written digits) (-magnitude digits)

theorem digitValue_digitChar (digit : Fin 10) : digitValue (Nat.digitChar digit) = digit := by
  have code : (Nat.digitChar digit).toNat = 48 + digit :=
    Nat.toNat_digitChar_of_lt_ten digit.isLt
  rw [digitValue, code]
  exact Nat.add_sub_cancel_left 48 digit

theorem exists_digitChar (char : Char) (isDigit : char.isDigit = true) :
    ∃ digit : Fin 10, Nat.digitChar digit = char := by
  rcases toNat_bounds_of_isDigit char isDigit with ⟨least, greatest⟩
  have small : char.toNat - 48 < 10 := by omega
  refine ⟨⟨char.toNat - 48, small⟩, ?_⟩
  apply Char.toNat_inj.mp
  rw [Nat.toNat_digitChar_of_lt_ten small]
  omega

theorem exists_written (text : List Char) (isDigit : ∀ char ∈ text, char.isDigit = true) :
    ∃ digits, written digits = text := by
  induction text with
  | nil => exact ⟨[], rfl⟩
  | cons char rest ih =>
      rcases exists_digitChar char (isDigit char List.mem_cons_self) with ⟨digit, rfl⟩
      have restDigits : ∀ other ∈ rest, other.isDigit = true := by
        intro other other_mem
        exact isDigit other (List.mem_cons_of_mem _ other_mem)
      rcases ih restDigits with ⟨digits, rfl⟩
      exact ⟨digit :: digits, rfl⟩

theorem isDigit_of_mem_written (digits : List (Fin 10)) (char : Char)
    (char_mem : char ∈ written digits) : char.isDigit = true := by
  rcases List.mem_map.mp char_mem with ⟨digit, _, rfl⟩
  rw [Nat.isDigit_digitChar]
  exact decide_eq_true digit.isLt

theorem written_ne_nil (digits : List (Fin 10)) (nonempty : digits ≠ []) : written digits ≠ [] := by
  simpa [written] using nonempty

/-- One more digit at the end moves the others up by one place. -/
theorem magnitude_append (digits : List (Fin 10)) (digit : Fin 10) :
    magnitude (digits ++ [digit]) = 10 * magnitude digits + digit := by
  simp only [magnitude, List.map_append, List.map_singleton, List.reverse_append,
    List.reverse_singleton, List.singleton_append, Nat.ofDigits_cons]
  omega

theorem digitsValue_written (digits : List (Fin 10)) :
    digitsValue (written digits) = magnitude digits := by
  induction digits using List.reverseRecOn with
  | nil => rfl
  | append_singleton digits digit ih =>
      have step : digitsValue (written (digits ++ [digit])) =
          10 * digitsValue (written digits) + digitValue (Nat.digitChar digit) := by
        simp [digitsValue, written]
      rw [step, ih, digitValue_digitChar, magnitude_append]

theorem natural?_written (digits : List (Fin 10)) (nonempty : digits ≠ []) :
    natural? (written digits) = some (magnitude digits) := by
  have read := natural?_of_isDigit (written digits) (written_ne_nil digits nonempty)
    (isDigit_of_mem_written digits)
  rw [read, digitsValue_written]

theorem exists_written_of_natural? (text : List Char) (value : Nat)
    (read : natural? text = some value) :
    ∃ digits, digits ≠ [] ∧ text = written digits ∧ value = magnitude digits := by
  simp only [natural?] at read
  split at read
  · rename_i isNumeral
    rcases isNumeral with ⟨nonempty, isDigit⟩
    rcases exists_written text (List.all_eq_true.mp isDigit) with ⟨digits, rfl⟩
    refine ⟨digits, ?_, rfl, ?_⟩
    · rintro rfl
      exact nonempty rfl
    · rw [← digitsValue_written]
      exact (Option.some.inj read).symm
  · cases read

/-- The integer that is read is the one that the text denotes. -/
theorem integer?_eq_some_iff (text : List Char) (value : Int) :
    integer? text = some value ↔ Denotes text value := by
  constructor
  · intro read
    unfold integer? at read
    split at read
    all_goals
      rcases Option.map_eq_some_iff.mp read with ⟨size, sized, rfl⟩
      rcases exists_written_of_natural? _ size sized with ⟨digits, nonempty, rfl, rfl⟩
    · exact .positive digits nonempty
    · exact .negative digits nonempty
    · exact .unsigned digits nonempty
  · intro denotes
    cases denotes with
    | unsigned digits nonempty =>
        rw [integer?_of_isDigit _ (isDigit_of_mem_written digits), natural?_written digits nonempty]
        rfl
    | positive digits nonempty =>
        rw [integer?, natural?_written digits nonempty]
        rfl
    | negative digits nonempty =>
        rw [integer?, natural?_written digits nonempty]
        rfl

theorem Denotes.unique {text : List Char} {value other : Int} (denotes : Denotes text value)
    (denotesOther : Denotes text other) : value = other := by
  rw [← integer?_eq_some_iff] at denotes denotesOther
  exact Option.some.inj (denotes.symm.trans denotesOther)

/-- A 32-bit integer is read from the numerals that denote it. -/
theorem int32?_eq_some_iff (text : List Char) (value : Int32) :
    int32? text = some value ↔ Denotes text value.toInt := by
  rw [← integer?_eq_some_iff, int32?]
  constructor
  · intro read
    split at read
    · rename_i number integer
      split at read
      · rename_i inRange
        cases read
        rw [integer, Int32.toInt_ofInt_of_le inRange.1 inRange.2]
      · cases read
    · cases read
  · intro integer
    simp only [integer]
    rw [if_pos ⟨value.le_toInt, value.toInt_lt⟩, value.ofInt_toInt]

/-- No 32-bit integer is read if the text denotes none, or one that takes more bits. -/
theorem int32?_eq_none_iff (text : List Char) :
    int32? text = none ↔
      ∀ value, Denotes text value → value < -2147483648 ∨ 2147483647 < value := by
  constructor
  · intro unread value denotes
    by_contra inRange
    have bounds : -2 ^ 31 ≤ value ∧ value < 2 ^ 31 := by omega
    have same : (Int32.ofInt value).toInt = value :=
      Int32.toInt_ofInt_of_le bounds.1 bounds.2
    rw [← same, ← int32?_eq_some_iff, unread] at denotes
    cases denotes
  · intro beyond
    cases read : int32? text with
    | none => rfl
    | some value =>
        have denotes := (int32?_eq_some_iff text value).mp read
        have least := value.le_toInt
        have greatest := value.toInt_lt
        have outside := beyond value.toInt denotes
        omega

end LowRank.Text
