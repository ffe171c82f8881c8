import LowRank.Proofs.Text.Trim
import LowRank.Text.Numeral

/-!
# Reading numerals back

The numeral of a 32-bit integer consists of digits, with a minus sign before them if the integer is
negative. It is read as the integer that it was written for, the least integer included, whose
distance from zero is beyond the range. No character of it is blank, so trimming does not change it.
-/

namespace LowRank.Text

theorem toNat_bounds_of_isDigit (char : Char) (digit : char.isDigit = true) :
    48 ≤ char.toNat ∧ char.toNat ≤ 57 :=
  Char.isDigit_iff_toNat.mp digit

theorem isBlank_of_isDigit (char : Char) (digit : char.isDigit = true) : isBlank char = false := by
  have bounds := toNat_bounds_of_isDigit char digit
  apply Bool.eq_false_iff.mpr
  intro blank
  simp [isBlank, CodePoints.covers, blankRanges] at blank
  omega

theorem natural?_of_isDigit (text : List Char) (nonempty : text ≠ [])
    (digits : ∀ char ∈ text, char.isDigit = true) : natural? text = some (digitsValue text) :=
  if_pos ⟨nonempty, List.all_eq_true.mpr digits⟩

/-- A sign is no digit, so a text of digits is read as a natural number. -/
theorem integer?_of_isDigit (text : List Char) (digits : ∀ char ∈ text, char.isDigit = true) :
    integer? text = (natural? text).map Int.ofNat := by
  unfold integer?
  split
  · have plus := digits '+' List.mem_cons_self
    cases plus
  · have minus := digits '-' List.mem_cons_self
    cases minus
  · rfl

theorem isDigit_of_mem_toDigits (value : Nat) (char : Char)
    (char_mem : char ∈ Nat.toDigits 10 value) : char.isDigit = true :=
  Nat.isDigit_of_mem_toDigits (by decide) (by decide) char_mem

theorem natural?_toDigits (value : Nat) : natural? (Nat.toDigits 10 value) = some value := by
  have total : digitsValue (Nat.toDigits 10 value) = value :=
    Nat.ofDigitChars_toDigits (by decide) (by decide)
  rw [natural?_of_isDigit _ Nat.toDigits_ne_nil (isDigit_of_mem_toDigits value), total]

theorem integer?_toDigits (value : Nat) :
    integer? (Nat.toDigits 10 value) = some (Int.ofNat value) := by
  rw [integer?_of_isDigit _ (isDigit_of_mem_toDigits value), natural?_toDigits]
  rfl

theorem numeral_of_nonnegative (value : Int32) (magnitude : Nat)
    (nonnegative : value.toInt = Int.ofNat magnitude) :
    (numeral value).toList = Nat.toDigits 10 magnitude := by
  rw [numeral, nonnegative]
  exact String.toList_ofList

theorem numeral_of_negative (value : Int32) (magnitude : Nat)
    (negative : value.toInt = Int.negSucc magnitude) :
    (numeral value).toList = '-' :: Nat.toDigits 10 (magnitude + 1) := by
  have written : numeral value = "-" ++ Nat.repr (magnitude + 1) := by
    rw [numeral, negative]
    rfl
  rw [written, String.toList_append]
  exact congrArg ('-' :: ·) String.toList_ofList

theorem integer?_numeral (value : Int32) :
    integer? (numeral value).toList = some value.toInt := by
  cases sign : value.toInt with
  | ofNat magnitude =>
      rw [numeral_of_nonnegative value magnitude sign]
      exact integer?_toDigits magnitude
  | negSucc magnitude =>
      rw [numeral_of_negative value magnitude sign, integer?, natural?_toDigits]
      rfl

theorem isBlank_of_mem_numeral (value : Int32) (char : Char)
    (char_mem : char ∈ (numeral value).toList) : isBlank char = false := by
  have digit : ∀ magnitude, char ∈ Nat.toDigits 10 magnitude → isBlank char = false := by
    intro magnitude digit_mem
    exact isBlank_of_isDigit char (isDigit_of_mem_toDigits magnitude char digit_mem)
  cases sign : value.toInt with
  | ofNat magnitude =>
      rw [numeral_of_nonnegative value magnitude sign] at char_mem
      exact digit magnitude char_mem
  | negSucc magnitude =>
      rw [numeral_of_negative value magnitude sign] at char_mem
      rcases List.mem_cons.mp char_mem with rfl | digit_mem
      · decide
      · exact digit (magnitude + 1) digit_mem

theorem trim_numeral (value : Int32) : trim (numeral value).toList = (numeral value).toList := by
  apply trim_eq_self
  · intro char first
    exact isBlank_of_mem_numeral value char (List.mem_of_mem_head? first)
  · intro char last
    exact isBlank_of_mem_numeral value char (List.mem_of_getLast? last)

/-- Every 32-bit integer is read back from its numeral. -/
theorem int32?_trim_numeral (value : Int32) :
    int32? (trim (numeral value).toList) = some value := by
  rw [trim_numeral, int32?, integer?_numeral]
  exact (if_pos ⟨value.le_toInt, value.toInt_lt⟩).trans (congrArg some value.ofInt_toInt)

example : int32? (numeral (-2147483648)).toList = some (-2147483648) := by
  decide

end LowRank.Text
