/-!
# Decimal numerals of 32-bit integers

A numeral is an optional sign followed by one or more decimal digits.  Its value is computed
without bound first and compared with the range of 32-bit integers afterwards, so that no numeral,
however long, can wrap around into the range.
-/

namespace LowRank.Text

-- Powers are the ones that the language defines, whatever else is imported.
attribute [local instance (high)] instPowNat

/-- The number that a decimal digit stands for. -/
def digitValue (char : Char) : Nat :=
  char.toNat - '0'.toNat

/-- The number that a sequence of decimal digits stands for. -/
def digitsValue (digits : List Char) : Nat :=
  digits.foldl (fun value digit => 10 * value + digitValue digit) 0

/-- The value of a non-empty sequence of decimal digits; any other text has none. -/
def natural? (text : List Char) : Option Nat :=
  if text ≠ [] ∧ text.all Char.isDigit then some (digitsValue text) else none

/-- The value of a digit sequence with at most one sign before it. -/
def integer? : List Char → Option Int
  | '+' :: digits => (natural? digits).map Int.ofNat
  | '-' :: digits => (natural? digits).map fun value => -Int.ofNat value
  | digits => (natural? digits).map Int.ofNat

/-- The 32-bit integer that a numeral stands for, if its value is in range. -/
def int32? (text : List Char) : Option Int32 :=
  match integer? text with
  | some value =>
      if -2 ^ (31 : Nat) ≤ value ∧ value < 2 ^ (31 : Nat) then some (Int32.ofInt value) else none
  | none => none

/-- The numeral of a 32-bit integer: a minus sign if it is negative, no leading zeros. -/
def numeral (value : Int32) : String :=
  toString value.toInt

end LowRank.Text
