/-!
# Quotients, digits and powers of ten

The parts that all decimal notations share: rounding a quotient to the nearest whole number with
ties to even, the decimal digits of a number, and the power of ten of a fraction's first digit.
-/

namespace LowRank.Decimal

-- Powers are the ones that the language defines, whatever else is imported.
attribute [local instance (high)] instPowNat

/-- The whole number nearest to a quotient; of two equally near ones the even one. -/
def roundToEven (numerator denominator : Nat) : Nat :=
  let quotient := numerator / denominator
  let remainder := numerator % denominator
  if 2 * remainder < denominator then quotient
  else if denominator < 2 * remainder then quotient + 1
  else quotient + quotient % 2

/-- The decimal digits of a number, first digit first. -/
def digits (number : Nat) : List Char :=
  Nat.toDigits 10 number

/-- The decimal digits of a number, with zeros in front up to the given width. -/
def paddedDigits (width number : Nat) : List Char :=
  let written := digits number
  List.replicate (width - written.length) '0' ++ written

def digitCount (number : Nat) : Nat :=
  (digits number).length

/-- The exponent of the power of ten at the first digit of a positive fraction. -/
def leadingExponent (numerator denominator : Nat) : Int :=
  if denominator ≤ numerator then
    (digitCount (numerator / denominator) : Int) - 1
  else
    -(digitCount ((denominator - 1) / numerator) : Int)

end LowRank.Decimal
