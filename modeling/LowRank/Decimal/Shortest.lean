import LowRank.Decimal.Binary
import LowRank.Decimal.Digits

/-!
# The fewest digits that identify a double

Among all decimals that read back to a given double, the ones with the fewest digits are wanted,
and among those the one nearest to the double.  On the grid of decimals with a given number of
digits only the two neighbours of the double need a test, because every grid point that reads back
lies between the double and one of them or is one of them.
-/

namespace LowRank.Decimal

-- Powers are the ones that the language defines, whatever else is imported.
attribute [local instance (high)] instPowNat

/-- The decimal number `coefficient * 10 ^ exponent`. -/
structure Expansion where
  /-- The digits, read as one whole number. -/
  coefficient : Nat
  /-- The power of ten of the last digit. -/
  exponent : Int
  deriving Repr, DecidableEq

namespace Magnitude

/-- Four times the significand of a magnitude: its value in units of a quarter of its last place. -/
def quarters (magnitude : Magnitude) : Nat :=
  4 * magnitude.significand

/--
The lower end of the reals that read back to a magnitude, in quarters of its last place.  It is
half a place below, or a quarter when the next lower double lies in a finer binade.
-/
def lowerQuarters (magnitude : Magnitude) : Nat :=
  if magnitude.significand = hiddenBit ∧ leastExponent < magnitude.exponent then
    magnitude.quarters - 1
  else
    magnitude.quarters - 2

/-- The upper end of the reals that read back to a magnitude, in quarters of its last place. -/
def upperQuarters (magnitude : Magnitude) : Nat :=
  magnitude.quarters + 2

/-- A fraction that is compared with quarters of the last place of a magnitude. -/
structure Scale where
  /-- What a count of quarters is multiplied by. -/
  perQuarter : Nat
  /-- What a count of grid steps is multiplied by. -/
  perStep : Nat

/-- The common measure of the quarters of a magnitude and of the grid of a power of ten. -/
def scale (magnitude : Magnitude) (gridExponent : Int) : Scale :=
  let quarterExponent := magnitude.exponent - 2
  { perQuarter := 2 ^ quarterExponent.toNat * 10 ^ (-gridExponent).toNat
    perStep := 2 ^ (-quarterExponent).toNat * 10 ^ gridExponent.toNat }

/--
Whether a grid point reads back to a magnitude.  The ends of the interval belong to it exactly when
the significand is even.
-/
def readsBack (magnitude : Magnitude) (scale : Scale) (steps : Nat) : Bool :=
  let point := steps * scale.perStep
  let lower := magnitude.lowerQuarters * scale.perQuarter
  let upper := magnitude.upperQuarters * scale.perQuarter
  if magnitude.significand % 2 = 0 then lower ≤ point && point ≤ upper
  else lower < point && point < upper

/--
The neighbour of a magnitude on the grid of a power of ten that reads back to it: the nearer of the
two, the upper one when both are equally near.
-/
def onGrid? (magnitude : Magnitude) (gridExponent : Int) : Option Expansion :=
  let scale := magnitude.scale gridExponent
  let value := magnitude.quarters * scale.perQuarter
  let below := value / scale.perStep
  let above := below + 1
  match magnitude.readsBack scale below, magnitude.readsBack scale above with
  | true, true =>
      if 2 * value < (below + above) * scale.perStep then some ⟨below, gridExponent⟩
      else some ⟨above, gridExponent⟩
  | true, false => some ⟨below, gridExponent⟩
  | false, true => some ⟨above, gridExponent⟩
  | false, false => none

/-- The exact value of a magnitude as a decimal. -/
def exact (magnitude : Magnitude) : Expansion :=
  let places := (-magnitude.exponent).toNat
  ⟨magnitude.numerator * 5 ^ places, -places⟩

/-- Seventeen digits tell every two doubles apart. -/
def mostDigits : Nat :=
  17

/-- The shortest decimal that reads back to a positive magnitude. -/
def shortest (magnitude : Magnitude) : Expansion :=
  let leading := leadingExponent magnitude.numerator magnitude.denominator
  let found := (List.range mostDigits).findSome? fun (more : Nat) =>
    magnitude.onGrid? (leading - more)
  found.getD magnitude.exact

end Magnitude

/-- A number without its trailing zeros, and how many they were; at most `fuel` are removed. -/
def stripZeros : Nat → Nat → Nat × Nat
  | 0, number => (number, 0)
  | fuel + 1, number =>
      if number % 10 = 0 then
        let (rest, zeros) := stripZeros fuel (number / 10)
        (rest, zeros + 1)
      else (number, 0)

/-- The same positive number without trailing zeros among its digits. -/
def Expansion.normalized (expansion : Expansion) : Expansion :=
  let (rest, zeros) := stripZeros (digitCount expansion.coefficient) expansion.coefficient
  ⟨rest, expansion.exponent + zeros⟩

/--
A positive decimal in positional notation: no exponent, a point only before a fraction, and a zero
before a leading point.
-/
def Expansion.positional (expansion : Expansion) : List Char :=
  let written := digits expansion.normalized.coefficient
  let exponent := expansion.normalized.exponent
  let whole := (written.length : Int) + exponent
  if 0 ≤ exponent then
    written ++ List.replicate exponent.toNat '0'
  else if 0 < whole then
    written.take whole.toNat ++ '.' :: written.drop whole.toNat
  else
    '0' :: '.' :: (List.replicate (-whole).toNat '0' ++ written)

end LowRank.Decimal
