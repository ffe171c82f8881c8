/-!
# Binary floating-point values

A double is read off its bits as one of three things: not a number, an infinity, or a signed
product of a whole significand and a power of two.  Everything that is written in decimal starts
from this exact form.
-/

namespace LowRank.Decimal

-- Powers are the ones that the language defines, whatever else is imported.
attribute [local instance (high)] instPowNat

/-- The magnitude `significand * 2 ^ exponent`. -/
structure Magnitude where
  significand : Nat
  exponent : Int
  deriving Repr, DecidableEq

/-- What a double stands for. -/
inductive Reading where
  | notANumber
  /-- An infinity of the given sign. -/
  | infinite (negative : Bool)
  /-- A finite number of the given sign, zero included. -/
  | finite (negative : Bool) (magnitude : Magnitude)
  deriving Repr, DecidableEq

namespace Magnitude

def numerator (magnitude : Magnitude) : Nat :=
  magnitude.significand * 2 ^ magnitude.exponent.toNat

/-- Denominator of the magnitude as a fraction, a power of two. -/
def denominator (magnitude : Magnitude) : Nat :=
  2 ^ (-magnitude.exponent).toNat

end Magnitude

/-- Significands below this number belong to the lowest binade only. -/
def hiddenBit : Nat :=
  2 ^ (52 : Nat)

/-- The lowest exponent of a finite double. -/
def leastExponent : Int :=
  -1074

def Reading.ofBits (bits : UInt64) : Reading :=
  let negative := bits.toNat / 2 ^ (63 : Nat) == 1
  let exponentField := bits.toNat / 2 ^ (52 : Nat) % 2 ^ (11 : Nat)
  let fraction := bits.toNat % 2 ^ (52 : Nat)
  if exponentField = 2047 then
    if fraction = 0 then .infinite negative else .notANumber
  else if exponentField = 0 then
    .finite negative ⟨fraction, leastExponent⟩
  else
    .finite negative ⟨hiddenBit + fraction, leastExponent + (exponentField - 1 : Nat)⟩

def Reading.ofFloat (value : Float) : Reading :=
  .ofBits value.toBits

end LowRank.Decimal
