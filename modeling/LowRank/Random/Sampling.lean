import LowRank.Random.Stream

/-!
# Drawing doubles

Uniform draws from the unit interval and from a range, computed from the words of a generator.  The
scale of a range is taken so that no draw rounds up to its upper end.
-/

namespace LowRank.Random

namespace Generator

/-- A multiple of `2 ^ -53` below one. -/
def unit (generator : Generator) : Float × Generator :=
  let (bits, generator) := generator.doubleWord
  ((bits >>> 11).toFloat * Float.ofBits 0x3CA0000000000000, generator)

/-- A multiple of `2 ^ -52` below one. -/
def fraction (generator : Generator) : Float × Generator :=
  let (bits, generator) := generator.doubleWord
  (Float.ofBits ((0x3FF0000000000000 : UInt64) ||| (bits >>> 12)) - 1.0, generator)

end Generator

/-- The range of a uniform draw. -/
structure Range where
  low : Float
  /-- The number that fractions are multiplied by before the lower end is added. -/
  scale : Float

namespace Range

/-- The greatest fraction that is drawn, one less `2 ^ -52`. -/
def greatestFraction : Float :=
  1.0 - Float.ofBits 0x3CB0000000000000

/--
The greatest double, going down from the one with the given bits, that as a scale keeps every draw
below the upper end.
-/
def fitScale (low high : Float) : Nat → Float
  | 0 => 0.0
  | bits + 1 =>
      let scale := Float.ofBits (UInt64.ofNat (bits + 1))
      if high ≤ scale * greatestFraction + low then fitScale low high bits else scale

/-- The range between two numbers, the lower one first. -/
def between (low high : Float) : Range :=
  { low, scale := fitScale low high (high - low).toBits.toNat }

/-- Whether the distance between two numbers is a finite number. -/
def isFinite (low high : Float) : Bool :=
  (high - low).isFinite

def draw (range : Range) (generator : Generator) : Float × Generator :=
  let (fraction, generator) := generator.fraction
  (fraction * range.scale + range.low, generator)

end Range

end LowRank.Random
