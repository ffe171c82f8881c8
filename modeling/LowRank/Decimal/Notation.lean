import LowRank.Decimal.Shortest

/-!
# Writing doubles

Two notations, both computed from the exact value: the shortest positional form that identifies the
double, and a fixed number of places, rounded to nearest with ties to the even digit.  Not-a-number
is written `NaN` and the infinities `inf` and `-inf`; the sign of a zero is kept.
-/

namespace LowRank.Decimal

-- Powers are the ones that the language defines, whatever else is imported.
attribute [local instance (high)] instPowNat

/-- A sign, written only when it is negative. -/
def signed (negative : Bool) (text : List Char) : List Char :=
  if negative then '-' :: text else text

/-- Writes a reading, with the given notation for finite magnitudes. -/
def Reading.write (layout : Magnitude → List Char) : Reading → String
  | .notANumber => "NaN"
  | .infinite negative => String.ofList (signed negative ['i', 'n', 'f'])
  | .finite negative magnitude => String.ofList (signed negative (layout magnitude))

/-- The shortest positional notation of a magnitude. -/
def Magnitude.plain (magnitude : Magnitude) : List Char :=
  if magnitude.significand = 0 then ['0'] else magnitude.shortest.positional

/-- A magnitude with a fixed, positive number of places after the point. -/
def Magnitude.fixed (places : Nat) (magnitude : Magnitude) : List Char :=
  let rounded := roundToEven (magnitude.numerator * 10 ^ places) magnitude.denominator
  digits (rounded / 10 ^ places) ++ '.' :: paddedDigits places (rounded % 10 ^ places)

/-- The shortest positional text of a double. -/
def plainText (value : Float) : String :=
  (Reading.ofFloat value).write Magnitude.plain

/-- The text of a double with a fixed, positive number of places. -/
def fixedText (places : Nat) (value : Float) : String :=
  (Reading.ofFloat value).write (Magnitude.fixed places)

end LowRank.Decimal
