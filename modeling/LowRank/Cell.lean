/-!
# Arithmetic of matrix cells

The kernels use a small set of operations on cells and no law between them.  They are therefore
written over any type with these operations; doubles are the cells of running programs.
-/

namespace LowRank

-- Powers are the ones that the language defines, whatever else is imported.
attribute [local instance (high)] instPowNat

/-- The operations that kernels apply to cells. -/
class Cell (α : Type) extends Add α, Sub α, Mul α, Div α, Neg α where
  /-- The cell of an absent entry, and where explicit accumulators start. -/
  zero : α
  /-- Where a plain sum of terms starts. -/
  negZero : α
  one : α
  /-- Whether a cell counts as an absent entry. -/
  isZero : α → Bool
  exp : α → α
  log : α → α
  abs : α → α
  sqrt : α → α
  /-- The nearest whole number, a half rounded away from zero. -/
  round : α → α
  floor : α → α
  ceil : α → α
  /-- One with the sign of a cell. -/
  signum : α → α
  sin : α → α
  cos : α → α
  tan : α → α
  /-- A whole number as a 64-bit integer; beyond the range its nearest end. -/
  toInt64 : α → Int64

namespace Cell

variable {α : Type} [Cell α]

/-- The sum of terms, from left to right. -/
def sum (terms : List α) : α :=
  terms.foldl (· + ·) negZero

/-- The sum of the products of two rows, cell by cell from left to right. -/
def dot (left right : List α) : α :=
  sum (List.zipWith (· * ·) left right)

def sigmoid (value : α) : α :=
  one / (one + exp (-value))

/-- Minus one, zero or one; a zero of either sign gives the plain zero. -/
def sign (value : α) : α :=
  if isZero value then zero else signum value

end Cell

/-- One with the sign bit of a double; not-a-number stays as it is. -/
def floatSignum (value : Float) : Float :=
  if value.isNaN then value
  else if value.toBits.toNat / 2 ^ (63 : Nat) = 1 then -1.0
  else 1.0

instance : Cell Float where
  zero := 0.0
  negZero := -0.0
  one := 1.0
  isZero value := value == 0.0
  exp := Float.exp
  log := Float.log
  abs := Float.abs
  sqrt := Float.sqrt
  round := Float.round
  floor := Float.floor
  ceil := Float.ceil
  signum := floatSignum
  sin := Float.sin
  cos := Float.cos
  tan := Float.tan
  toInt64 := Float.toInt64

end LowRank
