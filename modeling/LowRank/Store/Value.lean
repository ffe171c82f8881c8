import LowRank.Block.Basic
import LowRank.Decimal.Notation
import LowRank.Instruction.Operand

/-!
# Values of variables

A variable holds a matrix block or a single value.  A single value is a cell, a 64-bit integer or a
truth value.
-/

namespace LowRank

inductive Scalar (α : Type) where
  | double (cell : α)
  | int (number : Int64)
  | boolean (truth : Bool)
  deriving Repr, DecidableEq

inductive Value (α : Type) where
  | matrix (block : Block α)
  | scalar (scalar : Scalar α)
  deriving Repr, DecidableEq

/-- A cell narrowed to a declared value type; undeclared and textual types keep the cell. -/
def Scalar.narrow {α : Type} [Cell α] (valueType : ValueType) (cell : α) : Scalar α :=
  match valueType with
  | .int => .int (Cell.toInt64 (Cell.round cell))
  | .boolean => .boolean (!Cell.isZero cell)
  | .double | .string | .unknown => .double cell

/-- The text of a single value: the shortest positional form of a double, no quotes, no units. -/
def Scalar.text : Scalar Float → String
  | .double cell => Decimal.plainText cell
  | .int number => toString number.toInt
  | .boolean truth => if truth then "true" else "false"

namespace Value

variable {α : Type}

/-- How many bytes a value is charged with, eight for a single value. -/
def bytes : Value α → Nat
  | .matrix block => block.bytes
  | .scalar _ => 8

def block? : Value α → Option (Block α)
  | .matrix block => some block
  | .scalar _ => none

end Value

end LowRank
