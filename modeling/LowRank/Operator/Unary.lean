import LowRank.Cell
import LowRank.Text.Blank
import LowRank.Text.Letter

/-!
# Unary functions

The functions that the weighted unary family applies to each cell of the product, and their codes.
A code may be written in any letter case and between blanks.
-/

namespace LowRank

inductive UnaryFunction where
  | exp
  | log
  | abs
  | sqrt
  /-- The nearest whole number, a half rounded away from zero. -/
  | round
  | floor
  | ceil
  | sign
  | sigmoid
  | sin
  | cos
  | tan
  | square
  | double
  deriving Repr, DecidableEq

namespace UnaryFunction

def all : List UnaryFunction :=
  [.exp, .log, .abs, .sqrt, .round, .floor, .ceil, .sign, .sigmoid, .sin, .cos, .tan, .square,
    .double]

/-- The code of a unary function, in small letters. -/
def code : UnaryFunction → String
  | .exp => "exp"
  | .log => "log"
  | .abs => "abs"
  | .sqrt => "sqrt"
  | .round => "round"
  | .floor => "floor"
  | .ceil => "ceil"
  | .sign => "sign"
  | .sigmoid => "sigmoid"
  | .sin => "sin"
  | .cos => "cos"
  | .tan => "tan"
  | .square => "^2"
  | .double => "*2"

/-- The function that a code names, whatever its letter case and the blanks around it. -/
def ofCode? (written : String) : Option UnaryFunction :=
  all.find? fun function => function.code.toList == Text.lowered (Text.trim written.toList)

def apply {α : Type} [Cell α] (function : UnaryFunction) (value : α) : α :=
  match function with
  | .exp => Cell.exp value
  | .log => Cell.log value
  | .abs => Cell.abs value
  | .sqrt => Cell.sqrt value
  | .round => Cell.round value
  | .floor => Cell.floor value
  | .ceil => Cell.ceil value
  | .sign => Cell.sign value
  | .sigmoid => Cell.sigmoid value
  | .sin => Cell.sin value
  | .cos => Cell.cos value
  | .tan => Cell.tan value
  | .square => value * value
  | .double => value + value

end UnaryFunction

end LowRank
