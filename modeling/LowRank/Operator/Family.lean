import LowRank.Text.Letter

/-!
# Operator families

Five families of operators combine a weighted matrix with the product of a left factor and the
transposed right factor.  A family fixes the opcode, the layout of an instruction's fields and
whether the result is a single number.
-/

namespace LowRank

/-- Which operand fields an instruction has besides three inputs and an output. -/
inductive Layout where
  | threeInputs
  | fourInputs
  | codeAndThreeInputs
  deriving Repr, DecidableEq

/-- How many fields follow the opcode. -/
def Layout.fieldCount : Layout → Nat
  | .threeInputs => 6
  | .fourInputs | .codeAndThreeInputs => 7

inductive Family where
  | squaredLoss
  /-- The weighted product or quotient, multiplied by a factor. -/
  | weightedProduct
  | sigmoid
  | crossEntropy
  | unary
  deriving Repr, DecidableEq

namespace Family

/-- All families, in the order in which opcodes are looked up. -/
def all : List Family :=
  [.squaredLoss, .weightedProduct, .sigmoid, .crossEntropy, .unary]

/-- The opcode of a family, in small letters. -/
def opcode : Family → String
  | .squaredLoss => "wsloss"
  | .weightedProduct => "wdivmm"
  | .sigmoid => "wsigmoid"
  | .crossEntropy => "wcemm"
  | .unary => "wumm"

/-- The family that an opcode names, whatever the case of its letters. -/
def ofOpcode? (opcode : String) : Option Family :=
  all.find? fun family => Text.agreesIgnoringCase family.opcode.toList opcode.toList

def layout : Family → Layout
  | .squaredLoss | .weightedProduct => .fourInputs
  | .sigmoid | .crossEntropy => .threeInputs
  | .unary => .codeAndThreeInputs

/-- Whether the layout has a field for a fourth input. -/
def hasFourthInput (family : Family) : Bool :=
  family.layout == .fourInputs

def producesScalar : Family → Bool
  | .squaredLoss | .crossEntropy => true
  | .weightedProduct | .sigmoid | .unary => false

end Family

end LowRank
