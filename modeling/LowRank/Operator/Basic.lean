import LowRank.Operator.Family

/-!
# Operators

An operator is a family together with one of its sub-types.  In the formulas `X` or `W` is the
weighted matrix, `U` and `V` are the left and the right factor, and products without a dot are
taken cell by cell.
-/

namespace LowRank

/-- Where the weights of a squared loss enter. -/
inductive LossKind where
  /-- Weights on the squared difference: `sum (W (X - U · Vᵀ)²)`. -/
  | post
  /-- The non-zero cells of `X` as weights: `sum ((X ≠ 0) (X - U · Vᵀ)²)`. -/
  | postNonzero
  /-- Weights on the product: `sum ((X - W (U · Vᵀ))²)`. -/
  | pre
  /-- No weights: `sum ((X - U · Vᵀ)²)`. -/
  | unweighted
  deriving Repr, DecidableEq

/-- How a weight is combined with a cell of the product. -/
inductive Combination where
  | multiply
  | divide
  /-- The weight times the difference between the product and the fourth input. -/
  | multiplyMinus
  deriving Repr, DecidableEq

/-- Which factor the weighted cells are multiplied by. -/
inductive Side where
  /-- `Aᵀ · U`, one row for each column of the weighted matrix. -/
  | left
  /-- `A · V`, one row for each row of the weighted matrix. -/
  | right
  deriving Repr, DecidableEq

inductive ProductKind where
  /-- The weighted cells themselves. -/
  | basic
  | sided (combination : Combination) (side : Side)
  deriving Repr, DecidableEq

structure SigmoidKind where
  /-- Whether the logarithm of the logistic function is taken. -/
  logarithm : Bool
  /-- Whether the product is negated first. -/
  minus : Bool
  deriving Repr, DecidableEq

/-- How a weight is combined with the value of a unary function. -/
inductive UnaryKind where
  | multiply
  | divide
  deriving Repr, DecidableEq

/-- An operator: a family with one of its sub-types. -/
inductive Operator where
  | squaredLoss (kind : LossKind)
  | weightedProduct (kind : ProductKind)
  | sigmoid (kind : SigmoidKind)
  | crossEntropy
  /-- A weighted unary function, its code as written. -/
  | unary (kind : UnaryKind) (code : String)
  deriving Repr, DecidableEq

namespace LossKind

def name : LossKind → String
  | .post => "POST"
  | .postNonzero => "POST_NZ"
  | .pre => "PRE"
  | .unweighted => "NONE"

/-- The kind that a token names; `BASIC` is another name of `POST`. -/
def ofToken? (token : String) : Option LossKind :=
  if token = "POST" ∨ token = "BASIC" then some .post
  else if token = "POST_NZ" then some .postNonzero
  else if token = "PRE" then some .pre
  else if token = "NONE" then some .unweighted
  else none

/-- Whether a kind takes its weights from a fourth input. -/
def needsFourth : LossKind → Bool
  | .post | .pre => true
  | .postNonzero | .unweighted => false

end LossKind

namespace ProductKind

def all : List ProductKind :=
  [.basic, .sided .multiply .left, .sided .multiply .right, .sided .divide .left,
    .sided .divide .right, .sided .multiplyMinus .left, .sided .multiplyMinus .right]

def name : ProductKind → String
  | .basic => "MULT_BASIC"
  | .sided .multiply .left => "MULT_LEFT"
  | .sided .multiply .right => "MULT_RIGHT"
  | .sided .divide .left => "DIV_LEFT"
  | .sided .divide .right => "DIV_RIGHT"
  | .sided .multiplyMinus .left => "MULT_MINUS_LEFT"
  | .sided .multiplyMinus .right => "MULT_MINUS_RIGHT"

def ofToken? (token : String) : Option ProductKind :=
  all.find? fun kind => kind.name == token

/-- Whether a kind subtracts a fourth input. -/
def needsFourth : ProductKind → Bool
  | .sided .multiplyMinus _ => true
  | _ => false

end ProductKind

namespace SigmoidKind

def all : List SigmoidKind :=
  [⟨false, false⟩, ⟨true, false⟩, ⟨false, true⟩, ⟨true, true⟩]

def name : SigmoidKind → String
  | ⟨false, false⟩ => "BASIC"
  | ⟨true, false⟩ => "LOG"
  | ⟨false, true⟩ => "MINUS"
  | ⟨true, true⟩ => "LOG_MINUS"

def ofToken? (token : String) : Option SigmoidKind :=
  all.find? fun kind => kind.name == token

end SigmoidKind

namespace UnaryKind

def name : UnaryKind → String
  | .multiply => "MULT"
  | .divide => "DIV"

def ofToken? (token : String) : Option UnaryKind :=
  [UnaryKind.multiply, .divide].find? fun kind => kind.name == token

end UnaryKind

namespace Operator

def family : Operator → Family
  | .squaredLoss _ => .squaredLoss
  | .weightedProduct _ => .weightedProduct
  | .sigmoid _ => .sigmoid
  | .crossEntropy => .crossEntropy
  | .unary _ _ => .unary

/-- The canonical name of an operator's sub-type. -/
def subtype : Operator → String
  | .squaredLoss kind => kind.name
  | .weightedProduct kind => kind.name
  | .sigmoid kind => kind.name
  | .crossEntropy => "BASIC"
  | .unary kind _ => kind.name

def needsFourth : Operator → Bool
  | .squaredLoss kind => kind.needsFourth
  | .weightedProduct kind => kind.needsFourth
  | .sigmoid _ | .crossEntropy | .unary _ _ => false

def producesScalar (operator : Operator) : Bool :=
  operator.family.producesScalar

/-- The code of the unary function, as written, if the operator has one. -/
def unaryCode? : Operator → Option String
  | .unary _ code => some code
  | _ => none

/--
The operator of a family that a sub-type token names.  The unary function code is used by the unary
family alone and is not examined; without one it is empty.
-/
def resolve? (family : Family) (token : String) (code : Option String) : Option Operator :=
  match family with
  | .squaredLoss => (LossKind.ofToken? token).map .squaredLoss
  | .weightedProduct => (ProductKind.ofToken? token).map .weightedProduct
  | .sigmoid => (SigmoidKind.ofToken? token).map .sigmoid
  | .crossEntropy => if token = "BASIC" then some .crossEntropy else none
  | .unary => (UnaryKind.ofToken? token).map fun kind => .unary kind (code.getD "")

/-- The text of an operator: the opcode, then the sub-type and a unary function code. -/
def text (operator : Operator) : String :=
  match operator.unaryCode? with
  | some code => s!"{operator.family.opcode}({operator.subtype}, {code})"
  | none => s!"{operator.family.opcode}({operator.subtype})"

end Operator

end LowRank
