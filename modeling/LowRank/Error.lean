import LowRank.Instruction.Operand
import LowRank.Mismatch
import LowRank.Operator.Basic

/-!
# Errors

Every failure is a cause: a value that says what went wrong and where.  The sentence for the user
is computed from the cause.
-/

namespace LowRank

/-- Why a kernel has no result. -/
inductive KernelError where
  | mismatch (cause : Mismatch)
  | unknownFunction (code : String)
  /-- A row and a column lie beyond the cells of a block. -/
  | outsideBlock (row col : Nat)
  /-- The threads of a pool could not be started. -/
  | threadPool (detail : String)
  deriving Repr, DecidableEq

/-- What is wrong with an instruction line. -/
inductive LineFault where
  /-- The opcode is followed by another number of fields than its family has. -/
  | fieldCount (expected actual : Nat)
  | operand (fault : OperandFault)
  | threads (field : String)
  /-- The operator consumes a fourth input and there is no operand for it. -/
  | missingFourth (operator : Operator)
  deriving Repr, DecidableEq

/-- Why there is no room for a binding. -/
inductive Shortage where
  /-- The bytes of all variables would be more than a word can count. -/
  | uncountable
  /-- The bytes of all variables would exceed the limit. -/
  | beyondLimit (others limit : Nat)
  deriving Repr, DecidableEq

/-- Why an instruction cannot be decoded or executed. -/
inductive Error where
  /-- The line is not laid out as its opcode requires. -/
  | malformed (line : String) (fault : LineFault)
  | unknownOpcode (line : String)
  /-- The token is no sub-type of the opcode's family. -/
  | unknownSubtype (family : Family) (token : String)
  | unbound (name : String)
  /-- The variable of that name holds a scalar. -/
  | notMatrix (name : String)
  /-- A binding does not fit beside the bytes that the other variables take. -/
  | outOfMemory (name : String) (needed : Nat) (shortage : Shortage)
  | kernel (error : KernelError)
  /-- The cells of a random matrix would come from a range that cannot be drawn from. -/
  | undrawable (name : String)
  deriving Repr, DecidableEq

def KernelError.message : KernelError → String
  | .mismatch cause => "Dimension mismatch: " ++ cause.message
  | .unknownFunction code => "Unsupported unary operation in wumm: " ++ code
  | .outsideBlock row col => s!"Cell ({row}, {col}) lies outside the block"
  | .threadPool detail => "Failed to build kernel thread pool: " ++ detail

def LineFault.message : LineFault → String
  | .fieldCount expected actual => s!"expected {expected} fields, got {actual}"
  | .operand fault => fault.message
  | .threads field => s!"thread count '{field}' is not an integer"
  | .missingFourth operator => operator.text ++ " requires a fourth input operand"

def Shortage.text (name : String) (needed : Nat) : Shortage → String
  | .uncountable => s!"Binding {name} ({needed} bytes) overflows the byte count"
  | .beyondLimit others limit =>
      s!"Binding {name} needs {needed} bytes, {others} of {limit} bytes already bound"

def Error.message : Error → String
  | .malformed line fault => s!"Malformed instruction '{line}': {fault.message}"
  | .unknownOpcode line => "Unexpected opcode in quaternary instruction: " ++ line
  | .unknownSubtype family token => s!"Unrecognized {family.opcode} operator type: {token}"
  | .unbound name => "Variable not found: " ++ name
  | .notMatrix name => s!"Variable {name} is not a matrix"
  | .outOfMemory name needed shortage =>
      "Out of memory error: " ++ shortage.text name needed
  | .kernel error => "Kernel error: " ++ error.message
  | .undrawable name => s!"The cells of {name} cannot be drawn"

end LowRank
