import LowRank.Error
import LowRank.Instruction.Fields
import LowRank.Text.Numeral

/-!
# Instructions

An instruction is a resolved operator with its operands and a thread count.  It also keeps the
opcode, the sub-type, the thread count and the whole line as they were written, so that it can be
listed field by field again.
-/

namespace LowRank

structure Instruction where
  operator : Operator
  /-- The input operands; the fourth is present where the line has one. -/
  inputs : Inputs Operand
  output : Operand
  /-- How many threads the instruction asks for. -/
  threads : Int32
  /-- The sub-type as written. -/
  subtypeField : String
  /-- The thread count as written. -/
  threadsField : String
  /-- The opcode as written. -/
  opcode : String
  line : String
  deriving Repr, DecidableEq

namespace Instruction

/--
An instruction made from its parts, with the canonical name of the sub-type and the decimal numeral
of the thread count.  An operator that consumes a fourth input must get an operand for it.
-/
def build (operator : Operator) (inputs : Inputs Operand) (output : Operand) (threads : Int32)
    (opcode line : String) : Except Error Instruction :=
  if operator.needsFourth && inputs.fourth.isNone then
    .error (.malformed line (.missingFourth operator))
  else
    .ok
      { operator, inputs, output, threads, opcode, line
        subtypeField := operator.subtype
        threadsField := Text.numeral threads }

/-- The inputs that an execution reads: the fourth only where the operator consumes it. -/
def acquired (instruction : Instruction) : Inputs Operand :=
  instruction.inputs.keepFourth instruction.operator.needsFourth

/-- The names that an execution acquires, in order. -/
def acquiredNames (instruction : Instruction) : List String :=
  instruction.acquired.toList.map Operand.name

/-- The fields of an instruction, by their role. -/
def roles (instruction : Instruction) : Fields :=
  { opcode := instruction.opcode
    code := instruction.operator.unaryCode?
    inputs := instruction.inputs.map Operand.token
    output := instruction.output.token
    subtype := instruction.subtypeField
    threads := instruction.threadsField }

/-- The fields of an instruction in order, without an execution type. -/
def fields (instruction : Instruction) : List String :=
  instruction.roles.toList

end Instruction

end LowRank
