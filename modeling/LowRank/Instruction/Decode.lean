import LowRank.Instruction.Basic
import LowRank.Instruction.Format

/-!
# Decoding instruction lines

A line is cut into fields, the first of which names the operator family.  The checks come in a
fixed order: the opcode, the number of fields, the operands from left to right, the thread count
and last the sub-type.  The first that fails is reported.
-/

namespace LowRank

/-- Reads the field of a thread count, blanks around it allowed. -/
def readThreads (line field : String) : Except Error Int32 :=
  match Text.int32? (Text.trim field.toList) with
  | some threads => .ok threads
  | none => .error (.malformed line (.threads field))

/-- The error of a line whose opcode is followed by a wrong number of fields. -/
def fieldCountError (line : String) (expected : Nat) (listed : List String) : Error :=
  .malformed line (.fieldCount expected (listed.length - 1))

/-- Reads an operand as a part of a line. -/
def readOperand (format : Format) (line token : String) : Except Error Operand :=
  match Operand.read format.typeDelimiter token with
  | .ok operand => .ok operand
  | .error fault => .error (.malformed line (.operand fault))

namespace Instruction

/-- Decodes fields that have been assigned to their roles. -/
def ofFields (format : Format) (line : String) (family : Family) (fields : Fields) :
    Except Error Instruction := do
  let inputs ← fields.inputs.mapM (readOperand format line)
  let output ← readOperand format line fields.output
  let threads ← readThreads line fields.threads
  match Operator.resolve? family fields.subtype fields.code with
  | none => .error (.unknownSubtype family fields.subtype)
  | some operator =>
      let built ← build operator inputs output threads fields.opcode line
      .ok { built with subtypeField := fields.subtype, threadsField := fields.threads }

/-- Decodes a line that is written in the given format. -/
def decode (format : Format) (line : String) : Except Error Instruction :=
  let listed := format.fields line
  match Family.ofOpcode? (listed.headD "") with
  | none => .error (.unknownOpcode line)
  | some family =>
      match Fields.ofList? family.layout listed with
      | none => .error (fieldCountError line family.layout.fieldCount listed)
      | some fields => ofFields format line family fields

end Instruction

end LowRank
