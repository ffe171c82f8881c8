import LowRank.Text.Blank
import LowRank.Text.Letter
import LowRank.Text.Pieces

/-!
# Instruction formats

A format says which characters divide an instruction line into fields and an operand into parts,
and which execution type may stand before the opcode.
-/

namespace LowRank

/-- How instruction lines are written. -/
structure Format where
  /-- The character between two fields. -/
  fieldDelimiter : Char
  /-- The character between the parts of an operand. -/
  typeDelimiter : Char
  /-- The execution type that is dropped when it stands before the opcode. -/
  executionType : Option String
  deriving Repr, DecidableEq

namespace Format

/-- The execution type of instructions that run in the local process. -/
def localExecution : String :=
  "CP"

/-- Fields divided by commas. -/
def standard : Format :=
  { fieldDelimiter := ',', typeDelimiter := '·', executionType := some localExecution }

/-- Fields divided by degree signs. -/
def native : Format :=
  { fieldDelimiter := '°', typeDelimiter := '·', executionType := some localExecution }

/-- The fields without a leading execution type; a single field is never dropped. -/
def dropExecutionType (format : Format) (fields : List String) : List String :=
  match format.executionType, fields with
  | some executionType, first :: second :: rest =>
      if Text.agreesIgnoringCase first.toList executionType.toList then second :: rest
      else first :: second :: rest
  | _, fields => fields

/-- The fields of a line: the pieces of the trimmed line without the execution type. -/
def fields (format : Format) (line : String) : List String :=
  format.dropExecutionType
    ((Text.pieces format.fieldDelimiter (Text.trim line.toList)).map String.ofList)

end Format

end LowRank
