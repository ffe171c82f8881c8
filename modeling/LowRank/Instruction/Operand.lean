import LowRank.Text.Blank
import LowRank.Text.Pieces

/-!
# Operands

An operand is a name, alone or followed by a data type, a value type and at times a flag that tells
whether it is a literal.  The flag must be well formed but has no effect: every operand is looked
up by its name.
-/

namespace LowRank

/-- The kind of data that an operand declares. -/
inductive DataType where
  | matrix
  | scalar
  | unknown
  deriving Repr, DecidableEq

/-- The kind of values that an operand declares. -/
inductive ValueType where
  | double
  | int
  | boolean
  | string
  | unknown
  deriving Repr, DecidableEq

def DataType.token : DataType → String
  | .matrix => "MATRIX"
  | .scalar => "SCALAR"
  | .unknown => "UNKNOWN"

def DataType.ofToken? (token : String) : Option DataType :=
  [DataType.matrix, .scalar, .unknown].find? fun dataType => dataType.token == token

def ValueType.token : ValueType → String
  | .double => "DOUBLE"
  | .int => "INT"
  | .boolean => "BOOLEAN"
  | .string => "STRING"
  | .unknown => "UNKNOWN"

def ValueType.ofToken? (token : String) : Option ValueType :=
  [ValueType.double, .int, .boolean, .string, .unknown].find? fun valueType =>
    valueType.token == token

/-- A reference to a variable. -/
structure Operand where
  name : String
  dataType : DataType
  valueType : ValueType
  /-- The operand as written. -/
  token : String
  deriving Repr, DecidableEq

inductive OperandFault where
  /-- The operand has neither one, three nor four parts. -/
  | partCount (token : String) (count : Nat)
  /-- The second part is no data type. -/
  | dataType (token part : String)
  /-- The third part is no value type. -/
  | valueType (token part : String)
  /-- The fourth part is no truth value. -/
  | literalFlag (token part : String)
  /-- The first part is blank. -/
  | emptyName (token : String)
  deriving Repr, DecidableEq

def OperandFault.message : OperandFault → String
  | .partCount token count => s!"operand '{token}' has {count} parts, expected 1, 3 or 4"
  | .dataType token part => s!"unknown data type '{part}' in operand '{token}'"
  | .valueType token part => s!"unknown value type '{part}' in operand '{token}'"
  | .literalFlag token part => s!"invalid literal flag '{part}' in operand '{token}'"
  | .emptyName token => s!"operand '{token}' has an empty name"

namespace Operand

def isFlag (part : String) : Bool :=
  part == "true" || part == "false"

/-- The declared types of an operand, read from the parts after its name. -/
def readTypes (token : String) : List String → Except OperandFault (DataType × ValueType)
  | [] => .ok (.unknown, .unknown)
  | [dataPart, valuePart] => readPair dataPart valuePart
  | [dataPart, valuePart, flag] => do
      let types ← readPair dataPart valuePart
      if isFlag flag then .ok types else .error (.literalFlag token flag)
  | parts => .error (.partCount token (parts.length + 1))
where
  /-- The types that two parts name. -/
  readPair (dataPart valuePart : String) : Except OperandFault (DataType × ValueType) :=
    match DataType.ofToken? dataPart, ValueType.ofToken? valuePart with
    | none, _ => .error (.dataType token dataPart)
    | some _, none => .error (.valueType token valuePart)
    | some dataType, some valueType => .ok (dataType, valueType)

/-- The parts of an operand's token. -/
def parts (delimiter : Char) (token : String) : List String :=
  (Text.pieces delimiter token.toList).map String.ofList

/-- Reads an operand whose parts are divided by the given character. -/
def read (delimiter : Char) (token : String) : Except OperandFault Operand := do
  let parts := parts delimiter token
  let (dataType, valueType) ← readTypes token parts.tail
  let name := String.ofList (Text.trim (parts.headD "").toList)
  if name = "" then .error (.emptyName token) else .ok { name, dataType, valueType, token }

end Operand

end LowRank
