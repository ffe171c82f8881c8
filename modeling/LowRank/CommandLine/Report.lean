import LowRank.Error
import LowRank.Text.Quoted

/-!
# Error reports of the command line

A failed program reports its error by the name of its kind and the quoted texts that it carries.
-/

namespace LowRank

/-- A kind with one unnamed text. -/
def reportOf (kind text : String) : String :=
  s!"{kind}({text})"

/-- A kind with two named texts. -/
def namedReportOf (kind firstName first secondName second : String) : String :=
  kind ++ " \x7b " ++ firstName ++ ": " ++ Text.quoted first ++ ", " ++ secondName ++ ": " ++
    Text.quoted second ++ " \x7d"

def KernelError.report : KernelError → String
  | .mismatch cause => reportOf "DimensionMismatch" (Text.quoted cause.message)
  | .unknownFunction code => reportOf "UnsupportedUnaryOp" (Text.quoted code)
  | .outsideBlock row col => s!"OutsideBlock({row}, {col})"
  | .threadPool detail => reportOf "ThreadPool" detail

def Error.report : Error → String
  | .malformed line fault =>
      namedReportOf "MalformedInstruction" "instruction" line "reason" fault.message
  | .unknownOpcode line => reportOf "UnrecognizedInstruction" (Text.quoted line)
  | .unknownSubtype family token =>
      namedReportOf "UnrecognizedOperator" "opcode" family.opcode "token" token
  | .unbound name => reportOf "NameNotFound" (Text.quoted name)
  | .notMatrix name => reportOf "NotAMatrix" (Text.quoted name)
  | .outOfMemory name needed shortage =>
      reportOf "OutOfMemory" (Text.quoted (shortage.text name needed))
  | .kernel error => reportOf "Kernel" error.report
  | .undrawable name => reportOf "Undrawable" (Text.quoted name)

end LowRank
