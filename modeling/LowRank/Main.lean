import LowRank.CommandLine.Run

/-!
# The program

Runs the instruction lines that are given as arguments.
-/

open LowRank.CommandLine

/-- Prints what the program prints and ends with its exit code. -/
def main (arguments : List String) : IO UInt32 := do
  let transcript := run .single arguments
  IO.print transcript.printed
  IO.eprint transcript.complaint
  return UInt32.ofNat transcript.exitCode
