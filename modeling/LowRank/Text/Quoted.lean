import LowRank.Text.Visible

/-!
# Quoted texts

A quoted text stands between double quotes.  Quotes and backslashes in it are marked by a backslash,
line breaks, tabs and the null character have short names, and every other character that would not
be visible by itself is given by its code point.
-/

namespace LowRank.Text

/-- How a character is written inside a quoted text. -/
def escaped (char : Char) : List Char :=
  match char with
  | '"' => ['\\', '"']
  | '\\' => ['\\', '\\']
  | '\n' => ['\\', 'n']
  | '\r' => ['\\', 'r']
  | '\t' => ['\\', 't']
  | '\x00' => ['\\', '0']
  | char =>
      if isVisible char then [char]
      else ['\\', 'u', '\x7b'] ++ Nat.toDigits 16 char.toNat ++ ['\x7d']

def quoted (text : String) : String :=
  String.ofList (['"'] ++ text.toList.flatMap escaped ++ ['"'])

end LowRank.Text
