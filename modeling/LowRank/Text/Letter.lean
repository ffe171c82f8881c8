/-!
# Comparison without regard to letter case

Only the twenty-six letters of the basic alphabet have a case here; every other character stands
for itself alone.
-/

namespace LowRank.Text

/-- A text with its basic capital letters turned into small ones. -/
def lowered (text : List Char) : List Char :=
  text.map Char.toLower

/-- Whether two texts agree up to the case of basic letters. -/
def agreesIgnoringCase (left right : List Char) : Bool :=
  lowered left == lowered right

end LowRank.Text
