/-!
# Machine words

Cells and bytes are counted, and cells are found in their array, with words of 64 bits.  A sum or a
product that does not fit a word loses what is above the word, and nothing reports that.
-/

namespace LowRank.Word

/-- How many different words there are, `2 ^ 64`. -/
def size : Nat :=
  18446744073709551616

/-- What a word keeps of a number. -/
def wrap (number : Nat) : Nat :=
  number % size

theorem wrap_of_lt {number : Nat} (number_lt : number < size) : wrap number = number :=
  Nat.mod_eq_of_lt number_lt

end LowRank.Word
