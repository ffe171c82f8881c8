import LowRank.Block.Basic
import LowRank.Decimal.Notation

/-!
# The text of a block

A header line with the shape and the number of non-zero cells, then at most eight rows of at most
eight cells with six places each.  An ellipsis stands for what is left out.  The text is one of
blocks that hold all their rows.
-/

namespace LowRank.Block

/-- How many rows and columns a text shows at most. -/
def shownCorner : Nat :=
  8

/-- How many places after the point a shown cell has. -/
def shownPlaces : Nat :=
  6

/-- One line for the first cells of a row. -/
def rowText (cols : Nat) (row : List Float) : String :=
  let cells := (row.take shownCorner).map (Decimal.fixedText shownPlaces)
  let omitted := if shownCorner < cols then ", ..." else ""
  "[" ++ String.intercalate ", " cells ++ omitted ++ "]\n"

/-- The text of a block, each line ended by a line break. -/
def text (block : Block Float) : String :=
  let header := s!"MatrixBlock {block.rows}x{block.cols} (nnz={block.nonzeroCount})\n"
  let rows := (List.range (min block.rows shownCorner)).map fun row =>
    rowText block.cols (block.rowSlice row)
  let omitted := if shownCorner < block.rows then "...\n" else ""
  header ++ String.join rows ++ omitted

end LowRank.Block
