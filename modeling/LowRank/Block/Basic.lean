import LowRank.Cell
import LowRank.Mismatch
import LowRank.Word

/-!
# Matrix blocks

A block is a dense matrix whose cells stand in one array, row after row.  Reading and writing come
in two forms.  The positional forms `cell?`, `setCell?` and `row?` compute a position in the array
and have no answer when the array ends before it; they do not look at the column by itself.  The
form `value` checks both coordinates and reads zero outside the block.

Numbers of cells, numbers of bytes and positions are words.  A block of a shape with more cells than
a word can count has only as many cells as the word says.
-/

namespace LowRank

/-- A dense matrix, stored row after row. -/
structure Block (α : Type) where
  rows : Nat
  cols : Nat
  /-- The cells, row after row. -/
  cells : Array α
  deriving Repr, DecidableEq, BEq

namespace Block

variable {α : Type}

/-- A block that has exactly one cell for each row and column, and not too many to be counted. -/
structure WellFormed (block : Block α) : Prop where
  size_cells : block.cells.size = block.rows * block.cols
  countable : block.rows * block.cols < Word.size

instance (block : Block α) : Decidable block.WellFormed :=
  decidable_of_iff
    (block.cells.size = block.rows * block.cols ∧ block.rows * block.cols < Word.size)
    ⟨fun ⟨size_cells, countable⟩ => ⟨size_cells, countable⟩,
      fun wellFormed => ⟨wellFormed.size_cells, wellFormed.countable⟩⟩

def cellCount (block : Block α) : Nat :=
  Word.wrap (block.rows * block.cols)

/-- How many bytes the cells of a block take, eight for each. -/
def bytes (block : Block α) : Nat :=
  Word.wrap (block.cellCount * 8)

def isEmpty (block : Block α) : Bool :=
  block.cellCount == 0

/-- The place of a row and a column in the array of cells. -/
def position (block : Block α) (row col : Nat) : Nat :=
  Word.wrap (row * block.cols + col)

/-- The cell at the position of a row and a column, if the array reaches that far. -/
def cell? (block : Block α) (row col : Nat) : Option α :=
  block.cells[block.position row col]?

/-- The block with another cell at a position, if the array reaches that far. -/
def setCell? (block : Block α) (row col : Nat) (cell : α) : Option (Block α) :=
  if h : block.position row col < block.cells.size then
    some { block with cells := block.cells.set (block.position row col) cell h }
  else
    none

/-- A row, if the array holds all of it. -/
def row? (block : Block α) (row : Nat) : Option (List α) :=
  let start := block.position row 0
  let stop := Word.wrap (start + block.cols)
  if start ≤ stop ∧ stop ≤ block.cells.size then some (block.cells.extract start stop).toList
  else none

/-- The cells after the given number of full rows, at most one row of them. -/
def rowSlice (block : Block α) (row : Nat) : List α :=
  (block.cells.extract (row * block.cols) (row * block.cols + block.cols)).toList

/-- How many rows the cells fill, the last one perhaps in part. -/
def filledRows (block : Block α) : Nat :=
  (block.cells.size + block.cols - 1) / block.cols

/-- The block with every cell replaced by a function of its position and its content. -/
def mapCells (update : Nat → α → α) (block : Block α) : Block α :=
  { block with cells := block.cells.mapIdx update }

/-- The length of the first row, or zero. -/
def widthOf : List (List α) → Nat
  | [] => 0
  | first :: _ => first.length

/-- The first row, with its index, that does not have the given length. -/
def firstRagged? (cols : Nat) (rows : List (List α)) : Option (List α × Nat) :=
  rows.zipIdx.find? fun row => row.1.length != cols

/-- The block with the given rows; all of them must have the length of the first one. -/
def ofRows (rows : List (List α)) : Except Mismatch (Block α) :=
  let cols := widthOf rows
  match firstRagged? cols rows with
  | some (row, index) => .error (.raggedRow index row.length cols)
  | none => .ok { rows := rows.length, cols, cells := rows.flatten.toArray }

section Cells

variable [Cell α]

/-- The block of the given shape with zeros in all cells. -/
def zeros (rows cols : Nat) : Block α :=
  { rows, cols, cells := Array.replicate (Word.wrap (rows * cols)) Cell.zero }

/-- The block without rows and columns. -/
def empty : Block α :=
  zeros 0 0

/-- The cell at a row and a column, zero outside the block. -/
def value (block : Block α) (row col : Nat) : α :=
  if row < block.rows ∧ col < block.cols then (block.cell? row col).getD Cell.zero
  else Cell.zero

/-- How many cells do not count as absent. -/
def nonzeroCount (block : Block α) : Nat :=
  block.cells.countP fun cell => !Cell.isZero cell

/-- Gives a block a new shape and zeros in all cells, in the storage that it already has. -/
def reset (block : Block α) (rows cols : Nat) : Block α :=
  { rows, cols
    cells := block.cells.shrink 0 ++ Array.replicate (Word.wrap (rows * cols)) Cell.zero }

end Cells

/--
Rewrites a block row by row: each row becomes what the given action makes of its index and its
present cells.  A block without cells stays as it is, however many rows its shape has.
-/
def fillRows {m : Type → Type} [Monad m] (block : Block α)
    (fill : Nat → List α → m (List α)) : m (Block α) := do
  if block.isEmpty then return block
  let rows ← (List.range block.filledRows).mapM fun row => fill row (block.rowSlice row)
  return { block with cells := rows.flatten.toArray }

end Block

end LowRank
