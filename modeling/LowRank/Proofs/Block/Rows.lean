import Mathlib.Logic.Function.Basic
import LowRank.Proofs.Block.Tabulated
import LowRank.Proofs.Traversal

/-!
# Rows of a block

A row can be cut out of a block and stand as a block of its own, and so can a column. The other way
round, a row can be written over the cells of a block in its place. If an action fills the rows of a
block, each from its own present cells alone, then the rows may be filled in any order, and also
chunk by chunk, each chunk in a copy of the block that sees nothing of the others.
-/

namespace LowRank.Block

variable {α : Type}

/-- The block with a single row. -/
def ofRow (cells : List α) : Block α :=
  { rows := 1, cols := cells.length, cells := cells.toArray }

/-- The block with a single column. -/
def ofColumn (cells : List α) : Block α :=
  { rows := cells.length, cols := 1, cells := cells.toArray }

/-- The block with a row written over its cells, from the place where the row starts. -/
def replaceRow (block : Block α) (row : Nat) (cells : List α) : Block α :=
  let start := row * block.cols
  { block with
    cells := block.cells.extract 0 start ++ cells.toArray ++
      block.cells.extract (start + cells.length) block.cells.size }

/-- Fills rows of a block in its storage, one after another in a given order. -/
def fillInOrder {m : Type → Type} [Monad m] (block : Block α) (fill : Nat → List α → m (List α))
    (order : List Nat) : m (Block α) :=
  order.foldlM (fun block row => do
    let cells ← fill row (block.rowSlice row)
    return block.replaceRow row cells) block

/--
Fills a chunk of rows in a copy of the block, and writes the rows of the copy over the same rows of
another block.
-/
def fillChunk {m : Type → Type} [Monad m] (block : Block α) (fill : Nat → List α → m (List α))
    (target : Block α) (chunk : List Nat) : m (Block α) := do
  let copy ← block.fillInOrder fill chunk
  target.fillInOrder (fun row _ => return copy.rowSlice row) chunk

/-- Fills chunks of rows, each in a copy of its own, and brings the rows of the copies together. -/
def fillInChunks {m : Type → Type} [Monad m] (block : Block α) (fill : Nat → List α → m (List α))
    (chunks : List (List Nat)) : m (Block α) :=
  chunks.foldlM (block.fillChunk fill) block

/-- The rows of a block may be filled in any order and in any division into chunks. -/
structure FilledFreely {m : Type → Type} [Monad m] (block : Block α)
    (fill : Nat → List α → m (List α)) (filled : Block α) : Prop where
  inOrder : ∀ order : List Nat, order.Perm (List.range block.rows) →
    block.fillInOrder fill order = pure filled
  inChunks : ∀ chunks : List (List Nat), chunks.flatten.Perm (List.range block.rows) →
    block.fillInChunks fill chunks = pure filled

section Single

theorem wellFormed_ofRow (cells : List α) (countable : cells.length < Word.size) :
    (ofRow cells).WellFormed :=
  ⟨by simp [ofRow], by simpa [ofRow] using countable⟩

theorem wellFormed_ofColumn (cells : List α) (countable : cells.length < Word.size) :
    (ofColumn cells).WellFormed :=
  ⟨by simp [ofColumn], by simpa [ofColumn] using countable⟩

theorem WellFormed.rows_lt {block : Block α} (wellFormed : block.WellFormed) (col : Nat)
    (col_lt : col < block.cols) : block.rows < Word.size := by
  have rows_le := Nat.le_mul_of_pos_right block.rows (Nat.zero_lt_of_lt col_lt)
  have countable := wellFormed.countable
  omega

theorem WellFormed.cols_lt {block : Block α} (wellFormed : block.WellFormed) (row : Nat)
    (row_lt : row < block.rows) : block.cols < Word.size := by
  have cols_le := Nat.le_mul_of_pos_left block.cols (Nat.zero_lt_of_lt row_lt)
  have countable := wellFormed.countable
  omega

theorem ofRow_map_range (cols : Nat) (cell : Nat → α) :
    ofRow ((List.range cols).map cell) = tabulate 1 cols fun _ => cell := by
  simp [ofRow, tabulate]

theorem tabulate_one_eq_ofRow (cols : Nat) (cell : Nat → Nat → α) (result : Nat → α)
    (same : ∀ col < cols, cell 0 col = result col) :
    tabulate 1 cols cell = ofRow ((List.range cols).map result) := by
  rw [ofRow_map_range]
  apply tabulate_congr
  intro row row_lt col col_lt
  rw [Nat.lt_one_iff.mp row_lt, same col col_lt]

theorem ofColumn_map_range (rows : Nat) (cell : Nat → α) :
    ofColumn ((List.range rows).map cell) = tabulate rows 1 fun row _ => cell row := by
  simp [ofColumn, tabulate, List.flatten_eq_flatMap, List.flatMap_map]
  exact List.map_eq_flatMap

variable [Cell α] (block : Block α)

/-- A column of a block. -/
def column (col : Nat) : List α :=
  (List.range block.rows).map fun row => block.value row col

theorem rows_ofColumn_column (col : Nat) : (ofColumn (block.column col)).rows = block.rows := by
  simp [ofColumn, column]

variable (wellFormed : block.WellFormed)
include wellFormed

theorem wellFormed_ofColumn_column (col : Nat) (col_lt : col < block.cols) :
    (ofColumn (block.column col)).WellFormed := by
  apply wellFormed_ofColumn
  simpa [column] using wellFormed.rows_lt col col_lt

theorem value_ofColumn_column (row col : Nat) (row_lt : row < block.rows)
    (col_lt : col < block.cols) :
    (ofColumn (block.column col)).value row 0 = block.value row col := by
  have rows_lt := wellFormed.rows_lt col col_lt
  rw [column, ofColumn_map_range, value_tabulate _ _ _ (by omega) row 0 row_lt Nat.zero_lt_one]

variable (row : Nat) (row_lt : row < block.rows)
include row_lt

theorem ofRow_rowSlice :
    ofRow (block.rowSlice row) = tabulate 1 block.cols fun _ => block.value row := by
  rw [block.rowSlice_eq_map_value wellFormed row row_lt, ofRow_map_range]

omit [Cell α] in
theorem wellFormed_ofRow_rowSlice : (ofRow (block.rowSlice row)).WellFormed := by
  apply wellFormed_ofRow
  rw [block.length_rowSlice wellFormed row row_lt]
  exact wellFormed.cols_lt row row_lt

theorem cols_ofRow_rowSlice : (ofRow (block.rowSlice row)).cols = block.cols := by
  rw [ofRow_rowSlice block wellFormed row row_lt]
  rfl

theorem value_ofRow_rowSlice (col : Nat) (col_lt : col < block.cols) :
    (ofRow (block.rowSlice row)).value 0 col = block.value row col := by
  have cols_lt := wellFormed.cols_lt row row_lt
  rw [ofRow_rowSlice block wellFormed row row_lt,
    value_tabulate _ _ _ (by omega) 0 col Nat.zero_lt_one col_lt]

end Single

/-- Where a piece of an array is replaced by one of the same length, the rest stays in place. -/
theorem getElem?_replace (cells : Array α) (piece : List α) (start place : Nat)
    (inside : start + piece.length ≤ cells.size) :
    (cells.extract 0 start ++ piece.toArray ++
        cells.extract (start + piece.length) cells.size)[place]? =
      if start ≤ place ∧ place < start + piece.length then piece[place - start]?
      else cells[place]? := by
  have startSize : (cells.extract 0 start).size = start := by
    rw [Array.size_extract]
    omega
  have endSize : (cells.extract 0 start ++ piece.toArray).size = start + piece.length := by
    rw [Array.size_append, startSize, List.size_toArray]
  by_cases before : place < start
  · rw [Array.getElem?_append_left (by omega), Array.getElem?_append_left (by omega),
      if_neg (by omega), Array.getElem?_extract, if_pos (by omega), Nat.zero_add]
  · by_cases within : place < start + piece.length
    · rw [Array.getElem?_append_left (by omega), Array.getElem?_append_right (by omega), startSize,
        if_pos ⟨by omega, within⟩, List.getElem?_toArray]
    · rw [Array.getElem?_append_right (by omega), endSize, if_neg (by omega),
        Array.getElem?_extract]
      by_cases place_lt : place < cells.size
      · rw [if_pos (by omega)]
        congr 1
        omega
      · rw [if_neg (by omega), Array.getElem?_eq_none (by omega)]

section Replaced

variable (block : Block α) (row : Nat) (cells : List α) (wellFormed : block.WellFormed)
  (row_lt : row < block.rows) (length_eq : cells.length = block.cols)
include wellFormed row_lt length_eq

theorem wellFormed_replaceRow : (block.replaceRow row cells).WellFormed := by
  have inside := block.row_end_le row row_lt
  have size_cells := wellFormed.size_cells
  refine ⟨?_, wellFormed.countable⟩
  simp only [replaceRow, Array.size_append, Array.size_extract, List.size_toArray]
  omega

/-- Only the cells of the row are replaced. -/
theorem cell?_replaceRow (other col : Nat) (other_lt : other < block.rows)
    (col_lt : col < block.cols) :
    (block.replaceRow row cells).cell? other col =
      if other = row then cells[col]? else block.cell? other col := by
  have inside := block.row_end_le row row_lt
  have size_cells := wellFormed.size_cells
  have replaced := block.wellFormed_replaceRow row cells wellFormed row_lt length_eq
  rw [cell?, cell?, position_eq _ replaced other other_lt col col_lt,
    position_eq _ wellFormed other other_lt col col_lt]
  simp only [replaceRow]
  rw [getElem?_replace block.cells cells _ _ (by omega)]
  -- A cell of another row stands before the row or after it.
  rcases Nat.lt_trichotomy other row with before | rfl | after
  · have below := Nat.mul_le_mul_right block.cols before
    rw [Nat.succ_mul] at below
    rw [if_neg (by omega), if_neg (by omega)]
  · rw [if_pos (by omega), if_pos rfl, Nat.add_sub_cancel_left]
  · have above := Nat.mul_le_mul_right block.cols after
    rw [Nat.succ_mul] at above
    rw [if_neg (by omega), if_neg (by omega)]

end Replaced

section Filled

variable {ε : Type} (rows cols : Nat) (countable : rows * cols < Word.size)
include countable

theorem replaceRow_tabulate (cell : Nat → Nat → α) (row : Nat) (row_lt : row < rows)
    (replacement : Nat → α) :
    (tabulate rows cols cell).replaceRow row ((List.range cols).map replacement) =
      tabulate rows cols (Function.update cell row replacement) := by
  have formed := wellFormed_tabulate rows cols cell countable
  have length_eq : ((List.range cols).map replacement).length = cols := by simp
  apply eq_of_cell?
  · exact wellFormed_replaceRow _ row _ formed row_lt length_eq
  · exact wellFormed_tabulate rows cols _ countable
  · rfl
  · rfl
  · intro other other_lt col col_lt
    change col < cols at col_lt
    have updated := cell?_tabulate rows cols (Function.update cell row replacement) countable
      other col other_lt col_lt
    rw [cell?_replaceRow _ row _ formed row_lt length_eq other col other_lt col_lt, updated]
    by_cases same : other = row
    · subst same
      rw [if_pos rfl, Function.update_self, List.getElem?_map, List.getElem?_range col_lt]
      rfl
    · rw [if_neg same, Function.update_of_ne same]
      exact cell?_tabulate rows cols cell countable other col other_lt col_lt

section Order

variable (fill : Nat → List α → Except ε (List α)) (initial result : Nat → Nat → α)

/-- Rows that are filled one after another, none of them twice, are filled as each by itself. -/
theorem fillInOrder_tabulate (order : List Nat) (nodup : order.Nodup)
    (rows_lt : ∀ row ∈ order, row < rows)
    (fills : ∀ row ∈ order,
      fill row ((List.range cols).map (initial row)) = .ok ((List.range cols).map (result row))) :
    (tabulate rows cols initial).fillInOrder fill order =
      .ok (tabulate rows cols fun row => if row ∈ order then result row else initial row) := by
  induction order generalizing initial with
  | nil => simp [fillInOrder, pure, Except.pure]
  | cons first rest ih =>
      rcases List.nodup_cons.mp nodup with ⟨first_notMem, restNodup⟩
      have first_lt := rows_lt first List.mem_cons_self
      -- The other rows are filled in a block that already has the first result.
      have others := ih (Function.update initial first (result first)) restNodup
        (fun row row_mem => rows_lt row (List.mem_cons_of_mem first row_mem))
        (by
          intro row row_mem
          have row_ne : row ≠ first := by
            rintro rfl
            exact first_notMem row_mem
          rw [Function.update_of_ne row_ne]
          exact fills row (List.mem_cons_of_mem first row_mem))
      rw [fillInOrder, List.foldlM_cons, rowSlice_tabulate rows cols initial first first_lt,
        fills first List.mem_cons_self, ok_bind]
      change fillInOrder (replaceRow _ first _) fill rest = _
      rw [replaceRow_tabulate rows cols countable initial first first_lt (result first), others]
      apply congrArg Except.ok
      apply tabulate_congr
      intro row _ col _
      by_cases same : row = first
      · subst same
        simp [first_notMem]
      · simp [same]

/-- A chunk gives its own rows to the block that it is brought to, whatever this holds in them. -/
theorem fillChunk_tabulate (present : Nat → Nat → α) (chunk : List Nat) (nodup : chunk.Nodup)
    (rows_lt : ∀ row ∈ chunk, row < rows)
    (fills : ∀ row ∈ chunk,
      fill row ((List.range cols).map (initial row)) = .ok ((List.range cols).map (result row))) :
    (tabulate rows cols initial).fillChunk fill (tabulate rows cols present) chunk =
      .ok (tabulate rows cols fun row => if row ∈ chunk then result row else present row) := by
  rw [fillChunk, fillInOrder_tabulate rows cols countable fill initial result chunk nodup rows_lt
    fills, ok_bind]
  apply fillInOrder_tabulate rows cols countable _ present result chunk nodup rows_lt
  -- In the rows of the chunk the copy holds the results.
  intro row row_mem
  rw [rowSlice_tabulate rows cols _ row (rows_lt row row_mem), if_pos row_mem]
  rfl

theorem foldlM_fillChunk_tabulate (chunks : List (List Nat)) (present : Nat → Nat → α)
    (nodup : ∀ chunk ∈ chunks, chunk.Nodup) (rows_lt : ∀ row ∈ chunks.flatten, row < rows)
    (fills : ∀ row ∈ chunks.flatten,
      fill row ((List.range cols).map (initial row)) = .ok ((List.range cols).map (result row))) :
    chunks.foldlM ((tabulate rows cols initial).fillChunk fill) (tabulate rows cols present) =
      .ok (tabulate rows cols fun row =>
        if row ∈ chunks.flatten then result row else present row) := by
  induction chunks generalizing present with
  | nil => simp [pure, Except.pure]
  | cons first rest ih =>
      simp only [List.flatten_cons, List.mem_append] at rows_lt fills ⊢
      rw [List.foldlM_cons, fillChunk_tabulate rows cols countable fill initial result present
        first (nodup first List.mem_cons_self) (fun row row_mem => rows_lt row (Or.inl row_mem))
        (fun row row_mem => fills row (Or.inl row_mem)), ok_bind,
        ih _ (fun chunk chunk_mem => nodup chunk (List.mem_cons_of_mem first chunk_mem))
          (fun row row_mem => rows_lt row (Or.inr row_mem))
          (fun row row_mem => fills row (Or.inr row_mem))]
      apply congrArg Except.ok
      apply tabulate_congr
      intro row _ col _
      by_cases later : row ∈ rest.flatten
      · simp [later]
      · simp [later]

end Order

section All

variable (order : List Nat) (perm : order.Perm (List.range rows))
include perm

omit countable in
theorem tabulate_of_perm (initial result : Nat → Nat → α) :
    (tabulate rows cols fun row => if row ∈ order then result row else initial row) =
      tabulate rows cols result := by
  apply tabulate_congr
  intro row row_lt col _
  rw [if_pos (perm.mem_iff.mpr (List.mem_range.mpr row_lt))]

omit countable in
theorem lt_of_mem_of_perm (row : Nat) (row_mem : row ∈ order) : row < rows :=
  List.mem_range.mp (perm.mem_iff.mp row_mem)

end All

/-- Rows that are filled from their own cells alone may be filled freely. -/
theorem filledFreely_tabulate (fill : Nat → List α → Except ε (List α))
    (initial result : Nat → Nat → α)
    (fills : ∀ row < rows,
      fill row ((List.range cols).map (initial row)) = .ok ((List.range cols).map (result row))) :
    (tabulate rows cols initial).FilledFreely fill (tabulate rows cols result) := by
  constructor
  · intro order perm
    have rows_lt := lt_of_mem_of_perm rows order perm
    have nodup := perm.nodup_iff.mpr List.nodup_range
    rw [fillInOrder_tabulate rows cols countable fill initial result order nodup rows_lt
      fun row row_mem => fills row (rows_lt row row_mem), tabulate_of_perm rows cols order perm]
    rfl
  · intro chunks perm
    have rows_lt := lt_of_mem_of_perm rows chunks.flatten perm
    have nodup := (List.pairwise_flatten.mp (perm.nodup_iff.mpr List.nodup_range)).1
    rw [fillInChunks, foldlM_fillChunk_tabulate rows cols countable fill initial result chunks
      initial nodup rows_lt fun row row_mem => fills row (rows_lt row row_mem),
      tabulate_of_perm rows cols chunks.flatten perm]
    rfl

end Filled

end LowRank.Block
