import Mathlib.Data.List.Basic
import LowRank.Proofs.Block.Rows
import LowRank.Proofs.Kernel.Outcome

/-!
# Results row by row

A matrix that an operator returns has rows that are computed independently of each other. Each of
them is what the operator returns for a piece of the inputs: one row of the weighted matrix, or one
column of it if the weighted cells are multiplied on the left, with the row of a factor that belongs
to it. The action that fills a row looks at nothing but the inputs and the zeros in that row, so
that the order in which rows are filled and their division into chunks make no difference.
-/

namespace LowRank

variable {α : Type} [Cell α]

namespace Inputs

/-- One row of the weighted matrix, of the left factor and of a fourth input. -/
def atRow (inputs : Inputs (Block α)) (row : Nat) : Inputs (Block α) :=
  { weighted := .ofRow (inputs.weighted.rowSlice row)
    left := .ofRow (inputs.left.rowSlice row)
    right := inputs.right
    fourth := inputs.fourth.map fun block => .ofRow (block.rowSlice row) }

/-- One column of the weighted matrix and of a fourth input, and the row of the right factor. -/
def atColumn (inputs : Inputs (Block α)) (col : Nat) : Inputs (Block α) :=
  { weighted := .ofColumn (inputs.weighted.column col)
    left := inputs.left
    right := .ofRow (inputs.right.rowSlice col)
    fourth := inputs.fourth.map fun block => .ofColumn (block.column col) }

end Inputs

namespace Operator

/-- The part of the inputs that belongs to a row of an operator's result. -/
def select (operator : Operator) (inputs : Inputs (Block α)) (index : Nat) : Inputs (Block α) :=
  match operator with
  | .weightedProduct (.sided _ .left) => inputs.atColumn index
  | _ => inputs.atRow index

/-- The inputs from which an operator computes a row of its result alone. -/
def piece (operator : Operator) (inputs : Inputs (Block α)) (index : Nat) : Inputs (Block α) :=
  (operator.select inputs index).keepFourth operator.needsFourth

theorem hasFourth_piece (operator : Operator) (inputs : Inputs (Block α))
    (present : operator.HasFourth inputs) (index : Nat) :
    operator.HasFourth (operator.piece inputs index) := by
  intro needs
  have found := present needs
  simp only [piece, select, Inputs.keepFourth, needs, if_true]
  split <;> simpa [Inputs.atColumn, Inputs.atRow] using found

end Operator

namespace Dense

/-- The action by which an operator fills the rows of its result, if the result is a matrix. -/
def rowFill? (operator : Operator) (inputs : Inputs (Block α)) :
    Option (Nat → List α → Computed (List α)) :=
  match operator with
  | .squaredLoss _ | .crossEntropy => none
  | .sigmoid kind => some (combineRow inputs fun weight value => weight * sigmoidOf kind value)
  | .unary kind code => (UnaryFunction.ofCode? code).map fun function =>
      combineRow inputs (unaryOf kind function)
  | .weightedProduct .basic => some fun row =>
      updateRow fun col _ => weightedCell .multiply inputs row col
  | .weightedProduct (.sided combination .left) => some fun col =>
      addMultiples inputs.weighted.rows (fun row => weightedCell combination inputs row col)
        inputs.left
  | .weightedProduct (.sided combination .right) => some fun row =>
      addMultiples inputs.weighted.cols (fun col => weightedCell combination inputs row col)
        inputs.right

/-- The kernel fills the rows of a block of zeros by the operator's action. -/
theorem kernel_eq_fillRows (workers : Workers) (call : Call α) (fit : Fit call.inputs)
    (pool : Option Pool)
    (granted : workers.pool? call.threads call.inputs.weighted.cellCount = .ok pool)
    (present : call.operator.HasFourth call.inputs) (fill : Nat → List α → Computed (List α))
    (found : rowFill? call.operator call.inputs = some fill) (shape : Nat × Nat)
    (shape_eq : shape = call.operator.resultShape call.inputs.weighted.rows
      call.inputs.weighted.cols call.inputs.left.cols) :
    kernel workers call = (call.out.reset shape.1 shape.2).fillRows fill := by
  subst shape_eq
  rcases call with ⟨operator, inputs, out, threads⟩
  rw [kernel_eq_operate inputs fit workers operator out threads pool granted]
  simp only at present found
  cases operator with
  | squaredLoss kind => cases found
  | crossEntropy => cases found
  | sigmoid kind =>
      cases found
      rfl
  | unary kind code =>
      rcases Option.map_eq_some_iff.mp found with ⟨function, named, rfl⟩
      simp only [operate, named]
      rfl
  | weightedProduct kind =>
      simp only [operate, weightedProduct, inputs.needs_and_isNone_fourth kind.needsFourth present]
      cases kind with
      | basic =>
          cases found
          rfl
      | sided combination side =>
          cases side with
          | left =>
              cases found
              rfl
          | right =>
              cases found
              rfl

section Pieces

variable (inputs : Inputs (Block α)) (fit : Fit inputs)
include fit

section Row

variable (row : Nat) (row_lt : row < inputs.weighted.rows)
include row_lt

theorem cols_weighted_atRow : (inputs.atRow row).weighted.cols = inputs.weighted.cols :=
  Block.cols_ofRow_rowSlice inputs.weighted fit.weighted row row_lt

theorem fit_atRow : Fit (inputs.atRow row) := by
  have cols_eq := cols_weighted_atRow inputs fit row row_lt
  have left_lt : row < inputs.left.rows := by rwa [fit.left_rows]
  have rank_eq := Block.cols_ofRow_rowSlice inputs.left fit.left row left_lt
  refine ⟨inputs.weighted.wellFormed_ofRow_rowSlice fit.weighted row row_lt,
    inputs.left.wellFormed_ofRow_rowSlice fit.left row left_lt, fit.right, ?_, rfl,
    fit.right_rows.trans cols_eq.symm, rank_eq.trans fit.ranks, ?_, ?_⟩
  all_goals
    intro block present
    rcases Option.map_eq_some_iff.mp present with ⟨fourth, found, rfl⟩
  · apply fourth.wellFormed_ofRow_rowSlice (fit.fourth fourth found) row
    rwa [fit.fourth_rows fourth found]
  · rfl
  · have fourthCols := Block.cols_ofRow_rowSlice fourth (fit.fourth fourth found) row
      (by rwa [fit.fourth_rows fourth found])
    exact fourthCols.trans ((fit.fourth_cols fourth found).trans cols_eq.symm)

theorem dotAt_atRow (col : Nat) : dotAt (inputs.atRow row) 0 col = dotAt inputs row col := by
  have left_lt : row < inputs.left.rows := by rwa [fit.left_rows]
  simp only [dotAt, Inputs.atRow, Block.cols_ofRow_rowSlice inputs.left fit.left row left_lt]
  apply List.foldl_ext
  intro total rank rank_mem
  rw [Block.value_ofRow_rowSlice inputs.left fit.left row left_lt rank (List.mem_range.mp rank_mem)]

variable (col : Nat) (col_lt : col < inputs.weighted.cols)
include col_lt

theorem value_weighted_atRow :
    (inputs.atRow row).weighted.value 0 col = inputs.weighted.value row col :=
  Block.value_ofRow_rowSlice inputs.weighted fit.weighted row row_lt col col_lt

theorem fourthAt_atRow : fourthAt (inputs.atRow row) 0 col = fourthAt inputs row col := by
  simp only [fourthAt, Inputs.atRow]
  cases found : inputs.fourth with
  | none => rfl
  | some fourth =>
      apply Block.value_ofRow_rowSlice fourth (fit.fourth fourth found) row
      · rwa [fit.fourth_rows fourth found]
      · rwa [fit.fourth_cols fourth found]

theorem combinedAt_atRow (combine : α → α → α) :
    combinedAt (inputs.atRow row) combine 0 col = combinedAt inputs combine row col := by
  simp only [combinedAt, value_weighted_atRow inputs fit row row_lt col col_lt,
    dotAt_atRow inputs fit row row_lt col]

theorem weightedAt_atRow (combination : Combination) :
    weightedAt combination (inputs.atRow row) 0 col = weightedAt combination inputs row col := by
  simp only [weightedAt, value_weighted_atRow inputs fit row row_lt col col_lt,
    dotAt_atRow inputs fit row row_lt col, fourthAt_atRow inputs fit row row_lt col col_lt]

end Row

section Column

omit fit in
theorem rows_weighted_atColumn (col : Nat) :
    (inputs.atColumn col).weighted.rows = inputs.weighted.rows :=
  inputs.weighted.rows_ofColumn_column col

variable (col : Nat) (col_lt : col < inputs.weighted.cols)
include col_lt

theorem fit_atColumn : Fit (inputs.atColumn col) := by
  have right_lt : col < inputs.right.rows := by rwa [fit.right_rows]
  have rows_eq := rows_weighted_atColumn inputs col
  have rank_eq := Block.cols_ofRow_rowSlice inputs.right fit.right col right_lt
  refine ⟨inputs.weighted.wellFormed_ofColumn_column fit.weighted col col_lt, fit.left,
    inputs.right.wellFormed_ofRow_rowSlice fit.right col right_lt, ?_,
    fit.left_rows.trans rows_eq.symm, rfl, fit.ranks.trans rank_eq.symm, ?_, ?_⟩
  all_goals
    intro block present
    rcases Option.map_eq_some_iff.mp present with ⟨fourth, found, rfl⟩
  · apply fourth.wellFormed_ofColumn_column (fit.fourth fourth found) col
    rwa [fit.fourth_cols fourth found]
  · exact (fourth.rows_ofColumn_column col).trans
      ((fit.fourth_rows fourth found).trans rows_eq.symm)
  · rfl

theorem dotAt_atColumn (row : Nat) : dotAt (inputs.atColumn col) row 0 = dotAt inputs row col := by
  have right_lt : col < inputs.right.rows := by rwa [fit.right_rows]
  simp only [dotAt, Inputs.atColumn]
  apply List.foldl_ext
  intro total rank rank_mem
  have rank_lt : rank < inputs.right.cols := by
    rw [← fit.ranks]
    exact List.mem_range.mp rank_mem
  rw [Block.value_ofRow_rowSlice inputs.right fit.right col right_lt rank rank_lt]

variable (row : Nat) (row_lt : row < inputs.weighted.rows)
include row_lt

theorem fourthAt_atColumn : fourthAt (inputs.atColumn col) row 0 = fourthAt inputs row col := by
  simp only [fourthAt, Inputs.atColumn]
  cases found : inputs.fourth with
  | none => rfl
  | some fourth =>
      apply Block.value_ofColumn_column fourth (fit.fourth fourth found) row col
      · rwa [fit.fourth_rows fourth found]
      · rwa [fit.fourth_cols fourth found]

theorem weightedAt_atColumn (combination : Combination) :
    weightedAt combination (inputs.atColumn col) row 0 = weightedAt combination inputs row col := by
  have weight : (inputs.atColumn col).weighted.value row 0 = inputs.weighted.value row col :=
    Block.value_ofColumn_column inputs.weighted fit.weighted row col row_lt col_lt
  simp only [weightedAt, weight, dotAt_atColumn inputs fit col col_lt row,
    fourthAt_atColumn inputs fit col col_lt row row_lt]

end Column

end Pieces

section Rowwise

variable (inputs : Inputs (Block α)) (fit : Fit inputs) (combination : Combination)
include fit

theorem combined_atRow (combine : α → α → α) (row : Nat) (row_lt : row < inputs.weighted.rows) :
    combined (inputs.atRow row) combine =
      .ofRow ((List.range inputs.weighted.cols).map (combinedAt inputs combine row)) := by
  rw [combined_eq_tabulate, cols_weighted_atRow inputs fit row row_lt]
  apply Block.tabulate_one_eq_ofRow
  intro col col_lt
  exact combinedAt_atRow inputs fit row row_lt col col_lt combine

theorem materialised_atRow (row : Nat) (row_lt : row < inputs.weighted.rows) :
    materialised combination (inputs.atRow row) =
      .ofRow ((List.range inputs.weighted.cols).map (weightedAt combination inputs row)) := by
  rw [materialised, cols_weighted_atRow inputs fit row row_lt]
  apply Block.tabulate_one_eq_ofRow
  intro col col_lt
  exact weightedAt_atRow inputs fit row row_lt col col_lt combination

theorem times_atRow (row : Nat) (row_lt : row < inputs.weighted.rows) :
    times (materialised combination (inputs.atRow row)) inputs.right =
      .ofRow ((List.range inputs.right.cols).map fun rank =>
        sparseSum inputs.weighted.cols (fun col => (materialised combination inputs).value row col)
          (fun col => inputs.right.value col rank) Cell.zero) := by
  have cols_eq := cols_weighted_atRow inputs fit row row_lt
  apply Block.tabulate_one_eq_ofRow
  intro rank _
  change sparseSum (inputs.atRow row).weighted.cols _ _ _ = _
  rw [cols_eq]
  apply sparseSum_congr _ _ _ _ _ _ _ fun _ _ _ => rfl
  intro col col_lt
  rw [value_materialised combination inputs row col fit row_lt col_lt,
    value_materialised combination (inputs.atRow row) 0 col (fit_atRow inputs fit row row_lt)
      Nat.zero_lt_one (by rwa [cols_eq]),
    weightedAt_atRow inputs fit row row_lt col col_lt combination]

theorem transposedTimes_atColumn (col : Nat) (col_lt : col < inputs.weighted.cols) :
    transposedTimes (materialised combination (inputs.atColumn col)) inputs.left =
      .ofRow ((List.range inputs.left.cols).map fun rank =>
        sparseSum inputs.weighted.rows (fun row => (materialised combination inputs).value row col)
          (fun row => inputs.left.value row rank) Cell.zero) := by
  have rows_eq := rows_weighted_atColumn inputs col
  apply Block.tabulate_one_eq_ofRow
  intro rank _
  change sparseSum (inputs.atColumn col).weighted.rows _ _ _ = _
  rw [rows_eq]
  apply sparseSum_congr _ _ _ _ _ _ _ fun _ _ _ => rfl
  intro row row_lt
  rw [value_materialised combination inputs row col fit row_lt col_lt,
    value_materialised combination (inputs.atColumn col) row 0 (fit_atColumn inputs fit col col_lt)
      (by rwa [rows_eq]) Nat.zero_lt_one,
    weightedAt_atColumn inputs fit col col_lt row row_lt combination]

end Rowwise

/-- A result with its rows: the action that fills them, and the parts of the inputs they are of. -/
structure RowsOf (operator : Operator) (inputs : Inputs (Block α)) (rows cols : Nat)
    (fill : Nat → List α → Computed (List α)) (cell : Nat → Nat → α) : Prop where
  result : ∀ pool, resultOf pool operator inputs = .ok (.tabulate rows cols cell)
  action : rowFill? operator inputs = some fill
  fills : ∀ row < rows,
    fill row ((List.range cols).map fun _ => Cell.zero) = .ok ((List.range cols).map (cell row))
  fit : ∀ row < rows, Fit (operator.select inputs row)
  selected : ∀ pool, ∀ row < rows, resultOf pool operator (operator.select inputs row) =
    .ok (.ofRow ((List.range cols).map (cell row)))

section Kinds

variable (inputs : Inputs (Block α)) (fit : Fit inputs)
include fit

theorem rowsOf_sigmoid (kind : SigmoidKind) :
    ∃ fill, RowsOf (.sigmoid kind) inputs inputs.weighted.rows inputs.weighted.cols fill
      (combinedAt inputs fun weight value => weight * sigmoidOf kind value) := by
  refine ⟨_, { result := fun _ => rfl, action := rfl, fills := ?_, fit := ?_, selected := ?_ }⟩
  · exact combineRow_eq_ok inputs _ fit
  · exact fit_atRow inputs fit
  · intro _ row row_lt
    exact congrArg Except.ok (combined_atRow inputs fit _ row row_lt)

theorem rowsOf_unary (kind : UnaryKind) (code : String) (function : UnaryFunction)
    (named : UnaryFunction.ofCode? code = some function) :
    ∃ fill, RowsOf (.unary kind code) inputs inputs.weighted.rows inputs.weighted.cols fill
      (combinedAt inputs (unaryOf kind function)) := by
  refine ⟨_, { result := ?_, action := ?_, fills := combineRow_eq_ok inputs _ fit, fit := ?_
               selected := ?_ }⟩
  · intro pool
    simp only [resultOf, named, combined_eq_tabulate]
  · simp only [rowFill?, named]
    rfl
  · exact fit_atRow inputs fit
  · intro _ row row_lt
    simp only [resultOf, named]
    exact congrArg Except.ok (combined_atRow inputs fit _ row row_lt)

theorem rowsOf_basic :
    ∃ fill, RowsOf (.weightedProduct .basic) inputs inputs.weighted.rows inputs.weighted.cols fill
      (weightedAt .multiply inputs) := by
  refine ⟨_, { result := fun _ => rfl, action := rfl, fills := ?_, fit := ?_, selected := ?_ }⟩
  · exact updateRow_weightedCell .multiply inputs fit
  · exact fit_atRow inputs fit
  · intro _ row row_lt
    exact congrArg Except.ok (materialised_atRow inputs fit .multiply row row_lt)

theorem rowsOf_left (combination : Combination) :
    ∃ fill cell, RowsOf (.weightedProduct (.sided combination .left)) inputs inputs.weighted.cols
      inputs.left.cols fill cell := by
  refine ⟨_, _, { result := fun _ => rfl, action := rfl, fills := ?_, fit := ?_, selected := ?_ }⟩
  · exact addMultiples_left combination inputs fit
  · exact fit_atColumn inputs fit
  · intro _ col col_lt
    exact congrArg Except.ok (transposedTimes_atColumn inputs fit combination col col_lt)

theorem rowsOf_right (combination : Combination) :
    ∃ fill cell, RowsOf (.weightedProduct (.sided combination .right)) inputs inputs.weighted.rows
      inputs.right.cols fill cell := by
  refine ⟨_, _, { result := fun _ => rfl, action := rfl, fills := ?_, fit := ?_, selected := ?_ }⟩
  · exact addMultiples_right combination inputs fit
  · exact fit_atRow inputs fit
  · intro _ row row_lt
    exact congrArg Except.ok (times_atRow inputs fit combination row row_lt)

theorem exists_rowsOf (operator : Operator) (known : operator.KnowsFunction)
    (matrix : operator.producesScalar = false) :
    ∃ rows cols fill cell,
      (rows, cols) = operator.resultShape inputs.weighted.rows inputs.weighted.cols
          inputs.left.cols ∧
        RowsOf operator inputs rows cols fill cell := by
  cases operator with
  | squaredLoss kind => cases matrix
  | crossEntropy => cases matrix
  | sigmoid kind =>
      rcases rowsOf_sigmoid inputs fit kind with ⟨fill, rowsOf⟩
      exact ⟨_, _, fill, _, rfl, rowsOf⟩
  | unary kind code =>
      rcases Option.isSome_iff_exists.mp (known code rfl) with ⟨function, named⟩
      rcases rowsOf_unary inputs fit kind code function named with ⟨fill, rowsOf⟩
      exact ⟨_, _, fill, _, rfl, rowsOf⟩
  | weightedProduct kind =>
      cases kind with
      | basic =>
          rcases rowsOf_basic inputs fit with ⟨fill, rowsOf⟩
          exact ⟨_, _, fill, _, rfl, rowsOf⟩
      | sided combination side =>
          cases side with
          | left =>
              rcases rowsOf_left inputs fit combination with ⟨fill, cell, rowsOf⟩
              exact ⟨_, _, fill, cell, rfl, rowsOf⟩
          | right =>
              rcases rowsOf_right inputs fit combination with ⟨fill, cell, rowsOf⟩
              rw [fit.ranks]
              exact ⟨_, _, fill, cell, rfl, rowsOf⟩

end Kinds

/--
Each row of a matrix that an operator returns is the only row of what it returns for a piece of the
inputs. The kernel fills the rows of a block of zeros, and this may be done in any order and in any
division into chunks.
-/
theorem kernel_row_by_row (workers : Workers) (operator : Operator) (inputs : Inputs (Block α))
    (out : Block α) (threads : Int32) (fit : Fit inputs) (present : operator.HasFourth inputs)
    (known : operator.KnowsFunction) (matrix : operator.producesScalar = false)
    (pool : Option Pool)
    (granted : workers.pool? threads inputs.weighted.cellCount = .ok pool) :
    ∃ (block : Block α) (fill : Nat → List α → Computed (List α)),
      kernel workers ⟨operator, inputs, out, threads⟩ = .ok block ∧
        (block.rows, block.cols) =
          operator.resultShape inputs.weighted.rows inputs.weighted.cols inputs.left.cols ∧
        (∀ row < block.rows, ∃ cells, block.row? row = some cells ∧
          ∀ (pieceOut : Block α) (pieceThreads : Int32) (piecePool : Option Pool),
            workers.pool? pieceThreads (operator.piece inputs row).weighted.cellCount =
              .ok piecePool →
            kernel workers ⟨operator, operator.piece inputs row, pieceOut, pieceThreads⟩ =
              .ok (.ofRow cells)) ∧
        rowFill? operator inputs = some fill ∧
        kernel workers ⟨operator, inputs, out, threads⟩ =
          (out.reset block.rows block.cols).fillRows fill ∧
        (out.reset block.rows block.cols).FilledFreely fill block := by
  rcases exists_rowsOf inputs fit operator known matrix with
    ⟨rows, cols, fill, cell, shape_eq, rowsOf⟩
  have countable := fit.countable_resultShape operator rows cols shape_eq
  refine ⟨.tabulate rows cols cell, fill, ?_, shape_eq, ?_, rowsOf.action, ?_, ?_⟩
  · rw [kernel_eq_resultOf workers ⟨operator, inputs, out, threads⟩ fit pool granted present,
      rowsOf.result]
  · intro row row_lt
    refine ⟨_, Block.row?_tabulate rows cols cell countable row row_lt, ?_⟩
    intro pieceOut pieceThreads piecePool pieceGranted
    have pieceFit := (rowsOf.fit row row_lt).keepFourth operator.needsFourth
    have piecePresent := operator.hasFourth_piece inputs present row
    rw [kernel_eq_resultOf workers ⟨operator, operator.piece inputs row, pieceOut, pieceThreads⟩
      pieceFit piecePool pieceGranted piecePresent, ← rowsOf.selected piecePool row row_lt]
    exact resultOf_keepFourth piecePool operator (operator.select inputs row)
  · exact kernel_eq_fillRows workers ⟨operator, inputs, out, threads⟩ fit pool granted present fill
      rowsOf.action (rows, cols) shape_eq
  · change (out.reset rows cols).FilledFreely fill _
    rw [Block.reset_eq_tabulate out _ _ countable]
    exact Block.filledFreely_tabulate rows cols countable fill _ cell rowsOf.fills

theorem kernel_row_by_row_minus_left :
    ∃ (workers : Workers) (inputs : Inputs (Block Float)) (block out : Block Float)
      (fill : Nat → List Float → Computed (List Float)),
      kernel workers ⟨.weightedProduct (.sided .multiplyMinus .left), inputs, out, 4⟩ =
          .ok block ∧
        (block.rows, block.cols) = (3, 1) ∧
        (∃ cells, block.row? 1 = some cells ∧
          kernel workers
              { operator := .weightedProduct (.sided .multiplyMinus .left)
                inputs := ⟨⟨2, 1, #[0.0, -2.0]⟩, ⟨2, 1, #[2.0, 4.0]⟩, ⟨1, 1, #[5.0]⟩,
                  some ⟨2, 1, #[2.0, 5.0]⟩⟩
                out := .empty
                threads := 1 } =
            .ok (.ofRow cells)) ∧
        rowFill? (.weightedProduct (.sided .multiplyMinus .left)) inputs = some fill ∧
        (out.reset 3 1).fillInOrder fill [2, 0, 1] = .ok block ∧
        (out.reset 3 1).fillInChunks fill [[1], [2, 0]] = .ok block := by
  let workers : Workers := ⟨.standard 8, fun _ => .error "no threads"⟩
  let inputs : Inputs (Block Float) :=
    { weighted := ⟨2, 3, #[1.0, 0.0, 3.0, 0.0, -2.0, 0.5]⟩
      left := ⟨2, 1, #[2.0, 4.0]⟩
      right := ⟨3, 1, #[3.0, 5.0, 6.0]⟩
      fourth := some ⟨2, 3, #[1.0, 2.0, 3.0, 4.0, 5.0, 6.0]⟩ }
  let out : Block Float := ⟨1, 1, #[7.0]⟩
  have fit : Fit inputs := by decide
  have known : (Operator.weightedProduct (.sided .multiplyMinus .left)).KnowsFunction := by
    rintro code ⟨⟩
  rcases kernel_row_by_row workers (.weightedProduct (.sided .multiplyMinus .left)) inputs out 4 fit
    (fun _ => rfl) known rfl none rfl with ⟨block, fill, computed, shape, rows, action, _, freely⟩
  have both : block.rows = 3 ∧ block.cols = 1 := Prod.mk.inj shape
  rw [both.1, both.2] at freely
  rcases rows 1 (by omega) with ⟨cells, found, piece⟩
  exact ⟨workers, inputs, block, out, fill, computed, shape,
    ⟨cells, found, piece .empty 1 none rfl⟩, action,
    freely.inOrder [2, 0, 1] (by decide), freely.inChunks [[1], [2, 0]] (by decide)⟩

end Dense

end LowRank
