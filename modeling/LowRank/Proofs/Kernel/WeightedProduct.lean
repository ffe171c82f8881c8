import LowRank.Proofs.Inputs
import LowRank.Proofs.Kernel.Reading

/-!
# The weighted product

The kernel computes a weighted product without storing the matrix of weighted cells. The result is
the one of two separate computations, the first of which stores that matrix and the second of which
multiplies it by a factor. Both perform the same operations on cells in the same order, so that no
law of their arithmetic is needed.
-/

namespace LowRank.Dense

variable {α : Type} [Cell α]

/-- The value of a fourth input, zero if there is none. -/
def fourthAt (inputs : Inputs (Block α)) (row col : Nat) : α :=
  (inputs.fourth.map fun block => block.value row col).getD Cell.zero

/-- The weighted cell at a row and a column. -/
def weightedAt (combination : Combination) (inputs : Inputs (Block α)) (row col : Nat) : α :=
  let weight := inputs.weighted.value row col
  if Cell.isZero weight then Cell.zero
  else
    match combination with
    | .multiply => weight * dotAt inputs row col
    | .divide => weight / dotAt inputs row col
    | .multiplyMinus => weight * (dotAt inputs row col - fourthAt inputs row col)

/-- The matrix of weighted cells. -/
def materialised (combination : Combination) (inputs : Inputs (Block α)) : Block α :=
  Block.tabulate inputs.weighted.rows inputs.weighted.cols (weightedAt combination inputs)

/-- A matrix times a factor; the zeros of the matrix are left out. -/
def times (matrix factor : Block α) : Block α :=
  Block.tabulate matrix.rows factor.cols fun row rank =>
    sparseSum matrix.cols (fun col => matrix.value row col) (fun col => factor.value col rank)
      Cell.zero

/-- The transpose of a matrix times a factor; the zeros of the matrix are left out. -/
def transposedTimes (matrix factor : Block α) : Block α :=
  Block.tabulate matrix.cols factor.cols fun col rank =>
    sparseSum matrix.rows (fun row => matrix.value row col) (fun row => factor.value row rank)
      Cell.zero

/-- The weighted product, computed from the matrix of weighted cells. -/
def productOf (kind : ProductKind) (inputs : Inputs (Block α)) : Block α :=
  match kind with
  | .basic => materialised .multiply inputs
  | .sided combination .left => transposedTimes (materialised combination inputs) inputs.left
  | .sided combination .right => times (materialised combination inputs) inputs.right

section Cells

variable (combination : Combination) (inputs : Inputs (Block α)) (row col : Nat)
  (fit : Fit inputs) (row_lt : row < inputs.weighted.rows) (col_lt : col < inputs.weighted.cols)
include fit row_lt col_lt

theorem value_materialised :
    (materialised combination inputs).value row col = weightedAt combination inputs row col :=
  Block.value_tabulate _ _ _ fit.weighted.countable row col row_lt col_lt

theorem weightedCell_eq_ok :
    weightedCell combination inputs row col = .ok (weightedAt combination inputs row col) := by
  have weight := read_weighted inputs fit row col col_lt row_lt
  have product := product_eq_ok_dotAt inputs fit row col col_lt row_lt
  simp only [weightedCell, weightedAt, weight, product, ok_bind]
  cases Cell.isZero (inputs.weighted.value row col) with
  | true => rfl
  | false =>
      cases combination with
      | multiply => rfl
      | divide => rfl
      | multiplyMinus =>
          cases present : inputs.fourth with
          | none => simp only [fourthAt, present]; rfl
          | some block =>
              have subtracted := read_fourth inputs fit row col col_lt row_lt block present
              simp only [fourthAt, present, subtracted, ok_bind]
              rfl

end Cells

section Kinds

variable (combination : Combination) (inputs : Inputs (Block α)) (out : Block α)
  (fit : Fit inputs)
include fit

theorem updateRow_weightedCell (row : Nat) (row_lt : row < inputs.weighted.rows) :
    updateRow (fun col _ => weightedCell combination inputs row col)
        ((List.range inputs.weighted.cols).map fun _ => Cell.zero) =
      .ok ((List.range inputs.weighted.cols).map (weightedAt combination inputs row)) := by
  apply updateRow_eq_ok
  intro col col_lt
  exact weightedCell_eq_ok combination inputs row col fit row_lt col_lt

theorem addMultiples_left (col : Nat) (col_lt : col < inputs.weighted.cols) :
    addMultiples inputs.weighted.rows (fun row => weightedCell combination inputs row col)
        inputs.left ((List.range inputs.left.cols).map fun _ => Cell.zero) =
      .ok ((List.range inputs.left.cols).map fun rank =>
        sparseSum inputs.weighted.rows (fun row => (materialised combination inputs).value row col)
          (fun row => inputs.left.value row rank) Cell.zero) := by
  apply addMultiples_eq_ok _ _ _ _ _ fit.left fit.left_rows
  intro row row_lt
  rw [value_materialised combination inputs row col fit row_lt col_lt]
  exact weightedCell_eq_ok combination inputs row col fit row_lt col_lt

theorem addMultiples_right (row : Nat) (row_lt : row < inputs.weighted.rows) :
    addMultiples inputs.weighted.cols (fun col => weightedCell combination inputs row col)
        inputs.right ((List.range inputs.right.cols).map fun _ => Cell.zero) =
      .ok ((List.range inputs.right.cols).map fun rank =>
        sparseSum inputs.weighted.cols (fun col => (materialised combination inputs).value row col)
          (fun col => inputs.right.value col rank) Cell.zero) := by
  apply addMultiples_eq_ok _ _ _ _ _ fit.right fit.right_rows
  intro col col_lt
  rw [value_materialised combination inputs row col fit row_lt col_lt]
  exact weightedCell_eq_ok combination inputs row col fit row_lt col_lt

theorem fillRows_basic :
    ((out.reset inputs.weighted.rows inputs.weighted.cols).fillRows fun row cells =>
        updateRow (fun col _ => weightedCell combination inputs row col) cells) =
      .ok (materialised combination inputs) := by
  have countable := fit.weighted.countable
  rw [Block.reset_eq_tabulate out _ _ countable]
  apply Block.fillRows_tabulate _ _ countable
  exact updateRow_weightedCell combination inputs fit

theorem fillRows_left :
    ((out.reset inputs.weighted.cols inputs.left.cols).fillRows fun col sums =>
        addMultiples inputs.weighted.rows
          (fun row => weightedCell combination inputs row col) inputs.left sums) =
      .ok (transposedTimes (materialised combination inputs) inputs.left) := by
  have countable := fit.countable_right
  rw [Block.reset_eq_tabulate out _ _ countable]
  apply Block.fillRows_tabulate _ _ countable
  exact addMultiples_left combination inputs fit

theorem fillRows_right :
    ((out.reset inputs.weighted.rows inputs.left.cols).fillRows fun row sums =>
        addMultiples inputs.weighted.cols
          (fun col => weightedCell combination inputs row col) inputs.right sums) =
      .ok (times (materialised combination inputs) inputs.right) := by
  have countable := fit.countable_left
  rw [Block.reset_eq_tabulate out _ _ countable]
  rw [fit.ranks] at countable ⊢
  apply Block.fillRows_tabulate _ _ countable
  exact addMultiples_right combination inputs fit

omit combination in
theorem weightedProduct_eq_ok (kind : ProductKind)
    (present : kind.needsFourth = true → inputs.fourth.isSome = true) :
    weightedProduct kind inputs out = .ok (productOf kind inputs) := by
  simp only [weightedProduct, inputs.needs_and_isNone_fourth kind.needsFourth present]
  cases kind with
  | basic => exact fillRows_basic .multiply inputs out fit
  | sided combination side =>
      cases side with
      | left => exact fillRows_left combination inputs out fit
      | right => exact fillRows_right combination inputs out fit

end Kinds

/-- The kernel's weighted product is the one computed from the matrix of weighted cells. -/
theorem kernel_weightedProduct (workers : Workers) (kind : ProductKind)
    (inputs : Inputs (Block α)) (out : Block α) (threads : Int32) (fit : Fit inputs)
    (present : kind.needsFourth = true → inputs.fourth.isSome = true) (pool : Option Pool)
    (granted : workers.pool? threads inputs.weighted.cellCount = .ok pool) :
    kernel workers { operator := .weightedProduct kind, inputs, out, threads } =
      .ok (productOf kind inputs) := by
  rw [kernel_eq_operate inputs fit workers _ out threads pool granted]
  exact weightedProduct_eq_ok inputs out fit kind present

theorem kernel_weightedProduct_minus_left :
    ∃ inputs : Inputs (Block Float),
      inputs.fourth.isSome = true ∧
        (productOf (.sided .multiplyMinus .left) inputs).rows = 2 ∧
        (productOf (.sided .multiplyMinus .left) inputs).cols = 1 ∧
        kernel ⟨.standard 8, fun _ => .error "no threads"⟩
            { operator := .weightedProduct (.sided .multiplyMinus .left), inputs
              out := ⟨1, 3, #[7.0, 8.0, 9.0]⟩
              threads := 4 } =
          .ok (productOf (.sided .multiplyMinus .left) inputs) := by
  let inputs : Inputs (Block Float) :=
    { weighted := ⟨1, 2, #[1.0, 0.0]⟩
      left := ⟨1, 1, #[2.0]⟩
      right := ⟨2, 1, #[3.0, 4.0]⟩
      fourth := some ⟨1, 2, #[5.0, 6.0]⟩ }
  have fit : Fit inputs := by decide
  exact ⟨inputs, rfl, rfl, rfl,
    kernel_weightedProduct _ _ inputs _ 4 fit (fun _ => rfl) none rfl⟩

end LowRank.Dense
