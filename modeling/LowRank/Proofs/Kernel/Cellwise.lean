import LowRank.Proofs.Kernel.Reading

/-!
# Cellwise results

The logistic and the unary operators change each cell of the weighted matrix by itself. For inputs
that fit, the result is the matrix of combined cells: zero where the weight is zero, and elsewhere a
function of the weight and the product of the two rows.
-/

namespace LowRank.Dense

variable {α : Type} [Cell α]

/-- The weight at a row and a column combined with the cell of the product. -/
def combinedAt (inputs : Inputs (Block α)) (combine : α → α → α) (row col : Nat) : α :=
  if Cell.isZero (inputs.weighted.value row col) then Cell.zero
  else combine (inputs.weighted.value row col) (dotAt inputs row col)

/-- The matrix whose cells combine the weights with the cells of the product. -/
def combined (inputs : Inputs (Block α)) (combine : α → α → α) : Block α :=
  Block.tabulate inputs.weighted.rows inputs.weighted.cols fun row col =>
    let weight := inputs.weighted.value row col
    if Cell.isZero weight then Cell.zero else combine weight (dotAt inputs row col)

/-- The action that fills a row of a cellwise result. -/
def combineRow (inputs : Inputs (Block α)) (combine : α → α → α) (row : Nat) (cells : List α) :
    Computed (List α) := do
  let left ← inputs.left.readRow row
  updateRow (fun col cell => do
    let weight ← inputs.weighted.read row col
    if Cell.isZero weight then return cell
    return combine weight (← productWith inputs left col)) cells

/-- A weight combined with the value of a unary function. -/
def unaryOf (kind : UnaryKind) (function : UnaryFunction) (weight value : α) : α :=
  match kind with
  | .multiply => weight * function.apply value
  | .divide => weight / function.apply value

variable (inputs : Inputs (Block α)) (combine : α → α → α)

theorem combined_eq_tabulate :
    combined inputs combine =
      Block.tabulate inputs.weighted.rows inputs.weighted.cols (combinedAt inputs combine) := rfl

theorem combineRow_eq_ok (fit : Fit inputs) (row : Nat) (row_lt : row < inputs.weighted.rows) :
    combineRow inputs combine row ((List.range inputs.weighted.cols).map fun _ => Cell.zero) =
      .ok ((List.range inputs.weighted.cols).map (combinedAt inputs combine row)) := by
  rw [combineRow, readRow_left inputs fit row row_lt, ok_bind]
  apply updateRow_eq_ok
  intro col col_lt
  have weight := read_weighted inputs fit row col col_lt row_lt
  have product := productWith_eq_ok_dotAt inputs fit row col col_lt
  simp only [weight, product, ok_bind, combinedAt]
  cases Cell.isZero (inputs.weighted.value row col) <;> rfl

theorem fillWeighted_eq_ok (fit : Fit inputs) (out : Block α) :
    fillWeighted inputs out combine = .ok (combined inputs combine) := by
  have countable := fit.weighted.countable
  rw [fillWeighted, Block.reset_eq_tabulate out _ _ countable, combined_eq_tabulate]
  apply Block.fillRows_tabulate _ _ countable
  exact combineRow_eq_ok inputs combine fit

end LowRank.Dense
