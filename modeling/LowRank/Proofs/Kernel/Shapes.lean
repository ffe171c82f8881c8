import LowRank.Proofs.Kernel.Reading

/-!
# Shapes that fit

The kernel compares the shapes of its inputs in a fixed order before it reads a cell. Here the
comparison is given as the conditions themselves: either all of them hold, or one of them is the
first that fails, and then its cause is the one that is reported.
-/

namespace LowRank

/--
The shape of an operator's result, for a weighted matrix of the given shape and factors with the
given number of columns.
-/
def Operator.resultShape (operator : Operator) (rows cols rank : Nat) : Nat × Nat :=
  match operator with
  | .squaredLoss _ | .crossEntropy => (1, 1)
  | .sigmoid _ | .unary _ _ | .weightedProduct .basic => (rows, cols)
  | .weightedProduct (.sided _ .left) => (cols, rank)
  | .weightedProduct (.sided _ .right) => (rows, rank)

namespace Dense

variable {α : Type}

/-- Inputs whose shapes fit together. -/
structure ShapesFit (inputs : Inputs (Block α)) : Prop where
  left_rows : inputs.left.rows = inputs.weighted.rows
  right_rows : inputs.right.rows = inputs.weighted.cols
  ranks : inputs.left.cols = inputs.right.cols
  fourth : ∀ block, inputs.fourth = some block →
    block.rows = inputs.weighted.rows ∧ block.cols = inputs.weighted.cols

/-- The first of the conditions on shapes that fails, as a cause. -/
inductive Misfit (inputs : Inputs (Block α)) : Mismatch → Prop where
  | left (rows_ne : inputs.left.rows ≠ inputs.weighted.rows) :
      Misfit inputs (.leftRows inputs.left.rows inputs.weighted.rows)
  | right (left_rows : inputs.left.rows = inputs.weighted.rows)
      (rows_ne : inputs.right.rows ≠ inputs.weighted.cols) :
      Misfit inputs (.rightRows inputs.right.rows inputs.weighted.cols)
  | ranks (left_rows : inputs.left.rows = inputs.weighted.rows)
      (right_rows : inputs.right.rows = inputs.weighted.cols)
      (ranks_ne : inputs.left.cols ≠ inputs.right.cols) :
      Misfit inputs (.ranks inputs.left.cols inputs.right.cols)
  | fourth (left_rows : inputs.left.rows = inputs.weighted.rows)
      (right_rows : inputs.right.rows = inputs.weighted.cols)
      (ranks : inputs.left.cols = inputs.right.cols) (block : Block α)
      (present : inputs.fourth = some block)
      (shape_ne : ¬(block.rows = inputs.weighted.rows ∧ block.cols = inputs.weighted.cols)) :
      Misfit inputs
        (.fourthShape block.rows block.cols inputs.weighted.rows inputs.weighted.cols)

variable (inputs : Inputs (Block α))

theorem shapesFit_or_misfit : ShapesFit inputs ∨ ∃ cause, Misfit inputs cause := by
  by_cases left_rows : inputs.left.rows = inputs.weighted.rows
  · by_cases right_rows : inputs.right.rows = inputs.weighted.cols
    · by_cases ranks : inputs.left.cols = inputs.right.cols
      · by_cases fourth : ∀ block, inputs.fourth = some block →
            block.rows = inputs.weighted.rows ∧ block.cols = inputs.weighted.cols
        · exact Or.inl ⟨left_rows, right_rows, ranks, fourth⟩
        · simp only [Classical.not_forall] at fourth
          rcases fourth with ⟨block, present, shape_ne⟩
          exact Or.inr ⟨_, .fourth left_rows right_rows ranks block present shape_ne⟩
      · exact Or.inr ⟨_, .ranks left_rows right_rows ranks⟩
    · exact Or.inr ⟨_, .right left_rows right_rows⟩
  · exact Or.inr ⟨_, .left left_rows⟩

theorem Misfit.not_shapesFit {inputs : Inputs (Block α)} {cause : Mismatch}
    (misfit : Misfit inputs cause) : ¬ShapesFit inputs := by
  intro fit
  cases misfit with
  | left rows_ne => exact rows_ne fit.left_rows
  | right _ rows_ne => exact rows_ne fit.right_rows
  | ranks _ _ ranks_ne => exact ranks_ne fit.ranks
  | fourth _ _ _ block present shape_ne => exact shape_ne (fit.fourth block present)

theorem checkShapes_of_misfit (cause : Mismatch) (misfit : Misfit inputs cause) :
    checkShapes inputs = .error cause := by
  rcases inputs with ⟨weighted, left, right, fourth⟩
  cases misfit with
  | left rows_ne => exact if_pos rows_ne
  | right left_rows rows_ne =>
      simp only at left_rows rows_ne
      simp [checkShapes, left_rows, rows_ne]
  | ranks left_rows right_rows ranks_ne =>
      simp only at left_rows right_rows ranks_ne
      simp [checkShapes, left_rows, right_rows, ranks_ne]
  | fourth left_rows right_rows ranks block present shape_ne =>
      simp only at left_rows right_rows ranks present shape_ne
      subst present
      simp [checkShapes, left_rows, right_rows, ranks, shape_ne]

/-- Well-formed inputs whose shapes fit are all that a computation needs. -/
theorem ShapesFit.fit {inputs : Inputs (Block α)} (shapes : ShapesFit inputs)
    (wellFormed : ∀ block ∈ inputs.toList, block.WellFormed) : Fit inputs where
  weighted := wellFormed _ (by simp [Inputs.toList])
  left := wellFormed _ (by simp [Inputs.toList])
  right := wellFormed _ (by simp [Inputs.toList])
  fourth block present := wellFormed block (by simp [Inputs.toList, present])
  left_rows := shapes.left_rows
  right_rows := shapes.right_rows
  ranks := shapes.ranks
  fourth_rows block present := (shapes.fourth block present).1
  fourth_cols block present := (shapes.fourth block present).2

/-- A result of an operator has no more cells than one of its inputs, or a single one. -/
theorem Fit.countable_resultShape {inputs : Inputs (Block α)} (fit : Fit inputs)
    (operator : Operator) (rows cols : Nat) (shape_eq : (rows, cols) =
      operator.resultShape inputs.weighted.rows inputs.weighted.cols inputs.left.cols) :
    rows * cols < Word.size := by
  cases operator with
  | squaredLoss kind =>
      cases shape_eq
      decide
  | crossEntropy =>
      cases shape_eq
      decide
  | sigmoid kind =>
      cases shape_eq
      exact fit.weighted.countable
  | unary kind code =>
      cases shape_eq
      exact fit.weighted.countable
  | weightedProduct kind =>
      cases kind with
      | basic =>
          cases shape_eq
          exact fit.weighted.countable
      | sided combination side =>
          cases side with
          | left =>
              cases shape_eq
              exact fit.countable_right
          | right =>
              cases shape_eq
              exact fit.countable_left

end Dense

end LowRank
