import LowRank.Proofs.Kernel.Cellwise
import LowRank.Proofs.Kernel.Shapes
import LowRank.Proofs.Kernel.Totals
import Mathlib.Data.List.Basic

/-!
# Answers of the kernel

For well-formed inputs of any shapes the kernel never reads or writes outside a block. What it
answers is decided by conditions in a fixed order: the shapes, then the threads of the pool that the
computation asks for, if it asks for one, then a fourth input that is consumed but absent, then the
code of a unary function. Where none of them fails, there is a result, and it is a well-formed block
of the operator's shape.
-/

namespace LowRank

namespace Operator

/-- The fourth input is there if an operator consumes it. -/
def HasFourth {β : Type} (operator : Operator) (inputs : Inputs β) : Prop :=
  operator.needsFourth = true → inputs.fourth.isSome = true

theorem hasFourth_of_needs_eq_false {β : Type} (operator : Operator) (inputs : Inputs β)
    (needs_eq : operator.needsFourth = false) : operator.HasFourth inputs := by
  intro needs
  rw [needs_eq] at needs
  cases needs

/-- The code of a unary operator names a function; other operators have no code. -/
def KnowsFunction (operator : Operator) : Prop :=
  ∀ code, operator.unaryCode? = some code → (UnaryFunction.ofCode? code).isSome = true

/-- What is reported if an operator consumes a fourth input and there is none. -/
def missingFourth (operator : Operator) : Mismatch :=
  if operator.family = .squaredLoss then .missingWeights operator.subtype
  else .missingFourth operator.subtype

end Operator

/-- The only failure on the way to a pool is that of its threads. -/
theorem Workers.eq_threadPool_of_pool? (workers : Workers) (hint : Int32) (cells : Nat)
    (error : KernelError) (refused : workers.pool? hint cells = .error error) :
    ∃ detail, workers.pool (workers.settings.resolveThreads hint) = .error detail ∧
      error = .threadPool detail := by
  simp only [pool?] at refused
  split at refused
  · cases refused
  · cases started : workers.pool (workers.settings.resolveThreads hint) with
    | ok pool =>
        rw [started] at refused
        cases refused
    | error detail =>
        rw [started] at refused
        cases refused
        exact ⟨detail, rfl, rfl⟩

namespace Dense

variable {α : Type}

/-- A well-formed block of the shape that an operator's result has. -/
structure ResultFor (operator : Operator) (inputs : Inputs (Block α)) (block : Block α) :
    Prop where
  wellFormed : block.WellFormed
  shape : (block.rows, block.cols) =
    operator.resultShape inputs.weighted.rows inputs.weighted.cols inputs.left.cols

theorem resultFor_ofCell (operator : Operator) (inputs : Inputs (Block α)) (cell : α)
    (scalar : operator.producesScalar = true) : ResultFor operator inputs (.ofCell cell) := by
  refine ⟨⟨rfl, (by decide : 1 * 1 < Word.size)⟩, ?_⟩
  cases operator with
  | squaredLoss kind => rfl
  | crossEntropy => rfl
  | weightedProduct kind => cases scalar
  | sigmoid kind => cases scalar
  | unary kind code => cases scalar

theorem resultFor_tabulate (operator : Operator) (inputs : Inputs (Block α)) (fit : Fit inputs)
    (rows cols : Nat) (cell : Nat → Nat → α) (shape_eq : (rows, cols) =
      operator.resultShape inputs.weighted.rows inputs.weighted.cols inputs.left.cols) :
    ResultFor operator inputs (.tabulate rows cols cell) := by
  refine ⟨?_, shape_eq⟩
  exact Block.wellFormed_tabulate rows cols cell
    (fit.countable_resultShape operator rows cols shape_eq)

variable [Cell α]

/-- What an operator makes of inputs that fit, each cell by itself. -/
def resultOf (pool : Option Pool) (operator : Operator) (inputs : Inputs (Block α)) :
    Computed (Block α) :=
  match operator with
  | .squaredLoss kind =>
      .ok (.ofCell (totalOf pool inputs.weighted.rows (rowLossAt kind inputs)))
  | .crossEntropy => .ok (.ofCell (totalOf pool inputs.weighted.rows (rowEntropyAt inputs)))
  | .weightedProduct kind => .ok (productOf kind inputs)
  | .sigmoid kind => .ok (combined inputs fun weight value => weight * sigmoidOf kind value)
  | .unary kind code =>
      match UnaryFunction.ofCode? code with
      | none => .error (.unknownFunction code)
      | some function => .ok (combined inputs (unaryOf kind function))

/-- A result that is a matrix does not depend on the pool. -/
theorem resultOf_of_matrix (pool other : Option Pool) (operator : Operator)
    (inputs : Inputs (Block α)) (matrix : operator.producesScalar = false) :
    resultOf pool operator inputs = resultOf other operator inputs := by
  cases operator with
  | squaredLoss kind => cases matrix
  | crossEntropy => cases matrix
  | weightedProduct kind => rfl
  | sigmoid kind => rfl
  | unary kind code => rfl

/-- An operator makes the same of its inputs without a fourth one that it does not consume. -/
theorem resultOf_keepFourth (pool : Option Pool) (operator : Operator)
    (inputs : Inputs (Block α)) :
    resultOf pool operator (inputs.keepFourth operator.needsFourth) =
      resultOf pool operator inputs := by
  cases operator with
  | squaredLoss kind => cases kind <;> rfl
  | crossEntropy => rfl
  | sigmoid kind => rfl
  | unary kind code => rfl
  | weightedProduct kind =>
      cases kind with
      | basic => rfl
      | sided combination side => cases combination <;> cases side <;> rfl

/-- Losses whose cells have the same terms are the same, whatever their kinds. -/
theorem resultOf_squaredLoss_congr (pool : Option Pool) (kind other : LossKind)
    (first second : Inputs (Block α)) (rows_eq : first.weighted.rows = second.weighted.rows)
    (cols_eq : first.weighted.cols = second.weighted.cols)
    (terms : ∀ row < first.weighted.rows, ∀ col < first.weighted.cols,
      lossTermAt kind first row col = lossTermAt other second row col) :
    resultOf pool (.squaredLoss kind) first = resultOf pool (.squaredLoss other) second := by
  have totals : totalOf pool first.weighted.rows (rowLossAt kind first) =
      totalOf pool first.weighted.rows (rowLossAt other second) := by
    apply totalOf_congr
    intro row row_lt
    rw [rowLossAt, rowLossAt, ← cols_eq]
    apply List.foldl_ext
    intro loss col col_mem
    rw [terms row row_lt col (List.mem_range.mp col_mem)]
  simp only [resultOf, ← rows_eq, totals]

variable (workers : Workers) (call : Call α)

theorem kernel_of_misfit (cause : Mismatch) (misfit : Misfit call.inputs cause) :
    kernel workers call = .error (.mismatch cause) := by
  simp only [kernel, checkShapes_of_misfit call.inputs cause misfit]

section Fitting

variable (fit : Fit call.inputs)
include fit

theorem kernel_of_refused (error : KernelError)
    (refused : workers.pool? call.threads call.inputs.weighted.cellCount = .error error) :
    kernel workers call = .error error := by
  simp only [kernel, checkShapes_eq_ok call.inputs fit, refused]
  rfl

theorem resultFor_productOf (kind : ProductKind) :
    ResultFor (.weightedProduct kind) call.inputs (productOf kind call.inputs) := by
  cases kind with
  | basic => exact resultFor_tabulate _ _ fit _ _ _ rfl
  | sided combination side =>
      cases side with
      | left => exact resultFor_tabulate _ _ fit _ _ _ rfl
      | right =>
          apply resultFor_tabulate _ _ fit
          simp only [Operator.resultShape, fit.ranks]
          rfl

variable (pool : Option Pool)
  (granted : workers.pool? call.threads call.inputs.weighted.cellCount = .ok pool)
include granted

theorem kernel_of_missing (absent : ¬call.operator.HasFourth call.inputs) :
    kernel workers call = .error (.mismatch call.operator.missingFourth) := by
  rcases call with ⟨operator, inputs, out, threads⟩
  have missing : (operator.needsFourth && inputs.fourth.isNone) = true := by
    simpa [Operator.HasFourth] using absent
  rw [kernel_eq_operate inputs fit workers operator out threads pool granted]
  cases operator with
  | squaredLoss kind => exact if_pos missing
  | weightedProduct kind => exact if_pos missing
  | sigmoid kind => cases missing
  | crossEntropy => cases missing
  | unary kind code => cases missing

theorem kernel_of_unknown (code : String) (written : call.operator.unaryCode? = some code)
    (unknown : UnaryFunction.ofCode? code = none) :
    kernel workers call = .error (.unknownFunction code) := by
  rcases call with ⟨operator, inputs, out, threads⟩
  rw [kernel_eq_operate inputs fit workers operator out threads pool granted]
  simp only at written
  cases operator with
  | unary kind named =>
      cases written
      simp only [operate, unknown]
  | squaredLoss kind => cases written
  | weightedProduct kind => cases written
  | sigmoid kind => cases written
  | crossEntropy => cases written

theorem kernel_eq_resultOf (present : call.operator.HasFourth call.inputs) :
    kernel workers call = resultOf pool call.operator call.inputs := by
  rcases call with ⟨operator, inputs, out, threads⟩
  rw [kernel_eq_operate inputs fit workers operator out threads pool granted]
  simp only at present fit
  cases operator with
  | squaredLoss kind => exact squaredLoss_eq_ok inputs fit kind present pool out
  | crossEntropy => exact crossEntropy_eq_ok inputs fit pool out
  | sigmoid kind => exact fillWeighted_eq_ok inputs _ fit out
  | weightedProduct kind => exact weightedProduct_eq_ok inputs out fit kind present
  | unary kind code =>
      simp only [operate, resultOf]
      cases named : UnaryFunction.ofCode? code with
      | none => rfl
      | some function => exact fillWeighted_eq_ok inputs (unaryOf kind function) fit out

theorem kernel_of_fit (present : call.operator.HasFourth call.inputs)
    (known : call.operator.KnowsFunction) :
    ∃ block, kernel workers call = .ok block ∧ ResultFor call.operator call.inputs block := by
  have productResult := resultFor_productOf call fit
  rw [kernel_eq_resultOf workers call fit pool granted present]
  rcases call with ⟨operator, inputs, out, threads⟩
  simp only at known productResult fit
  simp only [resultOf]
  cases operator with
  | squaredLoss kind => exact ⟨_, rfl, resultFor_ofCell _ inputs _ rfl⟩
  | crossEntropy => exact ⟨_, rfl, resultFor_ofCell _ inputs _ rfl⟩
  | sigmoid kind => exact ⟨_, rfl, resultFor_tabulate _ inputs fit _ _ _ rfl⟩
  | unary kind code =>
      rcases Option.isSome_iff_exists.mp (known code rfl) with ⟨function, named⟩
      simp only [named]
      exact ⟨_, rfl, resultFor_tabulate _ inputs fit _ _ _ rfl⟩
  | weightedProduct kind => exact ⟨_, rfl, productResult kind⟩

end Fitting

/-- What the kernel answers, by the first condition that fails. -/
inductive Answers : Computed (Block α) → Prop where
  | misfit (cause : Mismatch) (misfit : Misfit call.inputs cause) :
      Answers (.error (.mismatch cause))
  | refused (shapes : ShapesFit call.inputs) (detail : String)
      (refused : workers.pool? call.threads call.inputs.weighted.cellCount =
        .error (.threadPool detail)) : Answers (.error (.threadPool detail))
  | missingFourth (shapes : ShapesFit call.inputs) (pool : Option Pool)
      (granted : workers.pool? call.threads call.inputs.weighted.cellCount = .ok pool)
      (absent : ¬call.operator.HasFourth call.inputs) :
      Answers (.error (.mismatch call.operator.missingFourth))
  | unknownFunction (shapes : ShapesFit call.inputs) (pool : Option Pool)
      (granted : workers.pool? call.threads call.inputs.weighted.cellCount = .ok pool)
      (present : call.operator.HasFourth call.inputs) (code : String)
      (written : call.operator.unaryCode? = some code)
      (unknown : UnaryFunction.ofCode? code = none) : Answers (.error (.unknownFunction code))
  | computed (shapes : ShapesFit call.inputs) (pool : Option Pool)
      (granted : workers.pool? call.threads call.inputs.weighted.cellCount = .ok pool)
      (present : call.operator.HasFourth call.inputs) (known : call.operator.KnowsFunction)
      (block : Block α) (result : ResultFor call.operator call.inputs block) : Answers (.ok block)

variable (wellFormed : ∀ block ∈ call.inputs.toList, block.WellFormed)
include wellFormed

theorem kernel_answers : Answers workers call (kernel workers call) := by
  -- The conditions are split in the order in which the kernel looks at them.
  rcases shapesFit_or_misfit call.inputs with shapes | ⟨cause, misfit⟩
  · have fit := shapes.fit wellFormed
    cases granted : workers.pool? call.threads call.inputs.weighted.cellCount with
    | error error =>
        rcases workers.eq_threadPool_of_pool? _ _ error granted with ⟨detail, _, rfl⟩
        rw [kernel_of_refused workers call fit _ granted]
        exact .refused shapes detail granted
    | ok pool =>
        by_cases present : call.operator.HasFourth call.inputs
        · by_cases known : call.operator.KnowsFunction
          · rcases kernel_of_fit workers call fit pool granted present known with
              ⟨block, computed, result⟩
            rw [computed]
            exact .computed shapes pool granted present known block result
          · simp only [Operator.KnowsFunction, Classical.not_forall] at known
            rcases known with ⟨code, written, unnamed⟩
            have unknown : UnaryFunction.ofCode? code = none := by simpa using unnamed
            rw [kernel_of_unknown workers call fit pool granted code written unknown]
            exact .unknownFunction shapes pool granted present code written unknown
        · rw [kernel_of_missing workers call fit pool granted present]
          exact .missingFourth shapes pool granted present
  · rw [kernel_of_misfit workers call cause misfit]
    exact .misfit cause misfit

theorem resultFor_of_ok (block : Block α) (computed : kernel workers call = .ok block) :
    ResultFor call.operator call.inputs block := by
  have answers := kernel_answers workers call wellFormed
  rw [computed] at answers
  cases answers with
  | computed _ _ _ _ _ _ result => exact result

/-- Where no fourth input is missing, what fails is the shapes, the threads or the code. -/
theorem kernel_error_of_hasFourth (present : call.operator.HasFourth call.inputs)
    (error : KernelError) (failed : kernel workers call = .error error) :
    (∃ cause, Misfit call.inputs cause ∧ error = .mismatch cause) ∨
      (∃ detail, error = .threadPool detail ∧
        workers.pool? call.threads call.inputs.weighted.cellCount = .error error) ∨
      ∃ code, call.operator.unaryCode? = some code ∧ UnaryFunction.ofCode? code = none ∧
        error = .unknownFunction code := by
  have answers := kernel_answers workers call wellFormed
  rw [failed] at answers
  cases answers with
  | misfit cause misfit => exact Or.inl ⟨cause, misfit, rfl⟩
  | refused _ detail refused => exact Or.inr (Or.inl ⟨detail, rfl, refused⟩)
  | missingFourth _ _ _ absent => exact absurd present absent
  | unknownFunction _ _ _ _ code written unknown =>
      exact Or.inr (Or.inr ⟨code, written, unknown, rfl⟩)

theorem kernel_error_iff (present : call.operator.HasFourth call.inputs) :
    (∃ error, kernel workers call = .error error) ↔
      ¬ShapesFit call.inputs ∨
        (∃ error, workers.pool? call.threads call.inputs.weighted.cellCount = .error error) ∨
        ∃ code, call.operator.unaryCode? = some code ∧ UnaryFunction.ofCode? code = none := by
  have answers := kernel_answers workers call wellFormed
  constructor
  · rintro ⟨error, failed⟩
    rcases kernel_error_of_hasFourth workers call wellFormed present error failed with
      ⟨cause, misfit, _⟩ | ⟨detail, _, refused⟩ | ⟨code, written, unknown, _⟩
    · exact Or.inl misfit.not_shapesFit
    · exact Or.inr (Or.inl ⟨error, refused⟩)
    · exact Or.inr (Or.inr ⟨code, written, unknown⟩)
  · intro faulty
    cases computed : kernel workers call with
    | error error => exact ⟨error, rfl⟩
    | ok block =>
        rw [computed] at answers
        cases answers with
        | computed shapes pool granted _ known _ _ =>
            rcases faulty with misfit | ⟨error, refused⟩ | ⟨code, written, unknown⟩
            · exact absurd shapes misfit
            · rw [granted] at refused
              cases refused
            · have named := known code written
              rw [unknown] at named
              cases named

omit wellFormed workers

end Dense

end LowRank
