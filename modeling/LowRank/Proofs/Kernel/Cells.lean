import LowRank.Proofs.Kernel.Outcome
import LowRank.Proofs.Operator.Tokens

/-!
# Cells of results

The cellwise operators are given by their cells, for every kind and every unary function. Two of
them meet: multiplying by the unary function that is the logistic one is the plain logistic
operator. The cross entropy adds up cells that the unary operator returns for the logarithm, without
those where the weight is zero; the rows are added up in order, or along the division of a pool.
-/

namespace LowRank

variable {α : Type}

namespace Block

/-- A block that has exactly the given cells. -/
structure HasCells (block : Block α) (rows cols : Nat) (cell : Nat → Nat → α) : Prop where
  wellFormed : block.WellFormed
  rows_eq : block.rows = rows
  cols_eq : block.cols = cols
  cells : ∀ row < rows, ∀ col < cols, block.cell? row col = some (cell row col)

theorem hasCells_tabulate (rows cols : Nat) (cell : Nat → Nat → α)
    (countable : rows * cols < Word.size) : (tabulate rows cols cell).HasCells rows cols cell := by
  refine ⟨wellFormed_tabulate rows cols cell countable, rfl, rfl, ?_⟩
  intro row row_lt col col_lt
  exact cell?_tabulate rows cols cell countable row col row_lt col_lt

end Block

variable [Cell α]

/-- The functions of cells that the unary operators apply, by their codes in small letters. -/
inductive FunctionOf : String → (α → α) → Prop where
  | exp : FunctionOf "exp" Cell.exp
  | log : FunctionOf "log" Cell.log
  | abs : FunctionOf "abs" Cell.abs
  | sqrt : FunctionOf "sqrt" Cell.sqrt
  | round : FunctionOf "round" Cell.round
  | floor : FunctionOf "floor" Cell.floor
  | ceil : FunctionOf "ceil" Cell.ceil
  | sign : FunctionOf "sign" fun value =>
      if Cell.isZero value then Cell.zero else Cell.signum value
  | sigmoid : FunctionOf "sigmoid" fun value => Cell.one / (Cell.one + Cell.exp (-value))
  | sin : FunctionOf "sin" Cell.sin
  | cos : FunctionOf "cos" Cell.cos
  | tan : FunctionOf "tan" Cell.tan
  | square : FunctionOf "^2" fun value => value * value
  | double : FunctionOf "*2" fun value => value + value

/-- A code that stands for a function, in any letter case and between blanks. -/
structure StandsFor (code : String) (function : α → α) : Prop where
  named : ∃ name : String, FunctionOf name function ∧
    Text.lowered (Text.trim code.toList) = name.toList

theorem functionOf_apply (function : UnaryFunction) :
    FunctionOf function.code (function.apply : α → α) := by
  cases function with
  | exp => exact .exp
  | log => exact .log
  | abs => exact .abs
  | sqrt => exact .sqrt
  | round => exact .round
  | floor => exact .floor
  | ceil => exact .ceil
  | sign => exact .sign
  | sigmoid => exact .sigmoid
  | sin => exact .sin
  | cos => exact .cos
  | tan => exact .tan
  | square => exact .square
  | double => exact .double

theorem FunctionOf.exists_unaryFunction {name : String} {function : α → α}
    (named : FunctionOf name function) :
    ∃ unary : UnaryFunction, unary.code = name ∧ unary.apply = function := by
  cases named with
  | exp => exact ⟨.exp, rfl, rfl⟩
  | log => exact ⟨.log, rfl, rfl⟩
  | abs => exact ⟨.abs, rfl, rfl⟩
  | sqrt => exact ⟨.sqrt, rfl, rfl⟩
  | round => exact ⟨.round, rfl, rfl⟩
  | floor => exact ⟨.floor, rfl, rfl⟩
  | ceil => exact ⟨.ceil, rfl, rfl⟩
  | sign => exact ⟨.sign, rfl, rfl⟩
  | sigmoid => exact ⟨.sigmoid, rfl, rfl⟩
  | sin => exact ⟨.sin, rfl, rfl⟩
  | cos => exact ⟨.cos, rfl, rfl⟩
  | tan => exact ⟨.tan, rfl, rfl⟩
  | square => exact ⟨.square, rfl, rfl⟩
  | double => exact ⟨.double, rfl, rfl⟩

theorem StandsFor.ofCode?_eq_some {code : String} {function : α → α}
    (standsFor : StandsFor code function) :
    ∃ unary : UnaryFunction, UnaryFunction.ofCode? code = some unary ∧
      unary.apply = function := by
  rcases standsFor.named with ⟨name, named, written⟩
  rcases named.exists_unaryFunction with ⟨unary, rfl, applied⟩
  exact ⟨unary, (UnaryFunction.ofCode?_eq_some_iff code unary).mpr written, applied⟩

theorem isSome_ofCode?_iff (code : String) :
    (UnaryFunction.ofCode? code).isSome = true ↔ ∃ function : α → α, StandsFor code function := by
  constructor
  · intro known
    rcases Option.isSome_iff_exists.mp known with ⟨unary, found⟩
    have written := (UnaryFunction.ofCode?_eq_some_iff code unary).mp found
    exact ⟨unary.apply, ⟨unary.code, functionOf_apply unary, written⟩⟩
  · rintro ⟨function, standsFor⟩
    rcases standsFor.ofCode?_eq_some with ⟨unary, found, _⟩
    rw [found]
    rfl

namespace Dense

/-- The function of the cells of the product that each logistic operator applies. -/
def logistic (kind : SigmoidKind) (value : α) : α :=
  match kind with
  | ⟨false, false⟩ => Cell.one / (Cell.one + Cell.exp (-value))
  | ⟨true, false⟩ => Cell.log (Cell.one / (Cell.one + Cell.exp (-value)))
  | ⟨false, true⟩ => Cell.one / (Cell.one + Cell.exp (-(-value)))
  | ⟨true, true⟩ => Cell.log (Cell.one / (Cell.one + Cell.exp (-(-value))))

theorem sigmoidOf_eq_logistic (kind : SigmoidKind) (value : α) :
    sigmoidOf kind value = logistic kind value := by
  rcases kind with ⟨logarithm, minus⟩
  cases logarithm <;> cases minus <;> rfl

section Computed

variable (workers : Workers) (inputs : Inputs (Block α)) (fit : Fit inputs) (out : Block α)
  (threads : Int32) (pool : Option Pool)
  (granted : workers.pool? threads inputs.weighted.cellCount = .ok pool)
include fit granted

theorem kernel_sigmoid_eq_ok (kind : SigmoidKind) :
    kernel workers ⟨.sigmoid kind, inputs, out, threads⟩ =
      .ok (combined inputs fun weight value => weight * logistic kind value) := by
  have noneNeeded := (Operator.sigmoid kind).hasFourth_of_needs_eq_false inputs rfl
  rw [kernel_eq_resultOf workers ⟨.sigmoid kind, inputs, out, threads⟩ fit pool granted noneNeeded]
  simp only [resultOf, sigmoidOf_eq_logistic]

theorem kernel_unary_eq_ok (kind : UnaryKind) (code : String) (function : UnaryFunction)
    (named : UnaryFunction.ofCode? code = some function) :
    kernel workers ⟨.unary kind code, inputs, out, threads⟩ =
      .ok (combined inputs (unaryOf kind function)) := by
  have noneNeeded := (Operator.unary kind code).hasFourth_of_needs_eq_false inputs rfl
  rw [kernel_eq_resultOf workers ⟨.unary kind code, inputs, out, threads⟩ fit pool granted
    noneNeeded]
  simp only [resultOf, named]

theorem kernel_crossEntropy_eq_ok :
    kernel workers ⟨.crossEntropy, inputs, out, threads⟩ =
      .ok ⟨1, 1, #[totalOf pool inputs.weighted.rows (rowEntropyAt inputs)]⟩ := by
  have noneNeeded := Operator.crossEntropy.hasFourth_of_needs_eq_false inputs rfl
  exact kernel_eq_resultOf workers ⟨.crossEntropy, inputs, out, threads⟩ fit pool granted
    noneNeeded

end Computed

/--
The logistic and the unary operators return a block of the shape of the weighted matrix. Each of its
cells is the plain zero where the weight is zero, and elsewhere the weight is multiplied or divided
by the function of the product. The codes of functions are exactly those that are accepted.
-/
theorem kernel_cells (workers : Workers) (inputs : Inputs (Block α)) (fit : Fit inputs)
    (out : Block α) (threads : Int32) (pool : Option Pool)
    (granted : workers.pool? threads inputs.weighted.cellCount = .ok pool) :
    (∀ kind : SigmoidKind, ∃ block,
      kernel workers ⟨.sigmoid kind, inputs, out, threads⟩ = .ok block ∧
        block.HasCells inputs.weighted.rows inputs.weighted.cols fun row col =>
          if Cell.isZero (inputs.weighted.value row col) then Cell.zero
          else inputs.weighted.value row col * logistic kind (dotAt inputs row col)) ∧
      (∀ (code : String) (function : α → α), StandsFor code function →
        (∃ block,
          kernel workers ⟨.unary .multiply code, inputs, out, threads⟩ = .ok block ∧
            block.HasCells inputs.weighted.rows inputs.weighted.cols fun row col =>
              if Cell.isZero (inputs.weighted.value row col) then Cell.zero
              else inputs.weighted.value row col * function (dotAt inputs row col)) ∧
          ∃ block,
            kernel workers ⟨.unary .divide code, inputs, out, threads⟩ = .ok block ∧
              block.HasCells inputs.weighted.rows inputs.weighted.cols fun row col =>
                if Cell.isZero (inputs.weighted.value row col) then Cell.zero
                else inputs.weighted.value row col / function (dotAt inputs row col)) ∧
      ∀ code : String, (UnaryFunction.ofCode? code).isSome = true ↔
        ∃ function : α → α, StandsFor code function := by
  have cells (combine : α → α → α) : (combined inputs combine).HasCells inputs.weighted.rows
      inputs.weighted.cols (combinedAt inputs combine) :=
    Block.hasCells_tabulate inputs.weighted.rows inputs.weighted.cols _ fit.weighted.countable
  refine ⟨?_, ?_, isSome_ofCode?_iff⟩
  · intro kind
    exact ⟨_, kernel_sigmoid_eq_ok workers inputs fit out threads pool granted kind,
      cells fun weight value => weight * logistic kind value⟩
  · intro code function standsFor
    rcases standsFor.ofCode?_eq_some with ⟨unary, named, rfl⟩
    have computed (kind : UnaryKind) :=
      kernel_unary_eq_ok workers inputs fit out threads pool granted kind code unary named
    exact ⟨⟨_, computed .multiply, cells (unaryOf .multiply unary)⟩,
      ⟨_, computed .divide, cells (unaryOf .divide unary)⟩⟩

theorem kernel_cells_negative_zero :
    ∃ (workers : Workers) (inputs : Inputs (Block Float)) (block quotients : Block Float),
      inputs.weighted = ⟨2, 2, #[1.0, -0.0, 3.0, 2.0]⟩ ∧
        kernel workers ⟨.sigmoid ⟨true, true⟩, inputs, ⟨1, 1, #[7.0]⟩, 4⟩ = .ok block ∧
        (block.rows, block.cols) = (2, 2) ∧
        block.cell? 0 1 = some 0.0 ∧
        block.cell? 1 0 = some (3.0 * Float.log (1.0 / (1.0 + Float.exp (-(-6.0))))) ∧
        kernel workers ⟨.unary .divide "*2 ", inputs, ⟨1, 1, #[7.0]⟩, 4⟩ = .ok quotients ∧
        quotients.cell? 0 1 = some 0.0 ∧
        quotients.cell? 1 0 = some 0.25 := by
  let inputs : Inputs (Block Float) :=
    { weighted := ⟨2, 2, #[1.0, -0.0, 3.0, 2.0]⟩
      left := ⟨2, 1, #[1.0, 2.0]⟩
      right := ⟨2, 1, #[3.0, 4.0]⟩
      fourth := none }
  let workers : Workers := ⟨.standard 8, fun _ => .error "no threads"⟩
  have fit : Fit inputs := by decide
  have first : dotAt inputs 1 0 = 6.0 := by decide +kernel
  have absent : Cell.isZero (inputs.weighted.value 0 1) = true := by decide +kernel
  have weight : inputs.weighted.value 1 0 = 3.0 := by decide +kernel
  have present : Cell.isZero (3.0 : Float) = false := by decide +kernel
  rcases kernel_cells workers inputs fit ⟨1, 1, #[7.0]⟩ 4 none rfl with ⟨logistic, unary, _⟩
  rcases logistic ⟨true, true⟩ with ⟨block, computed, ⟨_, rows_eq, cols_eq, cells⟩⟩
  rcases unary "*2 " _ ⟨"*2", .double, by decide⟩ with ⟨_, quotients, divided, quotientCells⟩
  have logistic10 := cells 1 (by decide) 0 (by decide)
  have quotient10 := quotientCells.cells 1 (by decide) 0 (by decide)
  simp only [weight, present, first] at logistic10 quotient10
  refine ⟨workers, inputs, block, quotients, rfl, computed, by rw [rows_eq, cols_eq], ?_,
    logistic10, divided, ?_, ?_⟩
  · rw [cells 0 (by decide) 1 (by decide), if_pos absent]
    rfl
  · rw [quotientCells.cells 0 (by decide) 1 (by decide), if_pos absent]
    rfl
  · rw [quotient10]
    decide +kernel

section Logarithm

variable (inputs : Inputs (Block α)) (fit : Fit inputs)
include fit

/-- The terms of a row of the cross entropy are the cells of the weighted logarithm. -/
theorem rowEntropyAt_eq_foldl (row : Nat) (row_lt : row < inputs.weighted.rows) :
    rowEntropyAt inputs row =
      ((List.range inputs.weighted.cols).filter fun col =>
        !Cell.isZero (inputs.weighted.value row col)).foldl (fun total col =>
          total + (combined inputs (unaryOf .multiply .log)).value row col) Cell.negZero := by
  apply List.foldl_ext
  intro total col col_mem
  have found := List.mem_filter.mp col_mem
  have nonzero : Cell.isZero (inputs.weighted.value row col) = false := by simpa using found.2
  rw [combined_eq_tabulate,
    Block.value_tabulate _ _ _ fit.weighted.countable row col row_lt (List.mem_range.mp found.1),
    combinedAt, nonzero]
  rfl

end Logarithm

/--
Multiplying by the unary function that is the logistic one returns the block of the plain logistic
operator. The cross entropy is the total, in order or along the division of the pool, of row sums
over those cells that multiplying by the logarithm returns where the weight is not zero.
-/
theorem kernel_overlapping (workers : Workers) (inputs : Inputs (Block α)) (fit : Fit inputs)
    (out otherOut : Block α) (threads otherThreads : Int32) (pool otherPool : Option Pool)
    (granted : workers.pool? threads inputs.weighted.cellCount = .ok pool)
    (otherGranted : workers.pool? otherThreads inputs.weighted.cellCount = .ok otherPool) :
    (∀ code, UnaryFunction.ofCode? code = some .sigmoid → ∃ block,
      kernel workers ⟨.unary .multiply code, inputs, out, threads⟩ = .ok block ∧
        kernel workers ⟨.sigmoid ⟨false, false⟩, inputs, otherOut, otherThreads⟩ =
          .ok block) ∧
      ∀ code, UnaryFunction.ofCode? code = some .log → ∃ block,
        kernel workers ⟨.unary .multiply code, inputs, out, threads⟩ = .ok block ∧
          kernel workers ⟨.crossEntropy, inputs, otherOut, otherThreads⟩ =
            .ok ⟨1, 1, #[totalOf otherPool inputs.weighted.rows fun row =>
              ((List.range inputs.weighted.cols).filter fun col =>
                !Cell.isZero (inputs.weighted.value row col)).foldl
                  (fun total col => total + block.value row col) Cell.negZero]⟩ := by
  refine ⟨?_, ?_⟩
  · intro code named
    refine ⟨_, kernel_unary_eq_ok workers inputs fit out threads pool granted .multiply code
      .sigmoid named, ?_⟩
    exact kernel_sigmoid_eq_ok workers inputs fit otherOut otherThreads otherPool otherGranted
      ⟨false, false⟩
  · intro code named
    refine ⟨_, kernel_unary_eq_ok workers inputs fit out threads pool granted .multiply code .log
      named, ?_⟩
    rw [kernel_crossEntropy_eq_ok workers inputs fit otherOut otherThreads otherPool otherGranted,
      totalOf_congr otherPool _ _ _ (rowEntropyAt_eq_foldl inputs fit)]

theorem kernel_overlapping_empty_row :
    ∃ (workers : Workers) (inputs : Inputs (Block Float)) (block logs : Block Float),
      inputs.weighted = ⟨2, 2, #[1.0, -0.0, 0.0, 0.0]⟩ ∧
        kernel workers ⟨.unary .multiply " SigMoid", inputs, ⟨1, 1, #[7.0]⟩, 4⟩ = .ok block ∧
        kernel workers ⟨.sigmoid ⟨false, false⟩, inputs, .empty, 1⟩ = .ok block ∧
        kernel workers ⟨.unary .multiply "LOG ", inputs, ⟨1, 1, #[7.0]⟩, 4⟩ = .ok logs ∧
        kernel workers ⟨.crossEntropy, inputs, .empty, 1⟩ =
          .ok ⟨1, 1, #[-0.0 + (-0.0 + logs.value 0 0) + -0.0]⟩ := by
  let inputs : Inputs (Block Float) :=
    { weighted := ⟨2, 2, #[1.0, -0.0, 0.0, 0.0]⟩
      left := ⟨2, 1, #[1.0, 2.0]⟩
      right := ⟨2, 1, #[3.0, 4.0]⟩
      fourth := none }
  let workers : Workers := ⟨.standard 8, fun _ => .error "no threads"⟩
  have fit : Fit inputs := by decide
  rcases kernel_overlapping workers inputs fit ⟨1, 1, #[7.0]⟩ .empty 4 1 none none rfl rfl with
    ⟨logistic, logarithm⟩
  rcases logistic " SigMoid" (by decide) with ⟨block, multiplied, plain⟩
  rcases logarithm "LOG " (by decide) with ⟨logs, terms, total⟩
  let kept (row : Nat) : List Nat :=
    (List.range 2).filter fun col => !Cell.isZero (inputs.weighted.value row col)
  have first : kept 0 = [0] := by decide +kernel
  have second : kept 1 = [] := by decide +kernel
  have added : (totalOf none 2 fun row =>
        (kept row).foldl (fun total col => total + logs.value row col) Cell.negZero) =
      -0.0 + (-0.0 + logs.value 0 0) + -0.0 := by
    change (-0.0 + (kept 0).foldl (fun total col => total + logs.value 0 col) (-0.0)) +
      (kept 1).foldl (fun total col => total + logs.value 1 col) (-0.0) = _
    rw [first, second]
    rfl
  exact ⟨workers, inputs, block, logs, rfl, multiplied, plain, terms,
    total.trans (congrArg (fun cell => Except.ok (Block.ofCell cell)) added)⟩

/-- Doubles with a logarithm that is right for two, as sixty-four bits show it. -/
@[reducible]
def doublesWithLogOfTwo : Cell Float :=
  { (inferInstance : Cell Float) with log := fun _ => 0.6931471805599453 }

/-- Two threads add four rows in pairs, and then the entropy need not be the sum in order. -/
theorem kernel_overlapping_in_pairs :
    letI : Cell Float := doublesWithLogOfTwo
    ∃ (workers : Workers) (inputs : Inputs (Block Float)) (logs : Block Float),
      Fit inputs ∧ (∀ row < 4, dotAt inputs row 0 = 2.0) ∧
        kernel workers ⟨.unary .multiply "log", inputs, .empty, 2⟩ = .ok logs ∧
        kernel workers ⟨.crossEntropy, inputs, .empty, 2⟩ =
          .ok ⟨1, 1, #[12486629536330720.0]⟩ ∧
        totalOf none 4 (fun row =>
          ((List.range 1).filter fun col =>
            !Cell.isZero (inputs.weighted.value row col)).foldl
              (fun total col => total + logs.value row col) Cell.negZero) =
          12486629536330718.0 := by
  let pairs : Division := .halves (.halves .whole .whole) (.halves .whole .whole)
  let workers : Workers :=
    { settings := { Settings.standard 2 with parallelThreshold := 0 }
      pool := fun _ => .ok ⟨fun _ => pairs⟩ }
  let inputs : Inputs (Block Float) :=
    { weighted := ⟨4, 1, #[18014398509481984.0, 0.0, 1.0, 1.0]⟩
      left := ⟨4, 1, #[1.0, 1.0, 1.0, 1.0]⟩
      right := ⟨1, 1, #[2.0]⟩
      fourth := none }
  have fit : Fit inputs := by decide
  refine ⟨workers, inputs, ⟨4, 1, #[12486629536330718.0, 0.0, 0.6931471805599453,
    0.6931471805599453]⟩, fit, ?_, ?_, ?_, ?_⟩
  all_goals decide +kernel

end Dense

end LowRank
