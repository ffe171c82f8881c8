import LowRank.Kernel.Workers
import LowRank.Operator.Unary

/-!
# The dense kernel

Each family is computed without building the product of the factors: its cell at a row and a column
is the dot product of a row of the left factor and a row of the right one, taken only where a
weight is not zero.  All cells are read through checked positions, and the shapes of the inputs are
checked once before anything is read.
-/

namespace LowRank

/-- The outcome of a computation that reads blocks. -/
abbrev Computed (β : Type) : Type :=
  Except KernelError β

namespace Block

variable {α : Type}

def read (block : Block α) (row col : Nat) : Computed α :=
  match block.cell? row col with
  | some cell => .ok cell
  | none => .error (.outsideBlock row col)

def readRow (block : Block α) (row : Nat) : Computed (List α) :=
  match block.row? row with
  | some cells => .ok cells
  | none => .error (.outsideBlock row block.cols)

end Block

/-- Replaces the cells of a row one by one, the first of them having the given column. -/
def updateFrom {α : Type} (update : Nat → α → Computed α) : Nat → List α → Computed (List α)
  | _, [] => .ok []
  | col, cell :: rest => do
      let updated ← update col cell
      let others ← updateFrom update (col + 1) rest
      return updated :: others

def updateRow {α : Type} (update : Nat → α → Computed α) (row : List α) : Computed (List α) :=
  updateFrom update 0 row

namespace Dense

variable {α : Type} [Cell α]

/--
Checks that the inputs fit: the factors have a row for each row and column of the weighted matrix
and as many columns as each other, and a fourth input has the shape of the weighted matrix.
-/
def checkShapes (inputs : Inputs (Block α)) : Except Mismatch Unit :=
  let ⟨weighted, left, right, fourth⟩ := inputs
  if left.rows ≠ weighted.rows then .error (.leftRows left.rows weighted.rows)
  else if right.rows ≠ weighted.cols then .error (.rightRows right.rows weighted.cols)
  else if left.cols ≠ right.cols then .error (.ranks left.cols right.cols)
  else
    match fourth with
    | none => .ok ()
    | some fourth =>
        if fourth.rows = weighted.rows ∧ fourth.cols = weighted.cols then .ok ()
        else .error (.fourthShape fourth.rows fourth.cols weighted.rows weighted.cols)

/-- The cell of the product of the factors at a column, for a given row of the left factor. -/
def productWith (inputs : Inputs (Block α)) (left : List α) (col : Nat) : Computed α := do
  let right ← inputs.right.readRow col
  return Cell.dot left right

/-- The cell of the product of the factors at a row and a column. -/
def product (inputs : Inputs (Block α)) (row col : Nat) : Computed α := do
  let left ← inputs.left.readRow row
  productWith inputs left col

/-- The block with one given cell, in the storage of another one. -/
def single (out : Block α) (cell : α) : Computed (Block α) :=
  match (out.reset 1 1).setCell? 0 0 cell with
  | some block => .ok block
  | none => .error (.outsideBlock 0 0)

/-- A total to which the values at a number of consecutive indices are added, in order. -/
def addFrom (value : Nat → Computed α) : Nat → Nat → α → Computed α
  | 0, _, total => .ok total
  | count + 1, index, total => do
      let term ← value index
      addFrom value count (index + 1) (total + term)

/-- The sum of the values at a number of consecutive indices, divided as given. -/
def addDivided (value : Nat → Computed α) : Division → Nat → Nat → Computed α
  | .whole, count, index => addFrom value count index Cell.negZero
  | .halves first second, count, index => do
      let low ← addDivided value first (count / 2) index
      let high ← addDivided value second (count - count / 2) (index + count / 2)
      return low + high

/-- The sum of a value for each row, from the first one on or, in a pool, as that divides it. -/
def addRows (pool : Option Pool) (rows : Nat) (value : Nat → Computed α) : Computed α :=
  match pool with
  | none => addFrom value rows 0 Cell.negZero
  | some pool => addDivided value (pool.division rows) rows 0

def rowTotal (pool : Option Pool) (rows : Nat) (value : Nat → Computed α) (out : Block α) :
    Computed (Block α) := do
  single out (← addRows pool rows value)

/-- The term that a cell adds to a squared loss, if it adds one. -/
def lossTerm (kind : LossKind) (inputs : Inputs (Block α)) (left : List α) (row col : Nat) :
    Computed (Option α) := do
  let target ← inputs.weighted.read row col
  match kind, inputs.fourth with
  | .post, some weights =>
      let weight ← weights.read row col
      if Cell.isZero weight then return none
      let difference := target - (← productWith inputs left col)
      return some (weight * difference * difference)
  | .pre, some weights =>
      let difference := target - (← weights.read row col) * (← productWith inputs left col)
      return some (difference * difference)
  | .postNonzero, _ =>
      if Cell.isZero target then return none
      let difference := target - (← productWith inputs left col)
      return some (difference * difference)
  | _, _ =>
      let difference := target - (← productWith inputs left col)
      return some (difference * difference)

/-- The sum of the terms of one row of a squared loss. -/
def rowLoss (kind : LossKind) (inputs : Inputs (Block α)) (row : Nat) : Computed α := do
  let left ← inputs.left.readRow row
  (List.range inputs.weighted.cols).foldlM (fun loss col => do
    match ← lossTerm kind inputs left row col with
    | none => return loss
    | some term => return loss + term) Cell.zero

def squaredLoss (pool : Option Pool) (kind : LossKind) (inputs : Inputs (Block α))
    (out : Block α) : Computed (Block α) := do
  if kind.needsFourth && inputs.fourth.isNone then
    throw (.mismatch (.missingWeights kind.name))
  rowTotal pool inputs.weighted.rows (rowLoss kind inputs) out

/-- The logistic function in one of its kinds. -/
def sigmoidOf (kind : SigmoidKind) (value : α) : α :=
  let result := Cell.sigmoid (if kind.minus then -value else value)
  if kind.logarithm then Cell.log result else result

/--
Fills a block of the shape of the weighted matrix: where the weight is zero the cell stays as it
is, elsewhere it is a function of the weight and the cell of the product.
-/
def fillWeighted (inputs : Inputs (Block α)) (out : Block α) (combine : α → α → α) :
    Computed (Block α) :=
  (out.reset inputs.weighted.rows inputs.weighted.cols).fillRows fun row cells => do
    let left ← inputs.left.readRow row
    updateRow (fun col cell => do
      let weight ← inputs.weighted.read row col
      if Cell.isZero weight then return cell
      return combine weight (← productWith inputs left col)) cells

def sigmoid (kind : SigmoidKind) (inputs : Inputs (Block α)) (out : Block α) :
    Computed (Block α) :=
  fillWeighted inputs out fun weight value => weight * sigmoidOf kind value

def unary (kind : UnaryKind) (function : UnaryFunction) (inputs : Inputs (Block α))
    (out : Block α) : Computed (Block α) :=
  fillWeighted inputs out fun weight value =>
    match kind with
    | .multiply => weight * function.apply value
    | .divide => weight / function.apply value

def weightedCell (combination : Combination) (inputs : Inputs (Block α)) (row col : Nat) :
    Computed α := do
  let weight ← inputs.weighted.read row col
  if Cell.isZero weight then return Cell.zero
  let value ← product inputs row col
  match combination with
  | .multiply => return weight * value
  | .divide => return weight / value
  | .multiplyMinus =>
      match inputs.fourth with
      | some fourth => return weight * (value - (← fourth.read row col))
      | none => return weight * (value - Cell.zero)

/-- Adds a multiple of a row to the cells of an accumulator. -/
def addMultiple (factor : α) (accumulator row : List α) : List α :=
  List.zipWith (fun sum cell => sum + factor * cell) accumulator row

/--
Adds multiples of the rows of a factor, in order, to an accumulator.  The multiple of each row is
computed from its index, and a row whose multiple is zero is left out.
-/
def addMultiples (count : Nat) (multiple : Nat → Computed α) (factor : Block α)
    (accumulator : List α) : Computed (List α) :=
  (List.range count).foldlM (fun sums index => do
    let weight ← multiple index
    if Cell.isZero weight then return sums
    return addMultiple weight sums (← factor.readRow index)) accumulator

def weightedProduct (kind : ProductKind) (inputs : Inputs (Block α)) (out : Block α) :
    Computed (Block α) := do
  if kind.needsFourth && inputs.fourth.isNone then
    throw (.mismatch (.missingFourth kind.name))
  let rows := inputs.weighted.rows
  let cols := inputs.weighted.cols
  match kind with
  | .basic =>
      (out.reset rows cols).fillRows fun row cells =>
        updateRow (fun col _ => weightedCell .multiply inputs row col) cells
  | .sided combination .left =>
      (out.reset cols inputs.left.cols).fillRows fun col sums =>
        addMultiples rows (fun row => weightedCell combination inputs row col) inputs.left sums
  | .sided combination .right =>
      (out.reset rows inputs.left.cols).fillRows fun row sums =>
        addMultiples cols (fun col => weightedCell combination inputs row col) inputs.right sums

/-- The sum of the terms of one row of the cross entropy. -/
def rowEntropy (inputs : Inputs (Block α)) (row : Nat) : Computed α := do
  let left ← inputs.left.readRow row
  let weights ← inputs.weighted.readRow row
  let present := weights.zipIdx.filter fun entry => !Cell.isZero entry.1
  let terms ← present.mapM fun (weight, col) => do
    return weight * Cell.log (← productWith inputs left col)
  return Cell.sum terms

def crossEntropy (pool : Option Pool) (inputs : Inputs (Block α)) (out : Block α) :
    Computed (Block α) :=
  rowTotal pool inputs.weighted.rows (rowEntropy inputs) out

/--
Applies an operator to inputs that fit.  Only a sum over the rows looks at the pool: rows that are
filled do not depend on each other.
-/
def operate (pool : Option Pool) (operator : Operator) (inputs : Inputs (Block α))
    (out : Block α) : Computed (Block α) :=
  match operator with
  | .squaredLoss kind => squaredLoss pool kind inputs out
  | .weightedProduct kind => weightedProduct kind inputs out
  | .sigmoid kind => sigmoid kind inputs out
  | .crossEntropy => crossEntropy pool inputs out
  | .unary kind code =>
      match UnaryFunction.ofCode? code with
      | none => .error (.unknownFunction code)
      | some function => unary kind function inputs out

/-- The dense kernel with some workers: checks the shapes, gets a pool and applies the operator. -/
def kernel (workers : Workers) : Kernel α := fun call =>
  match checkShapes call.inputs with
  | .error cause => .error (.mismatch cause)
  | .ok () => do
      let pool ← workers.pool? call.threads call.inputs.weighted.cellCount
      operate pool call.operator call.inputs call.out

end Dense

end LowRank
