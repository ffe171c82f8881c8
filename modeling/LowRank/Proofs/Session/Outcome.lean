import LowRank.Proofs.Instruction.Accepted
import LowRank.Proofs.Session.Reachable

/-!
# Outcomes of executions

What an execution answers, and what it leaves behind in a store of a session. An input that is
refused and a kernel that fails leave the pins of the inputs acquired so far. A result that does not
fit and a result that is bound leave all pins as they were, whatever names occur twice and even if
the output is one of the inputs.
-/

namespace LowRank

theorem Family.producesScalar_iff (family : Family) :
    family.producesScalar = true ↔ family = .squaredLoss ∨ family = .crossEntropy := by
  cases family <;> decide

namespace Scalar

variable {α : Type} [Cell α]

/-- What becomes of a cell that is stored under a declared value type. -/
inductive Narrows : ValueType → α → Scalar α → Prop where
  | double (cell : α) : Narrows .double cell (.double cell)
  | string (cell : α) : Narrows .string cell (.double cell)
  | unknown (cell : α) : Narrows .unknown cell (.double cell)
  | int (cell : α) : Narrows .int cell (.int (Cell.toInt64 (Cell.round cell)))
  | boolean (cell : α) : Narrows .boolean cell (.boolean (!Cell.isZero cell))

theorem narrows_narrow (valueType : ValueType) (cell : α) :
    Narrows valueType cell (narrow valueType cell) := by
  cases valueType <;> constructor

end Scalar

namespace Instruction

variable {α : Type} [Cell α] (instruction : Instruction) (store : Store α) (kernel : Kernel α)

/-- The steps of an execution that gets as far as binding its result. -/
def steps (blocks : Inputs (Block α)) (block : Block α) : List (Event α) :=
  instruction.acquisitions ++ [.compute (instruction.call blocks)] ++ instruction.releases ++
    [.bind instruction.output.name (instruction.result block)]

/-- What an instruction binds for a block that its kernel has computed. -/
inductive Publishes (block : Block α) : Value α → Prop where
  | scalar (family : instruction.operator.family = .squaredLoss ∨
      instruction.operator.family = .crossEntropy) (scalar : Scalar α)
      (narrows : Scalar.Narrows instruction.output.valueType (block.value 0 0) scalar) :
      Publishes block (.scalar scalar)
  | matrix (family : ¬(instruction.operator.family = .squaredLoss ∨
      instruction.operator.family = .crossEntropy)) :
      Publishes block (.matrix block)

theorem publishes_result (block : Block α) :
    instruction.Publishes block (instruction.result block) := by
  have families := Family.producesScalar_iff instruction.operator.family
  by_cases scalar : instruction.operator.producesScalar = true
  · rw [result, if_pos scalar]
    exact .scalar (families.mp scalar) _ (Scalar.narrows_narrow _ _)
  · rw [result, if_neg scalar]
    exact .matrix fun family => scalar (families.mpr family)

variable (consistent : store.Consistent)
include consistent

theorem execute_of_lacksRoom (blocks : Inputs (Block α)) (block : Block α) (shortage : Shortage)
    (holds : instruction.Holds store blocks)
    (computed : kernel (instruction.call blocks) = .ok block)
    (lacks : store.LacksRoom instruction.output.name (instruction.result block) shortage) :
    instruction.execute kernel (Machine.start store) =
      .error
        (.outOfMemory instruction.output.name (instruction.result block).bytes shortage)
        { store, events := instruction.steps blocks block } := by
  rw [instruction.execute_of_block store kernel blocks block consistent.nodup holds computed]
  simp only [Machine.bind, consistent.bind_of_lacksRoom _ _ shortage lacks]
  rfl

theorem execute_of_hasRoom (blocks : Inputs (Block α)) (block : Block α)
    (holds : instruction.Holds store blocks)
    (computed : kernel (instruction.call blocks) = .ok block)
    (room : store.HasRoom instruction.output.name (instruction.result block)) :
    ∃ after, store.Binds after instruction.output.name (instruction.result block) ∧
      instruction.execute kernel (Machine.start store) =
        .ok () { store := after, events := instruction.steps blocks block } := by
  refine ⟨_, consistent.rebound_binds instruction.output.name (instruction.result block), ?_⟩
  rw [instruction.execute_of_block store kernel blocks block consistent.nodup holds computed]
  simp only [Machine.bind, consistent.bind_of_hasRoom _ _ room]
  rfl

omit consistent

end Instruction

end LowRank
