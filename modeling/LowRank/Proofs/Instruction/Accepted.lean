import LowRank.Proofs.Instruction.Decoding

/-!
# Accepted instructions

Instructions come from the decoder or are built from their parts. Both refuse an operator that
consumes a fourth input unless there is an operand for it, so an execution acquires a fourth matrix
exactly when the operator consumes one.
-/

namespace LowRank.Instruction

/-- An instruction that was decoded or built. -/
inductive Accepted : Instruction → Prop where
  | decoded {instruction : Instruction} (format : Format) (line : String)
      (result : decode format line = .ok instruction) : Accepted instruction
  | built {instruction : Instruction} (operator : Operator) (inputs : Inputs Operand)
      (output : Operand) (threads : Int32) (opcode line : String)
      (result : build operator inputs output threads opcode line = .ok instruction) :
      Accepted instruction

namespace Accepted

variable {instruction : Instruction} (accepted : instruction.Accepted)
include accepted

theorem fourth_of_needsFourth (needs : instruction.operator.needsFourth = true) :
    instruction.inputs.fourth.isSome = true := by
  cases accepted with
  | decoded format line result =>
      rw [decode_eq_ok_iff] at result
      rcases result with ⟨family, fields, _, _, read, _⟩
      exact read.fourth needs
  | built operator inputs output threads opcode line result =>
      rw [build_eq_ok_iff] at result
      rcases result with ⟨fourth, rfl⟩
      exact fourth needs

theorem isSome_acquired_fourth :
    instruction.acquired.fourth.isSome = instruction.operator.needsFourth := by
  simp only [acquired, Inputs.keepFourth]
  cases needs : instruction.operator.needsFourth with
  | false => rfl
  | true => exact accepted.fourth_of_needsFourth needs

/-- Four names are acquired for an operator that consumes a fourth input, else three. -/
theorem length_acquiredNames :
    instruction.acquiredNames.length = if instruction.operator.needsFourth then 4 else 3 := by
  rw [acquiredNames, List.length_map, Inputs.length_toList, accepted.isSome_acquired_fourth]

end Accepted

end LowRank.Instruction
