import LowRank.Proofs.Instruction.Writing

/-!
# Instructions and their layouts

A decoded instruction has one field for every place in the layout of its family. A built one has
the operands that it was built from: building asks for a fourth operand only where the operator
consumes it, and takes one where the layout has no place for it.
-/

namespace LowRank

theorem Fields.length_toList (fields : Fields) :
    fields.toList.length = 7 + fields.code.isSome.toNat + fields.inputs.fourth.isSome.toNat := by
  rcases fields with ⟨opcode, code, ⟨weighted, left, right, fourth⟩, output, subtype, threads⟩
  cases code <;> cases fourth <;> rfl

namespace Instruction

/-- An instruction whose fields are those of the layout of its family. -/
structure FollowsLayout (instruction : Instruction) : Prop where
  fourth : instruction.inputs.fourth.isSome = instruction.operator.family.hasFourthInput
  length : instruction.fields.length = 1 + instruction.operator.family.layout.fieldCount
  positions :
    Fields.ofList? instruction.operator.family.layout instruction.fields = some instruction.roles

/-- The fourth operand is all that the number of fields may differ by from the layout. -/
theorem length_fields (instruction : Instruction) :
    instruction.fields.length + instruction.operator.family.hasFourthInput.toNat =
      1 + instruction.operator.family.layout.fieldCount +
        instruction.inputs.fourth.isSome.toNat := by
  have fourth : instruction.roles.inputs.fourth.isSome = instruction.inputs.fourth.isSome :=
    Option.isSome_map
  rw [fields, Fields.length_toList, fourth, roles]
  -- Layouts differ by the function code and the fourth operand only.
  cases instruction.operator with
  | squaredLoss | weightedProduct =>
      change 7 + 0 + _ + 1 = 1 + 7 + _
      omega
  | sigmoid | crossEntropy =>
      change 7 + 0 + _ + 0 = 1 + 6 + _
      omega
  | unary =>
      change 7 + 1 + _ + 0 = 1 + 7 + _
      omega

theorem followsLayout_iff (instruction : Instruction) :
    instruction.FollowsLayout ↔
      instruction.inputs.fourth.isSome = instruction.operator.family.hasFourthInput := by
  constructor
  · exact FollowsLayout.fourth
  · intro fourth
    refine ⟨fourth, ?_, Fields.ofList?_toList _ _ (instruction.fits_roles fourth)⟩
    have count := instruction.length_fields
    rw [fourth] at count
    exact Nat.add_right_cancel count

theorem ReadFrom.fourth_eq {instruction : Instruction} {delimiter : Char} {family : Family}
    {fields : Fields} (read : instruction.ReadFrom delimiter family fields)
    (fits : fields.Fits family.layout) :
    instruction.inputs.fourth.isSome = instruction.operator.family.hasFourthInput := by
  have resolved := Operator.hasToken_of_resolve? family _ _ _ read.operator
  have present : instruction.inputs.fourth.isSome = fields.inputs.fourth.isSome := by
    rw [← read.map_token]
    exact Option.isSome_map.symm
  rw [resolved.1, present, Bool.eq_iff_iff, Family.hasFourthInput_iff]
  exact ((fields.fits_layout_iff family).mp fits).2

/--
Decoding establishes the layout. Building establishes it for a fourth operand that is given exactly
where the layout has a place for it, and is never refused then. Any other one is a field too many,
and a missing one that the operator does not consume is a field too few.
-/
theorem followsLayout_of_decode_or_build (format : Format) (text : String) (operator : Operator)
    (inputs : Inputs Operand) (output : Operand) (threads : Int32) (opcode line : String) :
    (∀ instruction, decode format text = .ok instruction → instruction.FollowsLayout) ∧
      (inputs.fourth.isSome = operator.family.hasFourthInput →
        ∃ instruction, build operator inputs output threads opcode line = .ok instruction) ∧
      ∀ instruction, build operator inputs output threads opcode line = .ok instruction →
        (instruction.FollowsLayout ↔ inputs.fourth.isSome = operator.family.hasFourthInput) ∧
          instruction.fields.length + operator.family.hasFourthInput.toNat =
            1 + operator.family.layout.fieldCount + inputs.fourth.isSome.toNat := by
  refine ⟨?_, exists_build operator inputs output threads opcode line, ?_⟩
  · intro instruction decoded
    rw [decode_eq_ok_iff] at decoded
    rcases decoded with ⟨family, fields, _, found, read, _⟩
    rcases Fields.fits_of_ofList? _ _ fields found with ⟨fits, _⟩
    rw [followsLayout_iff]
    exact read.fourth_eq fits
  · intro instruction built
    rw [build_eq_ok_iff] at built
    rcases built with ⟨_, rfl⟩
    exact ⟨followsLayout_iff _, length_fields _⟩

theorem followsLayout_of_unweighted_loss :
    ∃ decoded built,
      decode .standard "cp,WSLOSS,X,U,V,W,out,NONE,2" = .ok decoded ∧
        build (.squaredLoss .unweighted)
            ⟨⟨"X", .unknown, .unknown, "X"⟩, ⟨"U", .unknown, .unknown, "U"⟩,
              ⟨"V", .unknown, .unknown, "V"⟩, some ⟨"W", .unknown, .unknown, "W"⟩⟩
            ⟨"out", .unknown, .unknown, "out"⟩ 2 "WSLOSS" "built" = .ok built ∧
        decoded.FollowsLayout ∧ built.FollowsLayout ∧ built.fields = decoded.fields := by
  rcases followsLayout_of_decode_or_build .standard "cp,WSLOSS,X,U,V,W,out,NONE,2"
    (.squaredLoss .unweighted)
    ⟨⟨"X", .unknown, .unknown, "X"⟩, ⟨"U", .unknown, .unknown, "U"⟩,
      ⟨"V", .unknown, .unknown, "V"⟩, some ⟨"W", .unknown, .unknown, "W"⟩⟩
    ⟨"out", .unknown, .unknown, "out"⟩ 2 "WSLOSS" "built" with ⟨decodes, _, builds⟩
  exact ⟨_, _, rfl, rfl, decodes _ rfl, (builds _ rfl).1.mpr rfl, rfl⟩

/-- A fourth operand is taken by a family whose layout has no place for it. -/
theorem not_followsLayout_of_surplus_fourth :
    ∃ built,
      build (.sigmoid ⟨false, false⟩)
          ⟨⟨"W", .unknown, .unknown, "W"⟩, ⟨"U", .unknown, .unknown, "U"⟩,
            ⟨"V", .unknown, .unknown, "V"⟩, some ⟨"X", .unknown, .unknown, "X"⟩⟩
          ⟨"out", .unknown, .unknown, "out"⟩ 1 "wsigmoid" "t" = .ok built ∧
        built.fields = ["wsigmoid", "W", "U", "V", "X", "out", "BASIC", "1"] ∧
        Fields.ofList? built.operator.family.layout built.fields = none ∧
        ¬built.FollowsLayout := by
  refine ⟨_, rfl, rfl, rfl, ?_⟩
  intro follows
  cases follows.fourth

end Instruction

end LowRank
