import LowRank.Inputs
import LowRank.Operator.Family

/-!
# Fields of an instruction

The positional layout of an instruction: the opcode, a unary function code where the layout has
one, the inputs, the output, the sub-type and the thread count.  Reading a list of fields by
position and listing the fields again are inverse to each other.
-/

namespace LowRank

/-- The fields of an instruction, by their role. -/
structure Fields where
  /-- The opcode as written. -/
  opcode : String
  /-- The unary function code, where the layout has one. -/
  code : Option String
  inputs : Inputs String
  output : String
  subtype : String
  threads : String
  deriving Repr, DecidableEq

namespace Fields

/-- The fields in the order in which they are written. -/
def toList (fields : Fields) : List String :=
  [fields.opcode] ++ fields.code.toList ++ fields.inputs.toList ++
    [fields.output, fields.subtype, fields.threads]

/-- Assigns listed fields to their roles; the list must have the length of the layout. -/
def ofList? (layout : Layout) (listed : List String) : Option Fields :=
  match layout, listed with
  | .threeInputs, [opcode, weighted, left, right, output, subtype, threads] =>
      some
        { opcode, code := none, inputs := ⟨weighted, left, right, none⟩, output, subtype,
          threads }
  | .fourInputs, [opcode, weighted, left, right, fourth, output, subtype, threads] =>
      some
        { opcode, code := none, inputs := ⟨weighted, left, right, some fourth⟩, output, subtype,
          threads }
  | .codeAndThreeInputs, [opcode, code, weighted, left, right, output, subtype, threads] =>
      some
        { opcode, code := some code, inputs := ⟨weighted, left, right, none⟩, output, subtype,
          threads }
  | _, _ => none

/-- Fields that a layout has a place for, none missing. -/
def Fits (fields : Fields) : Layout → Prop
  | .threeInputs => fields.code = none ∧ fields.inputs.fourth = none
  | .fourInputs => fields.code = none ∧ fields.inputs.fourth.isSome
  | .codeAndThreeInputs => fields.code.isSome ∧ fields.inputs.fourth = none

theorem ofList?_toList (fields : Fields) (layout : Layout) (fits : fields.Fits layout) :
    ofList? layout fields.toList = some fields := by
  rcases fields with ⟨opcode, code, ⟨weighted, left, right, fourth⟩, output, subtype, threads⟩
  cases layout <;> cases code <;> cases fourth <;> simp_all [Fits, toList, ofList?, Inputs.toList]

/-- What is read from a list fits the layout and lists as that list. -/
theorem fits_of_ofList? (layout : Layout) (listed : List String) (fields : Fields)
    (found : ofList? layout listed = some fields) :
    fields.Fits layout ∧ fields.toList = listed := by
  unfold ofList? at found
  split at found <;> simp only [Option.some.injEq, reduceCtorEq] at found <;> subst found <;>
    simp [Fits, toList, Inputs.toList]

/-- A list is read exactly when it has the opcode and the fields of the layout. -/
theorem isSome_ofList?_iff (layout : Layout) (listed : List String) :
    (ofList? layout listed).isSome ↔ listed.length = layout.fieldCount + 1 := by
  constructor
  · intro found
    obtain ⟨fields, isFields⟩ := Option.isSome_iff_exists.mp found
    obtain ⟨fits, listing⟩ := fits_of_ofList? layout listed fields isFields
    clear isFields
    subst listing
    rcases fields with ⟨opcode, code, ⟨weighted, left, right, fourth⟩, output, subtype, threads⟩
    cases layout <;> cases code <;> cases fourth <;>
      simp_all [Fits, toList, Inputs.toList, Layout.fieldCount]
  · intro count
    cases layout <;> simp only [Layout.fieldCount] at count
    all_goals
      obtain _ | ⟨_, _ | ⟨_, _ | ⟨_, _ | ⟨_, _ | ⟨_, _ | ⟨_, _ | ⟨_, _ | ⟨_, _ | ⟨_, _⟩⟩⟩⟩⟩⟩⟩⟩⟩ :=
        listed <;> simp_all [ofList?]

end Fields

end LowRank
