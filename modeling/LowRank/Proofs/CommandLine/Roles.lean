import LowRank.Proofs.CommandLine.Shapes
import LowRank.Proofs.Session.Effects
import Mathlib.Data.List.Forall2

/-!
# Programs with one role for each name

A name plays the role of the position that it is acquired in: the first and the fourth position are
one role, the second and the third are one each. If over a whole program every name plays one role
only, and no output is acquired anywhere, then a variable that is acquired always has the shape of
its role, whether it has just been seeded or stands from an earlier line. Such a program runs to its
end and prints one result for each line.
-/

namespace LowRank

/-- The roles of inputs. -/
inductive Role where
  | weighted
  | left
  | right
  deriving Repr, DecidableEq

/-- The shape of the matrices in a role. -/
def Role.shape : Role → Nat × Nat
  | .weighted => (CommandLine.seededRows, CommandLine.seededCols)
  | .left => (CommandLine.seededRows, CommandLine.seededRank)
  | .right => (CommandLine.seededCols, CommandLine.seededRank)

/-- An instruction acquires a name in a role. -/
inductive Instruction.UsesAs (instruction : Instruction) : String → Role → Prop where
  | weighted : UsesAs instruction instruction.acquired.weighted.name .weighted
  | left : UsesAs instruction instruction.acquired.left.name .left
  | right : UsesAs instruction instruction.acquired.right.name .right
  | fourth (operand : Operand) (present : instruction.acquired.fourth = some operand) :
      UsesAs instruction operand.name .weighted

/-- Instructions of a program in which every name plays one role and no output is acquired. -/
structure RoleConsistent (instructions : List Instruction) : Prop where
  known : ∀ instruction ∈ instructions, instruction.operator.KnowsFunction
  roles : ∀ first ∈ instructions, ∀ second ∈ instructions, ∀ name role other,
    first.UsesAs name role → second.UsesAs name other → role = other
  outputs : ∀ first ∈ instructions, ∀ second ∈ instructions,
    first.output.name ∉ second.acquiredNames

namespace CommandLine

theorem mem_positions_iff (instruction : Instruction) (name : String) (shape : Nat × Nat) :
    (name, shape) ∈ positions instruction ↔
      ∃ role, instruction.UsesAs name role ∧ role.shape = shape := by
  rw [positions_eq]
  constructor
  · intro used
    simp only [List.cons_append, List.nil_append, List.mem_cons, List.mem_map,
      Prod.mk.injEq] at used
    rcases used with ⟨rfl, rfl⟩ | ⟨rfl, rfl⟩ | ⟨rfl, rfl⟩ | ⟨operand, present, rfl, rfl⟩
    · exact ⟨.weighted, .weighted, rfl⟩
    · exact ⟨.left, .left, rfl⟩
    · exact ⟨.right, .right, rfl⟩
    · exact ⟨.weighted, .fourth operand (Option.mem_toList.mp present), rfl⟩
  · rintro ⟨role, used, rfl⟩
    cases used with
    | weighted => simp [Role.shape]
    | left => simp [Role.shape]
    | right => simp [Role.shape]
    | fourth operand present => simp [Role.shape, present]

theorem mem_acquiredNames_of_usesAs (instruction : Instruction) (name : String) (role : Role)
    (used : instruction.UsesAs name role) : name ∈ instruction.acquiredNames := by
  have listed := (mem_positions_iff instruction name role.shape).mpr ⟨role, used, rfl⟩
  rw [← map_fst_positions]
  exact List.mem_map_of_mem listed

/-- The variables that a program acquires have the shapes of their roles where they are bound. -/
def InRoles (instructions : List Instruction) (store : Store Float) : Prop :=
  ∀ instruction ∈ instructions, ∀ name role, instruction.UsesAs name role →
    store.isBound name = true → store.HoldsShape name role.shape

/-- A text that shows what an instruction binds in a program with consistent roles. -/
def PrintsResult (instruction : Instruction) (text : String) : Prop :=
  ∃ block value, SeededResult instruction.operator block ∧ instruction.Publishes block value ∧
    Shows instruction.output.name value text

namespace PrintsResult

variable {instruction : Instruction} {text : String} (prints : PrintsResult instruction text)
include prints

theorem of_scalar (scalar : instruction.operator.producesScalar = true) :
    ∃ scalar : Scalar Float, text = instruction.output.name ++ " = " ++ scalar.text ++ "\n" := by
  have families := Family.producesScalar_iff instruction.operator.family
  rcases prints with ⟨block, value, _, publishes, shows⟩
  cases publishes with
  | scalar family scalar narrows =>
      cases shows
      exact ⟨scalar, rfl⟩
  | matrix family => exact absurd (families.mp scalar) family

theorem of_matrix (matrix : instruction.operator.producesScalar = false) :
    ∃ block, SeededResult instruction.operator block ∧
      text = instruction.output.name ++ " =\n" ++ block.text ++ "\n" := by
  have families := Family.producesScalar_iff instruction.operator.family
  rcases prints with ⟨block, value, result, publishes, shows⟩
  cases publishes with
  | scalar family scalar narrows => exact absurd (families.mpr family) (Bool.not_eq_true _ ▸ matrix)
  | matrix family =>
      cases shows
      exact ⟨block, result, rfl⟩

end PrintsResult

section Run

variable (instructions : List Instruction) (consistent : RoleConsistent instructions)
include consistent

section Line

variable (instruction : Instruction) (instruction_mem : instruction ∈ instructions)
  {σ : Type} {host : Host σ} {progress ready : Progress}
  (seeds : Seeds host progress (positions instruction) ready)
  (inRoles : InRoles instructions progress.store)
include instruction_mem seeds inRoles

theorem shaped_of_inRoles : Shaped ready.store instruction := by
  apply shaped_of_seeds seeds
  · intro name shape other used usedOther
    rcases (mem_positions_iff _ _ _).mp used with ⟨role, isRole, rfl⟩
    rcases (mem_positions_iff _ _ _).mp usedOther with ⟨otherRole, isOther, rfl⟩
    have same := consistent.roles instruction instruction_mem instruction instruction_mem name role
      otherRole isRole isOther
    rw [same]
  · intro name shape used bound
    rcases (mem_positions_iff _ _ _).mp used with ⟨role, isRole, rfl⟩
    exact inRoles instruction instruction_mem name role isRole bound

/-- Seeding keeps the roles: what it binds has the shape of a position in the same role. -/
theorem inRoles_of_seeds : InRoles instructions ready.store := by
  intro other other_mem name role used bound
  cases held : progress.store.isBound name with
  | true =>
      exact (inRoles other other_mem name role used held).congr _ (seeds.kept name held)
  | false =>
      have acquired : name ∈ instruction.acquiredNames := by
        simpa [held, map_fst_positions] using (seeds.isBound_iff name).mp bound
      rw [← map_fst_positions] at acquired
      rcases List.mem_map.mp acquired with ⟨⟨_, shape⟩, listed, rfl⟩
      rcases (mem_positions_iff _ _ _).mp listed with ⟨seededRole, isRole, rfl⟩
      have same := consistent.roles other other_mem instruction instruction_mem _ role seededRole
        used isRole
      rw [same]
      exact shaped_of_inRoles instructions consistent instruction instruction_mem seeds inRoles _ _
        listed

omit seeds in
/-- Binding an output keeps the roles, for no instruction acquires it. -/
theorem inRoles_of_bind (value : Value Float) (after : Store Float)
    (bound : progress.store.bind instruction.output.name value = .ok after) :
    InRoles instructions after := by
  intro other other_mem name role used isBound
  have different : name ≠ instruction.output.name := by
    rintro rfl
    have acquired := mem_acquiredNames_of_usesAs other _ role used
    exact consistent.outputs instruction instruction_mem other other_mem acquired
  have isBoundBefore : progress.store.isBound name = true := by
    rw [progress.store.isBound_of_bind _ _ after bound] at isBound
    simpa [different] using isBound
  apply (inRoles other other_mem name role used isBoundBefore).congr
  rw [progress.store.value?_of_bind _ _ after bound, if_neg different]

end Line

theorem runLines_of_inRoles {σ : Type} (host : Host σ) (drawable : host.Drawable)
    (lines : List String) (listed : List Instruction) (progress : Progress)
    (decoded : lines.map (Instruction.decode .standard) = listed.map .ok)
    (listed_mem : ∀ instruction ∈ listed, instruction ∈ instructions) (idle : progress.Idle)
    (countable : 1440 * lines.length + progress.store.used < Word.size)
    (inRoles : InRoles instructions progress.store) :
    ∃ texts, List.Forall₂ PrintsResult listed texts ∧
      runLines host progress lines = { printed := String.join texts, failure := none } := by
  induction lines generalizing listed progress with
  | nil =>
      cases listed with
      | nil => exact ⟨[], .nil, rfl⟩
      | cons instruction rest => cases decoded
  | cons line lines ih =>
      cases listed with
      | nil => cases decoded
      | cons instruction rest =>
          simp only [List.map_cons, List.cons.injEq] at decoded
          rcases decoded with ⟨first, others⟩
          simp only [List.forall_mem_cons] at listed_mem
          rcases listed_mem with ⟨instruction_mem, rest_mem⟩
          rw [List.length_cons] at countable
          have room : progress.store.used + 1440 < Word.size := by omega
          rcases exists_prepared host progress line idle drawable instruction room first with
            ⟨ready, prepared⟩
          have shaped := shaped_of_inRoles instructions consistent instruction instruction_mem
            prepared.seeds inRoles
          rcases exists_runLine_of_shaped host progress ready line instruction idle prepared
            room (consistent.known instruction instruction_mem) shaped with
            ⟨block, after, result, bound, ran⟩
          have readyInRoles := inRoles_of_seeds instructions consistent instruction instruction_mem
            prepared.seeds inRoles
          have afterInRoles := inRoles_of_bind instructions consistent instruction instruction_mem
            readyInRoles _ after bound
          rcases idle_of_runLine host progress line idle _ _ ran with ⟨afterIdle, used_le⟩
          rcases ih rest { ready with store := after } others rest_mem afterIdle (by omega)
            afterInRoles with ⟨texts, results, ranOthers⟩
          refine ⟨bindingText instruction.output.name (instruction.result block) :: texts,
            .cons ?_ results, ?_⟩
          · exact ⟨block, instruction.result block, result, instruction.publishes_result block,
              shows_bindingText _ _⟩
          · simp only [runLines, ran, ranOthers, String.join_cons]

end Run

/--
A program that decodes, knows its unary functions and has consistent roles ends without a failure,
and prints for each line in order the value of its output, a result of the operator's shape. All
that is asked of the host is that cells can be drawn at all, and of the program that a word can
count its bytes, which are at most 1440 for each line.
-/
theorem run_of_roleConsistent {σ : Type} (host : Host σ)
    (drawable : (host.sampler.between? 0.1 1.0).isSome = true) (lines : List String)
    (nonempty : lines ≠ []) (countable : 1440 * lines.length < Word.size)
    (instructions : List Instruction)
    (decoded : lines.map (Instruction.decode .standard) = instructions.map .ok)
    (consistent : RoleConsistent instructions) :
    (run host lines).exitCode = 0 ∧
      ∃ texts, List.Forall₂ PrintsResult instructions texts ∧
        (run host lines).printed = String.join texts := by
  have inRoles : InRoles instructions (Progress.start host).store := by
    intro instruction _ name role _ bound
    cases bound
  rcases runLines_of_inRoles instructions consistent host drawable lines instructions
    (.start host) decoded (fun _ mem => mem) (idle_start host)
    countable inRoles with
    ⟨texts, results, ran⟩
  have run_eq : run host lines = runLines host (.start host) lines := by
    cases lines with
    | nil => exact absurd rfl nonempty
    | cons line rest => rfl
  rw [run_eq, ran]
  exact ⟨rfl, texts, results, rfl⟩

/-- A program whose lines share names and bind one output twice. -/
def sharedNames : List String :=
  ["wdivmm,W,U,V,W,A,MULT_MINUS_LEFT,1", "wsloss,X,U,V,W,A,POST,1", "wumm, Exp,X,P,V,B,DIV,1"]

theorem run_of_roleConsistent_shared_names :
    ∃ (gradient : Block Float) (loss : Scalar Float) (quotient : Block Float),
      (run .single sharedNames).exitCode = 0 ∧
        (run .single sharedNames).printed = "A =\n" ++ gradient.text ++ "\n" ++
          ("A = " ++ loss.text ++ "\n" ++ ("B =\n" ++ quotient.text ++ "\n")) ∧
        (gradient.rows, gradient.cols) = (5, 2) ∧ (quotient.rows, quotient.cols) = (6, 5) := by
  let product : Instruction :=
    { Instruction.onNames (.weightedProduct (.sided .multiplyMinus .left))
        ⟨"W", "U", "V", some "W"⟩ "A" with
      line := "wdivmm,W,U,V,W,A,MULT_MINUS_LEFT,1" }
  let squaredLoss : Instruction :=
    { Instruction.onNames (.squaredLoss .post) ⟨"X", "U", "V", some "W"⟩ "A" with
      line := "wsloss,X,U,V,W,A,POST,1" }
  let exponential : Instruction :=
    { Instruction.onNames (.unary .divide " Exp") ⟨"X", "P", "V", none⟩ "B" with
      line := "wumm, Exp,X,P,V,B,DIV,1" }
  let roleOf (name : String) : Role :=
    if name ∈ ["U", "P"] then .left else if name = "V" then .right else .weighted
  have plays : ∀ instruction ∈ [product, squaredLoss, exponential], ∀ name role,
      instruction.UsesAs name role → roleOf name = role := by
    simp only [List.forall_mem_cons, List.not_mem_nil, false_imp_iff, implies_true, and_true]
    refine ⟨?_, ?_, ?_⟩
    all_goals
      intro name role used
      cases used with
      | weighted => rfl
      | left => rfl
      | right => rfl
      | fourth operand present => cases present <;> rfl
  have consistent : RoleConsistent [product, squaredLoss, exponential] := by
    refine ⟨?_, ?_, by decide⟩
    · simp only [List.forall_mem_cons, List.not_mem_nil, false_imp_iff, implies_true, and_true]
      refine ⟨?_, ?_, ?_⟩
      · rintro code ⟨⟩
      · rintro code ⟨⟩
      · rintro code ⟨⟩
        decide
    · intro first first_mem second second_mem name role other used usedOther
      exact (plays first first_mem name role used).symm.trans
        (plays second second_mem name other usedOther)
  have decoded : sharedNames.map (Instruction.decode .standard) =
      [product, squaredLoss, exponential].map .ok := by
    decide +kernel
  rcases run_of_roleConsistent .single (by decide +kernel) sharedNames (List.cons_ne_nil _ _)
    (by decide) [product, squaredLoss, exponential] decoded consistent with
    ⟨succeeds, texts, results, printed⟩
  rcases results with _ | ⟨first, _ | ⟨second, _ | ⟨third, ⟨⟩⟩⟩⟩
  rcases first.of_matrix rfl with ⟨gradient, gradientResult, rfl⟩
  rcases second.of_scalar rfl with ⟨loss, rfl⟩
  rcases third.of_matrix rfl with ⟨quotient, quotientResult, rfl⟩
  refine ⟨gradient, loss, quotient, succeeds, ?_, gradientResult.shape, quotientResult.shape⟩
  rw [printed]
  simp [String.join_cons, product, squaredLoss, exponential, Instruction.onNames]

end CommandLine

end LowRank
