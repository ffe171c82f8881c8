import LowRank.Operator.Basic
import LowRank.Operator.Unary

/-!
# Names of operators

Opcodes and sub-type tokens are looked up in tables. A look-up finds exactly the entry that bears
the name: the opcodes stay different when the case of their letters is dropped, and within a family
no two sub-types share a token. The post-weighted squared loss alone has a second token.
-/

namespace LowRank

/-- A name leads to its bearer if the bearer is the first in the table with that name. -/
theorem find?_name_eq_some_iff {β γ : Type} [BEq γ] [LawfulBEq γ] (table : List β) (name : β → γ)
    (token : γ) (bearer : β)
    (first : table.find? (fun item => name item == name bearer) = some bearer) :
    table.find? (fun item => name item == token) = some bearer ↔ token = name bearer := by
  constructor
  · intro found
    have named := List.find?_some found
    exact (beq_iff_eq.mp named).symm
  · rintro rfl
    exact first

theorem UnaryFunction.ofCode?_eq_some_iff (code : String) (function : UnaryFunction) :
    ofCode? code = some function ↔
      Text.lowered (Text.trim code.toList) = function.code.toList := by
  apply find?_name_eq_some_iff all (fun function => function.code.toList)
  cases function <;> decide

theorem Family.ofOpcode?_eq_some_iff (opcode : String) (family : Family) :
    ofOpcode? opcode = some family ↔
      Text.agreesIgnoringCase family.opcode.toList opcode.toList = true := by
  constructor
  · intro found
    have agrees := List.find?_some found
    exact agrees
  · intro agrees
    have lowered_eq : Text.lowered family.opcode.toList = Text.lowered opcode.toList := by
      simpa [Text.agreesIgnoringCase] using agrees
    simp only [ofOpcode?, Text.agreesIgnoringCase, ← lowered_eq]
    cases family <;> decide

theorem Family.ofOpcode?_eq_none_iff (opcode : String) :
    ofOpcode? opcode = none ↔
      ∀ family : Family, Text.agreesIgnoringCase family.opcode.toList opcode.toList = false := by
  constructor
  · intro absent family
    apply Bool.eq_false_iff.mpr
    intro agrees
    rw [(ofOpcode?_eq_some_iff opcode family).mpr agrees] at absent
    cases absent
  · intro disagrees
    cases found : ofOpcode? opcode with
    | none => rfl
    | some family =>
        have agrees := (ofOpcode?_eq_some_iff opcode family).mp found
        rw [disagrees family] at agrees
        cases agrees

theorem LossKind.ofToken?_eq_some_iff (token : String) (kind : LossKind) :
    ofToken? token = some kind ↔ token = kind.name ∨ token = "BASIC" ∧ kind = .post := by
  constructor
  · intro found
    simp only [ofToken?] at found
    split at found
    · rename_i named
      cases found
      rcases named with named | named
      · exact Or.inl named
      · exact Or.inr ⟨named, rfl⟩
    · left
      split at found
      · cases found
        assumption
      · split at found
        · cases found
          assumption
        · split at found
          · cases found
            assumption
          · cases found
  · rintro (rfl | ⟨rfl, rfl⟩)
    · cases kind <;> rfl
    · rfl

theorem ProductKind.ofToken?_eq_some_iff (token : String) (kind : ProductKind) :
    ofToken? token = some kind ↔ token = kind.name := by
  apply find?_name_eq_some_iff
  rcases kind with _ | ⟨combination, side⟩
  · decide
  · cases combination <;> cases side <;> decide

theorem SigmoidKind.ofToken?_eq_some_iff (token : String) (kind : SigmoidKind) :
    ofToken? token = some kind ↔ token = kind.name := by
  apply find?_name_eq_some_iff
  rcases kind with ⟨logarithm, minus⟩
  cases logarithm <;> cases minus <;> decide

theorem UnaryKind.ofToken?_eq_some_iff (token : String) (kind : UnaryKind) :
    ofToken? token = some kind ↔ token = kind.name := by
  apply find?_name_eq_some_iff
  cases kind <;> decide

namespace Operator

/-- A token that stands for an operator's sub-type. -/
def HasToken (operator : Operator) (token : String) : Prop :=
  token = operator.subtype ∨ token = "BASIC" ∧ operator = .squaredLoss .post

theorem family_of_needsFourth (operator : Operator) (needs : operator.needsFourth = true) :
    operator.family = .squaredLoss ∨ operator.family = .weightedProduct := by
  cases operator with
  | squaredLoss kind => exact Or.inl rfl
  | weightedProduct kind => exact Or.inr rfl
  | sigmoid kind => cases needs
  | crossEntropy => cases needs
  | unary kind code => cases needs

section Resolve

variable (family : Family) (token : String) (code : Option String) (operator : Operator)

theorem hasToken_of_resolve? (resolved : resolve? family token code = some operator) :
    operator.family = family ∧ operator.HasToken token ∧
      ∀ written, operator.unaryCode? = some written → written = code.getD "" := by
  cases family with
  | crossEntropy =>
      simp only [resolve?] at resolved
      split at resolved
      · rename_i named
        cases resolved
        exact ⟨rfl, Or.inl named, nofun⟩
      · cases resolved
  | squaredLoss =>
      simp only [resolve?, Option.map_eq_some_iff, LossKind.ofToken?_eq_some_iff] at resolved
      rcases resolved with ⟨kind, named | ⟨basic, rfl⟩, rfl⟩
      · exact ⟨rfl, Or.inl named, nofun⟩
      · exact ⟨rfl, Or.inr ⟨basic, rfl⟩, nofun⟩
  | weightedProduct =>
      simp only [resolve?, Option.map_eq_some_iff, ProductKind.ofToken?_eq_some_iff] at resolved
      rcases resolved with ⟨kind, named, rfl⟩
      exact ⟨rfl, Or.inl named, nofun⟩
  | sigmoid =>
      simp only [resolve?, Option.map_eq_some_iff, SigmoidKind.ofToken?_eq_some_iff] at resolved
      rcases resolved with ⟨kind, named, rfl⟩
      exact ⟨rfl, Or.inl named, nofun⟩
  | unary =>
      simp only [resolve?, Option.map_eq_some_iff, UnaryKind.ofToken?_eq_some_iff] at resolved
      rcases resolved with ⟨kind, named, rfl⟩
      exact ⟨rfl, Or.inl named, by rintro written ⟨⟩; rfl⟩

theorem resolve?_of_hasToken (hasToken : operator.HasToken token)
    (codeWritten : ∀ written, operator.unaryCode? = some written → written = code.getD "") :
    resolve? operator.family token code = some operator := by
  cases operator with
  | squaredLoss kind =>
      have found : LossKind.ofToken? token = some kind := by
        rw [LossKind.ofToken?_eq_some_iff]
        rcases hasToken with named | ⟨basic, same⟩
        · exact Or.inl named
        · cases same
          exact Or.inr ⟨basic, rfl⟩
      simp only [resolve?, Operator.family, found, Option.map_some]
  | weightedProduct kind =>
      rcases hasToken with named | ⟨_, ⟨⟩⟩
      have found := (ProductKind.ofToken?_eq_some_iff token kind).mpr named
      simp only [resolve?, Operator.family, found, Option.map_some]
  | sigmoid kind =>
      rcases hasToken with named | ⟨_, ⟨⟩⟩
      have found := (SigmoidKind.ofToken?_eq_some_iff token kind).mpr named
      simp only [resolve?, Operator.family, found, Option.map_some]
  | crossEntropy =>
      rcases hasToken with named | ⟨_, ⟨⟩⟩
      exact if_pos named
  | unary kind written =>
      rcases hasToken with named | ⟨_, ⟨⟩⟩
      have found := (UnaryKind.ofToken?_eq_some_iff token kind).mpr named
      simp only [resolve?, Operator.family, found, Option.map_some, codeWritten written rfl]

/-- Where the unary family alone has a code, a token and a code resolve to one operator. -/
theorem resolve?_eq_some_iff (coded : code.isSome = true ↔ family = .unary) :
    resolve? family token code = some operator ↔
      operator.family = family ∧ operator.HasToken token ∧ operator.unaryCode? = code := by
  constructor
  · intro resolved
    rcases hasToken_of_resolve? family token code operator resolved with
      ⟨rfl, hasToken, codeWritten⟩
    refine ⟨rfl, hasToken, ?_⟩
    cases code with
    | none =>
        cases operator with
        | unary kind written => cases coded.mpr rfl
        | squaredLoss kind => rfl
        | weightedProduct kind => rfl
        | sigmoid kind => rfl
        | crossEntropy => rfl
    | some code =>
        have isUnary := coded.mp rfl
        cases operator with
        | unary kind written => exact congrArg some (codeWritten written rfl)
        | squaredLoss kind => cases isUnary
        | weightedProduct kind => cases isUnary
        | sigmoid kind => cases isUnary
        | crossEntropy => cases isUnary
  · rintro ⟨rfl, hasToken, rfl⟩
    apply resolve?_of_hasToken token _ operator hasToken
    intro written code_eq
    rw [code_eq]
    rfl

theorem resolve?_eq_none_iff :
    resolve? family token code = none ↔
      ∀ operator : Operator, operator.family = family → ¬operator.HasToken token := by
  constructor
  · rintro unresolved operator rfl hasToken
    have resolves : ∃ other, resolve? operator.family token code = some other := by
      cases operator with
      | unary kind written =>
          -- The code plays no part in the look-up, so the one that is given will do.
          rcases hasToken with named | ⟨_, ⟨⟩⟩
          refine ⟨_, resolve?_of_hasToken token code (.unary kind (code.getD "")) ?_ ?_⟩
          · exact Or.inl named
          · rintro other ⟨⟩
            rfl
      | squaredLoss kind => exact ⟨_, resolve?_of_hasToken token code _ hasToken nofun⟩
      | weightedProduct kind => exact ⟨_, resolve?_of_hasToken token code _ hasToken nofun⟩
      | sigmoid kind => exact ⟨_, resolve?_of_hasToken token code _ hasToken nofun⟩
      | crossEntropy => exact ⟨_, resolve?_of_hasToken token code _ hasToken nofun⟩
    rcases resolves with ⟨other, resolved⟩
    rw [unresolved] at resolved
    cases resolved
  · intro unnamed
    cases resolved : resolve? family token code with
    | none => rfl
    | some operator =>
        rcases hasToken_of_resolve? family token code operator resolved with ⟨same, hasToken, _⟩
        exact absurd hasToken (unnamed operator same)

end Resolve

end Operator

end LowRank
