import Mathlib.Data.List.Basic
import Syllogistic.Proofs.Chart.Contents
import Syllogistic.Proofs.Interpretation.Opposition

/-!
# Simple conversion

Some A are B when some B are A, and no A are B when no B are A.  A diagram looks at the
circle of the subject first, and yet the regions that count do not change: those in both
circles support the particular proposition and oppose the universal one, whichever of the
circles comes first.
-/

namespace Syllogistic

/-- The proposition is kept, or its subject and predicate change places. -/
inductive Proposition.ConvertsTo : Proposition → Proposition → Prop
  | kept (proposition : Proposition) : ConvertsTo proposition proposition
  | particular (subject predicate : String) :
      ConvertsTo (.categorical .particular subject false predicate)
        (.categorical .particular predicate false subject)
  | universal (subject predicate : String) :
      ConvertsTo (.categorical .universal subject true predicate)
        (.categorical .universal predicate true subject)

namespace Proposition.ConvertsTo

variable {first second : Proposition}

theorem symm (converts : first.ConvertsTo second) : second.ConvertsTo first := by
  cases converts with
  | kept => exact .kept _
  | particular subject predicate => exact .particular predicate subject
  | universal subject predicate => exact .universal predicate subject

theorem quantifier_eq (converts : first.ConvertsTo second) :
    first.subject.quantifier = second.subject.quantifier := by
  cases converts <;> rfl

theorem mem_names_iff
    {name : String}
    (converts : first.ConvertsTo second) :
    name ∈ first.names ↔ name ∈ second.names := by
  cases converts with
  | kept => exact Iff.rfl
  | particular subject predicate | universal subject predicate =>
      exact @List.mem_reverse _ name [predicate, subject]

/-- What is well formed stays so. -/
theorem wellFormed
    (converts : first.ConvertsTo second)
    (wellFormed : first.WellFormed) :
    second.WellFormed := by
  cases converts with
  | kept => exact wellFormed
  | particular subject predicate | universal subject predicate =>
      exact ⟨wellFormed.subject_quantified, rfl, rfl, wellFormed.names_differ.symm⟩

end Proposition.ConvertsTo

namespace Diagram

/-- The regions inside one circle and another are those inside the other and the one. -/
theorem filter_regionsAt_comm (diagram : Diagram) (left right : Nat) :
    (diagram.regionsAt left).filter (·.contains right) =
      (diagram.regionsAt right).filter (·.contains left) :=
  List.filter_comm _ _ _

/-- The same regions count for a particular proposition and for its converse. -/
theorem bearing?_converse (diagram : Diagram) (subject predicate : String) :
    diagram.bearing? (.categorical .particular subject false predicate) =
      diagram.bearing? (.categorical .particular predicate false subject) := by
  have affirmed : ∀ position, complies false position = (·.contains position) := by
    intro position
    funext region
    exact Bool.false_bne _
  unfold bearing? Proposition.categorical
  dsimp only
  cases diagram.position? subject with
  | none => cases diagram.position? predicate <;> rfl
  | some left =>
      cases diagram.position? predicate with
      | none => rfl
      | some right => simp only [affirmed, filter_regionsAt_comm diagram left right]

/-- The same regions count against a universal denial and against its converse. -/
theorem opposing_converse (diagram : Diagram) (subject predicate : String) :
    (diagram.bearing? (.categorical .universal subject true predicate)).map Bearing.opposing =
      (diagram.bearing? (.categorical .universal predicate true subject)).map
        Bearing.opposing := by
  have denied : ∀ position region, (!complies true position region) =
      region.contains position := by
    intro position region
    rw [complies, Bool.true_bne, Bool.not_not]
  unfold bearing? Proposition.categorical
  dsimp only
  cases diagram.position? subject with
  | none => cases diagram.position? predicate <;> rfl
  | some left =>
      cases diagram.position? predicate with
      | none => rfl
      | some right =>
          simp only [denied, Option.map_some, filter_regionsAt_comm diagram left right]

section Converts

variable {diagram : Diagram} {first second : Statement}

theorem bearing?_eq_of_convertsTo
    (converts : first.proposition.ConvertsTo second.proposition)
    (particular : first.quantifier = some .particular) :
    diagram.bearing? first.proposition = diagram.bearing? second.proposition := by
  unfold Statement.quantifier at particular
  generalize first.proposition = proposition at converts particular ⊢
  generalize second.proposition = converse at converts ⊢
  cases converts with
  | kept => rfl
  | particular subject predicate => exact diagram.bearing?_converse subject predicate
  | universal subject predicate => cases particular

theorem opposing_eq_of_convertsTo
    (converts : first.proposition.ConvertsTo second.proposition) :
    (diagram.bearing? first.proposition).map Bearing.opposing =
      (diagram.bearing? second.proposition).map Bearing.opposing := by
  generalize first.proposition = proposition at converts ⊢
  generalize second.proposition = converse at converts ⊢
  cases converts with
  | kept => rfl
  | particular subject predicate =>
      exact congrArg _ (diagram.bearing?_converse subject predicate)
  | universal subject predicate => exact diagram.opposing_converse subject predicate

/-- A statement and its converse empty the same regions. -/
theorem excludes_eq_of_convertsTo
    (converts : first.proposition.ConvertsTo second.proposition)
    (region : Region) :
    diagram.excludes region first = diagram.excludes region second := by
  have opposed : ∀ statement : Statement, diagram.excludes region statement = true ↔
      statement.quantifier = some .universal ∧
        ∃ opposing, (diagram.bearing? statement.proposition).map Bearing.opposing =
          some opposing ∧ region ∈ opposing := by
    intro statement
    simp [excludes_iff]
  rw [Bool.eq_iff_iff, opposed, opposed, opposing_eq_of_convertsTo converts,
    Statement.quantifier, converts.quantifier_eq]
  rfl

/-- A statement and its converse assert the same group. -/
theorem asserts_eq_of_convertsTo
    (converts : first.proposition.ConvertsTo second.proposition)
    (group : List Region) :
    diagram.asserts group first = diagram.asserts group second := by
  have quantifiers : first.quantifier = second.quantifier := converts.quantifier_eq
  rw [Bool.eq_iff_iff, asserts_iff, asserts_iff, ← quantifiers]
  apply and_congr_right
  intro particular
  rw [bearing?_eq_of_convertsTo converts particular]

end Converts

end Diagram
end Syllogistic
