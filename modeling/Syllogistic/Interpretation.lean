import Syllogistic.Diagram
import Syllogistic.Statement

/-!
# Interpretations

An interpretation says which individuals there are and which of them belong to
the set of each name.  It gives propositions their meaning without a diagram: a
particular proposition asserts an individual, a universal one denies a
counterexample and holds of an empty subject.
-/

namespace Syllogistic

universe u

/-- A choice of individuals, and of a set of them for every name. -/
structure Interpretation where
  /-- The individuals. -/
  Individual : Type u
  /-- The individual belongs to the set of the name. -/
  belongs : String → Individual → Prop

namespace Interpretation

/-- What a predicate says of an individual. -/
def Describes (interpretation : Interpretation.{u}) (predicate : Term)
    (individual : interpretation.Individual) : Prop :=
  if predicate.negated then ¬ interpretation.belongs predicate.name individual
  else interpretation.belongs predicate.name individual

/-- The proposition is true; without a quantifier it says nothing. -/
def Satisfies (interpretation : Interpretation.{u}) (proposition : Proposition) : Prop :=
  match proposition.subject.quantifier with
  | none => True
  | some .particular =>
      ∃ individual, interpretation.belongs proposition.subject.name individual ∧
        interpretation.Describes proposition.predicate individual
  | some .universal =>
      ∀ individual, interpretation.belongs proposition.subject.name individual →
        interpretation.Describes proposition.predicate individual

/-- Every statement of a list is true. -/
def SatisfiesAll (interpretation : Interpretation.{u}) (statements : List Statement) : Prop :=
  ∀ statement ∈ statements, interpretation.Satisfies statement.proposition

/-- Some individual belongs to the set of the name. -/
def Inhabits (interpretation : Interpretation.{u}) (name : String) : Prop :=
  ∃ individual, interpretation.belongs name individual

/-- An individual lies in the region inside the circles of just the sets that it belongs to. -/
def LiesIn (interpretation : Interpretation.{u}) (diagram : Diagram)
    (individual : interpretation.Individual) (region : Region) : Prop :=
  ∀ position, region.contains position = true ↔
    ∃ name, diagram.names.toList[position]? = some name ∧
      interpretation.belongs name individual

/-- No individual lies in two regions. -/
theorem LiesIn.unique {interpretation : Interpretation.{u}} {diagram : Diagram}
    {individual : interpretation.Individual} {left right : Region}
    (inLeft : interpretation.LiesIn diagram individual left)
    (inRight : interpretation.LiesIn diagram individual right) : left = right := by
  apply Region.ext_contains
  intro position
  rw [Bool.eq_iff_iff, inLeft position, inRight position]

end Interpretation
end Syllogistic
