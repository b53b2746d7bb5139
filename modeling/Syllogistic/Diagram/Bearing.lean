import Syllogistic.Diagram
import Syllogistic.Statement

/-!
# How the regions of a diagram bear on a proposition

Only the regions inside the circle of the subject matter.  Among them those that
comply with the predicate support the proposition, and the others oppose it if
it is universal.
-/

namespace Syllogistic

/-- The regions that count for and against a proposition. -/
structure Bearing where
  /-- An individual in one of these regions is what the subject and predicate describe. -/
  supporting : List Region
  /-- An individual in one of these regions refutes a universal proposition. -/
  opposing : List Region
deriving DecidableEq

namespace Diagram

/-- A region complies with a predicate if it is inside its circle, or outside if negated. -/
def complies (negated : Bool) (position : Nat) (region : Region) : Bool :=
  negated != region.contains position

/--
The regions for and against a proposition, where both of its names have a
circle.  Without a quantifier no region counts, and nothing in a diagram opposes
a particular proposition.
-/
def bearing? (diagram : Diagram) (proposition : Proposition) : Option Bearing :=
  match diagram.position? proposition.subject.name,
      diagram.position? proposition.predicate.name with
  | some subject, some predicate =>
      let inside := diagram.regionsAt subject
      let complying := complies proposition.predicate.negated predicate
      match proposition.subject.quantifier with
      | none => some ⟨[], []⟩
      | some .particular => some ⟨inside.filter complying, []⟩
      | some .universal => some ⟨inside.filter complying, inside.filter (!complying ·)⟩
  | _, _ => none

end Diagram
end Syllogistic
