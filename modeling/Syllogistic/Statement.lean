import Syllogistic.Error
import Syllogistic.Term

/-!
# Statements

A proposition joins a subject to a predicate.  A statement is a proposition
together with the text that it was read from, if it was read: the text is for
display, and two statements say the same when their propositions are equal.
-/

namespace Syllogistic

/-- A subject joined to a predicate. -/
structure Proposition where
  subject : Term
  predicate : Term
deriving DecidableEq, Repr

namespace Proposition

/-- The names of subject and predicate, in this order. -/
def names (proposition : Proposition) : List String :=
  [proposition.subject.name, proposition.predicate.name]

/-- A proposition mentions the names of its two terms. -/
def mentions (proposition : Proposition) (name : String) : Bool :=
  proposition.names.contains name

/-- A proposition is shown as its two terms around the copula. -/
def display (proposition : Proposition) : String :=
  proposition.subject.display ++ " are " ++ proposition.predicate.display

/--
A proposition is well formed when its subject is quantified and not negated, its
predicate is not quantified, and the two name different sets.
-/
structure WellFormed (proposition : Proposition) : Prop where
  subject_quantified : proposition.subject.quantifier ≠ none
  predicate_unquantified : proposition.predicate.quantifier = none
  subject_affirmed : proposition.subject.negated = false
  names_differ : proposition.subject.name ≠ proposition.predicate.name

/--
The fault of a proposition that is not well formed, reported under `text`.  Of
several faults the first in this order counts: no quantifier before the subject,
a quantifier before the predicate, a negated subject, one name for both.
-/
def fault? (text : String) (proposition : Proposition) : Option GrammarFault :=
  if proposition.subject.quantifier = none then
    some (.unquantifiedSubject text)
  else if proposition.predicate.quantifier ≠ none then
    some (.quantifiedPredicate text)
  else if proposition.subject.negated then
    some (.negatedSubject text)
  else if proposition.subject.name = proposition.predicate.name then
    some (.sameName proposition.subject.name)
  else
    none

/-- A proposition has no fault exactly when it is well formed. -/
theorem fault?_eq_none_iff {text : String} {proposition : Proposition} :
    proposition.fault? text = none ↔ proposition.WellFormed := by
  constructor
  · intro faultless
    constructor <;> grind [fault?]
  · rintro ⟨quantified, unquantified, affirmed, differ⟩
    simp [fault?, quantified, unquantified, affirmed, differ]

instance (proposition : Proposition) : Decidable proposition.WellFormed :=
  decidable_of_iff (proposition.fault? "" = none) fault?_eq_none_iff

end Proposition

/-- A proposition with the text that it was read from. -/
structure Statement where
  /-- What the statement says. -/
  proposition : Proposition
  /-- The text of the statement, if it was read from one. -/
  source : Option String
deriving DecidableEq, Repr

namespace Statement

/-- The statement of a proposition that was not read from a text. -/
def ofProposition (proposition : Proposition) : Statement :=
  ⟨proposition, none⟩

/-- The text of a statement: the one it was read from, or else its display. -/
def text (statement : Statement) : String :=
  statement.source.getD statement.proposition.display

/-- The quantifier of the subject. -/
def quantifier (statement : Statement) : Option Quantifier :=
  statement.proposition.subject.quantifier

/-- Accepts a well-formed statement; the fault of any other quotes its text. -/
def check (statement : Statement) : Except GrammarFault Unit :=
  match statement.proposition.fault? statement.text with
  | some fault => .error fault
  | none => .ok ()

/-- A statement passes the check exactly when its proposition is well formed. -/
theorem check_eq_ok_iff {statement : Statement} :
    statement.check = .ok () ↔ statement.proposition.WellFormed := by
  rw [← @Proposition.fault?_eq_none_iff statement.text, check]
  cases statement.proposition.fault? statement.text <;> simp

end Statement
end Syllogistic
