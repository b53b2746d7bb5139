import Syllogistic.Name

/-!
# Terms

A term refers to a set by its name, perhaps negated, perhaps quantified.  The
subject of a well-formed statement is quantified and not negated, the predicate
is not quantified and may be negated.
-/

namespace Syllogistic

/-- How much of its set a term speaks of. -/
inductive Quantifier
  /-- Some member of the set. -/
  | particular
  /-- All members of the set. -/
  | universal
deriving DecidableEq, Repr

/-- The word for a quantifier at the head of a statement. -/
def Quantifier.word : Quantifier → String
  | particular => "Some"
  | universal => "All"

/-- A reference to a set. -/
structure Term where
  /-- The name of the set. -/
  name : String
  /-- The term means what is not in the set. -/
  negated : Bool
  /-- How much of the set is meant, if the term says so. -/
  quantifier : Option Quantifier
deriving DecidableEq, Repr

namespace Term

/-- The term without quantifier for the set of a written name. -/
def bare (text : String) : Term :=
  ⟨Name.canonical text, false, none⟩

/-- The quantified term for the set of a written name. -/
def quantified (quantifier : Quantifier) (text : String) : Term :=
  ⟨Name.canonical text, false, some quantifier⟩

/-- The term with its negation turned over. -/
def negate (term : Term) : Term :=
  { term with negated := !term.negated }

/-- A term is shown as its negation, its quantifier and its name, each where it has one. -/
def display (term : Term) : String :=
  " ".intercalate
    ((if term.negated then ["not"] else []) ++
      term.quantifier.toList.map Quantifier.word ++ [Name.display term.name])

@[simp] theorem negate_negate (term : Term) : term.negate.negate = term := by
  simp [negate]

end Term
end Syllogistic
