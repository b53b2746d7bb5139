import Syllogistic.Proofs.Interpretation.Occupation

/-!
# Opposed propositions

A proposition has a subaltern, which asserts of some of the subject what the
proposition says, and a contradictory, which asserts a counterexample.  A
universal proposition does not imply its subaltern, for its subject may be empty,
but it is true exactly when its contradictory is false.
-/

namespace Syllogistic

universe u

namespace Proposition

/-- The proposition that some or all of a set are, or are not, in another set. -/
def categorical (quantifier : Quantifier) (subject : String) (negated : Bool)
    (predicate : String) : Proposition :=
  ⟨⟨subject, false, some quantifier⟩, ⟨predicate, negated, none⟩⟩

/-- The particular proposition with the same subject and predicate. -/
def subaltern (proposition : Proposition) : Proposition :=
  { proposition with
    subject := { proposition.subject with quantifier := some .particular } }

/-- The particular proposition with the same subject and the opposite predicate. -/
def contradictory (proposition : Proposition) : Proposition :=
  { proposition.subaltern with predicate := proposition.predicate.negate }

/-- The proposition with the same subject and the opposite predicate, in the same quantity. -/
def contrary (proposition : Proposition) : Proposition :=
  { proposition with predicate := proposition.predicate.negate }

theorem subaltern_eq_self
    {proposition : Proposition}
    (particular : proposition.subject.quantifier = some .particular) :
    proposition.subaltern = proposition := by
  obtain ⟨⟨name, negated, quantifier⟩, predicate⟩ := proposition
  cases particular
  rfl

end Proposition

namespace Interpretation

variable {interpretation : Interpretation.{u}} {diagram : Diagram}
  {proposition : Proposition} {bearing : Bearing}

theorem describes_negate_iff
    {predicate : Term}
    {individual : interpretation.Individual} :
    interpretation.Describes predicate.negate individual ↔
      ¬ interpretation.Describes predicate individual := by
  unfold Describes Term.negate
  cases predicate.negated <;> simp

/-- The contradictory of a universal proposition is true when the proposition is false. -/
theorem satisfies_contradictory_iff
    (universal : proposition.subject.quantifier = some .universal) :
    interpretation.Satisfies proposition.contradictory ↔
      ¬ interpretation.Satisfies proposition := by
  unfold Satisfies
  rw [universal]
  change (∃ individual, interpretation.belongs proposition.subject.name individual ∧
      interpretation.Describes proposition.predicate.negate individual) ↔
    ¬ ∀ individual, interpretation.belongs proposition.subject.name individual →
      interpretation.Describes proposition.predicate individual
  simp only [describes_negate_iff, Classical.not_forall, exists_prop]

/-- A universal proposition implies its subaltern where its subject is not empty. -/
theorem Satisfies.subaltern
    (satisfies : interpretation.Satisfies proposition)
    (universal : proposition.subject.quantifier = some .universal)
    (inhabits : interpretation.Inhabits proposition.subject.name) :
    interpretation.Satisfies proposition.subaltern := by
  unfold Satisfies at satisfies
  rw [universal] at satisfies
  obtain ⟨individual, member⟩ := inhabits
  exact ⟨individual, member, satisfies individual member⟩

/-- The subaltern of a proposition is true when a supporting region is occupied. -/
theorem satisfies_subaltern_iff
    (found : diagram.bearing? proposition = some bearing)
    (quantified : proposition.subject.quantifier ≠ none) :
    interpretation.Satisfies proposition.subaltern ↔
      ∃ region ∈ bearing.supporting, interpretation.Occupies diagram region := by
  have subjectNamed := Diagram.subject_mem_names found
  change (∃ individual, interpretation.belongs proposition.subject.name individual ∧
      interpretation.Describes proposition.predicate individual) ↔ _
  constructor
  · rintro ⟨individual, member, described⟩
    obtain ⟨region, lies⟩ := exists_liesIn subjectNamed member
    have supports := (lies.mem_supporting_iff found quantified).2 ⟨member, described⟩
    exact ⟨region, supports, individual, lies⟩
  · rintro ⟨region, supports, individual, lies⟩
    exact ⟨individual, (lies.mem_supporting_iff found quantified).1 supports⟩

/-- A particular proposition is true when a supporting region is occupied. -/
theorem satisfies_particular_iff
    (found : diagram.bearing? proposition = some bearing)
    (particular : proposition.subject.quantifier = some .particular) :
    interpretation.Satisfies proposition ↔
      ∃ region ∈ bearing.supporting, interpretation.Occupies diagram region := by
  have quantified : proposition.subject.quantifier ≠ none := by
    rw [particular]
    exact Option.some_ne_none _
  rw [← satisfies_subaltern_iff found quantified,
    Proposition.subaltern_eq_self particular]

/-- A universal proposition is true when no opposing region is occupied. -/
theorem satisfies_universal_iff
    (found : diagram.bearing? proposition = some bearing)
    (universal : proposition.subject.quantifier = some .universal) :
    interpretation.Satisfies proposition ↔
      ∀ region ∈ bearing.opposing, ¬ interpretation.Occupies diagram region := by
  have subjectNamed := Diagram.subject_mem_names found
  unfold Satisfies
  rw [universal]
  constructor
  · rintro describes region opposes ⟨individual, lies⟩
    obtain ⟨member, undescribed⟩ := (lies.mem_opposing_iff found universal).1 opposes
    exact undescribed (describes individual member)
  · intro vacant individual member
    apply Classical.byContradiction
    intro undescribed
    obtain ⟨region, lies⟩ := exists_liesIn subjectNamed member
    have opposes := (lies.mem_opposing_iff found universal).2 ⟨member, undescribed⟩
    exact vacant region opposes ⟨individual, lies⟩

end Interpretation
end Syllogistic
