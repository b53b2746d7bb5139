import Syllogistic.Proofs.Interpretation.Opposition

/-!
# Individuals as evidence

An individual is evidence about a proposition by the sets that it belongs to: a witness is
what subject and predicate describe, and a counterexample belongs to the subject only.  The
bearing of the proposition finds this evidence among the regions.  An individual lies in one
region, or outside all circles, where it is no evidence at all.
-/

namespace Syllogistic

universe u

/-- Turning the predicate over turns over which regions comply with it. -/
theorem Diagram.complies_not (negated : Bool) (position : Nat) :
    complies (!negated) position = (!complies negated position ·) := by
  funext region
  unfold complies
  cases negated <;> simp

/-- The contrary of a universal proposition is supported by what opposes the proposition. -/
theorem Diagram.bearing?_contrary
    {diagram : Diagram}
    {proposition : Proposition}
    {bearing : Bearing}
    (found : diagram.bearing? proposition = some bearing)
    (universal : proposition.subject.quantifier = some .universal) :
    diagram.bearing? proposition.contrary = some ⟨bearing.opposing, bearing.supporting⟩ := by
  obtain ⟨subject, predicate, subjectFound, predicateFound⟩ :=
    exists_positions_of_bearing? found
  rw [bearing?_of_universal universal subjectFound predicateFound] at found
  cases found
  have turned := @bearing?_of_universal diagram proposition.contrary subject predicate
    universal subjectFound predicateFound
  have negated : proposition.contrary.predicate.negated = !proposition.predicate.negated := rfl
  simp only [negated, complies_not, Bool.not_not] at turned
  exact turned

namespace Interpretation

/-- The individual is what the subject and the predicate of the proposition describe. -/
def Witnesses (interpretation : Interpretation.{u}) (proposition : Proposition)
    (individual : interpretation.Individual) : Prop :=
  interpretation.belongs proposition.subject.name individual ∧
    interpretation.Describes proposition.predicate individual

/-- The individual belongs to the subject, and the predicate does not describe it. -/
def Refutes (interpretation : Interpretation.{u}) (proposition : Proposition)
    (individual : interpretation.Individual) : Prop :=
  interpretation.belongs proposition.subject.name individual ∧
    ¬ interpretation.Describes proposition.predicate individual

/--
The bearing finds the individual.  Outside all circles it lies in no region and is no
evidence.  Otherwise it lies in one region of the diagram and in no other; that region
supports the proposition just when the individual is a witness, and opposes it, if it is
universal, just when the individual is a counterexample.
-/
structure Finds (interpretation : Interpretation.{u}) (diagram : Diagram)
    (proposition : Proposition) (bearing : Bearing)
    (individual : interpretation.Individual) : Prop where
  outside : (∀ name ∈ diagram.names, ¬ interpretation.belongs name individual) →
    (∀ region, ¬ interpretation.LiesIn diagram individual region) ∧
      ¬ interpretation.Witnesses proposition individual ∧
        ¬ interpretation.Refutes proposition individual
  inside : (∃ name ∈ diagram.names, interpretation.belongs name individual) →
    ∃ region ∈ diagram.regions,
      (∀ other, interpretation.LiesIn diagram individual other ↔ other = region) ∧
        (region ∈ bearing.supporting ↔ interpretation.Witnesses proposition individual) ∧
          (proposition.subject.quantifier = some .universal →
            (region ∈ bearing.opposing ↔ interpretation.Refutes proposition individual))

variable {interpretation : Interpretation.{u}} {diagram : Diagram} {proposition : Proposition}
  {bearing : Bearing} {individual : interpretation.Individual} {region : Region}

/-- An individual in a region belongs to some set with a circle. -/
theorem LiesIn.exists_belongs (lies : interpretation.LiesIn diagram individual region) :
    ∃ name ∈ diagram.names, interpretation.belongs name individual := by
  obtain ⟨name, named, inside⟩ := Diagram.exists_mem_circle lies.mem_regions
  obtain ⟨position, found⟩ := Diagram.exists_position?_iff.2 named
  have contains := ((Diagram.mem_circle_iff found).1 inside).2
  exact ⟨name, named, (lies.contains_iff found).1 contains⟩

/-- A bearing finds every individual. -/
theorem finds_of_bearing?
    (found : diagram.bearing? proposition = some bearing)
    (quantified : proposition.subject.quantifier ≠ none)
    (individual : interpretation.Individual) :
    interpretation.Finds diagram proposition bearing individual := by
  constructor
  · intro nowhere
    have foreign := nowhere _ (Diagram.subject_mem_names found)
    refine ⟨fun region lies => ?_, fun ⟨member, _⟩ => foreign member,
      fun ⟨member, _⟩ => foreign member⟩
    obtain ⟨name, named, member⟩ := lies.exists_belongs
    exact nowhere name named member
  · rintro ⟨name, named, member⟩
    obtain ⟨region, lies⟩ := exists_liesIn named member
    refine ⟨region, lies.mem_regions, fun other => ⟨fun alsoLies => alsoLies.unique lies, ?_⟩,
      lies.mem_supporting_iff found quantified, lies.mem_opposing_iff found⟩
    rintro rfl
    exact lies

/--
A well-formed proposition over the names of a diagram has a bearing, which finds every
individual of every interpretation.  If the proposition is universal, the bearing parts the
circle of the subject in two, and the contrary has the same halves the other way round.
Some region always supports the proposition, and these regions come in their order.
-/
theorem bearing_finds_individuals
    {diagram : Diagram}
    {proposition : Proposition}
    (wellFormed : proposition.WellFormed)
    (named : ∀ name ∈ proposition.names, name ∈ diagram.names) :
    ∃ bearing, diagram.bearing? proposition = some bearing ∧
      (∀ (interpretation : Interpretation.{u}) (individual : interpretation.Individual),
        interpretation.Finds diagram proposition bearing individual) ∧
      (proposition.subject.quantifier = some .universal →
        (bearing.supporting ++ bearing.opposing).Perm
            (diagram.circle proposition.subject.name) ∧
          (∀ region ∈ bearing.supporting, region ∉ bearing.opposing) ∧
            diagram.bearing? proposition.contrary =
              some ⟨bearing.opposing, bearing.supporting⟩) ∧
      bearing.supporting ≠ [] ∧ bearing.supporting.Pairwise (· < ·) := by
  obtain ⟨bearing, found⟩ := Diagram.exists_bearing? named
  have quantified := wellFormed.subject_quantified
  refine ⟨bearing, found, fun _ => finds_of_bearing? found quantified, fun universal => ?_,
    Diagram.supporting_ne_nil found quantified wellFormed.names_differ,
    diagram.pairwise_regions.sublist (Diagram.supporting_sublist_regions found)⟩
  exact ⟨Diagram.perm_circle found universal,
    Diagram.not_mem_opposing_of_mem_supporting found universal,
    Diagram.bearing?_contrary found universal⟩

/--
That all C are not B is supported by an individual that is in C alone, and opposed by one
that is in both.
-/
theorem bearing_finds_individuals_of_both_kinds :
    let diagram : Diagram := ⟨.ofList ["C", "B", "A"], by decide +kernel, by decide +kernel⟩
    let proposition := Proposition.categorical .universal "C" true "B"
    let interpretation : Interpretation.{0} :=
      ⟨Bool, fun name both => name = "C" ∨ name = "B" ∧ both = true⟩
    proposition.WellFormed ∧ (∀ name ∈ proposition.names, name ∈ diagram.names) ∧
      ∃ bearing, diagram.bearing? proposition = some bearing ∧
        (∃ region ∈ bearing.supporting, interpretation.LiesIn diagram false region) ∧
          ∃ region ∈ bearing.opposing, interpretation.LiesIn diagram true region := by
  intro diagram proposition interpretation
  have wellFormed : proposition.WellFormed := by decide
  have named : ∀ name ∈ proposition.names, name ∈ diagram.names := by decide +kernel
  obtain ⟨bearing, found, finds, _⟩ := bearing_finds_individuals.{0} wellFormed named
  have located (both : Bool) := (finds interpretation both).inside
    ⟨"C", named "C" List.mem_cons_self, .inl rfl⟩
  refine ⟨wellFormed, named, bearing, found, ?_, ?_⟩
  · obtain ⟨region, _, lies, supports, _⟩ := located false
    refine ⟨region, supports.2 ⟨.inl rfl, ?_⟩, (lies region).2 rfl⟩
    rintro (same | ⟨_, absurdity⟩)
    · exact absurd same (by decide)
    · cases absurdity
  · obtain ⟨region, _, lies, _, opposes⟩ := located true
    refine ⟨region, (opposes rfl).2 ⟨.inl rfl, fun outside => ?_⟩, (lies region).2 rfl⟩
    exact outside (.inr ⟨rfl, rfl⟩)

end Interpretation
end Syllogistic
