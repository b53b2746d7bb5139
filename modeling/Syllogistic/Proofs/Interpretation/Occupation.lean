import Syllogistic.Interpretation
import Syllogistic.Proofs.Diagram.Bearing

/-!
# Occupied regions

An individual that belongs to a set with a circle lies in exactly one region, and
a region is occupied when some individual lies in it.  Any regions of a diagram are
those that some interpretation occupies.
-/

namespace Syllogistic

universe u

namespace Interpretation

/-- Some individual lies in the region. -/
def Occupies (interpretation : Interpretation.{u}) (diagram : Diagram) (region : Region) :
    Prop :=
  ∃ individual, interpretation.LiesIn diagram individual region

section Individuals

variable {interpretation : Interpretation.{u}} {diagram : Diagram}
  {individual : interpretation.Individual} {region : Region}

theorem LiesIn.contains_iff
    {name : String}
    {position : Nat}
    (lies : interpretation.LiesIn diagram individual region)
    (found : diagram.position? name = some position) :
    region.contains position = true ↔ interpretation.belongs name individual := by
  rw [Diagram.position?_eq_some_iff] at found
  rw [lies position]
  constructor
  · rintro ⟨other, atPosition, member⟩
    rw [found] at atPosition
    cases atPosition
    exact member
  · intro member
    exact ⟨name, found, member⟩

theorem LiesIn.mem_regions
    (lies : interpretation.LiesIn diagram individual region) :
    region ∈ diagram.regions := by
  rw [Diagram.mem_regions]
  intro position inside
  obtain ⟨name, atPosition, _⟩ := (lies position).1 inside
  exact Diagram.position_lt_size (Diagram.position?_eq_some_iff.2 atPosition)

/-- An individual of a set with a circle lies in a region. -/
theorem exists_liesIn
    {name : String}
    (named : name ∈ diagram.names)
    (member : interpretation.belongs name individual) :
    ∃ region, interpretation.LiesIn diagram individual region := by
  apply Region.exists_contains_iff
  · rintro position ⟨other, atPosition, _⟩
    have within := Diagram.position_lt_size (Diagram.position?_eq_some_iff.2 atPosition)
    have few := diagram.size_le_three
    omega
  · obtain ⟨position, found⟩ := Diagram.exists_position?_iff.2 named
    exact ⟨position, name, Diagram.position?_eq_some_iff.1 found, member⟩

theorem LiesIn.complies_iff
    {predicate : Term}
    {position : Nat}
    (lies : interpretation.LiesIn diagram individual region)
    (found : diagram.position? predicate.name = some position) :
    Diagram.complies predicate.negated position region = true ↔
      interpretation.Describes predicate individual := by
  unfold Diagram.complies Describes
  rw [← lies.contains_iff found]
  cases predicate.negated <;> simp

variable {proposition : Proposition} {bearing : Bearing}

/-- Individuals in the supporting regions are what subject and predicate describe. -/
theorem LiesIn.mem_supporting_iff
    (lies : interpretation.LiesIn diagram individual region)
    (found : diagram.bearing? proposition = some bearing)
    (quantified : proposition.subject.quantifier ≠ none) :
    region ∈ bearing.supporting ↔
      interpretation.belongs proposition.subject.name individual ∧
        interpretation.Describes proposition.predicate individual := by
  obtain ⟨subject, predicate, subjectFound, predicateFound⟩ :=
    Diagram.exists_positions_of_bearing? found
  rw [Diagram.mem_supporting_iff found quantified subjectFound predicateFound,
    and_iff_right lies.mem_regions, lies.contains_iff subjectFound,
    lies.complies_iff predicateFound]

/-- Individuals in the opposing regions are the counterexamples. -/
theorem LiesIn.mem_opposing_iff
    (lies : interpretation.LiesIn diagram individual region)
    (found : diagram.bearing? proposition = some bearing)
    (universal : proposition.subject.quantifier = some .universal) :
    region ∈ bearing.opposing ↔
      interpretation.belongs proposition.subject.name individual ∧
        ¬ interpretation.Describes proposition.predicate individual := by
  obtain ⟨subject, predicate, subjectFound, predicateFound⟩ :=
    Diagram.exists_positions_of_bearing? found
  rw [Diagram.mem_opposing_iff found universal subjectFound predicateFound,
    and_iff_right lies.mem_regions, lies.contains_iff subjectFound,
    ← lies.complies_iff predicateFound, Bool.not_eq_true]

end Individuals

/-- A set has an element when a region in its circle is occupied. -/
theorem inhabits_iff
    {interpretation : Interpretation.{u}}
    {diagram : Diagram}
    {name : String}
    (named : name ∈ diagram.names) :
    interpretation.Inhabits name ↔
      ∃ region ∈ diagram.circle name, interpretation.Occupies diagram region := by
  obtain ⟨position, found⟩ := Diagram.exists_position?_iff.2 named
  unfold Inhabits
  constructor
  · rintro ⟨individual, member⟩
    obtain ⟨region, lies⟩ := exists_liesIn named member
    refine ⟨region, (Diagram.mem_circle_iff found).2 ⟨lies.mem_regions, ?_⟩,
      individual, lies⟩
    exact (lies.contains_iff found).2 member
  · rintro ⟨region, inCircle, individual, lies⟩
    have inside := ((Diagram.mem_circle_iff found).1 inCircle).2
    exact ⟨individual, (lies.contains_iff found).1 inside⟩

/--
The interpretation whose individuals are the regions of a diagram in an area, each
an element of the sets whose circles it lies inside.
-/
def ofArea (diagram : Diagram) (area : Region → Prop) : Interpretation.{u} where
  Individual := ULift.{u} {region : Region // region ∈ diagram.regions ∧ area region}
  belongs name individual :=
    ∃ position, diagram.position? name = some position ∧
      individual.down.val.contains position = true

section Areas

variable {diagram : Diagram} {area : Region → Prop}

/-- As an individual, a region lies in itself. -/
theorem liesIn_ofArea_self
    (individual : (ofArea.{u} diagram area).Individual) :
    (ofArea.{u} diagram area).LiesIn diagram individual individual.down.val := by
  intro position
  constructor
  · intro inside
    have within := Diagram.mem_regions.1 individual.down.property.1 position inside
    have atPosition := List.getElem?_eq_getElem within
    exact ⟨_, atPosition, position, Diagram.position?_eq_some_iff.2 atPosition, inside⟩
  · rintro ⟨name, atPosition, other, found, inside⟩
    rw [Diagram.position?_eq_some_iff.2 atPosition] at found
    cases found
    exact inside

/-- The regions of an area are those that its interpretation occupies. -/
@[simp] theorem occupies_ofArea_iff {region : Region} :
    (ofArea.{u} diagram area).Occupies diagram region ↔
      region ∈ diagram.regions ∧ area region := by
  constructor
  · rintro ⟨individual, lies⟩
    rw [lies.unique (liesIn_ofArea_self individual)]
    exact individual.down.property
  · intro member
    exact ⟨⟨region, member⟩, liesIn_ofArea_self ⟨region, member⟩⟩

end Areas

end Interpretation
end Syllogistic
