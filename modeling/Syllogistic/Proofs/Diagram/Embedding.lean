import Syllogistic.Proofs.Diagram.Bearing

/-!
# One diagram in another

The names of a diagram may be sent to names of another, each to a name of its own.  A
region of the other diagram then restricts to a region of the first: the one inside just
those circles whose images are around it.  Every region of the first diagram is such a
restriction, and every region inside the image of some circle has one.  The regions that
count for and against a proposition are those that restrict to regions that do so for it
in the first diagram.  If the other diagram has no further names, a region and the one that
restricts to it are inside the circles of the same sets.
-/

namespace Syllogistic

/-- The term for the set of another name. -/
def Term.rename (rename : String → String) (term : Term) : Term :=
  { term with name := rename term.name }

/-- The proposition about the sets of other names. -/
def Proposition.rename (rename : String → String) (proposition : Proposition) : Proposition :=
  ⟨proposition.subject.rename rename, proposition.predicate.rename rename⟩

@[simp] theorem Proposition.rename_id (proposition : Proposition) :
    proposition.rename id = proposition := rfl

/-- The two lists of regions are matched by a relation that leaves no region of either out. -/
structure Region.Matches (related : Region → Region → Prop) (area wide : List Region) :
    Prop where
  mem_iff : ∀ region wider, related region wider → (region ∈ area ↔ wider ∈ wide)
  widened : ∀ region ∈ area, ∃ wider, related region wider
  narrowed : ∀ wider ∈ wide, ∃ region, related region wider

namespace Region.Matches

variable {related : Region → Region → Prop} {area other wide wideOther : List Region}

/-- A region is in the wider list when it is related to one in the list. -/
theorem mem_wide_iff (sides : Matches related area wide) {wider : Region} :
    wider ∈ wide ↔ ∃ region ∈ area, related region wider := by
  constructor
  · intro member
    obtain ⟨region, close⟩ := sides.narrowed wider member
    exact ⟨region, (sides.mem_iff region wider close).2 member, close⟩
  · rintro ⟨region, member, close⟩
    exact (sides.mem_iff region wider close).1 member

/-- One list has a region when the other does. -/
theorem exists_mem_iff (sides : Matches related area wide) :
    (∃ region, region ∈ area) ↔ ∃ wider, wider ∈ wide := by
  constructor
  · rintro ⟨region, member⟩
    obtain ⟨wider, close⟩ := sides.widened region member
    exact ⟨wider, (sides.mem_iff region wider close).1 member⟩
  · rintro ⟨wider, member⟩
    obtain ⟨region, inArea, _⟩ := sides.mem_wide_iff.1 member
    exact ⟨region, inArea⟩

theorem isEmpty_eq (sides : Matches related area wide) : area.isEmpty = wide.isEmpty := by
  rw [← Bool.not_inj_iff, Bool.eq_iff_iff, Bool.not_eq_true', Bool.not_eq_true',
    List.isEmpty_eq_false_iff_exists_mem, List.isEmpty_eq_false_iff_exists_mem,
    sides.exists_mem_iff]

/-- Lists that are matched include others when those that match them do. -/
theorem subset_iff
    (sides : Matches related area wide)
    (others : Matches related other wideOther) :
    (∀ region ∈ area, region ∈ other) ↔ ∀ wider ∈ wide, wider ∈ wideOther := by
  constructor
  · intro included wider member
    obtain ⟨region, inArea, close⟩ := sides.mem_wide_iff.1 member
    exact (others.mem_iff region wider close).1 (included region inArea)
  · intro included region member
    obtain ⟨wider, close⟩ := sides.widened region member
    have inWide := (sides.mem_iff region wider close).1 member
    exact (others.mem_iff region wider close).2 (included wider inWide)

end Region.Matches

namespace Diagram

/-- The names of one diagram are sent to names of another, each to a name of its own. -/
structure Embeds (rename : String → String) (inner outer : Diagram) : Prop where
  mapped : ∀ name ∈ inner.names, rename name ∈ outer.names
  apart : ∀ name ∈ inner.names, ∀ other ∈ inner.names, rename name = rename other → name = other

/--
The wider diagram's region, all circles left out but the images of those of the first
diagram, is a region of the first.
-/
structure Restricts (rename : String → String) (inner outer : Diagram) (region wider : Region) :
    Prop where
  drawn : region ∈ inner.regions
  widely : wider ∈ outer.regions
  circles : ∀ name ∈ inner.names, region ∈ inner.circle name ↔ wider ∈ outer.circle (rename name)

variable {rename : String → String} {inner outer : Diagram}

/-- No region restricts to two regions. -/
theorem Restricts.unique
    {left right wider : Region}
    (leftRestricts : Restricts rename inner outer left wider)
    (rightRestricts : Restricts rename inner outer right wider) :
    left = right := by
  apply eq_of_mem_circle_iff leftRestricts.drawn rightRestricts.drawn
  intro name named
  rw [leftRestricts.circles name named, rightRestricts.circles name named]

/-- Every region inside the image of a circle has a restriction. -/
theorem exists_restricted
    {name : String}
    {wider : Region}
    (named : name ∈ inner.names)
    (inside : wider ∈ outer.circle (rename name)) :
    ∃ region, Restricts rename inner outer region wider := by
  obtain ⟨region, drawn, circles⟩ := @exists_mem_circle_iff inner name
    (fun other => wider ∈ outer.circle (rename other)) named inside
  exact ⟨region, drawn, outer.circle_subset_regions _ inside, circles⟩

/--
The regions of two diagrams are inside the circles of the same sets, each under its name in
the diagram: the names around the second are the new names of those around the first.
-/
structure Renames (rename : String → String) (inner outer : Diagram) (region other : Region) :
    Prop where
  drawn : region ∈ inner.regions
  alsoDrawn : other ∈ outer.regions
  names : ∀ name, name ∈ outer.namesAround other ↔
    ∃ own ∈ inner.namesAround region, rename own = name

/-- Where every name of the second diagram is a new name, restriction leaves no circle out. -/
theorem Restricts.renames
    {region wider : Region}
    (restricts : Restricts rename inner outer region wider)
    (onto : ∀ name ∈ outer.names, ∃ own ∈ inner.names, rename own = name) :
    Renames rename inner outer region wider where
  drawn := restricts.drawn
  alsoDrawn := restricts.widely
  names name := by
    simp only [mem_namesAround_iff restricts.drawn, mem_namesAround_iff restricts.widely]
    constructor
    · intro inside
      obtain ⟨own, named, rfl⟩ := onto name (mem_names_of_mem_circle inside)
      exact ⟨own, (restricts.circles own named).2 inside, rfl⟩
    · rintro ⟨own, inside, rfl⟩
      exact (restricts.circles own (mem_names_of_mem_circle inside)).1 inside

namespace Embeds

/-- Every region of the first diagram is a restriction. -/
theorem exists_wider
    (embeds : inner.Embeds rename outer)
    {region : Region}
    (drawn : region ∈ inner.regions) :
    ∃ wider, Restricts rename inner outer region wider := by
  obtain ⟨name, named, inside⟩ := exists_mem_circle drawn
  obtain ⟨wider, widely, circles⟩ := @exists_mem_circle_iff outer (rename name)
    (fun image => ∃ name ∈ inner.names, rename name = image ∧ region ∈ inner.circle name)
    (embeds.mapped name named) ⟨name, named, rfl, inside⟩
  refine ⟨wider, drawn, widely, fun other otherNamed => ?_⟩
  rw [circles (rename other) (embeds.mapped other otherNamed)]
  constructor
  · intro member
    exact ⟨other, otherNamed, rfl, member⟩
  · rintro ⟨preimage, preimageNamed, same, member⟩
    rwa [← embeds.apart preimage preimageNamed other otherNamed same]

/-- Lists inside one circle and its image are matched when restriction respects them. -/
theorem matches_of_circle
    {name : String}
    {area wide : List Region}
    (embeds : inner.Embeds rename outer)
    (named : name ∈ inner.names)
    (within : ∀ region ∈ area, region ∈ inner.circle name)
    (widelyWithin : ∀ wider ∈ wide, wider ∈ outer.circle (rename name))
    (respected : ∀ region wider, Restricts rename inner outer region wider →
      (region ∈ area ↔ wider ∈ wide)) :
    Region.Matches (Restricts rename inner outer) area wide where
  mem_iff := respected
  widened region member :=
    embeds.exists_wider (inner.circle_subset_regions name (within region member))
  narrowed wider member := exists_restricted named (widelyWithin wider member)

theorem matches_circle
    {name : String}
    (embeds : inner.Embeds rename outer)
    (named : name ∈ inner.names) :
    Region.Matches (Restricts rename inner outer) (inner.circle name)
      (outer.circle (rename name)) :=
  embeds.matches_of_circle named (fun _ member => member) (fun _ member => member)
    fun _ _ restricts => restricts.circles name named

section Bearings

variable {proposition : Proposition} {bearing wideBearing : Bearing}

/-- A proposition about names of the first diagram has a bearing in both. -/
theorem exists_bearing?
    (embeds : inner.Embeds rename outer)
    (named : ∀ name ∈ proposition.names, name ∈ inner.names) :
    ∃ bearing wideBearing, inner.bearing? proposition = some bearing ∧
      outer.bearing? (proposition.rename rename) = some wideBearing := by
  obtain ⟨bearing, found⟩ := Diagram.exists_bearing? named
  have widelyNamed : ∀ name ∈ (proposition.rename rename).names, name ∈ outer.names := by
    change ∀ name ∈ proposition.names.map rename, name ∈ outer.names
    rw [List.forall_mem_map]
    exact fun name member => embeds.mapped name (named name member)
  obtain ⟨wideBearing, widelyFound⟩ := Diagram.exists_bearing? widelyNamed
  exact ⟨bearing, wideBearing, found, widelyFound⟩

theorem matches_supporting
    (embeds : inner.Embeds rename outer)
    (found : inner.bearing? proposition = some bearing)
    (widelyFound : outer.bearing? (proposition.rename rename) = some wideBearing)
    (quantified : proposition.subject.quantifier ≠ none) :
    Region.Matches (Restricts rename inner outer) bearing.supporting wideBearing.supporting := by
  have subjectNamed := subject_mem_names found
  have predicateNamed := predicate_mem_names found
  apply embeds.matches_of_circle subjectNamed
  · exact fun region member => ((mem_supporting_iff_circle found quantified).1 member).1
  · exact fun wider member => ((mem_supporting_iff_circle widelyFound quantified).1 member).1
  · intro region wider restricts
    rw [mem_supporting_iff_circle found quantified,
      mem_supporting_iff_circle widelyFound quantified,
      restricts.circles _ subjectNamed, restricts.circles _ predicateNamed]
    rfl

theorem matches_opposing
    (embeds : inner.Embeds rename outer)
    (found : inner.bearing? proposition = some bearing)
    (widelyFound : outer.bearing? (proposition.rename rename) = some wideBearing)
    (universal : proposition.subject.quantifier = some .universal) :
    Region.Matches (Restricts rename inner outer) bearing.opposing wideBearing.opposing := by
  have subjectNamed := subject_mem_names found
  have predicateNamed := predicate_mem_names found
  apply embeds.matches_of_circle subjectNamed
  · exact fun region member => ((mem_opposing_iff_circle found universal).1 member).1
  · exact fun wider member => ((mem_opposing_iff_circle widelyFound universal).1 member).1
  · intro region wider restricts
    rw [mem_opposing_iff_circle found universal,
      mem_opposing_iff_circle widelyFound universal,
      restricts.circles _ subjectNamed, restricts.circles _ predicateNamed]
    rfl

end Bearings

end Embeds
end Diagram
end Syllogistic
