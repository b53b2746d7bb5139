import Syllogistic.Chart.Judgement
import Syllogistic.Proofs.Interpretation.Occupation

/-!
# Realizations of a chart

An interpretation realizes a chart with some groups of regions when it leaves the
forced-empty regions vacant and occupies a region of each group.  The test for a
definite area looks at one group at a time.  It is exact all the same: where no
group is left with a region inside the area only, the regions outside the area
that are not forced empty realize the chart.
-/

namespace Syllogistic

universe u

/-- The interpretation fits a chart and has a witness in each group of regions. -/
structure Interpretation.Realizes (interpretation : Interpretation.{u}) (chart : Chart)
    (groups : List (List Region)) : Prop where
  vacant : ∀ region, chart.isForcedEmpty region = true →
    ¬ interpretation.Occupies chart.diagram region
  witnessed : ∀ group ∈ groups, ∃ region ∈ group,
    interpretation.Occupies chart.diagram region

namespace Chart

variable {chart : Chart} {groups : List (List Region)}

@[simp] theorem mem_unexcluded_iff {regions : List Region} {region : Region} :
    region ∈ chart.unexcluded regions ↔
      region ∈ regions ∧ chart.isForcedEmpty region = false := by
  unfold unexcluded
  rw [List.mem_filter, Bool.not_eq_true']

/-- Nothing is left of an area when all of its regions are forced empty. -/
theorem unexcluded_eq_nil_iff {area : List Region} :
    chart.unexcluded area = [] ↔ ∀ region ∈ area, chart.isForcedEmpty region = true := by
  rw [List.eq_nil_iff_forall_not_mem]
  simp only [mem_unexcluded_iff, not_and, Bool.not_eq_false]

/-- Under existential import the circle of a universal subject counts as a group. -/
theorem mem_groupsFor_iff
    {existentialImport : Bool}
    {subject : Term}
    {group : List Region} :
    group ∈ chart.groupsFor existentialImport subject ↔
      group ∈ chart.witnessGroups.keys ∨
        existentialImport = true ∧ subject.quantifier = some .universal ∧
          group = chart.diagram.circle subject.name := by
  unfold groupsFor
  rw [List.mem_append]
  apply or_congr_right
  split
  · rename_i imports
    rw [Bool.and_eq_true, decide_eq_true_eq] at imports
    simp [imports]
  · rename_i imports
    rw [Bool.and_eq_true, decide_eq_true_eq] at imports
    constructor
    · intro absurdity
      contradiction
    · rintro ⟨imported, universal, _⟩
      exact absurd ⟨imported, universal⟩ imports

/-- The groups are made of regions of the diagram. -/
def Draws (chart : Chart) (groups : List (List Region)) : Prop :=
  ∀ group ∈ groups, ∀ region ∈ group, region ∈ chart.diagram.regions

/-- Every group has a region that is not forced empty. -/
def Open (chart : Chart) (groups : List (List Region)) : Prop :=
  ∀ group ∈ groups, ∃ region ∈ group, chart.isForcedEmpty region = false

/-- The inhabited regions are none that is forced empty, and some region of each group. -/
structure Allows (chart : Chart) (groups : List (List Region)) (inhabited : Region → Prop) :
    Prop where
  drawn : ∀ region, inhabited region → region ∈ chart.diagram.regions
  free : ∀ region, inhabited region → chart.isForcedEmpty region = false
  meets : ∀ group ∈ groups, ∃ region ∈ group, inhabited region

/-- In a realization the occupied regions of an area are not forced empty. -/
theorem exists_occupied_unexcluded_iff
    {interpretation : Interpretation.{u}}
    (realizes : interpretation.Realizes chart groups)
    (area : List Region) :
    (∃ region ∈ chart.unexcluded area, interpretation.Occupies chart.diagram region) ↔
      ∃ region ∈ area, interpretation.Occupies chart.diagram region := by
  constructor
  · rintro ⟨region, member, occupied⟩
    exact ⟨region, (mem_unexcluded_iff.1 member).1, occupied⟩
  · rintro ⟨region, member, occupied⟩
    refine ⟨region, mem_unexcluded_iff.2 ⟨member, ?_⟩, occupied⟩
    rw [← Bool.not_eq_true]
    intro forced
    exact realizes.vacant region forced occupied

/-- An area without forced-empty regions realizes the groups that it meets. -/
theorem realizes_ofArea
    {area : Region → Prop}
    (drawn : chart.Draws groups)
    (free : ∀ region, area region → chart.isForcedEmpty region = false)
    (meets : ∀ group ∈ groups, ∃ region ∈ group, area region) :
    (Interpretation.ofArea.{u} chart.diagram area).Realizes chart groups where
  vacant region forced occupied := by
    have unforced := free region (Interpretation.occupies_ofArea_iff.1 occupied).2
    rw [forced] at unforced
    contradiction
  witnessed group member := by
    obtain ⟨region, inGroup, inArea⟩ := meets group member
    refine ⟨region, inGroup, Interpretation.occupies_ofArea_iff.2 ⟨?_, inArea⟩⟩
    exact drawn group member region inGroup

/-- Groups with a realization are open. -/
theorem open_of_realizes
    {interpretation : Interpretation.{u}}
    (realizes : interpretation.Realizes chart groups) :
    chart.Open groups := by
  intro group member
  obtain ⟨region, inGroup, occupied⟩ := realizes.witnessed group member
  refine ⟨region, inGroup, ?_⟩
  rw [← Bool.not_eq_true]
  intro forced
  exact realizes.vacant region forced occupied

/-- Open groups are realized together by all regions that are not forced empty. -/
theorem realizes_ofArea_unforced
    (drawn : chart.Draws groups)
    (isOpen : chart.Open groups) :
    (Interpretation.ofArea.{u} chart.diagram
      fun region => chart.isForcedEmpty region = false).Realizes chart groups :=
  realizes_ofArea drawn (fun _ free => free) isOpen

/-- Nothing is left of an area exactly when no realization occupies a region of it. -/
theorem unexcluded_eq_nil_iff_forall_realizes
    {area : List Region}
    (drawn : chart.Draws groups)
    (isOpen : chart.Open groups)
    (inside : area ⊆ chart.diagram.regions) :
    chart.unexcluded area = [] ↔
      ∀ interpretation : Interpretation.{u}, interpretation.Realizes chart groups →
        ∀ region ∈ area, ¬ interpretation.Occupies chart.diagram region := by
  rw [List.eq_nil_iff_forall_not_mem]
  constructor
  · intro nothing interpretation realizes region member occupied
    obtain ⟨left, remaining, _⟩ :=
      (exists_occupied_unexcluded_iff realizes area).2 ⟨region, member, occupied⟩
    exact nothing left remaining
  · intro vacant region remaining
    rw [mem_unexcluded_iff] at remaining
    apply vacant _ (realizes_ofArea_unforced drawn isOpen) region remaining.1
    rw [Interpretation.occupies_ofArea_iff]
    exact ⟨inside remaining.1, remaining.2⟩

section Definite

variable {existentialImport : Bool} {area : List Region} {subject : Term}

/-- An area is definite when what is left of some group is in it, and something is left. -/
theorem isDefinite_iff :
    chart.isDefinite existentialImport area subject = true ↔
      ∃ group ∈ chart.groupsFor existentialImport subject,
        (∃ region, region ∈ chart.unexcluded group) ∧
          ∀ region ∈ chart.unexcluded group, region ∈ area := by
  unfold isDefinite
  simp only [List.any_eq_true, Bool.and_eq_true, Bool.not_eq_true',
    List.isEmpty_eq_false_iff_exists_mem, List.all_eq_true, List.contains_iff_mem]

/-- A definite area is occupied in every realization. -/
theorem exists_occupied_of_isDefinite
    {interpretation : Interpretation.{u}}
    (definite : chart.isDefinite existentialImport area subject = true)
    (realizes : interpretation.Realizes chart
      (chart.groupsFor existentialImport subject)) :
    ∃ region ∈ area, interpretation.Occupies chart.diagram region := by
  obtain ⟨group, member, _, contained⟩ := isDefinite_iff.1 definite
  obtain ⟨region, remaining, occupied⟩ :=
    (exists_occupied_unexcluded_iff realizes group).2 (realizes.witnessed group member)
  exact ⟨region, contained region remaining, occupied⟩

/--
The test for a definite area is exact: where every group can have its witness, the area is
definite when it has a region in every pattern of inhabited regions that the chart allows.
-/
theorem isDefinite_iff_forall_allows
    (drawn : chart.Draws (chart.groupsFor existentialImport subject))
    (isOpen : chart.Open (chart.groupsFor existentialImport subject)) :
    chart.isDefinite existentialImport area subject = true ↔
      ∀ inhabited, chart.Allows (chart.groupsFor existentialImport subject) inhabited →
        ∃ region ∈ area, inhabited region := by
  constructor
  · intro definite inhabited allows
    obtain ⟨group, member, _, contained⟩ := isDefinite_iff.1 definite
    obtain ⟨region, inGroup, found⟩ := allows.meets group member
    have remaining := mem_unexcluded_iff.2 ⟨inGroup, allows.free region found⟩
    exact ⟨region, contained region remaining, found⟩
  · intro certain
    apply Classical.byContradiction
    intro indefinite
    let outside : Region → Prop := fun region =>
      region ∈ chart.diagram.regions ∧ chart.isForcedEmpty region = false ∧ region ∉ area
    -- What is left of each group reaches beyond the area, or the group would decide it.
    have meets : ∀ group ∈ chart.groupsFor existentialImport subject,
        ∃ region ∈ group, outside region := by
      intro group member
      apply Classical.byContradiction
      intro enclosed
      apply indefinite
      rw [isDefinite_iff]
      obtain ⟨free, inGroup, unforced⟩ := isOpen group member
      refine ⟨group, member, ⟨free, mem_unexcluded_iff.2 ⟨inGroup, unforced⟩⟩, ?_⟩
      intro region remaining
      rw [mem_unexcluded_iff] at remaining
      apply Classical.byContradiction
      intro beyond
      have placed := drawn group member region remaining.1
      exact enclosed ⟨region, remaining.1, placed, remaining.2, beyond⟩
    have allows : chart.Allows (chart.groupsFor existentialImport subject) outside :=
      ⟨fun _ beyond => beyond.1, fun _ beyond => beyond.2.1, meets⟩
    obtain ⟨region, inArea, beyond⟩ := certain outside allows
    exact beyond.2.2 inArea

/-- A definite area is one that every realization occupies. -/
theorem isDefinite_iff_forall_realizes
    (drawn : chart.Draws (chart.groupsFor existentialImport subject))
    (isOpen : chart.Open (chart.groupsFor existentialImport subject)) :
    chart.isDefinite existentialImport area subject = true ↔
      ∀ interpretation : Interpretation.{u},
        interpretation.Realizes chart (chart.groupsFor existentialImport subject) →
          ∃ region ∈ area, interpretation.Occupies chart.diagram region := by
  constructor
  · intro definite interpretation realizes
    exact exists_occupied_of_isDefinite definite realizes
  · intro certain
    rw [isDefinite_iff_forall_allows drawn isOpen]
    intro inhabited allows
    have realizes := realizes_ofArea.{u} drawn allows.free allows.meets
    obtain ⟨region, inArea, occupied⟩ := certain _ realizes
    exact ⟨region, inArea, (Interpretation.occupies_ofArea_iff.1 occupied).2⟩

/-- Whether what is left of an area is definite depends on the whole area only. -/
theorem isDefinite_unexcluded_iff_forall_realizes
    (drawn : chart.Draws (chart.groupsFor existentialImport subject))
    (isOpen : chart.Open (chart.groupsFor existentialImport subject)) :
    chart.isDefinite existentialImport (chart.unexcluded area) subject = true ↔
      ∀ interpretation : Interpretation.{u},
        interpretation.Realizes chart (chart.groupsFor existentialImport subject) →
          ∃ region ∈ area, interpretation.Occupies chart.diagram region := by
  rw [isDefinite_iff_forall_realizes drawn isOpen]
  apply forall_congr'
  intro interpretation
  apply forall_congr'
  intro realizes
  exact exists_occupied_unexcluded_iff realizes area

end Definite

end Chart
end Syllogistic
