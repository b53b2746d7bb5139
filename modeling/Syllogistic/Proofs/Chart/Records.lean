import Syllogistic.Proofs.Chart.Contents
import Syllogistic.Proofs.Chart.Realization
import Syllogistic.Proofs.Interpretation.Opposition

/-!
# The chart of some premises

A chart records premises when it is the chart of that list and every premise is a
well-formed statement over its names.  The interpretations that satisfy the
premises are then the realizations of the chart with its witness groups, and the
premises conflict exactly when some witness group is forced empty as a whole.
-/

namespace Syllogistic

universe u

/-- The statement is well formed and its names have circles. -/
structure Diagram.Hosts (diagram : Diagram) (statement : Statement) : Prop where
  wellFormed : statement.proposition.WellFormed
  named : ∀ name ∈ statement.proposition.names, name ∈ diagram.names

/-- The chart is that of a list of well-formed statements over its names. -/
structure Chart.Records (chart : Chart) (premises : List Statement) : Prop where
  recorded : chart = Chart.ofStatements chart.diagram premises
  hosted : ∀ premise ∈ premises, chart.diagram.Hosts premise

/--
The interpretation satisfies the premises, and under existential import the subject
of a universal conclusion is not empty in it.
-/
structure Interpretation.Admissible (interpretation : Interpretation.{u})
    (existentialImport : Bool) (premises : List Statement) (conclusion : Proposition) :
    Prop where
  satisfies : interpretation.SatisfiesAll premises
  inhabits : existentialImport = true →
    conclusion.subject.quantifier = some .universal →
      interpretation.Inhabits conclusion.subject.name

namespace Chart
namespace Records

variable {chart : Chart} {premises : List Statement}

theorem isForcedEmpty_iff (records : chart.Records premises) {region : Region} :
    chart.isForcedEmpty region = true ↔
      ∃ premise ∈ premises, chart.diagram.excludes region premise = true := by
  rw [records.recorded, isForcedEmpty_ofStatements_iff, diagram_ofStatements]

theorem mem_keys_iff (records : chart.Records premises) {group : List Region} :
    group ∈ chart.witnessGroups.keys ↔
      ∃ premise ∈ premises, chart.diagram.asserts group premise = true := by
  rw [records.recorded, mem_keys_ofStatements_iff, diagram_ofStatements]

/-- Under a region of the diagram stand universal premises, and at least one. -/
theorem forcedEmpty_holds
    {region : Region}
    {held : List Statement}
    (records : chart.Records premises)
    (found : chart.forcedEmpty.get? region = some held) :
    region ∈ chart.diagram.regions ∧ held ≠ [] ∧
      ∀ premise ∈ held, premise ∈ premises ∧ premise.quantifier = some .universal := by
  rw [records.recorded, get?_forcedEmpty_ofStatements, Table.filed_eq_some_iff] at found
  obtain ⟨rfl, inhabited⟩ := found
  refine ⟨?_, inhabited, fun premise member => ?_⟩
  · obtain ⟨premise, member⟩ := List.exists_mem_of_ne_nil _ inhabited
    obtain ⟨_, bearing, bears, opposes⟩ :=
      Diagram.excludes_iff.1 (List.mem_filter.1 member).2
    exact (Diagram.opposing_sublist_regions bears).subset opposes
  · obtain ⟨stated, excludes⟩ := List.mem_filter.1 member
    exact ⟨stated, (Diagram.excludes_iff.1 excludes).1⟩

/-- Under a group of regions in order stand particular premises, and at least one. -/
theorem witnessGroups_holds
    {group : List Region}
    {held : List Statement}
    (records : chart.Records premises)
    (found : chart.witnessGroups.get? group = some held) :
    (group ≠ [] ∧ group.Pairwise (· < ·) ∧ ∀ region ∈ group, region ∈ chart.diagram.regions) ∧
      held ≠ [] ∧
        ∀ premise ∈ held, premise ∈ premises ∧ premise.quantifier = some .particular := by
  rw [records.recorded, get?_witnessGroups_ofStatements, Table.filed_eq_some_iff] at found
  obtain ⟨rfl, inhabited⟩ := found
  refine ⟨?_, inhabited, fun premise member => ?_⟩
  · obtain ⟨premise, member⟩ := List.exists_mem_of_ne_nil _ inhabited
    obtain ⟨stated, asserts⟩ := List.mem_filter.1 member
    obtain ⟨_, bearing, bears, rfl⟩ := Diagram.asserts_iff.1 asserts
    have wellFormed := (records.hosted premise stated).wellFormed
    have ordered := Diagram.supporting_sublist_regions bears
    refine ⟨?_, chart.diagram.pairwise_regions.sublist ordered, ordered.subset⟩
    exact Diagram.supporting_ne_nil bears wellFormed.subject_quantified wellFormed.names_differ
  · obtain ⟨stated, asserts⟩ := List.mem_filter.1 member
    exact ⟨stated, (Diagram.asserts_iff.1 asserts).1⟩

/-- The witness groups are made of regions of the diagram. -/
theorem draws_keys (records : chart.Records premises) :
    chart.Draws chart.witnessGroups.keys := by
  intro group member region inGroup
  obtain ⟨premise, _, asserts⟩ := records.mem_keys_iff.1 member
  obtain ⟨_, bearing, found, rfl⟩ := Diagram.asserts_iff.1 asserts
  exact (Diagram.supporting_sublist_regions found).subset inGroup

/-- So are all groups that count for a conclusion. -/
theorem draws_groupsFor
    (records : chart.Records premises)
    (existentialImport : Bool)
    (subject : Term) :
    chart.Draws (chart.groupsFor existentialImport subject) := by
  intro group member region inGroup
  rcases mem_groupsFor_iff.1 member with witnessed | ⟨_, _, imported⟩
  · exact records.draws_keys group witnessed region inGroup
  · rw [imported] at inGroup
    exact chart.diagram.circle_subset_regions subject.name inGroup

/-- The premises are true in just the realizations of their chart. -/
theorem satisfiesAll_iff
    (records : chart.Records premises)
    {interpretation : Interpretation.{u}} :
    interpretation.SatisfiesAll premises ↔
      interpretation.Realizes chart chart.witnessGroups.keys := by
  constructor
  · intro satisfies
    constructor
    · intro region forced
      obtain ⟨premise, member, excludes⟩ := records.isForcedEmpty_iff.1 forced
      obtain ⟨universal, bearing, found, opposes⟩ := Diagram.excludes_iff.1 excludes
      have holds := satisfies premise member
      rw [Interpretation.satisfies_universal_iff found universal] at holds
      exact holds region opposes
    · intro group inKeys
      obtain ⟨premise, member, asserts⟩ := records.mem_keys_iff.1 inKeys
      obtain ⟨particular, bearing, found, rfl⟩ := Diagram.asserts_iff.1 asserts
      have holds := satisfies premise member
      rwa [Interpretation.satisfies_particular_iff found particular] at holds
  · intro realizes premise member
    have hosted := records.hosted premise member
    obtain ⟨bearing, found⟩ := Diagram.exists_bearing? hosted.named
    cases quantifier : premise.quantifier with
    | none => exact absurd quantifier hosted.wellFormed.subject_quantified
    | some kind =>
        cases kind with
        | particular =>
            rw [Interpretation.satisfies_particular_iff found quantifier]
            apply realizes.witnessed
            rw [records.mem_keys_iff]
            exact ⟨premise, member,
              Diagram.asserts_iff.2 ⟨quantifier, bearing, found, rfl⟩⟩
        | universal =>
            rw [Interpretation.satisfies_universal_iff found quantifier]
            intro region opposes
            apply realizes.vacant
            rw [records.isForcedEmpty_iff]
            exact ⟨premise, member,
              Diagram.excludes_iff.2 ⟨quantifier, bearing, found, opposes⟩⟩

/-- Under existential import the circle of the subject is one more group to realize. -/
theorem admissible_iff
    (records : chart.Records premises)
    {interpretation : Interpretation.{u}}
    {existentialImport : Bool}
    {conclusion : Proposition}
    (named : conclusion.subject.name ∈ chart.diagram.names) :
    interpretation.Admissible existentialImport premises conclusion ↔
      interpretation.Realizes chart
        (chart.groupsFor existentialImport conclusion.subject) := by
  constructor
  · rintro ⟨satisfies, inhabits⟩
    have realizes := records.satisfiesAll_iff.1 satisfies
    refine ⟨realizes.vacant, fun group member => ?_⟩
    rcases mem_groupsFor_iff.1 member with witnessed | ⟨imports, universal, imported⟩
    · exact realizes.witnessed group witnessed
    · rw [imported, ← Interpretation.inhabits_iff named]
      exact inhabits imports universal
  · intro realizes
    constructor
    · rw [records.satisfiesAll_iff]
      refine ⟨realizes.vacant, fun group member => ?_⟩
      exact realizes.witnessed group (mem_groupsFor_iff.2 (Or.inl member))
    · intro imports universal
      rw [Interpretation.inhabits_iff named]
      exact realizes.witnessed _
        (mem_groupsFor_iff.2 (Or.inr ⟨imports, universal, rfl⟩))

/-- No conflict is found when every witness group is open. -/
theorem conflicts_eq_nil_iff (records : chart.Records premises) :
    chart.conflicts = [] ↔ chart.Open chart.witnessGroups.keys := by
  have filled : ∀ group witnesses, (group, witnesses) ∈ chart.witnessGroups.entries →
      witnesses ≠ [] := fun _ _ member =>
    (records.witnessGroups_holds (Table.mem_entries_iff.1 member)).2.1
  unfold conflicts Open Table.keys
  rw [List.flatMap_eq_nil_iff]
  simp only [List.forall_mem_map]
  constructor
  · rintro peaceful ⟨group, witnesses⟩ member
    have none := peaceful (group, witnesses) member
    unfold conflictsOf at none
    split at none
    · rw [List.map_eq_nil_iff] at none
      exact absurd none (filled group witnesses member)
    · rename_i mixed
      simpa [List.all_eq_true] using mixed
  · rintro isOpen ⟨group, witnesses⟩ member
    obtain ⟨region, inGroup, unforced⟩ := isOpen (group, witnesses) member
    unfold conflictsOf
    rw [if_neg]
    intro forced
    rw [List.all_eq_true] at forced
    rw [forced region inGroup] at unforced
    contradiction

/-- No conflict is found exactly when the premises are true in some interpretation. -/
theorem conflicts_eq_nil_iff_exists_satisfiesAll (records : chart.Records premises) :
    chart.conflicts = [] ↔
      ∃ interpretation : Interpretation.{u}, interpretation.SatisfiesAll premises := by
  rw [records.conflicts_eq_nil_iff]
  simp only [records.satisfiesAll_iff]
  constructor
  · intro isOpen
    exact ⟨_, realizes_ofArea_unforced records.draws_keys isOpen⟩
  · rintro ⟨interpretation, realizes⟩
    exact open_of_realizes realizes

end Records
end Chart
end Syllogistic
