import Mathlib.Data.List.Nodup
import Syllogistic.Proofs.Chart.Records

/-!
# Conflicts among the premises of a chart

A particular premise is stranded when universal premises empty every region in which its
witness could be.  The conflicts of a chart are the reports on its stranded premises: one
for each, which lists the texts of all universal premises that take a region from it.  Those
premises and the stranded one are already more than any interpretation can satisfy.
-/

namespace Syllogistic

universe u

namespace Diagram

/-- The premise empties some region in which the witness of another could be. -/
def Narrows (diagram : Diagram) (premise witness : Statement) : Prop :=
  ∃ bearing, diagram.bearing? witness.proposition = some bearing ∧
    ∃ region ∈ bearing.supporting, diagram.excludes region premise = true

/-- The statement is particular, and some premise empties each region that supports it. -/
structure Strands (diagram : Diagram) (premises : List Statement) (witness : Statement) :
    Prop where
  particular : witness.quantifier = some .particular
  emptied : ∃ bearing, diagram.bearing? witness.proposition = some bearing ∧
    ∀ region ∈ bearing.supporting, ∃ premise ∈ premises,
      diagram.excludes region premise = true

/-- A statement that asserts a group is stranded when the premises empty the whole group. -/
theorem strands_iff_of_asserts
    {diagram : Diagram}
    {group : List Region}
    {premises : List Statement}
    {witness : Statement}
    (asserts : diagram.asserts group witness = true) :
    diagram.Strands premises witness ↔
      ∀ region ∈ group, ∃ premise ∈ premises, diagram.excludes region premise = true := by
  obtain ⟨particular, bearing, found, rfl⟩ := asserts_iff.1 asserts
  constructor
  · rintro ⟨_, other, alsoFound, emptied⟩
    rw [found] at alsoFound
    cases alsoFound
    exact emptied
  · exact fun emptied => ⟨particular, bearing, found, emptied⟩

/-- A premise that is stranded asserts some group. -/
theorem Strands.exists_asserts
    {diagram : Diagram}
    {premises : List Statement}
    {witness : Statement}
    (strands : diagram.Strands premises witness) :
    ∃ group, diagram.asserts group witness = true := by
  obtain ⟨particular, bearing, found, _⟩ := strands
  exact ⟨bearing.supporting, asserts_iff.2 ⟨particular, bearing, found, rfl⟩⟩

theorem narrows_iff_of_asserts
    {diagram : Diagram}
    {group : List Region}
    {premise witness : Statement}
    (asserts : diagram.asserts group witness = true) :
    diagram.Narrows premise witness ↔
      ∃ region ∈ group, diagram.excludes region premise = true := by
  obtain ⟨_, bearing, found, rfl⟩ := asserts_iff.1 asserts
  simp [Narrows, found]

end Diagram

namespace Conflict

/--
The conflict is about the premise `witness`, which the premises strand.  It lists the texts
of those premises that take a region from it, and each text once.
-/
structure Reports (conflict : Conflict) (diagram : Diagram) (premises : List Statement)
    (witness : Statement) : Prop where
  stated : witness ∈ premises
  stranded : diagram.Strands premises witness
  witness_eq : conflict.witness = witness.text
  distinct : conflict.exclusions.Nodup
  mem_exclusions_iff : ∀ text, text ∈ conflict.exclusions ↔
    ∃ premise ∈ premises, diagram.Narrows premise witness ∧ premise.text = text

/-- The universal premises whose texts the conflict lists. -/
def accused (conflict : Conflict) (premises : List Statement) : List Statement :=
  premises.filter fun premise =>
    premise.quantifier = some .universal && conflict.exclusions.contains premise.text

/-- A premise that takes a region from the witness is accused. -/
theorem Reports.mem_accused
    {conflict : Conflict}
    {diagram : Diagram}
    {premises : List Statement}
    {premise witness : Statement}
    (reports : conflict.Reports diagram premises witness)
    (stated : premise ∈ premises)
    (narrows : diagram.Narrows premise witness) :
    premise ∈ conflict.accused premises := by
  have listed := (reports.mem_exclusions_iff premise.text).2 ⟨premise, stated, narrows, rfl⟩
  obtain ⟨_, _, _, _, excludes⟩ := narrows
  have universal := (Diagram.excludes_iff.1 excludes).1
  exact List.mem_filter.2 ⟨stated, by simp [universal, listed]⟩

/-- No interpretation satisfies the witness together with the accused premises. -/
theorem Reports.unsatisfiable
    {conflict : Conflict}
    {diagram : Diagram}
    {premises : List Statement}
    {witness : Statement}
    (reports : conflict.Reports diagram premises witness)
    (interpretation : Interpretation.{u}) :
    ¬ interpretation.SatisfiesAll (witness :: conflict.accused premises) := by
  intro satisfies
  obtain ⟨particular, bearing, found, emptied⟩ := reports.stranded
  have witnessed := satisfies witness List.mem_cons_self
  rw [Interpretation.satisfies_particular_iff found particular] at witnessed
  obtain ⟨region, supports, occupied⟩ := witnessed
  obtain ⟨premise, stated, excludes⟩ := emptied region supports
  have accused := reports.mem_accused stated ⟨bearing, found, region, supports, excludes⟩
  have holds := satisfies premise (List.mem_cons_of_mem _ accused)
  obtain ⟨universal, opposed, alsoFound, opposes⟩ := Diagram.excludes_iff.1 excludes
  rw [Interpretation.satisfies_universal_iff alsoFound universal] at holds
  exact holds region opposes occupied

end Conflict

/-- What is left of a list without repetitions has none. -/
theorem nodup_eraseDups {α : Type} [BEq α] [LawfulBEq α] (items : List α) :
    items.eraseDups.Nodup := by
  generalize bound : items.length = length
  induction length using Nat.strongRecOn generalizing items with
  | ind length inductionHypothesis =>
      cases items with
      | nil => exact List.nodup_nil
      | cons first rest =>
          have shorter : (rest.filter fun item => !item == first).length < length := by
            rw [← bound]
            exact Nat.lt_succ_of_le (List.length_filter_le _ _)
          rw [List.eraseDups_cons, List.nodup_cons]
          refine ⟨?_, inductionHypothesis _ shorter _ rfl⟩
          rw [List.mem_eraseDups, List.mem_filter]
          simp

namespace Chart

/-- The premises of a group that is emptied as a whole; of any other group there are none. -/
def strandedOf (chart : Chart) (group : List Region) (held : List Statement) :
    List Statement :=
  if group.all chart.isForcedEmpty then held else []

/-- The premises of the groups that are emptied as a whole, in the order of the groups. -/
def stranded (chart : Chart) : List Statement :=
  chart.witnessGroups.entries.flatMap fun entry => chart.strandedOf entry.1 entry.2

/-- The conflict of a stranded premise with the premises that empty its group. -/
def report (chart : Chart) (witness : Statement) : Conflict :=
  ⟨witness.text, chart.exclusions
    (((chart.diagram.bearing? witness.proposition).map Bearing.supporting).getD [])⟩

theorem strandedOf_sublist (chart : Chart) (group : List Region) (held : List Statement) :
    (chart.strandedOf group held).Sublist held := by
  unfold strandedOf
  split
  · exact List.Sublist.refl _
  · exact List.nil_sublist _

theorem mem_strandedOf_iff
    {chart : Chart}
    {group : List Region}
    {held : List Statement}
    {witness : Statement} :
    witness ∈ chart.strandedOf group held ↔
      witness ∈ held ∧ group.all chart.isForcedEmpty = true := by
  unfold strandedOf
  split
  · rename_i emptied
    exact (and_iff_left emptied).symm
  · rename_i mixed
    simp [mixed]

theorem report_of_asserts
    {chart : Chart}
    {group : List Region}
    {witness : Statement}
    (asserts : chart.diagram.asserts group witness = true) :
    chart.report witness = ⟨witness.text, chart.exclusions group⟩ := by
  obtain ⟨_, bearing, found, rfl⟩ := Diagram.asserts_iff.1 asserts
  rw [report, found]
  rfl

namespace Records

variable {chart : Chart} {premises : List Statement} {witness : Statement}

/-- The entries of the witness groups are the groups with the premises that assert them. -/
theorem mem_witnessGroups_entries_iff
    {group : List Region}
    {held : List Statement}
    (records : chart.Records premises) :
    (group, held) ∈ chart.witnessGroups.entries ↔
      premises.filter (chart.diagram.asserts group) = held ∧ held ≠ [] := by
  rw [Table.mem_entries_iff, records.recorded, get?_witnessGroups_ofStatements,
    Table.filed_eq_some_iff, diagram_ofStatements]

/-- The conflicts of a chart are the reports on its stranded premises. -/
theorem conflicts_eq_map_report (records : chart.Records premises) :
    chart.conflicts = chart.stranded.map chart.report := by
  rw [conflicts, stranded, List.map_flatMap]
  apply List.flatMap_congr
  rintro ⟨group, held⟩ entry
  obtain ⟨rfl, _⟩ := records.mem_witnessGroups_entries_iff.1 entry
  unfold conflictsOf strandedOf
  split
  · apply List.map_congr_left
    intro witness asserting
    rw [report_of_asserts (List.mem_filter.1 asserting).2]
  · rfl

/-- A premise is stranded among those of the group that it asserts. -/
theorem asserts_of_mem_strandedOf
    {group : List Region}
    {held : List Statement}
    (records : chart.Records premises)
    (entry : (group, held) ∈ chart.witnessGroups.entries)
    (member : witness ∈ chart.strandedOf group held) :
    chart.diagram.asserts group witness = true := by
  obtain ⟨rfl, _⟩ := records.mem_witnessGroups_entries_iff.1 entry
  exact (List.mem_filter.1 (mem_strandedOf_iff.1 member).1).2

/-- A premise is in the list when it asserts a group that is emptied as a whole. -/
theorem mem_stranded_iff (records : chart.Records premises) :
    witness ∈ chart.stranded ↔
      witness ∈ premises ∧ chart.diagram.Strands premises witness := by
  have emptied : ∀ {group : List Region}, chart.diagram.asserts group witness = true →
      (group.all chart.isForcedEmpty = true ↔ chart.diagram.Strands premises witness) := by
    intro group asserts
    rw [Diagram.strands_iff_of_asserts asserts, List.all_eq_true]
    simp only [records.isForcedEmpty_iff]
  unfold stranded
  rw [List.mem_flatMap]
  constructor
  · rintro ⟨⟨group, held⟩, entry, member⟩
    have asserts := records.asserts_of_mem_strandedOf entry member
    obtain ⟨rfl, _⟩ := records.mem_witnessGroups_entries_iff.1 entry
    obtain ⟨listed, forced⟩ := mem_strandedOf_iff.1 member
    exact ⟨(List.mem_filter.1 listed).1, (emptied asserts).1 forced⟩
  · rintro ⟨stated, strands⟩
    obtain ⟨group, asserts⟩ := strands.exists_asserts
    have listed : witness ∈ premises.filter (chart.diagram.asserts group) :=
      List.mem_filter.2 ⟨stated, asserts⟩
    exact ⟨(group, premises.filter (chart.diagram.asserts group)),
      records.mem_witnessGroups_entries_iff.2 ⟨rfl, List.ne_nil_of_mem listed⟩,
      mem_strandedOf_iff.2 ⟨listed, (emptied asserts).2 strands⟩⟩

/-- Distinct premises are stranded once each, for each asserts one group only. -/
theorem nodup_stranded
    (records : chart.Records premises)
    (distinct : premises.Nodup) :
    chart.stranded.Nodup := by
  unfold stranded
  rw [List.nodup_flatMap]
  constructor
  · rintro ⟨group, held⟩ entry
    obtain ⟨rfl, _⟩ := records.mem_witnessGroups_entries_iff.1 entry
    exact (distinct.filter _).sublist (chart.strandedOf_sublist _ _)
  · apply chart.witnessGroups.ascending.imp_of_mem
    intro earlier later earlierEntry laterEntry less witness inEarlier inLater
    have same := Diagram.asserts_unique
      (records.asserts_of_mem_strandedOf earlierEntry inEarlier)
      (records.asserts_of_mem_strandedOf laterEntry inLater)
    rw [same] at less
    exact StrictOrder.lt_irrefl later.1 less

/-- The texts listed against a group are those of the premises that empty a region of it. -/
theorem mem_exclusions_iff
    {group : List Region}
    {text : String}
    (records : chart.Records premises) :
    text ∈ chart.exclusions group ↔
      ∃ premise ∈ premises, (∃ region ∈ group,
        chart.diagram.excludes region premise = true) ∧ premise.text = text := by
  have listed : ∀ region, (chart.forcedEmpty.get? region).getD [] =
      premises.filter (chart.diagram.excludes region) := by
    intro region
    rw [records.recorded, get?_forcedEmpty_ofStatements, Table.getD_filed, diagram_ofStatements]
  unfold exclusions
  rw [List.mem_eraseDups, List.mem_map]
  simp only [List.mem_flatMap, listed, List.mem_filter]
  constructor
  · rintro ⟨premise, ⟨region, inGroup, stated, excludes⟩, rfl⟩
    exact ⟨premise, stated, ⟨region, inGroup, excludes⟩, rfl⟩
  · rintro ⟨premise, stated, ⟨region, inGroup, excludes⟩, rfl⟩
    exact ⟨premise, ⟨region, inGroup, stated, excludes⟩, rfl⟩

/-- The report on a stranded premise is about this premise and lists what it should. -/
theorem reports
    (records : chart.Records premises)
    (member : witness ∈ chart.stranded) :
    (chart.report witness).Reports chart.diagram premises witness := by
  obtain ⟨stated, strands⟩ := records.mem_stranded_iff.1 member
  obtain ⟨group, asserts⟩ := strands.exists_asserts
  rw [report_of_asserts asserts]
  constructor
  · exact stated
  · exact strands
  · rfl
  · exact nodup_eraseDups _
  · intro text
    simp only [records.mem_exclusions_iff, Diagram.narrows_iff_of_asserts asserts]

/-- Every conflict is the report on some premise. -/
theorem exists_reports_of_mem
    {conflict : Conflict}
    (records : chart.Records premises)
    (found : conflict ∈ chart.conflicts) :
    ∃ witness, conflict.Reports chart.diagram premises witness := by
  rw [records.conflicts_eq_map_report] at found
  obtain ⟨witness, member, rfl⟩ := List.mem_map.1 found
  exact ⟨witness, records.reports member⟩

/-- A premise has a report among the conflicts exactly when it is stranded. -/
theorem exists_reports_iff (records : chart.Records premises) :
    (∃ conflict ∈ chart.conflicts, conflict.Reports chart.diagram premises witness) ↔
      witness ∈ premises ∧ chart.diagram.Strands premises witness := by
  rw [records.conflicts_eq_map_report]
  constructor
  · rintro ⟨_, _, reports⟩
    exact ⟨reports.stated, reports.stranded⟩
  · intro strands
    have member := records.mem_stranded_iff.2 strands
    exact ⟨_, List.mem_map_of_mem member, records.reports member⟩

end Records
end Chart
end Syllogistic
