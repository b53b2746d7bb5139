import Syllogistic.Proofs.Diagram.Identifiers
import Syllogistic.Proofs.Model.Evaluation
import Syllogistic.Snapshot

/-!
# What a snapshot keeps

A snapshot puts the regions of a model under their identifiers.  It shows every region
with its label, and every forced-empty region with its premises, just when no two regions
of the diagram have the same identifier, which is a matter of the names alone.  Evaluations
are recorded in the order in which they are added.
-/

namespace Syllogistic

/-- An evaluation in words, with its marked regions identified by a diagram. -/
def Evaluation.record (diagram : Diagram) (evaluation : Evaluation) : EvaluationRecord :=
  ⟨evaluation.statement.text, evaluation.verdict, evaluation.marked.map diagram.identifier⟩

namespace Snapshot

/--
The snapshot shows every region of the chart under its identifier and nothing else: each
region with its own label, and each forced-empty one with the texts of its premises.
-/
structure Shows (snapshot : Snapshot) (chart : Chart) : Prop where
  size_regions : snapshot.regions.size + 1 = Nat.pow 2 chart.diagram.names.size
  labelled : ∀ region ∈ chart.diagram.regions,
    snapshot.regions.get? (chart.diagram.identifier region) =
      some (chart.diagram.label region)
  size_forcedEmpty : snapshot.forcedEmpty.size = chart.forcedEmpty.size
  justified : ∀ region premises, chart.forcedEmpty.get? region = some premises →
    snapshot.forcedEmpty.get? (chart.diagram.identifier region) =
      some (premises.map Statement.text)

variable {chart : Chart} {statements : List Statement}

/-- Where no two regions are written alike, no two forced-empty regions are. -/
theorem nodup_forcedEmpty_identifiers
    (records : chart.Records statements)
    (distinct : (chart.diagram.regions.map chart.diagram.identifier).Nodup) :
    (chart.forcedEmpty.keys.map chart.diagram.identifier).Nodup := by
  have drawn : ∀ region ∈ chart.forcedEmpty.keys, region ∈ chart.diagram.regions := by
    intro region key
    obtain ⟨premises, found⟩ := Option.isSome_iff_exists.1 (Table.mem_keys_iff.1 key)
    exact (records.forcedEmpty_holds found).1
  apply List.Nodup.map_on _ chart.forcedEmpty.keySet.nodup_toList
  intro left leftKey right rightKey same
  exact List.inj_on_of_nodup_map distinct (drawn left leftKey) (drawn right rightKey) same

/-- The snapshot of a chart shows it just when no two regions are written alike. -/
theorem shows_ofChart_iff (records : chart.Records statements) :
    (ofChart chart).Shows chart ↔ Diagram.Legible chart.diagram.names.toList := by
  rw [← Diagram.nodup_identifiers_iff]
  constructor
  · intro shows
    exact Diagram.nodup_identifiers_of_get?_labels shows.labelled
  · intro distinct
    have forced := nodup_forcedEmpty_identifiers records distinct
    rw [Table.keys, List.map_map] at forced
    constructor
    · rw [← Diagram.size_add_one, ← Diagram.size_labels distinct]
      rfl
    · intro region drawn
      exact Diagram.get?_labels distinct drawn
    · unfold ofChart
      rw [Table.size_ofList, List.length_map, Table.size]
      rwa [List.map_map]
    · intro region premises found
      apply Table.get?_ofList_of_mem
      · rwa [List.map_map]
      · exact List.mem_map.2 ⟨(region, premises), Table.mem_entries_iff.2 found, rfl⟩

end Snapshot

namespace Model

/--
The snapshot of a built model shows all regions and all forced-empty regions of its chart
just when the names of the model are legible.
-/
theorem snapshot_shows_iff
    {model : Model}
    (reachable : model.Reachable)
    (built : model.isBuilt = true) :
    ∃ chart, model.chart? = some chart ∧ chart.diagram.names = model.names ∧
      ((Snapshot.ofModel model).Shows chart ↔ Diagram.Legible model.names.toList) := by
  obtain ⟨chart, stage, names, records⟩ := reachable.exists_records built
  have charted : model.chart? = some chart := by
    unfold chart?
    rw [stage]
  refine ⟨chart, charted, names, ?_⟩
  unfold Snapshot.ofModel
  rw [charted, ← names]
  exact Snapshot.shows_ofChart_iff records

/-- Names that share letters and begin alike can still be told apart. -/
theorem snapshot_shows_of_shared_letters :
    let premise := Statement.ofProposition (.categorical .universal "CAT" false "AT")
    let model := (empty Config.default).run [.add premise, .declare "C", .build]
    model.isBuilt = true ∧ ∃ chart, model.chart? = some chart ∧
      (Snapshot.ofModel model).Shows chart := by
  intro premise model
  have built : model.isBuilt = true := by decide +kernel
  obtain ⟨chart, charted, _, legible⟩ := snapshot_shows_iff ⟨_, _, rfl⟩ built
  have names : model.names.toList = ["AT", "C", "CAT"] := by decide +kernel
  refine ⟨built, chart, charted, legible.2 ?_⟩
  rw [names]
  exact ⟨by decide, by decide, by decide, by decide⟩

/--
With the names `A`, `AB` and `B` the snapshot shows six of the seven regions, and three of
the four that the premises empty: what is in `A` and `B` is written like what is in `AB`.
-/
theorem snapshot_loses_region :
    let first := Statement.ofProposition (.categorical .universal "A" true "B")
    let second := Statement.ofProposition (.categorical .universal "AB" false "A")
    let model := (empty Config.default).run [.add first, .add second, .build]
    let snapshot := Snapshot.ofModel model
    model.Reachable ∧ model.isBuilt = true ∧ model.names.toList = ["A", "AB", "B"] ∧
      snapshot.regions.size = 6 ∧ model.forcedEmpty.size = 4 ∧
        snapshot.forcedEmpty.size = 3 := by
  intro first second model snapshot
  exact ⟨⟨_, _, rfl⟩, by decide +kernel, by decide +kernel, by decide +kernel,
    by decide +kernel, by decide +kernel⟩

end Model
end Syllogistic
