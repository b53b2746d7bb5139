import Syllogistic.Proofs.Chart.Growth
import Syllogistic.Proofs.Model.Recording

/-!
# Premises that are added later

A model that has taken in further premises, and no further names, is built on a chart that
has all that the chart of the first premises has.  Conflicts stay conflicts, and what has
no witness gets none.  What holds may cease to hold only when the further premises conflict
with the first.
-/

namespace Syllogistic
namespace Model

/-- Without a conflict check two names or three are built, and every conclusion is judged. -/
theorem exists_chart_of_off
    {model : Model}
    (coherent : model.Coherent)
    (gathering : ∃ refused, model.stage = .gathering refused)
    (off : model.config.conflictCheck = .off)
    (enough : Diagram.fewest ≤ model.names.size) :
    ∃ diagram, Diagram.ofAscending model.names = .ok diagram ∧
      let chart := Chart.ofStatements diagram model.statements
      model.build.result = .ok () ∧ model.build.model.stage = .built chart ∧
        ∀ statement, model.build.model.evaluate statement =
          (chart.evaluate model.config.existentialImport statement).mapError .grammar := by
  obtain ⟨refused, stage⟩ := gathering
  obtain ⟨diagram, drawn⟩ := Diagram.exists_ofAscending enough coherent.few
  obtain ⟨builds, after⟩ := build_of_drawn stage drawn
  have succeeds : model.build.result = .ok () := builds.2 (by simp [off])
  have built : model.build.model.stage = .built (Chart.ofStatements diagram model.statements) := by
    rw [after succeeds]
  refine ⟨diagram, drawn, succeeds, built, fun statement => ?_⟩
  rw [evaluate_of_free built (by simp [model.build_keeps.1, off]), model.build_keeps.1]

/--
Let a model with two names or more, no conflict check and any premises take in others that
bring no new name.  Both are built.  Under every region and every group of regions under
which premises were listed they are listed still, before all others.  Every premise on which
a conflict is reported is reported again, with no exclusion missing.  A particular
conclusion without a witness is answered as before, and one that holds does so still unless
the premises conflict now.
-/
theorem further_premises_keep
    {model : Model}
    {later : List Operation}
    (reachable : model.Reachable)
    (gathering : ∃ refused, model.stage = .gathering refused)
    (off : model.config.conflictCheck = .off)
    (enough : Diagram.fewest ≤ model.names.size)
    (adding : .build ∉ later)
    (same : (model.run later).names = model.names) :
    let shorter := model.build
    let longer := (model.run later).build
    shorter.result = .ok () ∧ longer.result = .ok () ∧
      shorter.model.forcedEmpty.LengthensTo longer.model.forcedEmpty ∧
      shorter.model.witnessGroups.LengthensTo longer.model.witnessGroups ∧
      (∃ diagram, diagram.names = model.names ∧
        ∀ conflict ∈ shorter.model.conflicts,
          (∃ premise, conflict.Reports diagram shorter.model.statements premise) ∧
          ∀ premise, conflict.Reports diagram shorter.model.statements premise →
            ∃ further ∈ longer.model.conflicts,
              further.Reports diagram longer.model.statements premise ∧
                conflict.exclusions ⊆ further.exclusions) ∧
      ∀ statement evaluation, statement.quantifier = some .particular →
        shorter.model.evaluate statement = .ok evaluation →
          (evaluation.verdict = .noWitness →
            longer.model.evaluate statement = .ok evaluation) ∧
          (evaluation.verdict = .holds → longer.model.conflicts = [] →
            ∃ kept, longer.model.evaluate statement = .ok kept ∧ kept.verdict = .holds ∧
              kept.marked.Sublist evaluation.marked) := by
  intro shorter longer
  have coherent := reachable.coherent
  have reached := reachable.run later
  have config := model.config_run later
  obtain ⟨diagram, drawn, builds, stage, answers⟩ :=
    exists_chart_of_off coherent gathering off enough
  obtain ⟨other, alsoDrawn, alsoBuilds, alsoStage, alsoAnswers⟩ :=
    exists_chart_of_off reached.coherent (gathering_run gathering adding) (by rw [config, off])
      (by rwa [same])
  rw [same, drawn] at alsoDrawn
  cases alsoDrawn
  have names := Diagram.names_of_ofAscending drawn
  have records := coherent.records_ofStatements names
  have alsoRecords := reached.coherent.records_ofStatements (names.trans same.symm)
  have continued := model.statements_prefix_run later
  have grows := Chart.grows_ofStatements diagram continued
  refine ⟨builds, alsoBuilds, ?_, ?_, ⟨diagram, names, ?_⟩, ?_⟩
  · rw [forcedEmpty_of_built stage, forcedEmpty_of_built alsoStage]
    exact grows.forcedEmpty
  · rw [witnessGroups_of_built stage, witnessGroups_of_built alsoStage]
    exact grows.witnessGroups
  · rw [conflicts_of_built stage, conflicts_of_built alsoStage, model.build_keeps.2.2,
      (model.run later).build_keeps.2.2]
    intro conflict found
    have reported := records.exists_reports_of_mem found
    rw [Chart.diagram_ofStatements] at reported
    refine ⟨reported, fun premise reports => ?_⟩
    have again := @Chart.Records.exists_further_report _ _ _ conflict premise alsoRecords
      continued.subset
    rw [Chart.diagram_ofStatements] at again
    exact again reports
  · intro statement evaluation particular evaluated
    rw [answers, mapError_eq_ok_iff] at evaluated
    obtain ⟨noWitness, holds⟩ := grows.evaluate_particular particular evaluated
    simp only [longer, alsoAnswers, mapError_eq_ok_iff, config, conflicts_of_built alsoStage,
      alsoRecords.conflicts_eq_nil_iff]
    exact ⟨noWitness, holds⟩

/--
That all A are in B and some A in C makes it hold that some B are in C, and that some A are
outside B is left no witness.  Both stay so when some C are said to be outside A.
-/
theorem further_premises_keep_of_darii :
    let rule := Statement.ofProposition (.categorical .universal "A" false "B")
    let witness := Statement.ofProposition (.categorical .particular "A" false "C")
    let further := Statement.ofProposition (.categorical .particular "C" true "A")
    let conclusion := Statement.ofProposition (.categorical .particular "B" false "C")
    let refuted := Statement.ofProposition (.categorical .particular "A" true "B")
    let config : Config := { Config.default with conflictCheck := .off }
    let model := (empty config).run [.add rule, .add witness]
    let longer := (model.run [.add further]).build.model
    longer.conflicts = [] ∧
      (∃ kept, longer.evaluate conclusion = .ok kept ∧ kept.verdict = .holds) ∧
        ∃ kept, longer.evaluate refuted = .ok kept ∧ kept.verdict = .noWitness := by
  intro rule witness further conclusion refuted config model longer
  have gathering : ∃ refused, model.stage = .gathering refused :=
    gathering_run ⟨[], rfl⟩ (by simp)
  have same : (model.run [.add further]).names = model.names := by decide +kernel
  have peaceful : longer.conflicts = [] := by decide +kernel
  obtain ⟨_, _, _, _, _, keeps⟩ :=
    @further_premises_keep model [.add further] ⟨_, _, rfl⟩ gathering
      (by decide +kernel) (by decide +kernel) (by simp) same
  refine ⟨peaceful, ?_, ?_⟩
  · obtain ⟨evaluation, evaluated, holds⟩ :=
      (@evaluate_verdict_eq_some_iff model.build.model conclusion .holds).1 (by decide +kernel)
    obtain ⟨kept, answered, still, _⟩ :=
      (keeps conclusion evaluation rfl evaluated).2 holds peaceful
    exact ⟨kept, answered, still⟩
  · obtain ⟨evaluation, evaluated, noWitness⟩ :=
      (@evaluate_verdict_eq_some_iff model.build.model refuted .noWitness).1 (by decide +kernel)
    exact ⟨evaluation, (keeps refuted evaluation rfl evaluated).1 noWitness, noWitness⟩

end Model
end Syllogistic
