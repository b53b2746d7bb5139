import Syllogistic.Proofs.Chart.Conflicts
import Syllogistic.Proofs.Model.Evaluation

/-!
# What a build reports

A build of two names or more leaves the conflicts of the chart of its statements, whether
they refuse it or not.  So there is one report for each premise that is stranded, and each
report names enough premises to show that they cannot be true together.
-/

namespace Syllogistic
namespace Model

universe u

/-- After a build the conflicts are those of the chart of the statements over the names. -/
theorem Coherent.exists_conflicts_of_build
    {model : Model}
    (coherent : model.Coherent)
    (enough : Diagram.fewest ≤ model.names.size) :
    ∃ diagram, diagram.names = model.names ∧
      model.build.model.conflicts = (Chart.ofStatements diagram model.statements).conflicts := by
  obtain ⟨diagram, drawn⟩ := Diagram.exists_ofAscending enough coherent.few
  have names := Diagram.names_of_ofAscending drawn
  have builds := model.builds
  generalize model.build.result = result at builds
  generalize model.build.model = after at builds ⊢
  cases builds with
  | again chart stage =>
      obtain ⟨chartNames, recorded⟩ := coherent.charted chart stage
      refine ⟨chart.diagram, chartNames, ?_⟩
      rw [conflicts_of_built stage, ← recorded]
  | unsized _ _ _ undrawn =>
      rw [drawn] at undrawn
      contradiction
  | conflicting _ other first others _ otherDrawn _ found =>
      exact ⟨other, Diagram.names_of_ofAscending otherDrawn, found.symm⟩
  | charted _ other _ otherDrawn _ =>
      exact ⟨other, Diagram.names_of_ofAscending otherDrawn, rfl⟩

/-- No statement of a model that is reached is there twice. -/
theorem Coherent.nodup_statements {model : Model} (coherent : model.Coherent) :
    model.statements.Nodup :=
  coherent.distinct.imp fun different same => different (congrArg Statement.proposition same)

/--
After a build of a model with two names or more, its conflicts are, one by one, the reports
on its stranded premises: on each particular premise whose supporting regions are all
emptied, once, and on no other.  A report is about the text of its premise and lists, each
once, the texts of just those premises that empty a supporting region.  No interpretation
satisfies the premise and the universal premises with these texts.
-/
theorem build_reports_conflicts
    {model : Model}
    (reachable : model.Reachable)
    (enough : Diagram.fewest ≤ model.names.size) :
    ∃ diagram, diagram.names = model.names ∧
      ∃ witnesses : List Statement, witnesses.Nodup ∧
        (∀ premise, premise ∈ witnesses ↔
          premise ∈ model.statements ∧ diagram.Strands model.statements premise) ∧
        List.Forall₂ (fun conflict witness =>
            conflict.Reports diagram model.statements witness ∧
              ¬ ∃ interpretation : Interpretation.{u}, interpretation.SatisfiesAll
                (witness :: conflict.accused model.statements))
          model.build.model.conflicts witnesses := by
  have coherent := reachable.coherent
  obtain ⟨diagram, names, conflicts⟩ := coherent.exists_conflicts_of_build enough
  have records := coherent.records_ofStatements names
  refine ⟨diagram, names, (Chart.ofStatements diagram model.statements).stranded,
    records.nodup_stranded coherent.nodup_statements, fun premise => ?_, ?_⟩
  · rw [records.mem_stranded_iff, Chart.diagram_ofStatements]
  · rw [conflicts, records.conflicts_eq_map_report, List.forall₂_map_left_iff,
      List.forall₂_same]
    intro witness member
    have reports := records.reports member
    rw [Chart.diagram_ofStatements] at reports
    refine ⟨reports, ?_⟩
    rintro ⟨interpretation, satisfies⟩
    exact reports.unsatisfiable interpretation satisfies

/--
No A is in B and no A outside B is in C: together these two premises strand a third, that
some A are in C, and the report on it lists both.
-/
theorem build_reports_conflicts_of_two_exclusions :
    let first := Statement.ofProposition (.categorical .universal "A" true "B")
    let second := Statement.ofProposition (.categorical .universal "C" false "B")
    let witness := Statement.ofProposition (.categorical .particular "A" false "C")
    let harmless := Statement.ofProposition (.categorical .particular "B" false "C")
    let model := (empty Config.default).run
      ([first, witness, harmless, second].map .add)
    2 ≤ model.names.size ∧
      model.build.model.conflicts = [⟨witness.text, [first.text, second.text]⟩] ∧
        ¬ ∃ interpretation : Interpretation.{0},
          interpretation.SatisfiesAll [witness, first, second] := by
  intro first second witness harmless model
  have enough : Diagram.fewest ≤ model.names.size := by decide +kernel
  have statements : model.statements = [first, witness, harmless, second] := by decide +kernel
  have conflicts : model.build.model.conflicts =
      [⟨witness.text, [first.text, second.text]⟩] := by
    decide +kernel
  obtain ⟨diagram, _, witnesses, _, _, reported⟩ :=
    @build_reports_conflicts.{0} model ⟨_, _, rfl⟩ enough
  rw [conflicts, statements] at reported
  refine ⟨enough, conflicts, ?_⟩
  cases reported with
  | @cons _ other _ _ report _ =>
      obtain ⟨reports, unsatisfiable⟩ := report
      have texts : ∀ stated ∈ [first, witness, harmless, second],
          witness.text = stated.text → stated = witness := by
        decide +kernel
      rw [texts other reports.stated reports.witness_eq] at unsatisfiable
      have accused : Conflict.accused ⟨witness.text, [first.text, second.text]⟩
          [first, witness, harmless, second] = [first, second] := by
        decide +kernel
      rwa [accused] at unsatisfiable

end Model
end Syllogistic
