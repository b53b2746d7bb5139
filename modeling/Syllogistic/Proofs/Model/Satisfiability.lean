import Syllogistic.Proofs.Model.Gathering

/-!
# Conflicts and satisfiability

A build finds a conflict exactly when no interpretation satisfies the premises.  An
eager build is then refused; with any other conflict check premises over two or three
names are always built.
-/

namespace Syllogistic
namespace Model

universe u

/-- A build of two or three names keeps the conflicts of the chart, refused or not. -/
theorem build_of_gathering
    {model : Model}
    (coherent : model.Coherent)
    (gathering : ∃ refused, model.stage = .gathering refused)
    (enough : Diagram.fewest ≤ model.names.size) :
    ∃ chart : Chart, chart.Records model.statements ∧
      model.build.model.conflicts = chart.conflicts ∧
      (model.config.conflictCheck = .eager →
        (model.build.result = .ok () ↔ chart.conflicts = []) ∧
          ((∃ conflict, model.build.result = .error (.conflict conflict)) ↔
            chart.conflicts ≠ [])) ∧
      (model.config.conflictCheck ≠ .eager → model.build.result = .ok ()) := by
  obtain ⟨refused, gathering⟩ := gathering
  obtain ⟨diagram, drawn⟩ := Diagram.exists_ofAscending enough coherent.few
  have names := Diagram.names_of_ofAscending drawn
  refine ⟨Chart.ofStatements diagram model.statements,
    coherent.records_ofStatements names, ?_⟩
  have builds := model.builds
  generalize model.build.result = result at builds ⊢
  generalize model.build.model = after at builds ⊢
  cases builds with
  | again chart stage =>
      rw [gathering] at stage
      cases stage
  | unsized _ fault _ undrawn =>
      rw [drawn] at undrawn
      cases undrawn
  | conflicting _ other first others _ otherDrawn eager found =>
      rw [drawn] at otherDrawn
      cases otherDrawn
      refine ⟨found.symm, fun _ => ⟨?_, ?_⟩, fun careless => absurd eager careless⟩
      · simp [found]
      · simp [found]
  | charted _ other _ otherDrawn peaceful =>
      rw [drawn] at otherDrawn
      cases otherDrawn
      refine ⟨rfl, fun eager => ⟨?_, ?_⟩, fun _ => rfl⟩
      · simp [peaceful eager]
      · simp [peaceful eager]

/--
Well-formed premises over two or three names conflict when they are built exactly
when they are not true together in any interpretation.  An eager check refuses them
then with a conflict, and only then; without one the build succeeds.
-/
theorem build_conflicts_iff_unsatisfiable
    (config : Config)
    {premises : List Premise}
    (wellFormed : ∀ premise ∈ premises, premise.WellFormed)
    (enough : Diagram.fewest ≤ (Ascending.ofList (premises.flatMap Premise.names)).size)
    (few : (Ascending.ofList (premises.flatMap Premise.names)).size ≤ Diagram.most) :
    let outcome := ((empty config).run (premises.map Premise.operation)).build
    let satisfiable := ∃ interpretation : Interpretation.{u},
      interpretation.SatisfiesAll (premises.filterMap Premise.statement?)
    (outcome.model.conflicts ≠ [] ↔ ¬ satisfiable) ∧
      (config.conflictCheck = .eager →
        ((∃ conflict, outcome.result = .error (.conflict conflict)) ↔ ¬ satisfiable) ∧
          (outcome.result = .ok () ↔ satisfiable)) ∧
      (config.conflictCheck ≠ .eager → outcome.result = .ok ()) := by
  intro outcome satisfiable
  have gathers := @gathers_run (empty config) premises ⟨[], rfl⟩ wellFormed few
  have reachable : ((empty config).run (premises.map Premise.operation)).Reachable :=
    ⟨config, _, rfl⟩
  have gathering : ∃ refused,
      ((empty config).run (premises.map Premise.operation)).stage = .gathering refused :=
    ⟨[], gathers.stage⟩
  have drawable := enough
  change Diagram.fewest ≤ ((empty config).names.insertAll _).size at drawable
  rw [← gathers.names] at drawable
  obtain ⟨chart, records, conflicts, eager, careless⟩ :=
    build_of_gathering reachable.coherent gathering drawable
  rw [gathers.config] at eager careless
  have consistent : chart.conflicts = [] ↔ satisfiable := by
    rw [records.conflicts_eq_nil_iff_exists_satisfiesAll.{u}]
    simp only [gathers.satisfiesAll_iff, satisfiable]
  change outcome.model.conflicts = _ at conflicts
  rw [conflicts, ne_eq, consistent]
  refine ⟨Iff.rfl, fun checked => ?_, careless⟩
  obtain ⟨succeeds, refused⟩ := eager checked
  exact ⟨refused.trans (not_congr consistent), succeeds.trans consistent⟩

/-- That all A are in B and some A are not has no interpretation, so its build is refused. -/
theorem build_conflicts_iff_unsatisfiable_of_contradiction :
    let premises : List Premise :=
      [.statement (.ofProposition (.categorical .universal "A" false "B")), .name "C",
        .statement (.ofProposition (.categorical .particular "A" true "B"))]
    let outcome := ((empty Config.default).run (premises.map Premise.operation)).build
    (∀ premise ∈ premises, premise.WellFormed) ∧
      (Ascending.ofList (premises.flatMap Premise.names)).size = 3 ∧
      outcome.model.conflicts ≠ [] ∧
      (∃ conflict, outcome.result = .error (.conflict conflict)) ∧
      ¬ ∃ interpretation : Interpretation.{0},
        interpretation.SatisfiesAll (premises.filterMap Premise.statement?) := by
  intro premises outcome
  have wellFormed : ∀ premise ∈ premises, premise.WellFormed := by decide +kernel
  have three : (Ascending.ofList (premises.flatMap Premise.names)).size = 3 := by
    decide +kernel
  have conflicting : outcome.model.conflicts ≠ [] := by decide +kernel
  obtain ⟨conflicts, eager, _⟩ := build_conflicts_iff_unsatisfiable.{0} Config.default
    wellFormed (by rw [three]; decide) (by rw [three]; decide)
  have unsatisfiable := conflicts.1 conflicting
  exact ⟨wellFormed, three, conflicting, (eager rfl).1.2 unsatisfiable, unsatisfiable⟩

end Model
end Syllogistic
