import Syllogistic.Proofs.Model.Recording
import Syllogistic.Proofs.Model.Resemblance

/-!
# The treatments of conflicts

Premises come onto one chart whichever way conflicts are treated.  What the treatments
differ in is where the conflicts of this chart stop the work: at the build, at every
conclusion, or nowhere.  So without conflicts nothing tells them apart, and with conflicts
an eager check and a deferred one report the same conflict, the first of those recorded.
-/

namespace Syllogistic
namespace Model

/-- The build that follows some operations when conflicts are treated in a given way. -/
def buildUnder (config : Config) (operations : List Operation) (check : ConflictCheck) :
    Outcome Unit :=
  ((empty { config with conflictCheck := check }).run operations).build

/-- What a build with a conflict check comes to when the premises stand on the chart. -/
inductive ComesTo (config : Config) (chart : Chart) (check : ConflictCheck) :
    Outcome Unit → Prop
  /-- The model is built on the chart. -/
  | charted (outcome : Outcome Unit)
      (peaceful : check = .eager → chart.conflicts = [])
      (succeeds : outcome.result = .ok ())
      (checks : outcome.model.config = { config with conflictCheck := check })
      (stage : outcome.model.stage = .built chart) :
      ComesTo config chart check outcome
  /-- The chart has conflicts, and they are kept in its place. -/
  | refused (outcome : Outcome Unit) (first : Conflict) (others : List Conflict)
      (eager : check = .eager)
      (found : chart.conflicts = first :: others)
      (refuses : outcome.result = .error (.conflict first))
      (stage : outcome.model.stage = .gathering (first :: others)) :
      ComesTo config chart check outcome

/-- Premises with two names or more stand on one chart under every conflict check. -/
theorem exists_chart_under
    (config : Config)
    {operations : List Operation}
    (unbuilt : .build ∉ operations)
    (enough : Diagram.fewest ≤ ((empty config).run operations).names.size) :
    ∃ chart, ∀ check, ComesTo config chart check (buildUnder config operations check) := by
  let gathered := (empty config).run operations
  have few : gathered.names.size ≤ Diagram.most := (coherent_run config operations).few
  obtain ⟨diagram, drawn⟩ := Diagram.exists_ofAscending enough few
  refine ⟨Chart.ofStatements diagram gathered.statements, fun check => ?_⟩
  let model := (empty { config with conflictCheck := check }).run operations
  change ComesTo config _ check model.build
  have checks : model.config = { config with conflictCheck := check } := config_run _ operations
  obtain ⟨refused, stage⟩ : ∃ refused, model.stage = .gathering refused :=
    gathering_run ⟨[], rfl⟩ unbuilt
  -- Without a build among them, operations take no notice of the conflict check.
  have same : gathered.Resembles model :=
    Resembles.run ⟨rfl, rfl, rfl, rfl⟩ fun building => absurd building unbuilt
  rw [same.names] at drawn
  rw [same.statements]
  by_cases peaceful : check = .eager →
      (Chart.ofStatements diagram model.statements).conflicts = []
  · obtain ⟨builds, after⟩ := build_of_drawn stage drawn
    rw [checks] at builds
    have succeeds := builds.2 peaceful
    exact .charted _ peaceful succeeds (model.build_keeps.1.trans checks) (by rw [after succeeds])
  · rw [Classical.not_imp] at peaceful
    obtain ⟨eager, conflicting⟩ := peaceful
    obtain ⟨first, others, found⟩ := List.exists_cons_of_ne_nil conflicting
    obtain ⟨refuses, after⟩ :=
      build_of_conflicting stage drawn ((congrArg Config.conflictCheck checks).trans eager) found
    exact .refused _ first others eager found refuses (by rw [after])

namespace ComesTo

variable {config : Config} {chart : Chart} {check : ConflictCheck} {outcome : Outcome Unit}

/-- Conflicts are the same whether they are recorded or refuse the build. -/
theorem conflicts (comes : ComesTo config chart check outcome) :
    outcome.model.conflicts = chart.conflicts := by
  cases comes with
  | charted _ _ _ stage => exact conflicts_of_built stage
  | refused first others _ found _ stage => rw [Model.conflicts, stage, found]

/-- Only conflicts that are looked for at once refuse a build. -/
theorem result_eq_ok_iff (comes : ComesTo config chart check outcome) :
    outcome.result = .ok () ↔ (check = .eager → chart.conflicts = []) := by
  cases comes with
  | charted peaceful succeeds _ _ => exact iff_of_true succeeds peaceful
  | refused first others eager found refuses _ =>
      rw [refuses, found]
      simp [eager]

/-- A build that is refused is refused for the first conflict of the chart. -/
theorem result_of_conflicting
    {first : Conflict}
    {others : List Conflict}
    (comes : ComesTo config chart .eager outcome)
    (found : chart.conflicts = first :: others) :
    outcome.result = .error (.conflict first) := by
  cases comes with
  | charted peaceful _ _ _ =>
      rw [peaceful rfl] at found
      contradiction
  | refused otherFirst rest _ otherFound refuses _ =>
      rw [found] at otherFound
      cases otherFound
      exact refuses

/-- A build that is not refused leaves the chart and judges conclusions on it. -/
theorem built
    (comes : ComesTo config chart check outcome)
    (peaceful : check = .eager → chart.conflicts = []) :
    outcome.model.config = { config with conflictCheck := check } ∧
      outcome.model.stage = .built chart := by
  cases comes with
  | charted _ _ checks stage => exact ⟨checks, stage⟩
  | refused first others eager found _ _ =>
      rw [peaceful eager] at found
      contradiction

/-- What is recorded is that of the chart. -/
theorem recorded
    (comes : ComesTo config chart check outcome)
    (peaceful : check = .eager → chart.conflicts = []) :
    outcome.model.forcedEmpty = chart.forcedEmpty ∧
      outcome.model.witnessGroups = chart.witnessGroups := by
  obtain ⟨_, stage⟩ := comes.built peaceful
  exact ⟨forcedEmpty_of_built stage, witnessGroups_of_built stage⟩

/-- Without conflicts, whatever the check, a conclusion is judged on the chart. -/
theorem evaluate_of_peaceful
    (comes : ComesTo config chart check outcome)
    (peaceful : chart.conflicts = [])
    (statement : Statement) :
    outcome.model.evaluate statement =
      (chart.evaluate config.existentialImport statement).mapError .grammar := by
  obtain ⟨checks, stage⟩ := comes.built fun _ => peaceful
  rw [evaluate_of_free stage fun _ => peaceful, checks]

/-- A deferred check answers every conclusion with the first conflict. -/
theorem evaluate_of_conflicting
    {first : Conflict}
    {others : List Conflict}
    (comes : ComesTo config chart .deferred outcome)
    (found : chart.conflicts = first :: others)
    (statement : Statement) :
    outcome.model.evaluate statement = .error (.conflict first) := by
  obtain ⟨checks, stage⟩ := comes.built (nomatch ·)
  exact evaluate_of_deferred stage (congrArg Config.conflictCheck checks) found statement

end ComesTo

/-- A chart complains about the grammar of a conclusion only. -/
theorem mapError_grammar_ne_conflict
    (judged : Except GrammarFault Evaluation)
    (conflict : Conflict) :
    judged.mapError Error.grammar ≠ .error (.conflict conflict) := by
  intro same
  cases judged with
  | ok evaluation => contradiction
  | error fault =>
      injection same with sameError
      contradiction

/--
Whatever operations other than builds have led to two names or more, an eager check builds
the model exactly when a model without a check records no conflict, and exactly when a
deferred check answers no conclusion with one; the other two checks always build it.  When
the eager check builds it, all three models hold the same and answer every conclusion alike.
When it does not, the conflict that it reports is the answer of the deferred check to every
conclusion and the first conflict of all three models, and the models that are built hold
the same and record the same conflicts.
-/
theorem conflict_checks_agree
    (config : Config)
    {operations : List Operation}
    (unbuilt : .build ∉ operations)
    (enough : Diagram.fewest ≤ ((empty config).run operations).names.size) :
    let under := buildUnder config operations
    let eager := under .eager
    let deferred := under .deferred
    let off := under .off
    (eager.result = .ok () ↔ off.model.conflicts = []) ∧
      (off.model.conflicts = [] ↔ ∀ statement conflict,
        deferred.model.evaluate statement ≠ .error (.conflict conflict)) ∧
      deferred.result = .ok () ∧ off.result = .ok () ∧
      (eager.result = .ok () → ∀ check,
        (under check).model.forcedEmpty = eager.model.forcedEmpty ∧
          (under check).model.witnessGroups = eager.model.witnessGroups ∧
            ∀ statement, (under check).model.evaluate statement =
              eager.model.evaluate statement) ∧
      (eager.result ≠ .ok () → ∃ conflict,
        eager.result = .error (.conflict conflict) ∧
          (∀ statement, deferred.model.evaluate statement = .error (.conflict conflict)) ∧
            (∀ check, (under check).model.conflicts.head? = some conflict) ∧
              deferred.model.forcedEmpty = off.model.forcedEmpty ∧
                deferred.model.witnessGroups = off.model.witnessGroups ∧
                  deferred.model.conflicts = off.model.conflicts) := by
  intro under eager deferred off
  obtain ⟨chart, comes⟩ : ∃ chart, ∀ check, ComesTo config chart check (under check) :=
    exists_chart_under config unbuilt enough
  have conflicts : off.model.conflicts = chart.conflicts := (comes .off).conflicts
  have builds : eager.result = .ok () ↔ chart.conflicts = [] := by
    simpa using (comes .eager).result_eq_ok_iff
  have deferredBuilds : deferred.result = .ok () := (comes .deferred).result_eq_ok_iff.2 (nomatch ·)
  have offBuilds : off.result = .ok () := (comes .off).result_eq_ok_iff.2 (nomatch ·)
  rw [builds, conflicts]
  cases found : chart.conflicts with
  | nil =>
      have answers : ∀ check statement, (under check).model.evaluate statement =
          (chart.evaluate config.existentialImport statement).mapError .grammar :=
        fun check => (comes check).evaluate_of_peaceful found
      have recorded := fun check => (comes check).recorded fun _ => found
      refine ⟨Iff.rfl, iff_of_true rfl fun statement conflict => ?_, deferredBuilds, offBuilds,
        fun _ check => ?_, fun refuted => absurd (builds.2 found) refuted⟩
      · rw [answers .deferred]
        exact mapError_grammar_ne_conflict _ conflict
      · exact ⟨(recorded check).1.trans (recorded .eager).1.symm,
          (recorded check).2.trans (recorded .eager).2.symm,
          fun statement => (answers check statement).trans (answers .eager statement).symm⟩
  | cons first others =>
      have blocked : ∀ statement, deferred.model.evaluate statement = .error (.conflict first) :=
        (comes .deferred).evaluate_of_conflicting found
      have deferredRecords := (comes .deferred).recorded (nomatch ·)
      have offRecords := (comes .off).recorded (nomatch ·)
      refine ⟨Iff.rfl, iff_of_false (List.cons_ne_nil _ _) fun free => ?_, deferredBuilds,
        offBuilds, fun absent => absurd absent (List.cons_ne_nil _ _), fun _ => ⟨first, ?_⟩⟩
      · exact free (.ofProposition (.categorical .universal "A" false "B")) first (blocked _)
      · refine ⟨(comes .eager).result_of_conflicting found, blocked, fun check => ?_,
          deferredRecords.1.trans offRecords.1.symm, deferredRecords.2.trans offRecords.2.symm, ?_⟩
        · rw [(comes check).conflicts, found]
          rfl
        · exact (comes .deferred).conflicts.trans found

/-- A rule and an exception to it are refused at once, or at every conclusion. -/
theorem conflict_checks_agree_of_exception :
    let rule := Statement.ofProposition (.categorical .universal "A" false "B")
    let exception := Statement.ofProposition (.categorical .particular "A" true "B")
    let operations := [Operation.add rule, .add exception]
    let under := buildUnder Config.default operations
    .build ∉ operations ∧ 2 ≤ ((empty Config.default).run operations).names.size ∧
      ∃ conflict, conflict.witness = exception.text ∧
        (under .eager).result = .error (.conflict conflict) ∧
          (∀ statement, (under .deferred).model.evaluate statement =
            .error (.conflict conflict)) ∧
            ((under .off).model.evaluate rule).toOption.isSome = true := by
  intro rule exception operations under
  have unbuilt : .build ∉ operations := by simp [operations]
  have enough : Diagram.fewest ≤ ((empty Config.default).run operations).names.size := by decide
  obtain ⟨builds, _, _, _, _, conflicting⟩ :=
    conflict_checks_agree Config.default unbuilt enough
  have reported : (under .off).model.conflicts.head?.map Conflict.witness =
      some exception.text := by
    decide
  have refused : (under .eager).result ≠ .ok () := by
    intro succeeds
    rw [builds.1 succeeds] at reported
    contradiction
  obtain ⟨conflict, refuses, blocked, heads, _⟩ := conflicting refused
  rw [heads .off] at reported
  exact ⟨unbuilt, enough, conflict, Option.some.inj reported, refuses, blocked, by decide⟩

end Model
end Syllogistic
