import Syllogistic.Model.Evaluation
import Syllogistic.Proofs.Chart.Conclusion
import Syllogistic.Proofs.Model.Run

/-!
# Conclusions on a built model

A built model that is reached has a chart that records its statements.  Without
conflicts no conflict check keeps the model from judging a conclusion on it.
-/

namespace Syllogistic
namespace Model

universe u

/--
The interpretation satisfies the premises of the model, and under existential import
the subject of a universal conclusion is not empty in it.
-/
abbrev Admits (model : Model) (conclusion : Proposition)
    (interpretation : Interpretation.{u}) : Prop :=
  interpretation.Admissible model.config.existentialImport model.statements conclusion

variable {model : Model} {chart : Chart} {statement : Statement} {bearing : Bearing}

theorem exists_built_iff : model.isBuilt = true ↔ ∃ chart, model.stage = .built chart := by
  unfold isBuilt chart?
  cases model.stage <;> simp

theorem chart?_eq_some_iff : model.chart? = some chart ↔ model.stage = .built chart := by
  unfold chart?
  cases model.stage <;> simp

/-- The chart of a built model records the statements of the model. -/
theorem Coherent.records
    (coherent : model.Coherent)
    (built : model.stage = .built chart) :
    chart.Records model.statements := by
  obtain ⟨names, recorded⟩ := coherent.charted chart built
  rw [recorded]
  exact coherent.records_ofStatements names

/-- A built model that is reached has a chart of its statements over its names. -/
theorem Reachable.exists_records
    (reachable : model.Reachable)
    (built : model.isBuilt = true) :
    ∃ chart, model.stage = .built chart ∧ chart.diagram.names = model.names ∧
      chart.Records model.statements := by
  obtain ⟨chart, stage⟩ := exists_built_iff.1 built
  have coherent := reachable.coherent
  exact ⟨chart, stage, (coherent.charted chart stage).1, coherent.records stage⟩

/-- A proposition about names of a built model has a bearing. -/
theorem Coherent.exists_bearing?
    {proposition : Proposition}
    (coherent : model.Coherent)
    (built : model.stage = .built chart)
    (named : ∀ name ∈ proposition.names, name ∈ model.names) :
    ∃ bearing, chart.diagram.bearing? proposition = some bearing := by
  rw [← (coherent.charted chart built).1] at named
  exact Diagram.exists_bearing? named

theorem conflicts_of_built (built : model.stage = .built chart) :
    model.conflicts = chart.conflicts := by
  unfold conflicts
  rw [built]

theorem isForcedEmpty_of_built (built : model.stage = .built chart) :
    model.isForcedEmpty = chart.isForcedEmpty := by
  funext region
  unfold isForcedEmpty
  rw [chart?_eq_some_iff.2 built]

theorem diagram?_of_built (built : model.stage = .built chart) :
    model.diagram? = some chart.diagram := by
  unfold diagram?
  rw [chart?_eq_some_iff.2 built]
  rfl

theorem forcedEmpty_of_built (built : model.stage = .built chart) :
    model.forcedEmpty = chart.forcedEmpty := by
  unfold forcedEmpty
  rw [chart?_eq_some_iff.2 built]
  rfl

theorem witnessGroups_of_built (built : model.stage = .built chart) :
    model.witnessGroups = chart.witnessGroups := by
  unfold witnessGroups
  rw [chart?_eq_some_iff.2 built]
  rfl

theorem bearing?_of_built (built : model.stage = .built chart) :
    model.bearing? = chart.diagram.bearing? := by
  funext proposition
  unfold bearing?
  rw [chart?_eq_some_iff.2 built]
  rfl

theorem isBuilt_of_gathering
    (gathering : ∃ refused, model.stage = .gathering refused) :
    model.isBuilt = false := by
  obtain ⟨refused, stage⟩ := gathering
  rw [isBuilt, chart?, stage]
  rfl

/-- A model that is not built has no verdict. -/
theorem evaluate_of_not_built
    (unbuilt : model.isBuilt = false)
    (statement : Statement) :
    model.evaluate statement = .error (.stage .notBuilt) := by
  rw [isBuilt, Option.isSome_eq_false_iff, Option.isNone_iff_eq_none] at unbuilt
  rw [evaluate, unbuilt]

/-- While a model gathers nothing is recorded. -/
theorem records_eq_empty_of_not_built (unbuilt : model.isBuilt = false) :
    model.forcedEmpty = .empty ∧ model.witnessGroups = .empty := by
  unfold isBuilt at unbuilt
  rw [Option.isSome_eq_false_iff, Option.isNone_iff_eq_none] at unbuilt
  unfold forcedEmpty witnessGroups
  rw [unbuilt]
  exact ⟨rfl, rfl⟩

/-- What an evaluation may answer. -/
inductive Evaluates (model : Model) (statement : Statement) :
    Except Error Evaluation → Prop
  /-- A gathering model has no diagram to evaluate on. -/
  | unbuilt (refused : List Conflict)
      (stage : model.stage = .gathering refused) :
      Evaluates model statement (.error (.stage .notBuilt))
  /-- A deferred conflict refuses every conclusion. -/
  | blocked (chart : Chart) (conflict : Conflict)
      (stage : model.stage = .built chart)
      (blocks : model.blocking? = some conflict) :
      Evaluates model statement (.error (.conflict conflict))
  /-- Some name of the conclusion has no circle. -/
  | unknown (chart : Chart)
      (stage : model.stage = .built chart)
      (free : model.blocking? = none)
      (absent : chart.diagram.bearing? statement.proposition = none) :
      Evaluates model statement
        (.ok ⟨statement, .unknown (chart.unknownNames statement.proposition), []⟩)
  /-- A proposition without a quantifier is no conclusion. -/
  | unquantified (chart : Chart) (bearing : Bearing)
      (stage : model.stage = .built chart)
      (free : model.blocking? = none)
      (found : chart.diagram.bearing? statement.proposition = some bearing)
      (kind : statement.quantifier = none) :
      Evaluates model statement (.error (.grammar (.unquantifiedSubject statement.text)))
  /-- A particular conclusion is judged on the chart. -/
  | particular (chart : Chart) (bearing : Bearing)
      (stage : model.stage = .built chart)
      (free : model.blocking? = none)
      (found : chart.diagram.bearing? statement.proposition = some bearing)
      (kind : statement.quantifier = some .particular) :
      Evaluates model statement (.ok ⟨statement,
        (chart.judgeParticular model.config.existentialImport
          statement.proposition.subject bearing).1,
        (chart.judgeParticular model.config.existentialImport
          statement.proposition.subject bearing).2⟩)
  /-- A universal conclusion is judged on the chart. -/
  | universal (chart : Chart) (bearing : Bearing)
      (stage : model.stage = .built chart)
      (free : model.blocking? = none)
      (found : chart.diagram.bearing? statement.proposition = some bearing)
      (kind : statement.quantifier = some .universal) :
      Evaluates model statement (.ok ⟨statement,
        (chart.judgeUniversal model.config.existentialImport
          statement.proposition.subject bearing).1,
        (chart.judgeUniversal model.config.existentialImport
          statement.proposition.subject bearing).2⟩)

/-- Every evaluation is one of these six. -/
theorem evaluates (model : Model) (statement : Statement) :
    model.Evaluates statement (model.evaluate statement) := by
  unfold evaluate chart?
  cases stage : model.stage with
  | gathering refused => exact .unbuilt refused stage
  | built chart =>
      dsimp only
      cases blocks : model.blocking? with
      | some conflict => exact .blocked chart conflict stage blocks
      | none =>
          unfold Chart.evaluate
          dsimp only
          cases found : chart.diagram.bearing? statement.proposition with
          | none => exact .unknown chart stage blocks found
          | some bearing =>
              cases kind : statement.proposition.subject.quantifier with
              | none => exact .unquantified chart bearing stage blocks found kind
              | some quantifier =>
                  cases quantifier with
                  | particular => exact .particular chart bearing stage blocks found kind
                  | universal => exact .universal chart bearing stage blocks found kind

/-- On a built model only a deferred conflict or a missing quantifier fails an evaluation. -/
theorem Coherent.evaluate_eq_error_iff
    {error : Error}
    (coherent : model.Coherent)
    (built : model.stage = .built chart) :
    model.evaluate statement = .error error ↔
      (∃ conflict, model.blocking? = some conflict ∧ error = .conflict conflict) ∨
        model.blocking? = none ∧
          (∀ name ∈ statement.proposition.names, name ∈ model.names) ∧
            statement.quantifier = none ∧
              error = .grammar (.unquantifiedSubject statement.text) := by
  have names := (coherent.charted chart built).1
  have evaluates := model.evaluates statement
  generalize model.evaluate statement = result at evaluates ⊢
  cases evaluates with
  | unbuilt _ gathering =>
      rw [built] at gathering
      contradiction
  | blocked _ conflict _ blocks => simp [blocks, eq_comm]
  | unknown other stage free absent =>
      rw [built] at stage
      cases stage
      have unnamed : ¬ ∀ name ∈ statement.proposition.names, name ∈ model.names := by
        rw [← names, ← Diagram.exists_bearing?_iff, absent]
        simp
      simp [free, unnamed]
  | unquantified other bearing stage free found kind =>
      rw [built] at stage
      cases stage
      have named := Diagram.exists_bearing?_iff.1 ⟨bearing, found⟩
      rw [names] at named
      simp only [free, kind, reduceCtorEq, false_and, exists_false, false_or, true_and,
        Except.error.injEq]
      exact ⟨fun same => ⟨named, same.symm⟩, fun same => same.2.symm⟩
  | particular _ _ _ free _ kind => simp [free, kind]
  | universal _ _ _ free _ kind => simp [free, kind]

/-- A conclusion about names of the model that has no quantifier is refused. -/
theorem Coherent.exists_error_of_unquantified
    (coherent : model.Coherent)
    (named : ∀ name ∈ statement.proposition.names, name ∈ model.names)
    (unquantified : statement.quantifier = none) :
    ∃ error, model.evaluate statement = .error error := by
  cases stage : model.stage with
  | gathering refused =>
      refine ⟨.stage .notBuilt, ?_⟩
      rw [evaluate, chart?, stage]
  | built chart =>
      simp only [coherent.evaluate_eq_error_iff stage]
      cases blocks : model.blocking? with
      | some conflict => exact ⟨_, Or.inl ⟨conflict, rfl, rfl⟩⟩
      | none => exact ⟨_, Or.inr ⟨rfl, named, unquantified, rfl⟩⟩

/-- On a built model without conflicts a conclusion about its names can be judged. -/
theorem Reachable.exists_bearing
    {proposition : Proposition}
    (reachable : model.Reachable)
    (built : model.isBuilt = true)
    (peaceful : model.conflicts = [])
    (named : ∀ name ∈ proposition.names, name ∈ model.names) :
    ∃ chart bearing, model.stage = .built chart ∧ chart.Records model.statements ∧
      chart.conflicts = [] ∧ chart.diagram.bearing? proposition = some bearing := by
  obtain ⟨chart, stage, _, records⟩ := reachable.exists_records built
  obtain ⟨bearing, found⟩ := reachable.coherent.exists_bearing? stage named
  rw [conflicts_of_built stage] at peaceful
  exact ⟨chart, bearing, stage, records, peaceful, found⟩

/-- A built model judges on its chart, unless a deferred conflict keeps it from judging. -/
theorem evaluate_of_free
    (built : model.stage = .built chart)
    (free : model.config.conflictCheck = .deferred → chart.conflicts = []) :
    model.evaluate statement =
      (chart.evaluate model.config.existentialImport statement).mapError .grammar := by
  have unblocked : model.blocking? = none := by
    unfold blocking?
    split
    · rename_i deferred
      rw [conflicts_of_built built, free deferred]
      rfl
    · rfl
  unfold evaluate
  rw [unblocked, chart?_eq_some_iff.2 built]

/-- What a chart answers it answers without an error. -/
theorem mapError_eq_ok_iff
    {judged : Except GrammarFault Evaluation}
    {evaluation : Evaluation} :
    judged.mapError Error.grammar = .ok evaluation ↔ judged = .ok evaluation := by
  constructor
  · intro same
    cases judged with
    | ok answer =>
        cases same
        rfl
    | error fault => contradiction
  · rintro rfl
    rfl

/-- A model without conflicts is not kept from judging. -/
theorem evaluate_of_built
    (built : model.stage = .built chart)
    (peaceful : model.conflicts = []) :
    model.evaluate statement =
      (chart.evaluate model.config.existentialImport statement).mapError .grammar := by
  rw [conflicts_of_built built] at peaceful
  exact evaluate_of_free built fun _ => peaceful

/-- A deferred conflict keeps a model from judging anything; the first of them is reported. -/
theorem evaluate_of_deferred
    {first : Conflict}
    {others : List Conflict}
    (built : model.stage = .built chart)
    (deferred : model.config.conflictCheck = .deferred)
    (found : chart.conflicts = first :: others)
    (statement : Statement) :
    model.evaluate statement = .error (.conflict first) := by
  unfold evaluate blocking?
  rw [chart?_eq_some_iff.2 built, conflicts_of_built built, found, if_pos deferred]
  rfl

theorem exists_error_of_deferred
    (built : model.stage = .built chart)
    (deferred : model.config.conflictCheck = .deferred)
    (conflicting : chart.conflicts ≠ [])
    (statement : Statement) :
    ∃ error, model.evaluate statement = .error error := by
  obtain ⟨first, others, found⟩ := List.exists_cons_of_ne_nil conflicting
  exact ⟨.conflict first, evaluate_of_deferred built deferred found statement⟩

/-- What a built model answers depends on its configuration, conflicts and judgements only. -/
theorem toOption_evaluate
    (built : model.stage = .built chart)
    (statement : Statement) :
    (model.evaluate statement).toOption =
      if model.config.conflictCheck = .deferred ∧ chart.conflicts ≠ [] then none
      else (chart.evaluate model.config.existentialImport statement).toOption := by
  split
  · rename_i blocked
    obtain ⟨error, refuses⟩ := exists_error_of_deferred built blocked.1 blocked.2 statement
    rw [refuses]
    rfl
  · rename_i unblocked
    have free : model.config.conflictCheck = .deferred → chart.conflicts = [] := by
      intro deferred
      exact Classical.byContradiction fun conflicting => unblocked ⟨deferred, conflicting⟩
    rw [evaluate_of_free built free]
    cases chart.evaluate model.config.existentialImport statement <;> rfl

/-- An evaluation with a verdict is one that succeeds. -/
theorem evaluate_verdict_eq_some_iff {verdict : Verdict} :
    (model.evaluate statement).toOption.map Evaluation.verdict = some verdict ↔
      ∃ evaluation, model.evaluate statement = .ok evaluation ∧
        evaluation.verdict = verdict := by
  cases model.evaluate statement <;> simp [Except.toOption]

theorem verdict_of_evaluate
    {evaluation : Evaluation}
    {verdict : Verdict}
    (evaluated : model.evaluate statement = .ok evaluation)
    (judged : (model.evaluate statement).toOption.map Evaluation.verdict = some verdict) :
    evaluation.verdict = verdict := by
  obtain ⟨other, same, rfl⟩ := evaluate_verdict_eq_some_iff.1 judged
  rw [evaluated] at same
  cases same
  rfl

/-- A particular conclusion about names of the model is judged on its chart. -/
theorem evaluate_particular
    (built : model.stage = .built chart)
    (peaceful : model.conflicts = [])
    (found : chart.diagram.bearing? statement.proposition = some bearing)
    (particular : statement.proposition.subject.quantifier = some .particular) :
    ∃ marked, model.evaluate statement = .ok
      ⟨statement, (chart.judgeParticular model.config.existentialImport
        statement.proposition.subject bearing).1, marked⟩ := by
  rw [evaluate_of_built built peaceful, Chart.evaluate_of_particular found particular]
  exact ⟨_, rfl⟩

/-- A universal conclusion about names of the model is judged on its chart. -/
theorem evaluate_universal
    (built : model.stage = .built chart)
    (peaceful : model.conflicts = [])
    (found : chart.diagram.bearing? statement.proposition = some bearing)
    (universal : statement.proposition.subject.quantifier = some .universal) :
    ∃ marked, model.evaluate statement = .ok
      ⟨statement, (chart.judgeUniversal model.config.existentialImport
        statement.proposition.subject bearing).1, marked⟩ := by
  rw [evaluate_of_built built peaceful, Chart.evaluate_of_universal found universal]
  exact ⟨_, rfl⟩

end Model
end Syllogistic
