import Syllogistic.Proofs.Model.Evaluation
import Syllogistic.Proofs.Statement.Display
import Syllogistic.Proofs.Statement.Faults

/-!
# Conclusions that are not well formed

A model takes well-formed premises only, and the text of a conclusion is refused unless it
is well formed.  A conclusion that is made from terms is evaluated without this check: only
the missing quantifier is reported.  A negation of the subject and a quantifier of the
predicate are passed over, and the conclusion is judged as if they were not there.
-/

namespace Syllogistic

/-- The proposition with its subject affirmed and its predicate unquantified. -/
def Proposition.mended (proposition : Proposition) : Proposition :=
  ⟨{ proposition.subject with negated := false },
    { proposition.predicate with quantifier := none }⟩

/-- The verdict of an evaluation with the marked regions. -/
def Evaluation.judgement (evaluation : Evaluation) : Verdict × List Region :=
  (evaluation.verdict, evaluation.marked)

/-- An evaluation, the source of its statement apart from the text that is shown for it. -/
def Evaluation.content (evaluation : Evaluation) :
    Proposition × String × Verdict × List Region :=
  (evaluation.statement.proposition, evaluation.statement.text, evaluation.judgement)

/-- The display of the name closes its quotes and is one token that gives the name back. -/
structure Name.Displayable (name : String) : Prop where
  inhabited : name ≠ ""
  settled : Settled name.toList
  closed : Text.leavesQuoteOpen name.toList = false
  readable : Readable name

theorem Name.Displayable.exists_token {name : String} (displayable : Displayable name) :
    ∃ token, Token.split (display name).toList = [token] ∧ token.Names name :=
  (exists_token_iff_readable displayable.settled displayable.inhabited).2 displayable.readable

theorem Name.Plain.displayable {name : String} (plain : Plain name) : Displayable name :=
  ⟨plain.inhabited, plain.settled, leavesQuoteOpen_of_unquoted plain.unquoted, plain.readable⟩

/-- What becomes of a result does not depend on what becomes of an error. -/
theorem map_mapError
    {Fault Problem Value Result : Type}
    (wrap : Fault → Problem)
    (next : Value → Result)
    (result : Except Fault Value) :
    (result.mapError wrap).map next = (result.map next).mapError wrap := by
  cases result <;> rfl

namespace Chart

variable {statement other : Statement}

/-- A chart judges a quantified proposition and what is mended of it alike. -/
theorem evaluate_mended
    (chart : Chart)
    (existentialImport : Bool)
    (source : Option String)
    (quantified : statement.quantifier ≠ none) :
    (chart.evaluate existentialImport ⟨statement.proposition.mended, source⟩).map
        Evaluation.judgement =
      (chart.evaluate existentialImport statement).map Evaluation.judgement := by
  have bearing : chart.diagram.bearing? statement.proposition.mended =
      chart.diagram.bearing? statement.proposition := rfl
  have quantifier : statement.proposition.mended.subject.quantifier =
      statement.proposition.subject.quantifier := rfl
  unfold evaluate
  dsimp only
  rw [bearing, quantifier]
  cases chart.diagram.bearing? statement.proposition with
  | none => rfl
  | some bearing =>
      cases kind : statement.proposition.subject.quantifier with
      | none => exact absurd kind quantified
      | some quantifier => cases quantifier <;> rfl

/-- What a chart answers depends on the proposition and on the text that is shown for it. -/
theorem evaluate_content_congr
    (chart : Chart)
    (existentialImport : Bool)
    (proposition : statement.proposition = other.proposition)
    (text : statement.text = other.text) :
    (chart.evaluate existentialImport statement).map Evaluation.content =
      (chart.evaluate existentialImport other).map Evaluation.content := by
  unfold evaluate
  dsimp only
  rw [proposition, text]
  cases chart.diagram.bearing? other.proposition with
  | none => simp [Except.map, Evaluation.content, Evaluation.judgement, proposition, text]
  | some bearing =>
      rcases other.proposition.subject.quantifier with _ | _ | _ <;>
        simp [Except.map, Evaluation.content, Evaluation.judgement, proposition, text]

end Chart

namespace Model

variable {model : Model} {statement other : Statement}

/-- A built model that judges at all judges on its chart. -/
theorem Reachable.evaluate_eq
    (reachable : model.Reachable)
    (built : model.isBuilt = true)
    (free : model.config.conflictCheck = .deferred → model.conflicts = []) :
    ∃ chart : Chart, chart.diagram.names = model.names ∧ ∀ statement, model.evaluate statement =
      (chart.evaluate model.config.existentialImport statement).mapError .grammar := by
  obtain ⟨chart, stage, names, _⟩ := reachable.exists_records built
  rw [conflicts_of_built stage] at free
  exact ⟨chart, names, fun _ => evaluate_of_free stage free⟩

/-- A conclusion about names of the model that has no quantifier is refused for the want of it. -/
theorem Reachable.evaluate_of_unquantified
    (reachable : model.Reachable)
    (built : model.isBuilt = true)
    (free : model.config.conflictCheck = .deferred → model.conflicts = [])
    (named : ∀ name ∈ statement.proposition.names, name ∈ model.names)
    (unquantified : statement.quantifier = none) :
    model.evaluate statement = .error (.grammar (.unquantifiedSubject statement.text)) := by
  obtain ⟨chart, names, judges⟩ := reachable.evaluate_eq built free
  rw [← names] at named
  obtain ⟨bearing, found⟩ := Diagram.exists_bearing? named
  have kind : statement.proposition.subject.quantifier = none := unquantified
  rw [judges, Chart.evaluate, found]
  simp only [kind]
  rfl

/-- Any other conclusion has a verdict. -/
theorem Reachable.exists_evaluation_of_quantified
    (reachable : model.Reachable)
    (built : model.isBuilt = true)
    (free : model.config.conflictCheck = .deferred → model.conflicts = [])
    (quantified : statement.quantifier ≠ none) :
    ∃ evaluation, model.evaluate statement = .ok evaluation := by
  obtain ⟨chart, _, judges⟩ := reachable.evaluate_eq built free
  simp only [judges, mapError_eq_ok_iff]
  unfold Chart.evaluate
  dsimp only
  cases chart.diagram.bearing? statement.proposition with
  | none => exact ⟨_, rfl⟩
  | some bearing =>
      cases kind : statement.proposition.subject.quantifier with
      | none => exact absurd kind quantified
      | some quantifier => cases quantifier <;> exact ⟨_, rfl⟩

/-- The negation of the subject and the quantifier of the predicate make no difference. -/
theorem Reachable.evaluate_mended
    (reachable : model.Reachable)
    (built : model.isBuilt = true)
    (free : model.config.conflictCheck = .deferred → model.conflicts = [])
    (source : Option String)
    (quantified : statement.quantifier ≠ none) :
    (model.evaluate ⟨statement.proposition.mended, source⟩).map Evaluation.judgement =
      (model.evaluate statement).map Evaluation.judgement := by
  obtain ⟨chart, _, judges⟩ := reachable.evaluate_eq built free
  rw [judges, judges, map_mapError, map_mapError, chart.evaluate_mended _ source quantified]

theorem evaluate_content_congr
    (model : Model)
    (proposition : statement.proposition = other.proposition)
    (text : statement.text = other.text) :
    (model.evaluate statement).map Evaluation.content =
      (model.evaluate other).map Evaluation.content := by
  unfold evaluate
  cases model.chart? with
  | none => rfl
  | some chart =>
      cases model.blocking? with
      | some conflict => rfl
      | none =>
          dsimp only
          rw [map_mapError, map_mapError, chart.evaluate_content_congr _ proposition text]

/-- The display of a proposition is evaluated if the proposition passes the check. -/
theorem evaluateText_display
    {proposition : Proposition}
    (displayable : ∀ name ∈ proposition.names, Name.Displayable name)
    (model : Model) :
    model.evaluateText proposition.display =
      match (Statement.ofProposition proposition).check with
      | .error fault => .error (.grammar fault)
      | .ok () => model.evaluate ⟨proposition, some proposition.display⟩ := by
  rw [evaluateText, Statement.read_display (fun name member => (displayable name member).closed)
    fun name member => (displayable name member).exists_token]
  cases (Statement.ofProposition proposition).check <;> rfl

/-- A verdict goes with the check just on conclusions that pass it or lack a quantifier. -/
theorem Reachable.checks_iff
    (reachable : model.Reachable)
    (built : model.isBuilt = true)
    (free : model.config.conflictCheck = .deferred → model.conflicts = [])
    (named : ∀ name ∈ statement.proposition.names, name ∈ model.names) :
    ((∃ evaluation, model.evaluate statement = .ok evaluation) ↔ statement.check = .ok ()) ∧
        (∀ fault, statement.check = .error fault →
          model.evaluate statement = .error (.grammar fault)) ↔
      statement.proposition.WellFormed ∨ statement.quantifier = none := by
  constructor
  · rintro ⟨verdict, _⟩
    by_cases quantified : statement.quantifier = none
    · exact .inr quantified
    · have judged := reachable.exists_evaluation_of_quantified built free quantified
      exact .inl (Statement.check_eq_ok_iff.1 (verdict.1 judged))
  · rintro (wellFormed | unquantified)
    · have passes := Statement.check_eq_ok_iff.2 wellFormed
      have judged := reachable.exists_evaluation_of_quantified built free
        wellFormed.subject_quantified
      refine ⟨iff_of_true judged passes, fun fault fails => ?_⟩
      rw [passes] at fails
      contradiction
    · have fails : statement.check = .error (.unquantifiedSubject statement.text) :=
        Statement.check_eq_error_iff.2 (.unquantified unquantified)
      rw [reachable.evaluate_of_unquantified built free named unquantified, fails]
      simp

/-- A proposition and its display come to the same just where a verdict goes with the check. -/
theorem Reachable.evaluateText_display_iff
    {proposition : Proposition}
    (reachable : model.Reachable)
    (built : model.isBuilt = true)
    (free : model.config.conflictCheck = .deferred → model.conflicts = [])
    (named : ∀ name ∈ proposition.names, name ∈ model.names)
    (displayable : ∀ name ∈ proposition.names, Name.Displayable name) :
    (model.evaluateText proposition.display).map Evaluation.content =
        (model.evaluate (.ofProposition proposition)).map Evaluation.content ↔
      proposition.WellFormed ∨ proposition.subject.quantifier = none := by
  rw [evaluateText_display displayable]
  cases checked : (Statement.ofProposition proposition).check with
  | ok _ =>
      have wellFormed := Statement.check_eq_ok_iff.1 checked
      exact iff_of_true (model.evaluate_content_congr rfl rfl) (.inl wellFormed)
  | error fault =>
      have sound := @Reachable.checks_iff model (.ofProposition proposition) reachable built free
        named
      constructor
      · intro alike
        right
        by_contra quantified
        obtain ⟨evaluation, judged⟩ := @Reachable.exists_evaluation_of_quantified model
          (.ofProposition proposition) reachable built free quantified
        rw [judged] at alike
        cases alike
      · intro unchecked
        rw [(sound.2 unchecked).2 fault checked]

/--
On a built model that no deferred conflict keeps from judging, a conclusion about names of
the model has a verdict just when it passes the check, and fails with its fault when it does
not, if and only if it is well formed or has no quantifier.  Every other conclusion has a
verdict: the one of the proposition with its subject affirmed and its predicate
unquantified.  So the display of a proposition is evaluated with the same content or the
same error as the proposition if and only if that is well formed or has no quantifier.
-/
theorem evaluate_checks_iff
    (reachable : model.Reachable)
    (built : model.isBuilt = true)
    (free : model.config.conflictCheck = .deferred → model.conflicts = [])
    (named : ∀ name ∈ statement.proposition.names, name ∈ model.names) :
    (((∃ evaluation, model.evaluate statement = .ok evaluation) ↔ statement.check = .ok ()) ∧
        (∀ fault, statement.check = .error fault →
          model.evaluate statement = .error (.grammar fault)) ↔
      statement.proposition.WellFormed ∨ statement.quantifier = none) ∧
    (statement.quantifier ≠ none → ∃ evaluation, model.evaluate statement = .ok evaluation ∧
      (model.evaluate (.ofProposition statement.proposition.mended)).map Evaluation.judgement =
        .ok evaluation.judgement) ∧
    ((∀ name ∈ statement.proposition.names, Name.Displayable name) →
      ((model.evaluateText statement.proposition.display).map Evaluation.content =
          (model.evaluate (.ofProposition statement.proposition)).map Evaluation.content ↔
        statement.proposition.WellFormed ∨ statement.quantifier = none)) := by
  refine ⟨reachable.checks_iff built free named, fun quantified => ?_,
    reachable.evaluateText_display_iff built free named⟩
  obtain ⟨evaluation, judged⟩ := reachable.exists_evaluation_of_quantified built free quantified
  refine ⟨evaluation, judged, ?_⟩
  rw [Statement.ofProposition, reachable.evaluate_mended built free none quantified, judged]
  rfl

/-- A well-formed conclusion about names in quotes is evaluated as its display is. -/
theorem evaluate_checks_iff_of_several_words :
    let config := { Config.default with conflictCheck := .deferred }
    let premises := "Some \"red apples\" are b's\nAll b's are not c's"
    let model := (empty config).run [.read premises, .build]
    let proposition : Proposition :=
      ⟨⟨"RED APPLES", false, some .universal⟩, ⟨"B", true, none⟩⟩
    model.isBuilt = true ∧ model.conflicts = [] ∧
      (∀ name ∈ proposition.names, name ∈ model.names) ∧
      (∀ name ∈ proposition.names, Name.Displayable name) ∧
      (∃ evaluation, model.evaluate (.ofProposition proposition) = .ok evaluation) ∧
      (model.evaluateText "All \"RED APPLES\" are not B's").map Evaluation.content =
        (model.evaluate (.ofProposition proposition)).map Evaluation.content := by
  intro config premises model proposition
  have reachable : model.Reachable := ⟨config, _, rfl⟩
  have built : model.isBuilt = true := by decide +kernel
  have peaceful : model.conflicts = [] := by decide +kernel
  have named : ∀ name ∈ proposition.names, name ∈ model.names := by decide +kernel
  have plain : ∀ name ∈ proposition.names, Name.Plain name := by decide +kernel
  have displayable : ∀ name ∈ proposition.names, Name.Displayable name :=
    fun name member => (plain name member).displayable
  have wellFormed : proposition.WellFormed := by decide +kernel
  have display : proposition.display = "All \"RED APPLES\" are not B's" := by decide +kernel
  have passes : (Statement.ofProposition proposition).check = .ok () :=
    Statement.check_eq_ok_iff.2 wellFormed
  obtain ⟨checks, _, shown⟩ := @evaluate_checks_iff model (.ofProposition proposition)
    reachable built (fun _ => peaceful) named
  rw [← display]
  exact ⟨built, peaceful, named, displayable, (checks.2 (.inl wellFormed)).1.2 passes,
    (shown displayable).2 (.inl wellFormed)⟩

/--
A negated subject, a quantified predicate and one name for both are passed over, and each
such conclusion has a verdict, while its display is refused for the fault of the conclusion.
-/
theorem evaluate_checks_fails :
    let model := (empty Config.default).run [.read "Some A's are B's", .build]
    let all := Term.quantified .universal "A"
    let malformed : List Proposition :=
      [⟨all.negate, .bare "B"⟩, ⟨all, .quantified .particular "B"⟩, ⟨all, .bare "A"⟩]
    model.isBuilt = true ∧ model.conflicts = [] ∧
      ∀ proposition ∈ malformed,
        (∀ name ∈ proposition.names, name ∈ model.names) ∧
          (∃ evaluation, model.evaluate (.ofProposition proposition) = .ok evaluation ∧
            evaluation.verdict = .holds) ∧
          (Statement.ofProposition proposition).check ≠ .ok () ∧
          (model.evaluateText proposition.display).toOption = none := by
  intro model all malformed
  refine ⟨by decide +kernel, by decide +kernel, ?_⟩
  simp only [← evaluate_verdict_eq_some_iff]
  decide +kernel

end Model

end Syllogistic
