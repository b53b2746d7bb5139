import Mathlib.Data.List.Forall2
import Syllogistic.Proofs.Chart.Conclusion
import Syllogistic.Proofs.Diagram.Conversion
import Syllogistic.Proofs.Model.Agreement
import Syllogistic.Proofs.Model.Gathering

/-!
# Converted premises and conclusions

Premises and their converses, one by one, are taken in or refused alike: a converse has the
same names and is well formed when the premise is.  What the models then state differs by
conversion only, so that their charts agree, even where a converted premise coincides with
another and is not added a second time.  A converted conclusion has the same verdict and the
same marked regions; names that are unknown are listed in their new order.
-/

namespace Syllogistic

/-- The premise is the same, or a statement of the same or the converted proposition. -/
inductive Premise.ConvertsTo : Premise → Premise → Prop
  | name (text : String) : ConvertsTo (.name text) (.name text)
  | statement (first second : Statement)
      (converts : first.proposition.ConvertsTo second.proposition) :
      ConvertsTo (.statement first) (.statement second)

namespace Premise.ConvertsTo

variable {first second : Premise}

theorem symm (converts : first.ConvertsTo second) : second.ConvertsTo first := by
  cases converts with
  | name => exact .name _
  | statement _ _ converts => exact .statement _ _ converts.symm

theorem mem_names_iff
    {name : String}
    (converts : first.ConvertsTo second) :
    name ∈ first.names ↔ name ∈ second.names := by
  cases converts with
  | name => exact Iff.rfl
  | statement _ _ converts => exact converts.mem_names_iff

/-- Both bring the same names to those that are known. -/
theorem insertAll_names_eq
    (converts : first.ConvertsTo second)
    (known : Ascending String) :
    known.insertAll first.names = known.insertAll second.names := by
  apply Ascending.ext_mem
  intro name
  rw [Ascending.mem_insertAll, Ascending.mem_insertAll, converts.mem_names_iff]

theorem wellFormed
    (converts : first.ConvertsTo second)
    (wellFormed : first.WellFormed) :
    second.WellFormed := by
  cases converts with
  | name => exact wellFormed
  | statement _ _ converts => exact converts.wellFormed wellFormed

end Premise.ConvertsTo

namespace Model

/-- The model takes in the premise. -/
def takesIn (model : Model) : Premise → Bool
  | .name text => (model.declare text).result.isOk
  | .statement statement => (model.add statement).result.isOk

/-- Which of some premises are taken in, one after the other. -/
def takings (model : Model) : List Premise → List Bool
  | [] => []
  | premise :: rest => model.takesIn premise :: (model.perform premise.operation).takings rest

/-- A premise is taken in when it is well formed and there is room for its names. -/
theorem takesIn_iff {model : Model} {premise : Premise} :
    model.takesIn premise = true ↔ model.Accepts premise.names ∧ premise.WellFormed := by
  constructor
  · intro taken
    cases premise with
    | name text =>
        refine (declare_cases model text).resolve_left ?_
        rintro ⟨error, refused⟩
        rw [takesIn, refused] at taken
        contradiction
    | statement statement =>
        refine (add_cases model statement).resolve_left ?_
        rintro ⟨error, refused⟩
        rw [takesIn, refused] at taken
        contradiction
  · rintro ⟨accepts, wellFormed⟩
    cases premise with
    | name text =>
        rw [takesIn, (declare_of_accepts accepts wellFormed).1]
        rfl
    | statement statement =>
        rw [takesIn, (add_of_accepts accepts wellFormed).1]
        rfl

/-- A premise that is refused leaves the model as it is. -/
theorem perform_of_not_takesIn
    {model : Model}
    {premise : Premise}
    (refused : ¬ model.takesIn premise = true) :
    model.perform premise.operation = model := by
  rw [takesIn_iff] at refused
  cases premise with
  | name text =>
      obtain ⟨error, same⟩ := (declare_cases model text).resolve_right refused
      rw [Premise.operation, perform, same]
      rfl
  | statement statement =>
      obtain ⟨error, same⟩ := (add_cases model statement).resolve_right refused
      rw [Premise.operation, perform, same]
      rfl

/-- Of every proposition that one model states the other states a converse. -/
def ConvertsInto (left right : Model) : Prop :=
  ∀ proposition, left.hasProposition proposition = true →
    ∃ converse, proposition.ConvertsTo converse ∧ right.hasProposition converse = true

/-- Premises and their converses may be added to both models. -/
theorem ConvertsInto.gathers
    {left right leftAfter rightAfter : Model}
    {first second : Premise}
    (into : left.ConvertsInto right)
    (converts : first.ConvertsTo second)
    (gathers : left.Gathers [first] leftAfter)
    (alsoGathers : right.Gathers [second] rightAfter) :
    leftAfter.ConvertsInto rightAfter := by
  intro proposition stated
  simp only [alsoGathers.states]
  rcases (gathers.states proposition).1 stated with old | ⟨statement, new, rfl⟩
  · obtain ⟨converse, converted, held⟩ := into proposition old
    exact ⟨converse, converted, .inl held⟩
  · cases converts with
    | name => exact absurd new List.not_mem_nil
    | statement own other converts =>
        obtain rfl : statement = own := List.mem_singleton.1 new
        exact ⟨other.proposition, converts, .inr ⟨other, List.mem_singleton_self _, rfl⟩⟩

/-- Each statement has a converse in the other model, and the two are alike in a diagram. -/
theorem ConvertsInto.exists_alike
    {left right : Model}
    {statement : Statement}
    (into : left.ConvertsInto right)
    (diagram : Diagram)
    (stated : statement ∈ left.statements) :
    ∃ converse ∈ right.statements, diagram.Alike statement converse := by
  obtain ⟨_, converts, held⟩ := into statement.proposition
    (hasProposition_iff.2 ⟨statement, stated, rfl⟩)
  obtain ⟨converse, member, rfl⟩ := hasProposition_iff.1 held
  exact ⟨converse, member, Diagram.excludes_eq_of_convertsTo converts,
    Diagram.asserts_eq_of_convertsTo converts⟩

/-- Two gathering models have the same names and state the same up to conversion. -/
structure IsConverted (left right : Model) : Prop where
  leftGathers : ∃ refused, left.stage = .gathering refused
  rightGathers : ∃ refused, right.stage = .gathering refused
  config : left.config = right.config
  names : left.names = right.names
  covered : left.ConvertsInto right
  covering : right.ConvertsInto left

namespace IsConverted

variable {left right : Model}

/-- A premise and its converse are both taken in or both refused. -/
theorem perform
    {first second : Premise}
    (isConverted : IsConverted left right)
    (converts : first.ConvertsTo second) :
    left.takesIn first = right.takesIn second ∧
      IsConverted (left.perform first.operation) (right.perform second.operation) := by
  have accepts : left.Accepts first.names ↔ right.Accepts second.names := by
    unfold Accepts
    rw [isConverted.names, converts.insertAll_names_eq]
    exact and_congr_left fun _ =>
      iff_of_true isConverted.leftGathers isConverted.rightGathers
  have together : left.takesIn first = right.takesIn second := by
    rw [Bool.eq_iff_iff, takesIn_iff, takesIn_iff, accepts]
    exact and_congr_right fun _ => ⟨converts.wellFormed, converts.symm.wellFormed⟩
  refine ⟨together, ?_⟩
  by_cases taken : left.takesIn first = true
  · obtain ⟨room, wellFormed⟩ := takesIn_iff.1 taken
    obtain ⟨alsoRoom, alsoWellFormed⟩ := takesIn_iff.1 (together.symm.trans taken)
    have gathers := gathers_perform room wellFormed
    have alsoGathers := gathers_perform alsoRoom alsoWellFormed
    constructor
    · rw [gathers.stage]
      exact isConverted.leftGathers
    · rw [alsoGathers.stage]
      exact isConverted.rightGathers
    · rw [gathers.config, alsoGathers.config, isConverted.config]
    · rw [gathers.names, alsoGathers.names, isConverted.names, List.flatMap_singleton,
        List.flatMap_singleton, converts.insertAll_names_eq]
    -- One of the two may be there already and not be added; what is stated is covered still.
    · exact isConverted.covered.gathers converts gathers alsoGathers
    · exact isConverted.covering.gathers converts.symm alsoGathers gathers
  · rw [perform_of_not_takesIn taken, perform_of_not_takesIn (together ▸ taken)]
    exact isConverted

/-- Premises and their converses are taken in or refused alike, one by one. -/
theorem run
    {first second : List Premise}
    (isConverted : IsConverted left right)
    (converts : List.Forall₂ Premise.ConvertsTo first second) :
    left.takings first = right.takings second ∧
      IsConverted (left.run (first.map Premise.operation))
        (right.run (second.map Premise.operation)) := by
  induction converts generalizing left right with
  | nil => exact ⟨rfl, isConverted⟩
  | @cons premise converse rest others converts _ inductionHypothesis =>
      obtain ⟨together, after⟩ := isConverted.perform converts
      obtain ⟨alike, reached⟩ := inductionHypothesis after
      exact ⟨congrArg₂ List.cons together alike, reached⟩

/-- Charts of the same propositions up to conversion agree. -/
theorem agrees (isConverted : IsConverted left right) : left.Agrees right := by
  refine ⟨isConverted.leftGathers, isConverted.rightGathers, isConverted.config,
    isConverted.names, fun diagram => ?_⟩
  exact Chart.agrees_of_alike (fun _ => isConverted.covered.exists_alike diagram)
    fun _ => isConverted.covering.exists_alike diagram

end IsConverted

end Model

/-- Two evaluations mark the same regions under one verdict, or list unknown names reversed. -/
structure Evaluation.Matches (left right : Evaluation) : Prop where
  marked : left.marked = right.marked
  verdict : left.verdict = right.verdict ∨
    ∃ names, left.verdict = .unknown names ∧ right.verdict = .unknown names.reverse

/-- That some A are B and that some B are A are judged alike. -/
theorem Chart.evaluate_converse
    {statement converse : Statement}
    {subject predicate : String}
    (chart : Chart)
    (existentialImport : Bool)
    (stated : statement.proposition = .categorical .particular subject false predicate)
    (converted : converse.proposition = .categorical .particular predicate false subject) :
    ∃ evaluation other, chart.evaluate existentialImport statement = .ok evaluation ∧
      chart.evaluate existentialImport converse = .ok other ∧ evaluation.Matches other := by
  have particular : statement.quantifier = some .particular := by
    rw [Statement.quantifier, stated]
    rfl
  have alsoParticular : converse.quantifier = some .particular := by
    rw [Statement.quantifier, converted]
    rfl
  have same : chart.diagram.bearing? statement.proposition =
      chart.diagram.bearing? converse.proposition := by
    rw [stated, converted, Diagram.bearing?_converse]
  cases found : chart.diagram.bearing? statement.proposition with
  | none =>
      have alsoFound := same.symm.trans found
      have reversed : chart.unknownNames converse.proposition =
          (chart.unknownNames statement.proposition).reverse := by
        rw [stated, converted, unknownNames, unknownNames, ← List.filter_reverse]
        rfl
      refine ⟨⟨statement, .unknown (chart.unknownNames statement.proposition), []⟩,
        ⟨converse, .unknown (chart.unknownNames converse.proposition), []⟩, ?_, ?_, rfl, .inr ?_⟩
      · rw [evaluate, found]
      · rw [evaluate, alsoFound]
      · rw [reversed]
        exact ⟨_, rfl, rfl⟩
  | some bearing =>
      have alsoFound := same.symm.trans found
      refine ⟨_, _, evaluate_of_particular found particular,
        evaluate_of_particular alsoFound alsoParticular, ?_⟩
      rw [chart.judgeParticular_congr bearing particular alsoParticular existentialImport
        existentialImport]
      exact ⟨rfl, .inl rfl⟩

namespace Model

/-- A conclusion and its converse are refused with one error, or both are judged alike. -/
theorem evaluate_converse
    {statement converse : Statement}
    {subject predicate : String}
    (model : Model)
    (stated : statement.proposition = .categorical .particular subject false predicate)
    (converted : converse.proposition = .categorical .particular predicate false subject) :
    (∃ error, model.evaluate statement = .error error ∧ model.evaluate converse = .error error) ∨
      ∃ evaluation other, model.evaluate statement = .ok evaluation ∧
        model.evaluate converse = .ok other ∧ evaluation.Matches other := by
  unfold evaluate
  cases model.chart? with
  | none => exact .inl ⟨_, rfl, rfl⟩
  | some chart =>
      dsimp only
      cases model.blocking? with
      | some conflict => exact .inl ⟨_, rfl, rfl⟩
      | none =>
          obtain ⟨evaluation, other, judged, alsoJudged, matching⟩ :=
            chart.evaluate_converse model.config.existentialImport stated converted
          rw [judged, alsoJudged]
          exact .inr ⟨evaluation, other, rfl, rfl, matching⟩

/--
Of two lists of premises that are equal but for the conversion of some particular
affirmations and universal denials, premise for premise is taken in or refused alike.  Both
builds succeed or both fail, they leave the same regions emptied and the same groups with a
witness, and every conclusion is refused in both models or has the same verdict and the same
marked regions in both.  In any model, that some A are B and that some B are A have the same
verdict and the same marked regions, or are refused with the same error.
-/
theorem converted_premises_answer_alike
    (config : Config)
    {first second : List Premise}
    (converts : List.Forall₂ Premise.ConvertsTo first second) :
    let left := (empty config).run (first.map Premise.operation)
    let right := (empty config).run (second.map Premise.operation)
    (empty config).takings first = (empty config).takings second ∧
      (left.build.result = .ok () ↔ right.build.result = .ok ()) ∧
        left.build.model.forcedEmpty.keys = right.build.model.forcedEmpty.keys ∧
          left.build.model.witnessGroups.keys = right.build.model.witnessGroups.keys ∧
            (∀ statement, (left.build.model.evaluate statement).toOption =
              (right.build.model.evaluate statement).toOption) ∧
      ∀ (model : Model) (statement converse : Statement) (subject predicate : String),
        statement.proposition = .categorical .particular subject false predicate →
        converse.proposition = .categorical .particular predicate false subject →
          (∃ error, model.evaluate statement = .error error ∧
            model.evaluate converse = .error error) ∨
          ∃ evaluation other, model.evaluate statement = .ok evaluation ∧
            model.evaluate converse = .ok other ∧ evaluation.Matches other := by
  intro left right
  have start : IsConverted (empty config) (empty config) :=
    ⟨⟨[], rfl⟩, ⟨[], rfl⟩, rfl, rfl, nofun, nofun⟩
  obtain ⟨together, reached⟩ := start.run converts
  have leftCoherent : left.Coherent := coherent_run config _
  have rightCoherent : right.Coherent := coherent_run config _
  obtain ⟨built, _⟩ := reached.agrees.exists_agrees_of_build leftCoherent rightCoherent
  obtain ⟨forced, groups, answers⟩ :=
    reached.agrees.answers_of_build leftCoherent rightCoherent
  exact ⟨together, built, forced, groups, answers,
    fun model _ _ _ _ stated converted => model.evaluate_converse stated converted⟩

/--
Two premises that are converses of each other, a denial and a name: once the second and the
third are converted the first two coincide, and yet the same conclusions follow.
-/
theorem converted_premises_answer_alike_of_three :
    let affirmation := Statement.ofProposition (.categorical .particular "A" false "B")
    let converse := Statement.ofProposition (.categorical .particular "B" false "A")
    let denial := Statement.ofProposition (.categorical .universal "B" true "C")
    let reversal := Statement.ofProposition (.categorical .universal "C" true "B")
    let first : List Premise := [.statement affirmation, .statement converse, .name "C",
      .statement denial]
    let second : List Premise := [.statement affirmation, .statement affirmation, .name "C",
      .statement reversal]
    let left := (empty Config.default).run (first.map Premise.operation)
    let right := (empty Config.default).run (second.map Premise.operation)
    (empty Config.default).takings second = [true, true, true, true] ∧
      left.statements.length = 3 ∧ right.statements.length = 2 ∧
        right.build.result = .ok () ∧
          ∀ statement, (left.build.model.evaluate statement).toOption =
            (right.build.model.evaluate statement).toOption := by
  intro affirmation converse denial reversal first second left right
  have converts : List.Forall₂ Premise.ConvertsTo first second :=
    .cons (.statement _ _ (.kept _)) (.cons (.statement _ _ (.particular "B" "A"))
      (.cons (.name "C") (.cons (.statement _ _ (.universal "B" "C")) .nil)))
  obtain ⟨together, built, _, _, answers, _⟩ :=
    converted_premises_answer_alike Config.default converts
  have taken : (empty Config.default).takings first = [true, true, true, true] := by
    decide +kernel
  have builds : left.build.result = .ok () :=
    (build_eq_ok_iff_isBuilt (by decide +kernel)).2 (by decide +kernel)
  exact ⟨together.symm.trans taken, by decide +kernel, by decide +kernel, built.1 builds, answers⟩

end Model
end Syllogistic
