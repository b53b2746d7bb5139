import Syllogistic.Proofs.Model.Evaluation

/-!
# What the operations look at

Additions look at the premises of a model, at how far it has come and at where its blocks are
cut, and at nothing else.  So they answer alike on models that differ in how conclusions are
evaluated, in how conflicts are treated, or in the conflicts that are kept from refused builds,
and what they leave behind differs in the same way.  Builds look at the treatment of conflicts
besides, and evaluations at the whole configuration.
-/

namespace Syllogistic

/--
Two models cut blocks at the same characters, have the same premises, and have come as far:
both are gathering, or they are built on the same chart.
-/
structure Model.Resembles (left right : Model) : Prop where
  separators : left.config.separators = right.config.separators
  names : left.names = right.names
  statements : left.statements = right.statements
  chart? : left.chart? = right.chart?

/-- Two outcomes have the same result and leave models behind that resemble each other. -/
structure Outcome.Resembles {α : Type} (left right : Outcome α) : Prop where
  result : left.result = right.result
  model : left.model.Resembles right.model

namespace Model
namespace Resembles

variable {left right : Model}

theorem refl (model : Model) : model.Resembles model := ⟨rfl, rfl, rfl, rfl⟩

theorem trans
    {other : Model}
    (first : left.Resembles right)
    (second : right.Resembles other) :
    left.Resembles other where
  separators := first.separators.trans second.separators
  names := first.names.trans second.names
  statements := first.statements.trans second.statements
  chart? := first.chart?.trans second.chart?

/-- Models that resemble each other are built on one chart, or both are gathering. -/
theorem stages (same : left.Resembles right) :
    (∃ chart, left.stage = .built chart ∧ right.stage = .built chart) ∨
      ∃ refused alsoRefused,
        left.stage = .gathering refused ∧ right.stage = .gathering alsoRefused := by
  have charts := same.chart?
  unfold Model.chart? at charts
  cases leftStage : left.stage with
  | gathering refused =>
      cases rightStage : right.stage with
      | gathering alsoRefused => exact Or.inr ⟨refused, alsoRefused, rfl, rfl⟩
      | built chart =>
          rw [leftStage, rightStage] at charts
          contradiction
  | built chart =>
      cases rightStage : right.stage with
      | gathering alsoRefused =>
          rw [leftStage, rightStage] at charts
          contradiction
      | built other =>
          rw [leftStage, rightStage] at charts
          cases charts
          exact Or.inl ⟨chart, rfl, rfl⟩

theorem stage_of_built
    {chart : Chart}
    (same : left.Resembles right)
    (built : left.stage = .built chart) :
    right.stage = .built chart := by
  rcases same.stages with ⟨other, leftBuilt, rightBuilt⟩ | ⟨_, _, gathers, _⟩
  · rw [built] at leftBuilt
    cases leftBuilt
    exact rightBuilt
  · rw [built] at gathers
    contradiction

theorem refuse {α : Type} (same : left.Resembles right) (error : Error) :
    (left.refuse error : Outcome α).Resembles (right.refuse error) := ⟨rfl, same⟩

/-! ## Additions -/

theorem declare (same : left.Resembles right) (text : String) :
    (left.declare text).Resembles (right.declare text) := by
  rcases same.stages with ⟨chart, built, alsoBuilt⟩ | ⟨_, _, gathers, alsoGathers⟩
  · simp only [Model.declare, built, alsoBuilt]
    exact same.refuse _
  · simp only [Model.declare, gathers, alsoGathers, crowding?, same.names]
    split
    · exact same.refuse _
    · split
      · exact same.refuse _
      · split
        · exact ⟨rfl, same⟩
        · exact ⟨rfl, same.separators, rfl, same.statements, rfl⟩

theorem add (same : left.Resembles right) (statement : Statement) :
    (left.add statement).Resembles (right.add statement) := by
  rcases same.stages with ⟨chart, built, alsoBuilt⟩ | ⟨_, _, gathers, alsoGathers⟩
  · simp only [Model.add, built, alsoBuilt]
    exact same.refuse _
  · simp only [Model.add, gathers, alsoGathers, crowding?, hasProposition, same.names,
      same.statements]
    split
    · exact same.refuse _
    · split
      · exact same.refuse _
      · split
        · exact ⟨rfl, same.separators, rfl, rfl, rfl⟩
        · exact ⟨rfl, same.separators, rfl, rfl, rfl⟩

theorem addLine (same : left.Resembles right) (line : String) :
    (left.addLine line).Resembles (right.addLine line) := by
  unfold Model.addLine
  split
  · exact same.refuse _
  · exact ⟨rfl, same⟩
  · have declared := same.declare
    exact ⟨congrArg (Except.map _) (declared _).result, (declared _).model⟩
  · have added := same.add
    exact ⟨congrArg (Except.map _) (added _).result, (added _).model⟩

theorem addLines (same : left.Resembles right) (lines : List (Nat × String)) :
    (left.addLines lines).Resembles (right.addLines lines) := by
  induction lines generalizing left right with
  | nil => exact ⟨rfl, same⟩
  | cons numbered rest inductionHypothesis =>
      obtain ⟨number, line⟩ := numbered
      have first := same.addLine line
      have others := inductionHypothesis first.model
      unfold Model.addLines
      split
      · exact inductionHypothesis same
      · dsimp only
        rw [first.result]
        split
        · exact ⟨rfl, first.model⟩
        · exact ⟨congrArg (Except.map _) others.result, others.model⟩

theorem read (same : left.Resembles right) (block : String) :
    (left.read block).Resembles (right.read block) := by
  have lines := same.addLines (Premise.lines right.config.separators block)
  unfold Model.read
  rw [same.separators]
  dsimp only
  rw [lines.result]
  split
  · exact lines
  · exact ⟨rfl, lines.model⟩

/-! ## Builds and evaluations -/

/-- Builds differ where conflicts are treated differently, and only there. -/
theorem build
    (same : left.Resembles right)
    (checks : left.config.conflictCheck = right.config.conflictCheck) :
    left.build.Resembles right.build := by
  rcases same.stages with ⟨chart, built, alsoBuilt⟩ | ⟨_, _, gathers, alsoGathers⟩
  · simp only [Model.build, built, alsoBuilt]
    exact same.refuse _
  · simp only [Model.build, gathers, alsoGathers, same.names, same.statements, checks]
    split
    · exact ⟨rfl, same.separators, rfl, rfl, rfl⟩
    · split
      · exact ⟨rfl, same.separators, rfl, rfl, rfl⟩
      · exact ⟨rfl, same.separators, rfl, rfl, rfl⟩

/-- A build that is refused does not bring a model any further. -/
theorem of_refused_build
    {model : Model}
    {error : Error}
    (refused : model.build.result = .error error) :
    model.build.model.Resembles model := by
  have builds := model.builds
  generalize model.build.result = result at builds refused
  generalize model.build.model = after at builds ⊢
  cases builds with
  | again => exact refl model
  | unsized _ _ stage => exact ⟨rfl, rfl, rfl, by rw [Model.chart?, Model.chart?, stage]⟩
  | conflicting _ _ _ _ stage =>
      exact ⟨rfl, rfl, rfl, by rw [Model.chart?, Model.chart?, stage]⟩
  | charted => contradiction

/-- With one configuration conclusions are evaluated alike. -/
theorem evaluate
    (same : left.Resembles right)
    (config : left.config = right.config)
    (statement : Statement) :
    left.evaluate statement = right.evaluate statement := by
  rcases same.stages with ⟨chart, built, alsoBuilt⟩ | ⟨_, _, gathers, alsoGathers⟩
  · simp only [Model.evaluate, blocking?, conflicts, same.chart?, config, built, alsoBuilt]
  · simp only [Model.evaluate, Model.chart?, gathers, alsoGathers]

/-- Once they are built, models with one configuration that resemble each other are one model. -/
theorem eq_of_built
    (same : left.Resembles right)
    (config : left.config = right.config)
    (built : left.isBuilt = true) :
    left = right := by
  obtain ⟨chart, stage⟩ := exists_built_iff.1 built
  have stages : left.stage = right.stage := stage.trans (same.stage_of_built stage).symm
  obtain ⟨_, names, statements, _⟩ := same
  cases left
  cases right
  simp only at config names statements stages
  rw [config, names, statements, stages]

/-! ## Runs -/

/-- Operations keep a resemblance, builds where conflicts are treated alike. -/
theorem perform
    {operation : Operation}
    (same : left.Resembles right)
    (checks : operation = .build → left.config.conflictCheck = right.config.conflictCheck) :
    (left.perform operation).Resembles (right.perform operation) := by
  cases operation with
  | declare text => exact (same.declare text).model
  | add statement => exact (same.add statement).model
  | line line => exact (same.addLine line).model
  | read block => exact (same.read block).model
  | build => exact (same.build (checks rfl)).model

/-- Runs keep it, if there is no build among them or conflicts are treated alike. -/
theorem run
    {operations : List Operation}
    (same : left.Resembles right)
    (checks : .build ∈ operations → left.config.conflictCheck = right.config.conflictCheck) :
    (left.run operations).Resembles (right.run operations) := by
  induction operations generalizing left right with
  | nil => exact same
  | cons operation rest inductionHypothesis =>
      have first : (left.perform operation).Resembles (right.perform operation) :=
        same.perform fun building => checks (building ▸ List.mem_cons_self)
      apply inductionHypothesis first
      intro later
      rw [config_perform, config_perform]
      exact checks (List.mem_cons_of_mem _ later)

end Resembles
end Model
end Syllogistic
