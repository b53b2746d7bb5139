import Syllogistic.Proofs.Model.Resemblance

/-!
# Sessions with a model

In a session a model is changed and asked in any order, and gives an answer to each request.
A build that is refused leaves nothing behind that any later answer depends on: without it
the other requests are answered as they were, and the session ends with the same model, save
for the conflicts that a model keeps while it gathers.
-/

namespace Syllogistic

/-- What a model may be asked for. -/
inductive Request
  /-- An operation that may change the model. -/
  | perform (operation : Operation)
  /-- A verdict on a conclusion. -/
  | evaluate (statement : Statement)

/-- What comes of a request. -/
inductive Answer
  | declared (result : Except Error Bool)
  | added (result : Except Error Bool)
  | lineAdded (result : Except Error Unit)
  | blockRead (result : Except Error Nat)
  | built (result : Except Error Unit)
  | evaluated (result : Except Error Evaluation)

/-- A build was asked for, and refused. -/
def Answer.isRefusedBuild : Answer → Bool
  | built (.error _) => true
  | _ => false

namespace Model

/-- The answer of a model to a request. -/
def answer (model : Model) : Request → Answer
  | .perform (.declare text) => .declared (model.declare text).result
  | .perform (.add statement) => .added (model.add statement).result
  | .perform (.line line) => .lineAdded (model.addLine line).result
  | .perform (.read block) => .blockRead (model.read block).result
  | .perform .build => .built model.build.result
  | .evaluate statement => .evaluated (model.evaluate statement)

/-- The model after a request; a conclusion leaves it as it is. -/
def after (model : Model) : Request → Model
  | .perform operation => model.perform operation
  | .evaluate _ => model

/-- The answers in a session, one after the other. -/
def answers (model : Model) : List Request → List Answer
  | [] => []
  | request :: rest => model.answer request :: (model.after request).answers rest

/-- The model at the end of a session. -/
def afterAll (model : Model) (requests : List Request) : Model :=
  requests.foldl after model

/-- The requests of a session without the builds that are refused in it. -/
def withoutRefusedBuilds (model : Model) : List Request → List Request
  | [] => []
  | request :: rest =>
      let others := (model.after request).withoutRefusedBuilds rest
      if (model.answer request).isRefusedBuild then others else request :: others

/--
Two models have the same configuration and the same premises and have come as far.  They
may differ in the conflicts that are kept from refused builds, and in nothing else.
-/
structure SameWork (left right : Model) : Prop where
  config : left.config = right.config
  resembles : left.Resembles right

namespace SameWork

variable {left right : Model} {request : Request}

theorem refl (model : Model) : model.SameWork model := ⟨rfl, .refl model⟩

/-- If they differ at all, both gather, and one has kept other conflicts than the other. -/
theorem eq_or_gathering (same : left.SameWork right) :
    right = left ∨ ∃ refused alsoRefused, left.stage = .gathering refused ∧
      right = { left with stage := .gathering alsoRefused } := by
  rcases same.resembles.stages with ⟨chart, built, _⟩ | ⟨refused, alsoRefused, stage, alsoStage⟩
  · exact Or.inl (same.resembles.eq_of_built same.config (exists_built_iff.2 ⟨chart, built⟩)).symm
  · refine Or.inr ⟨refused, alsoRefused, stage, ?_⟩
    obtain ⟨config, resembles⟩ := same
    cases right
    simp only at config alsoStage
    rw [config, resembles.names, resembles.statements, alsoStage]

/-- Nothing that is asked for brings the difference to light. -/
theorem answer (same : left.SameWork right) (request : Request) :
    left.answer request = right.answer request := by
  have checks := congrArg Config.conflictCheck same.config
  cases request with
  | evaluate statement => exact congrArg Answer.evaluated (same.resembles.evaluate same.config _)
  | perform operation =>
      cases operation with
      | declare text => exact congrArg Answer.declared (same.resembles.declare text).result
      | add statement => exact congrArg Answer.added (same.resembles.add statement).result
      | line line => exact congrArg Answer.lineAdded (same.resembles.addLine line).result
      | read block => exact congrArg Answer.blockRead (same.resembles.read block).result
      | build => exact congrArg Answer.built (same.resembles.build checks).result

theorem after (same : left.SameWork right) (request : Request) :
    (left.after request).SameWork (right.after request) := by
  cases request with
  | evaluate statement => exact same
  | perform operation =>
      constructor
      · exact (config_perform left operation).trans
          (same.config.trans (config_perform right operation).symm)
      · exact same.resembles.perform fun _ => congrArg Config.conflictCheck same.config

/-- A refused build does no work. -/
theorem after_refusedBuild
    (same : left.SameWork right)
    (refused : (left.answer request).isRefusedBuild = true) :
    (left.after request).SameWork right := by
  cases request with
  | evaluate statement => contradiction
  | perform operation =>
      cases operation with
      | build =>
          change (Answer.built left.build.result).isRefusedBuild = true at refused
          cases result : left.build.result with
          | ok =>
              rw [result] at refused
              contradiction
          | error error =>
              exact ⟨left.build_keeps.1.trans same.config,
                (Resembles.of_refused_build result).trans same.resembles⟩
      | _ => contradiction

/-- Without its refused builds a session is answered alike and does the same work. -/
theorem withoutRefusedBuilds (same : left.SameWork right) (requests : List Request) :
    right.answers (left.withoutRefusedBuilds requests) =
        (left.answers requests).filter (!·.isRefusedBuild) ∧
      (left.afterAll requests).SameWork
        (right.afterAll (left.withoutRefusedBuilds requests)) := by
  induction requests generalizing left right with
  | nil => exact ⟨rfl, same⟩
  | cons request rest inductionHypothesis =>
      rw [Model.withoutRefusedBuilds, Model.answers]
      cases refused : (left.answer request).isRefusedBuild with
      | true =>
          rw [if_pos rfl, List.filter_cons_of_neg (by simp [refused])]
          exact inductionHypothesis (same.after_refusedBuild refused)
      | false =>
          obtain ⟨answered, ends⟩ := inductionHypothesis (same.after request)
          rw [if_neg Bool.false_ne_true, List.filter_cons_of_pos (by simp [refused]), ← answered,
            same.answer request]
          exact ⟨rfl, ends⟩

end SameWork

/--
If the builds that are refused in a session are left out, all other requests have the
answers that they had, and the session ends with the same model; or it ends with a model
that gathers in both cases and differs only in the conflicts that it keeps.
-/
theorem refused_builds_leave_no_trace (config : Config) (requests : List Request) :
    let start := empty config
    let kept := start.withoutRefusedBuilds requests
    start.answers kept = (start.answers requests).filter (!·.isRefusedBuild) ∧
      (start.afterAll kept = start.afterAll requests ∨
        ∃ refused alsoRefused, (start.afterAll requests).stage = .gathering refused ∧
          start.afterAll kept =
            { start.afterAll requests with stage := .gathering alsoRefused }) := by
  intro start kept
  obtain ⟨answered, ends⟩ := (SameWork.refl start).withoutRefusedBuilds requests
  exact ⟨answered, ends.eq_or_gathering⟩

/-- A build without premises is refused and left out; one with premises is kept. -/
example :
    let rule := Statement.ofProposition (.categorical .universal "A" false "B")
    let premise := Request.perform (.add rule)
    (empty Config.default).withoutRefusedBuilds
        [.perform .build, premise, .perform .build, .evaluate rule] =
      [premise, .perform .build, .evaluate rule] := by
  rfl

end Model
end Syllogistic
