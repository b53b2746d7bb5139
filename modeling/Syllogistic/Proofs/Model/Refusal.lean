import Syllogistic.Proofs.Model.Representation

/-!
# What a refused operation leaves behind

Every addition is checked before the model changes, so a refused one leaves the model
as it was.  A block of premises is taken in line by line, and a refused line ends it:
what the lines before it have added stays.  A build that is refused draws nothing.
-/

namespace Syllogistic

open Text

/-- The lines of a block that are not blank, in their order. -/
def Premise.spokenLines (separators : List Char) (block : String) : List String :=
  ((Premise.lines separators block).map Prod.snd).filter (!isAllBlank ·.toList)

namespace Model

/-- The lines are added one after the other, and each of them is accepted. -/
inductive Takes : Model → List String → Model → Prop
  | nil {model : Model} : Takes model [] model
  | cons {model after : Model} {line : String} {rest : List String}
      (accepted : (model.addLine line).result = .ok ())
      (others : Takes (model.addLine line).model rest after) :
      Takes model (line :: rest) after

/-- The lines before some line are accepted, and that line is refused where they lead. -/
def Stops (model : Model) (lines : List String) (error : Error) (after : Model) : Prop :=
  ∃ taken line rest, lines = taken ++ line :: rest ∧ model.Takes taken after ∧
    (after.addLine line).result = .error error

/-- What lines may come to, and the model that they leave behind. -/
inductive Reads (model : Model) (lines : List String) : Except Error Nat → Model → Prop
  /-- Every line is accepted, and they are counted. -/
  | taken {after : Model}
      (takes : model.Takes lines after) :
      Reads model lines (.ok lines.length) after
  /-- A line is refused, and none after it is read. -/
  | stopped {error : Error} {after : Model}
      (stops : model.Stops lines error after) :
      Reads model lines (.error error) after

/-- Nothing is drawn, and nothing else has changed. -/
structure Undrawn (before after : Model) : Prop where
  config : after.config = before.config
  names : after.names = before.names
  statements : after.statements = before.statements
  isBuilt : after.isBuilt = before.isBuilt
  diagram? : after.diagram? = none
  forcedEmpty : after.forcedEmpty = .empty
  witnessGroups : after.witnessGroups = .empty

variable {model : Model} {error : Error}

/-- A declaration that is refused changes nothing. -/
theorem declare_model_of_error
    {text : String}
    (refused : (model.declare text).result = .error error) :
    (model.declare text).model = model := by
  rcases declare_cases model text with ⟨other, same⟩ | ⟨accepts, named⟩
  · rw [same]
    rfl
  · rw [(declare_of_accepts accepts named).1] at refused
    contradiction

/-- A statement that is refused changes nothing. -/
theorem add_model_of_error
    {statement : Statement}
    (refused : (model.add statement).result = .error error) :
    (model.add statement).model = model := by
  rcases add_cases model statement with ⟨other, same⟩ | ⟨accepts, wellFormed⟩
  · rw [same]
    rfl
  · rw [(add_of_accepts accepts wellFormed).1] at refused
    contradiction

theorem map_eq_error_iff
    {Value Result : Type}
    {step : Except Error Value}
    {change : Value → Result} :
    step.map change = .error error ↔ step = .error error := by
  cases step <;> simp [Except.map]

/-- A line that is refused changes nothing, whatever it says. -/
theorem addLine_model_of_error
    {line : String}
    (refused : (model.addLine line).result = .error error) :
    (model.addLine line).model = model := by
  unfold addLine at refused ⊢
  split at refused
  · rfl
  · rfl
  · exact declare_model_of_error (map_eq_error_iff.1 refused)
  · exact add_model_of_error (map_eq_error_iff.1 refused)

/-- A line that is accepted comes before those that stop. -/
theorem Stops.cons
    {after : Model}
    {line : String}
    {lines : List String}
    (accepted : (model.addLine line).result = .ok ())
    (stops : (model.addLine line).model.Stops lines error after) :
    model.Stops (line :: lines) error after := by
  obtain ⟨taken, last, rest, rfl, takes, refused⟩ := stops
  exact ⟨line :: taken, last, rest, rfl, .cons accepted takes, refused⟩

/-- A line that is accepted counts with those after it. -/
theorem Reads.cons
    {after : Model}
    {line : String}
    {lines : List String}
    {result : Except Error Nat}
    (accepted : (model.addLine line).result = .ok ())
    (reads : (model.addLine line).model.Reads lines result after) :
    model.Reads (line :: lines) (result.map (· + 1)) after := by
  cases reads with
  | taken takes => exact .taken (.cons accepted takes)
  | stopped stops => exact .stopped (stops.cons accepted)

/-- Lines are added up to the first one that is refused, blank ones left out. -/
theorem reads_addLines (model : Model) (lines : List (Nat × String)) :
    model.Reads ((lines.map Prod.snd).filter (!isAllBlank ·.toList))
      (model.addLines lines).result (model.addLines lines).model := by
  induction lines generalizing model with
  | nil => exact .taken .nil
  | cons numbered rest inductionHypothesis =>
      obtain ⟨number, line⟩ := numbered
      unfold addLines
      cases blank : isAllBlank line.toList with
      | true => simpa [blank] using inductionHypothesis model
      | false =>
          rw [List.map_cons, List.filter_cons_of_pos (by simp [blank]), if_neg Bool.false_ne_true]
          cases first : (model.addLine line).result with
          | error fault =>
              simp only [first]
              rw [addLine_model_of_error first]
              exact .stopped ⟨[], line, _, rfl, .nil, first⟩
          | ok answer =>
              simp only [first]
              exact (inductionHypothesis (model.addLine line).model).cons first

/-- A block comes to what its lines come to. -/
theorem reads (model : Model) (block : String) :
    model.Reads (Premise.spokenLines model.config.separators block)
      (model.read block).result (model.read block).model := by
  have lines := model.reads_addLines (Premise.lines model.config.separators block)
  unfold read
  dsimp only
  split
  · exact lines
  · exact lines

/-- A block is taken in up to its first line that is refused. -/
theorem stops_of_read
    {block : String}
    (refused : (model.read block).result = .error error) :
    model.Stops (Premise.spokenLines model.config.separators block) error
      (model.read block).model := by
  have reads := model.reads block
  rw [refused] at reads
  cases reads with
  | stopped stops => exact stops

/-- A model that goes on gathering draws nothing, whatever conflicts it keeps. -/
theorem undrawn_of_gathering
    {refused : List Conflict}
    (stage : model.stage = .gathering refused)
    (conflicts : List Conflict) :
    model.Undrawn { model with stage := .gathering conflicts } where
  config := rfl
  names := rfl
  statements := rfl
  isBuilt := by
    unfold isBuilt chart?
    rw [stage]
  diagram? := rfl
  forcedEmpty := rfl
  witnessGroups := rfl

/-- Building a built model again changes nothing, and no other refused build draws. -/
theorem undrawn_of_build
    (refused : model.build.result = .error error) :
    (error = .stage .alreadyBuilt → model.build.model = model) ∧
      (error ≠ .stage .alreadyBuilt → model.Undrawn model.build.model) := by
  have builds := model.builds
  generalize model.build.result = result at builds refused
  generalize model.build.model = after at builds ⊢
  cases builds with
  | again chart stage =>
      cases refused
      exact ⟨fun _ => rfl, fun other => absurd rfl other⟩
  | unsized earlier fault stage undrawn =>
      cases refused
      exact ⟨Error.noConfusion, fun _ => undrawn_of_gathering stage []⟩
  | conflicting earlier diagram first others stage =>
      cases refused
      exact ⟨Error.noConfusion, fun _ => undrawn_of_gathering stage (first :: others)⟩
  | charted => contradiction

/--
A refused operation leaves a model as it was.  A declaration, a statement or a line
changes nothing.  A block of premises adds its lines up to the first that is refused,
and the error is that of this line.  A build that finds the model built changes nothing,
and any other that is refused keeps all that the model has gathered and draws nothing.
-/
theorem refused_operation_keeps (model : Model) (error : Error) :
    (∀ text, (model.declare text).result = .error error →
      (model.declare text).model = model) ∧
    (∀ statement, (model.add statement).result = .error error →
      (model.add statement).model = model) ∧
    (∀ line, (model.addLine line).result = .error error →
      (model.addLine line).model = model) ∧
    (∀ block, (model.read block).result = .error error →
      model.Stops (Premise.spokenLines model.config.separators block) error
        (model.read block).model) ∧
    (model.build.result = .error error →
      (error = .stage .alreadyBuilt → model.build.model = model) ∧
        (error ≠ .stage .alreadyBuilt → model.Undrawn model.build.model)) := by
  refine ⟨fun text refused => ?_, fun statement refused => ?_, fun line refused => ?_,
    fun block refused => ?_, fun refused => ?_⟩
  · exact declare_model_of_error refused
  · exact add_model_of_error refused
  · exact addLine_model_of_error refused
  · exact stops_of_read refused
  · exact undrawn_of_build refused

/-- A block with a fourth name adds the lines before it, with blank ones left out. -/
theorem refused_operation_keeps_before_fourth_name :
    let model := empty Config.default
    let block := "A;B\n \nSome A's are B's;C;D;E"
    ∃ error, (model.read block).result = .error error ∧
      model.Stops ["A", "B", "Some A's are B's", "C", "D", "E"] error
        (model.read block).model ∧
      (model.read block).model.names.toList = ["A", "B", "C"] := by
  intro model block
  have unanswered : (model.read block).result.toOption = none := by decide +kernel
  have spoken : Premise.spokenLines model.config.separators block =
      ["A", "B", "Some A's are B's", "C", "D", "E"] := by decide +kernel
  cases refused : (model.read block).result with
  | ok count =>
      rw [refused] at unanswered
      contradiction
  | error error =>
      have stops := (refused_operation_keeps model error).2.2.2.1 block refused
      rw [spoken] at stops
      exact ⟨error, rfl, stops, by decide +kernel⟩

end Model
end Syllogistic
