import Syllogistic.Proofs.Model.Gathering
import Syllogistic.Proofs.Model.Reading

/-!
# Blocks that are read twice

A model has a premise when it has the names that the premise brings and the proposition
that it states.  A line that is accepted leaves a model that has what the line says, and
no later operation takes it back; so the line is accepted again and changes nothing.  Where
a line was refused it is refused again, for it meets the model that it met before.
-/

namespace Syllogistic
namespace Model

/-- The model still gathers and has all that a premise brings to it. -/
structure Has (model : Model) (premise : Premise) : Prop where
  gathers : ∃ refused, model.stage = .gathering refused
  few : model.names.size ≤ Diagram.most
  wellFormed : premise.WellFormed
  named : ∀ name ∈ premise.names, name ∈ model.names
  stated : ∀ statement ∈ premise.statement?, model.hasProposition statement.proposition = true

/-- The line says nothing, or the model has what it says. -/
inductive HasSaid (model : Model) (line : String) : Prop
  | nothing
      (said : Premise.read line = .ok none)
  | premise (premise : Premise)
      (said : Premise.read line = .ok (some premise))
      (has : model.Has premise)

variable {model after : Model} {premise : Premise} {line : String} {lines : List String}
  {result : Except Error Nat}

/-! ## One line -/

/-- A line that says something is accepted where there is room for the premise. -/
theorem addLine_eq_ok_iff (said : Premise.read line = .ok (some premise)) :
    (model.addLine line).result = .ok () ↔ model.Accepts premise.names ∧ premise.WellFormed := by
  unfold addLine
  rw [said]
  cases premise with
  | name text =>
      change (model.declare text).result.map (fun _ => ()) = .ok () ↔ _
      constructor
      · intro accepted
        rcases declare_cases model text with ⟨error, refused⟩ | room
        · rw [refused] at accepted
          contradiction
        · exact room
      · rintro ⟨accepts, wellFormed⟩
        rw [(declare_of_accepts accepts wellFormed).1]
        rfl
  | statement statement =>
      change (model.add statement).result.map (fun _ => ()) = .ok () ↔ _
      constructor
      · intro accepted
        rcases add_cases model statement with ⟨error, refused⟩ | room
        · rw [refused] at accepted
          contradiction
        · exact room
      · rintro ⟨accepts, wellFormed⟩
        rw [(add_of_accepts accepts wellFormed).1]
        rfl

/-- A line that says something does what the operation of its premise does. -/
theorem model_addLine (said : Premise.read line = .ok (some premise)) :
    (model.addLine line).model = model.perform premise.operation := by
  unfold addLine
  rw [said]
  cases premise <;> rfl

/-- There is room for the names that are there. -/
theorem Has.accepts (has : model.Has premise) : model.Accepts premise.names := by
  refine ⟨has.gathers, ?_⟩
  rw [Ascending.insertAll_eq_self has.named]
  exact has.few

/-- What the model has leaves it as it is. -/
theorem Has.perform (has : model.Has premise) : model.perform premise.operation = model := by
  have grown := Ascending.insertAll_eq_self has.named
  cases premise with
  | name text =>
      change (model.declare text).model = model
      rw [(declare_of_accepts has.accepts has.wellFormed).2,
        show model.names.insertAll [Name.canonical text] = model.names from grown]
  | statement statement =>
      change (model.add statement).model = model
      rw [(add_of_accepts has.accepts has.wellFormed).2, has.stated statement rfl, if_pos rfl,
        show model.names.insertAll statement.proposition.names = model.names from grown]

/-- A premise that is accepted is there afterwards. -/
theorem has_perform
    (accepts : model.Accepts premise.names)
    (wellFormed : premise.WellFormed) :
    (model.perform premise.operation).Has premise := by
  have gathers := gathers_perform accepts wellFormed
  constructor
  · rw [gathers.stage]
    exact accepts.1
  · rw [gathers.names, List.flatMap_singleton]
    exact accepts.2
  · exact wellFormed
  · intro name member
    rw [gathers.names, List.flatMap_singleton]
    exact Ascending.mem_insertAll.2 (.inl member)
  · intro statement stated
    rw [gathers.states]
    exact .inr ⟨statement, by simpa using stated, rfl⟩

/-- A further premise that is accepted takes nothing back. -/
theorem Has.perform_of_accepts
    {other : Premise}
    (has : model.Has premise)
    (accepts : model.Accepts other.names)
    (wellFormed : other.WellFormed) :
    (model.perform other.operation).Has premise := by
  have gathers := gathers_perform accepts wellFormed
  constructor
  · rw [gathers.stage]
    exact has.gathers
  · rw [gathers.names, List.flatMap_singleton]
    exact accepts.2
  · exact has.wellFormed
  · intro name member
    rw [gathers.names]
    exact Ascending.mem_insertAll.2 (.inr (has.named name member))
  · intro statement stated
    rw [gathers.states]
    exact .inl (has.stated statement stated)

/-- A line is accepted if it says nothing or its premise is taken in. -/
theorem addLine_cases (accepted : (model.addLine line).result = .ok ()) :
    Premise.read line = .ok none ∧ (model.addLine line).model = model ∨
      ∃ premise, Premise.read line = .ok (some premise) ∧ model.Accepts premise.names ∧
        premise.WellFormed ∧ (model.addLine line).model = model.perform premise.operation := by
  cases said : Premise.read line with
  | error fault =>
      unfold addLine at accepted
      rw [said] at accepted
      contradiction
  | ok premise? =>
      cases premise? with
      | none =>
          left
          unfold addLine
          rw [said]
          exact ⟨rfl, rfl⟩
      | some premise =>
          obtain ⟨accepts, wellFormed⟩ := (addLine_eq_ok_iff said).1 accepted
          exact .inr ⟨premise, rfl, accepts, wellFormed, model_addLine said⟩

/-- The model has what a line says once the line is accepted. -/
theorem hasSaid_addLine (accepted : (model.addLine line).result = .ok ()) :
    (model.addLine line).model.HasSaid line := by
  rcases addLine_cases accepted with ⟨said, _⟩ | ⟨premise, said, accepts, wellFormed, after⟩
  · exact .nothing said
  · rw [after]
    exact .premise premise said (has_perform accepts wellFormed)

/-- A further line that is accepted takes nothing back. -/
theorem HasSaid.addLine
    {other : String}
    (hasSaid : model.HasSaid line)
    (accepted : (model.addLine other).result = .ok ()) :
    (model.addLine other).model.HasSaid line := by
  cases hasSaid with
  | nothing said => exact .nothing said
  | premise premise said has =>
      rcases addLine_cases accepted with ⟨_, same⟩ | ⟨further, _, accepts, wellFormed, after⟩
      · rw [same]
        exact .premise premise said has
      · rw [after]
        exact .premise premise said (has.perform_of_accepts accepts wellFormed)

/-- A line whose premise the model has is accepted and changes nothing. -/
theorem HasSaid.addLine_self (hasSaid : model.HasSaid line) :
    (model.addLine line).result = .ok () ∧ (model.addLine line).model = model := by
  cases hasSaid with
  | nothing said =>
      unfold Model.addLine
      rw [said]
      exact ⟨rfl, rfl⟩
  | premise premise said has =>
      rw [addLine_eq_ok_iff said, model_addLine said]
      exact ⟨⟨has.accepts, has.wellFormed⟩, has.perform⟩

/-! ## All lines of a block -/

/-- What a line says is there after further lines that are accepted. -/
theorem HasSaid.takes
    (hasSaid : model.HasSaid line)
    (takes : model.Takes lines after) :
    after.HasSaid line := by
  induction takes with
  | nil => exact hasSaid
  | cons accepted _ inductionHypothesis => exact inductionHypothesis (hasSaid.addLine accepted)

/-- Accepted lines leave a model that has what every one of them says. -/
theorem Takes.hasSaid (takes : model.Takes lines after) : ∀ line ∈ lines, after.HasSaid line := by
  induction takes with
  | nil => simp
  | cons accepted others inductionHypothesis =>
      rw [List.forall_mem_cons]
      exact ⟨(hasSaid_addLine accepted).takes others, inductionHypothesis⟩

/-- Lines that say what the model has are accepted and leave it as it is. -/
theorem takes_self (hasSaid : ∀ line ∈ lines, model.HasSaid line) : model.Takes lines model := by
  induction lines with
  | nil => exact .nil
  | cons line rest inductionHypothesis =>
      rw [List.forall_mem_cons] at hasSaid
      obtain ⟨accepted, same⟩ := hasSaid.1.addLine_self
      apply Takes.cons accepted
      rw [same]
      exact inductionHypothesis hasSaid.2

/-- Lines come to the same from the model that they leave, and leave it as it is. -/
theorem Reads.again (reads : model.Reads lines result after) : after.Reads lines result after := by
  cases reads with
  | taken takes => exact .taken (takes_self takes.hasSaid)
  | stopped stops =>
      obtain ⟨taken, last, rest, same, takes, refused⟩ := stops
      exact .stopped ⟨taken, last, rest, same, takes_self takes.hasSaid, refused⟩

/--
A block that is read a second time comes to what it came to the first time, to the same
count or to the same error, and leaves the model as the first reading left it.  This holds
in either stage, and whether the first reading took in the whole block or stopped.
-/
theorem read_twice (model : Model) (block : String) :
    let after := (model.read block).model
    (after.read block).result = (model.read block).result ∧ (after.read block).model = after := by
  intro after
  have first := model.reads block
  have second := after.reads block
  rw [show after.config = model.config from config_perform model (.read block)] at second
  exact second.unique first.again

end Model
end Syllogistic
