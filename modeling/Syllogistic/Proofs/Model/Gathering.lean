import Syllogistic.Proofs.Model.Run

/-!
# Gathering premises

A model with room for all names of some well-formed premises takes in every one of
them, whichever comes first.  It then has the names of the premises and makes the
statements that they make.
-/

namespace Syllogistic

universe u

namespace Premise

/-- The names that a premise brings with it. -/
def names : Premise → List String
  | .name text => [Name.canonical text]
  | .statement stated => stated.proposition.names

/-- What a premise states; a name states nothing. -/
def statement? : Premise → Option Statement
  | .name _ => none
  | .statement stated => some stated

/-- A declared name is not blank, and a statement is well formed. -/
def WellFormed : Premise → Prop
  | .name text => Name.canonical text ≠ ""
  | .statement stated => stated.proposition.WellFormed

instance : (premise : Premise) → Decidable premise.WellFormed
  | .name text => inferInstanceAs (Decidable (Name.canonical text ≠ ""))
  | .statement stated => inferInstanceAs (Decidable stated.proposition.WellFormed)

/-- The operation that adds a premise. -/
def operation : Premise → Operation
  | .name text => .declare text
  | .statement stated => .add stated

end Premise

namespace Interpretation

/-- Statements are true where others with their propositions are. -/
theorem SatisfiesAll.of_covered
    {interpretation : Interpretation.{u}}
    {first second : List Statement}
    (satisfies : interpretation.SatisfiesAll first)
    (covered : ∀ statement ∈ second,
      ∃ other ∈ first, other.proposition = statement.proposition) :
    interpretation.SatisfiesAll second := by
  intro statement member
  obtain ⟨other, held, equal⟩ := covered statement member
  rw [← equal]
  exact satisfies other held

end Interpretation

namespace Model

/-- What a model has after some premises are added to it. -/
structure Gathers (before : Model) (premises : List Premise) (after : Model) : Prop where
  config : after.config = before.config
  stage : after.stage = before.stage
  names : after.names = before.names.insertAll (premises.flatMap Premise.names)
  states : ∀ proposition, after.hasProposition proposition = true ↔
    before.hasProposition proposition = true ∨
      ∃ statement ∈ premises.filterMap Premise.statement?,
        statement.proposition = proposition

variable {model : Model} {premise : Premise} {premises : List Premise}

theorem hasProposition_iff {proposition : Proposition} :
    model.hasProposition proposition = true ↔
      ∃ statement ∈ model.statements, statement.proposition = proposition := by
  unfold hasProposition
  simp only [List.any_eq_true, decide_eq_true_eq]

/-- One premise is taken in where there is room for its names. -/
theorem gathers_perform
    (accepts : model.Accepts premise.names)
    (wellFormed : premise.WellFormed) :
    model.Gathers [premise] (model.perform premise.operation) := by
  cases premise with
  | name text =>
      change model.Gathers _ (model.declare text).model
      rw [(declare_of_accepts accepts wellFormed).2]
      refine ⟨rfl, rfl, rfl, fun proposition => ?_⟩
      simp [hasProposition, Premise.statement?]
  | statement statement =>
      change model.Gathers _ (model.add statement).model
      rw [(add_of_accepts accepts wellFormed).2]
      refine ⟨rfl, rfl, ?_, fun proposition => ?_⟩
      · simp [Premise.names]
      · simp only [hasProposition_iff, Premise.statement?, List.filterMap_cons,
          List.filterMap_nil, List.mem_singleton, exists_eq_left]
        split
        · rename_i held
          constructor
          · exact Or.inl
          · rintro (old | rfl)
            · exact old
            · exact held
        · simp only [List.mem_append, List.mem_singleton, or_and_right, exists_or,
            exists_eq_left]

/-- What is taken in one after the other is taken in as one list. -/
theorem Gathers.trans
    {before middle after : Model}
    {first second : List Premise}
    (earlier : before.Gathers first middle)
    (later : middle.Gathers second after) :
    before.Gathers (first ++ second) after := by
  constructor
  · exact later.config.trans earlier.config
  · exact later.stage.trans earlier.stage
  · rw [later.names, earlier.names, Ascending.insertAll_insertAll, List.flatMap_append]
  · intro proposition
    rw [later.states, earlier.states, or_assoc, List.filterMap_append]
    simp only [List.mem_append, or_and_right, exists_or]

/-- Every premise of a list is taken in where there is room for all of their names. -/
theorem gathers_run
    (gathering : ∃ refused, model.stage = .gathering refused)
    (wellFormed : ∀ premise ∈ premises, premise.WellFormed)
    (few : (model.names.insertAll (premises.flatMap Premise.names)).size ≤ Diagram.most) :
    model.Gathers premises (model.run (premises.map Premise.operation)) := by
  induction premises generalizing model with
  | nil => exact ⟨rfl, rfl, rfl, fun proposition => by simp [run]⟩
  | cons premise rest inductionHypothesis =>
      -- Names are never taken back, so what has room for all has room for the first.
      have room : (model.names.insertAll premise.names).size ≤ Diagram.most := by
        rw [List.flatMap_cons] at few
        apply Nat.le_trans (Ascending.size_insertAll_le _ model.names) few
        exact fun name member => List.mem_append_left _ member
      have first := gathers_perform ⟨gathering, room⟩ (wellFormed premise List.mem_cons_self)
      have left : ((model.perform premise.operation).names.insertAll
          (rest.flatMap Premise.names)).size ≤ Diagram.most := by
        rw [first.names, Ascending.insertAll_insertAll, ← List.flatMap_append]
        exact few
      rw [← first.stage] at gathering
      have others := inductionHypothesis gathering
        (fun other member => wellFormed other (List.mem_cons_of_mem _ member)) left
      exact first.trans others

/-- A model without premises takes in all premises over some names that are not too many. -/
theorem gathers_of_listed
    (config : Config)
    {listed : List String}
    (wellFormed : ∀ premise ∈ premises, premise.WellFormed)
    (within : ∀ name ∈ premises.flatMap Premise.names, name ∈ listed)
    (few : listed.length ≤ Diagram.most) :
    (empty config).Gathers premises ((empty config).run (premises.map Premise.operation)) := by
  apply gathers_run ⟨[], rfl⟩ wellFormed
  apply Nat.le_trans (Ascending.size_le_length fun name member => ?_) few
  rcases Ascending.mem_insertAll.1 member with added | old
  · exact within name added
  · exact absurd old List.not_mem_nil

/-- It then has the names of the premises and no others. -/
theorem Gathers.mem_names_iff
    {config : Config}
    {name : String}
    (gathers : (empty config).Gathers premises model) :
    name ∈ model.names ↔ name ∈ premises.flatMap Premise.names := by
  rw [gathers.names, Ascending.mem_insertAll]
  exact or_iff_left List.not_mem_nil

/-- An interpretation satisfies its statements when it satisfies the premises. -/
theorem Gathers.satisfiesAll_iff
    {config : Config}
    {interpretation : Interpretation.{u}}
    (gathers : (empty config).Gathers premises model) :
    interpretation.SatisfiesAll model.statements ↔
      interpretation.SatisfiesAll (premises.filterMap Premise.statement?) := by
  have same : ∀ proposition,
      (∃ statement ∈ model.statements, statement.proposition = proposition) ↔
        ∃ statement ∈ premises.filterMap Premise.statement?,
          statement.proposition = proposition := by
    intro proposition
    rw [← hasProposition_iff, gathers.states]
    simp [hasProposition, empty]
  constructor
  · intro satisfies
    exact satisfies.of_covered fun statement member =>
      (same statement.proposition).2 ⟨statement, member, rfl⟩
  · intro satisfies
    exact satisfies.of_covered fun statement member =>
      (same statement.proposition).1 ⟨statement, member, rfl⟩

end Model
end Syllogistic
