import Syllogistic.Model.Building
import Syllogistic.Proofs.Ascending
import Syllogistic.Proofs.Chart.Records

/-!
# Runs of operations on a model

A model is reached from one without premises by operations in any order, each of
which may fail.  All that is reached is coherent: the model has at most three
names, its statements are well formed, distinct and about its names, and if it is
built, its chart is that of its statements over its names.
-/

namespace Syllogistic

/-- An operation that may change a model. -/
inductive Operation
  | declare (text : String)
  | add (statement : Statement)
  | line (line : String)
  | read (block : String)
  | build

namespace Model

/-- The model after an operation, whether the operation succeeds or not. -/
def perform (model : Model) : Operation → Model
  | .declare text => (model.declare text).model
  | .add statement => (model.add statement).model
  | .line line => (model.addLine line).model
  | .read block => (model.read block).model
  | .build => model.build.model

/-- The model after some operations, one after the other. -/
def run (model : Model) (operations : List Operation) : Model :=
  operations.foldl perform model

/-- Some operations lead from a model without premises to the model. -/
def Reachable (model : Model) : Prop :=
  ∃ config operations, (empty config).run operations = model

/-- What is done to a model that is reached leads to another. -/
theorem Reachable.run
    {model : Model}
    (reachable : model.Reachable)
    (operations : List Operation) :
    (model.run operations).Reachable := by
  obtain ⟨config, earlier, rfl⟩ := reachable
  exact ⟨config, earlier ++ operations, List.foldl_append⟩

/-! ## What one operation does -/

/-- The model still gathers, and there is room for the names. -/
def Accepts (model : Model) (names : List String) : Prop :=
  (∃ refused, model.stage = .gathering refused) ∧
    (model.names.insertAll names).size ≤ Diagram.most

theorem Accepts.not_built
    {model : Model}
    {names : List String}
    (accepts : model.Accepts names)
    (chart : Chart) :
    model.stage ≠ .built chart := by
  obtain ⟨⟨refused, gathering⟩, _⟩ := accepts
  rw [gathering]
  exact Stage.noConfusion

theorem crowding?_eq_none_iff {model : Model} {names : List String} :
    model.crowding? names = none ↔ (model.names.insertAll names).size ≤ Diagram.most := by
  unfold crowding?
  dsimp only
  split
  · rename_i many
    simp only [reduceCtorEq, false_iff]
    omega
  · rename_i few
    simp only [true_iff]
    omega

/-- A model with room for a name takes it in. -/
theorem declare_of_accepts
    {model : Model}
    {text : String}
    (accepts : model.Accepts [Name.canonical text])
    (named : Name.canonical text ≠ "") :
    (model.declare text).result = .ok (decide (Name.canonical text ∉ model.names)) ∧
      (model.declare text).model =
        { model with names := model.names.insertAll [Name.canonical text] } := by
  obtain ⟨⟨refused, stage⟩, few⟩ := accepts
  have crowding := crowding?_eq_none_iff.2 few
  unfold declare
  by_cases held : Name.canonical text ∈ model.names
  · have same : model.names.insertAll [Name.canonical text] = model.names :=
      Ascending.insertAll_eq_self (by simpa using held)
    simp only [stage, named, crowding, held, same, if_true, if_false, not_true_eq_false,
      decide_false, true_and]
    rw [← stage]
  · simp [stage, named, crowding, held, Ascending.insertAll]

/-- A declaration is refused unless the model has room for the name. -/
theorem declare_cases (model : Model) (text : String) :
    (∃ error, model.declare text = model.refuse error) ∨
      model.Accepts [Name.canonical text] ∧ Name.canonical text ≠ "" := by
  unfold declare
  cases stage : model.stage with
  | built chart => exact Or.inl ⟨_, rfl⟩
  | gathering refused =>
      by_cases blank : Name.canonical text = ""
      · exact Or.inl ⟨_, if_pos blank⟩
      · cases crowding : model.crowding? [Name.canonical text] with
        | some fault => exact Or.inl ⟨.size fault, by simp [blank, crowding]⟩
        | none => exact Or.inr ⟨⟨⟨refused, stage⟩, crowding?_eq_none_iff.1 crowding⟩, blank⟩

/-- A model with room for the names of a well-formed statement takes it in. -/
theorem add_of_accepts
    {model : Model}
    {statement : Statement}
    (accepts : model.Accepts statement.proposition.names)
    (wellFormed : statement.proposition.WellFormed) :
    (model.add statement).result = .ok (!model.hasProposition statement.proposition) ∧
      (model.add statement).model =
        { model with
          names := model.names.insertAll statement.proposition.names
          statements :=
            if model.hasProposition statement.proposition then model.statements
            else model.statements ++ [statement] } := by
  obtain ⟨⟨refused, stage⟩, few⟩ := accepts
  have crowding := crowding?_eq_none_iff.2 few
  have checked := Statement.check_eq_ok_iff.2 wellFormed
  unfold add
  by_cases held : model.hasProposition statement.proposition
  · simp [stage, checked, crowding, held]
  · simp [stage, checked, crowding, held]

/-- A statement is refused unless it is well formed and the model has room for its names. -/
theorem add_cases (model : Model) (statement : Statement) :
    (∃ error, model.add statement = model.refuse error) ∨
      model.Accepts statement.proposition.names ∧ statement.proposition.WellFormed := by
  unfold add
  cases stage : model.stage with
  | built chart => exact Or.inl ⟨_, rfl⟩
  | gathering refused =>
      cases checked : statement.check with
      | error fault => exact Or.inl ⟨_, rfl⟩
      | ok accepted =>
          cases crowding : model.crowding? statement.proposition.names with
          | some fault => exact Or.inl ⟨.size fault, by simp [crowding]⟩
          | none =>
              have few := crowding?_eq_none_iff.1 crowding
              exact Or.inr ⟨⟨⟨refused, stage⟩, few⟩, Statement.check_eq_ok_iff.1 checked⟩

/-- A declaration adds no statement. -/
theorem statements_declare (model : Model) (text : String) :
    (model.declare text).model.statements = model.statements := by
  rcases declare_cases model text with ⟨error, refused⟩ | ⟨accepts, named⟩
  · rw [refused]
    rfl
  · rw [(declare_of_accepts accepts named).2]

/-- An addition adds the statement after all others, or none. -/
theorem statements_add_cases (model : Model) (statement : Statement) :
    (model.add statement).model.statements = model.statements ∨
      (model.add statement).model.statements = model.statements ++ [statement] := by
  rcases add_cases model statement with ⟨error, refused⟩ | ⟨accepts, wellFormed⟩
  · rw [refused]
    exact .inl rfl
  · rw [(add_of_accepts accepts wellFormed).2]
    dsimp only
    split
    · exact .inl rfl
    · exact .inr rfl

/-- After an addition every statement is an old one or the one that was added. -/
theorem mem_statements_add
    {model : Model}
    {statement other : Statement}
    (member : other ∈ (model.add statement).model.statements) :
    other ∈ model.statements ∨ other = statement := by
  rcases model.statements_add_cases statement with same | grown
  · rw [same] at member
    exact .inl member
  · rw [grown] at member
    simpa using member

/-- A declaration changes neither the configuration nor the stage. -/
theorem declare_keeps (model : Model) (text : String) :
    (model.declare text).model.config = model.config ∧
      (model.declare text).model.stage = model.stage := by
  rcases declare_cases model text with ⟨error, refused⟩ | ⟨accepts, named⟩
  · rw [refused]
    exact ⟨rfl, rfl⟩
  · rw [(declare_of_accepts accepts named).2]
    exact ⟨rfl, rfl⟩

/-- Nor does a statement. -/
theorem add_keeps (model : Model) (statement : Statement) :
    (model.add statement).model.config = model.config ∧
      (model.add statement).model.stage = model.stage := by
  rcases add_cases model statement with ⟨error, refused⟩ | ⟨accepts, wellFormed⟩
  · rw [refused]
    exact ⟨rfl, rfl⟩
  · rw [(add_of_accepts accepts wellFormed).2]
    exact ⟨rfl, rfl⟩

/-- What a build may answer and leave behind. -/
inductive Builds (model : Model) : Except Error Unit → Model → Prop
  /-- A built model is not built again. -/
  | again (chart : Chart)
      (stage : model.stage = .built chart) :
      Builds model (.error (.stage .alreadyBuilt)) model
  /-- There is no diagram over the names. -/
  | unsized (refused : List Conflict) (fault : SizeFault)
      (stage : model.stage = .gathering refused)
      (undrawn : Diagram.ofAscending model.names = .error fault) :
      Builds model (.error (.size fault)) { model with stage := .gathering [] }
  /-- An eager check finds a conflict. -/
  | conflicting (refused : List Conflict) (diagram : Diagram) (first : Conflict)
      (others : List Conflict)
      (stage : model.stage = .gathering refused)
      (drawn : Diagram.ofAscending model.names = .ok diagram)
      (eager : model.config.conflictCheck = .eager)
      (found : (Chart.ofStatements diagram model.statements).conflicts = first :: others) :
      Builds model (.error (.conflict first))
        { model with stage := .gathering (first :: others) }
  /-- The premises stand on a chart. -/
  | charted (refused : List Conflict) (diagram : Diagram)
      (stage : model.stage = .gathering refused)
      (drawn : Diagram.ofAscending model.names = .ok diagram)
      (peaceful : model.config.conflictCheck = .eager →
        (Chart.ofStatements diagram model.statements).conflicts = []) :
      Builds model (.ok ())
        { model with stage := .built (Chart.ofStatements diagram model.statements) }

/-- Every build is one of these four. -/
theorem builds (model : Model) : model.Builds model.build.result model.build.model := by
  unfold build
  cases stage : model.stage with
  | built chart => exact .again chart stage
  | gathering refused =>
      cases drawn : Diagram.ofAscending model.names with
      | error fault => exact .unsized refused fault stage drawn
      | ok diagram =>
          dsimp only
          split
          · rename_i first others eager found
            exact .conflicting refused diagram first others stage drawn eager found
          · rename_i peaceful
            apply Builds.charted refused diagram stage drawn
            intro eager
            cases found : (Chart.ofStatements diagram model.statements).conflicts with
            | nil => rfl
            | cons first others => exact absurd found (peaceful first others eager)

/-- A build changes the stage of a model only. -/
theorem build_keeps (model : Model) :
    model.build.model.config = model.config ∧ model.build.model.names = model.names ∧
      model.build.model.statements = model.statements := by
  have builds := model.builds
  generalize model.build.result = result at builds
  generalize model.build.model = after at builds ⊢
  cases builds <;> exact ⟨rfl, rfl, rfl⟩

/-! ## What every operation preserves -/

section Induction

variable {invariant : Model → Prop} {permitted : Statement → Prop}

/-- A line is a declaration, a statement or nothing. -/
theorem addLine_preserves
    (declares : ∀ model text, invariant model → invariant (model.declare text).model)
    (adds : ∀ model statement, permitted statement → invariant model →
      invariant (model.add statement).model)
    (said : ∀ line statement, Premise.read line = .ok (some (.statement statement)) →
      permitted statement)
    {model : Model}
    (holds : invariant model)
    (line : String) :
    invariant (model.addLine line).model := by
  unfold addLine
  split
  · exact holds
  · exact holds
  · exact declares model _ holds
  · rename_i statement isSaid
    exact adds model statement (said line statement isSaid) holds

theorem addLines_preserves
    (declares : ∀ model text, invariant model → invariant (model.declare text).model)
    (adds : ∀ model statement, permitted statement → invariant model →
      invariant (model.add statement).model)
    (said : ∀ line statement, Premise.read line = .ok (some (.statement statement)) →
      permitted statement)
    {model : Model}
    (holds : invariant model)
    (lines : List (Nat × String)) :
    invariant (model.addLines lines).model := by
  induction lines generalizing model with
  | nil => exact holds
  | cons numbered rest inductionHypothesis =>
      obtain ⟨number, line⟩ := numbered
      unfold addLines
      split
      · exact inductionHypothesis holds
      · have afterFirst := addLine_preserves declares adds said holds line
        dsimp only
        split
        · exact afterFirst
        · exact inductionHypothesis afterFirst

/-- A block of premises is a run of lines. -/
theorem read_preserves
    (declares : ∀ model text, invariant model → invariant (model.declare text).model)
    (adds : ∀ model statement, permitted statement → invariant model →
      invariant (model.add statement).model)
    (said : ∀ line statement, Premise.read line = .ok (some (.statement statement)) →
      permitted statement)
    {model : Model}
    (holds : invariant model)
    (block : String) :
    invariant (model.read block).model := by
  have afterLines := addLines_preserves declares adds said holds
    (Premise.lines model.config.separators block)
  unfold read
  dsimp only
  split
  · exact afterLines
  · exact afterLines

/--
What declarations and permitted additions preserve holds after a run whose builds preserve
it too, if lines say permitted statements only and the run adds no others.
-/
theorem run_preserves_of_permitted
    (declares : ∀ model text, invariant model → invariant (model.declare text).model)
    (adds : ∀ model statement, permitted statement → invariant model →
      invariant (model.add statement).model)
    (said : ∀ line statement, Premise.read line = .ok (some (.statement statement)) →
      permitted statement)
    {model : Model}
    {operations : List Operation}
    (added : ∀ statement, .add statement ∈ operations → permitted statement)
    (builds : .build ∈ operations → ∀ model, invariant model → invariant model.build.model)
    (holds : invariant model) :
    invariant (model.run operations) := by
  induction operations generalizing model with
  | nil => exact holds
  | cons operation rest inductionHypothesis =>
      change invariant ((model.perform operation).run rest)
      apply inductionHypothesis
      · exact fun statement later => added statement (List.mem_cons_of_mem _ later)
      · exact fun later => builds (List.mem_cons_of_mem _ later)
      · cases operation with
        | declare text => exact declares model text holds
        | add statement => exact adds model statement (added statement List.mem_cons_self) holds
        | line line => exact addLine_preserves declares adds said holds line
        | read block => exact read_preserves declares adds said holds block
        | build => exact builds List.mem_cons_self model holds

/-- What declarations and additions preserve holds after a run if its builds preserve it too. -/
theorem run_preserves_of_building
    (declares : ∀ model text, invariant model → invariant (model.declare text).model)
    (adds : ∀ model statement, invariant model → invariant (model.add statement).model)
    {model : Model}
    {operations : List Operation}
    (builds : .build ∈ operations → ∀ model, invariant model → invariant model.build.model)
    (holds : invariant model) :
    invariant (model.run operations) :=
  @run_preserves_of_permitted invariant (fun _ => True) declares
    (fun model statement _ => adds model statement) (fun _ _ _ => trivial) model operations
    (fun _ _ => trivial) builds holds

/-- What declarations, additions and builds preserve holds after every run. -/
theorem run_preserves
    (declares : ∀ model text, invariant model → invariant (model.declare text).model)
    (adds : ∀ model statement, invariant model → invariant (model.add statement).model)
    (builds : ∀ model, invariant model → invariant model.build.model)
    {model : Model}
    (holds : invariant model)
    (operations : List Operation) :
    invariant (model.run operations) :=
  run_preserves_of_building declares adds (fun _ => builds) holds

end Induction

/-- No operation changes the configuration. -/
theorem config_run (model : Model) (operations : List Operation) :
    (model.run operations).config = model.config := by
  apply @run_preserves fun reached => reached.config = model.config
  · exact fun reached text kept => (reached.declare_keeps text).1.trans kept
  · exact fun reached statement kept => (reached.add_keeps statement).1.trans kept
  · exact fun reached kept => reached.build_keeps.1.trans kept
  · rfl

theorem config_perform (model : Model) (operation : Operation) :
    (model.perform operation).config = model.config :=
  config_run model [operation]

/-- Only a build ends the gathering. -/
theorem gathering_run
    {model : Model}
    {operations : List Operation}
    (gathering : ∃ refused, model.stage = .gathering refused)
    (unbuilt : .build ∉ operations) :
    ∃ refused, (model.run operations).stage = .gathering refused := by
  apply @run_preserves_of_building fun reached => ∃ refused, reached.stage = .gathering refused
  · exact fun reached text ⟨refused, stage⟩ =>
      ⟨refused, (reached.declare_keeps text).2.trans stage⟩
  · exact fun reached statement ⟨refused, stage⟩ =>
      ⟨refused, (reached.add_keeps statement).2.trans stage⟩
  · exact fun building => absurd building unbuilt
  · exact gathering

/-! ## Coherence -/

/-- What holds of every model that is reached. -/
structure Coherent (model : Model) : Prop where
  few : model.names.size ≤ Diagram.most
  wellFormed : ∀ statement ∈ model.statements, statement.proposition.WellFormed
  named : ∀ statement ∈ model.statements, ∀ name ∈ statement.proposition.names,
    name ∈ model.names
  distinct : model.statements.Pairwise fun earlier later =>
    earlier.proposition ≠ later.proposition
  charted : ∀ chart, model.stage = .built chart →
    chart.diagram.names = model.names ∧
      chart = Chart.ofStatements chart.diagram model.statements

namespace Coherent

variable {model : Model}

theorem empty (config : Config) : (Model.empty config).Coherent where
  few := Nat.zero_le _
  wellFormed _ member := absurd member List.not_mem_nil
  named _ member := absurd member List.not_mem_nil
  distinct := List.Pairwise.nil
  charted _ built := nomatch built

theorem declare (coherent : model.Coherent) (text : String) :
    (model.declare text).model.Coherent := by
  rcases declare_cases model text with ⟨error, refused⟩ | ⟨accepts, named⟩
  · rw [refused]
    exact coherent
  · rw [(declare_of_accepts accepts named).2]
    constructor
    · exact accepts.2
    · exact coherent.wellFormed
    · intro statement member name mentioned
      exact Ascending.mem_insertAll.2 (Or.inr (coherent.named statement member name mentioned))
    · exact coherent.distinct
    · intro chart built
      exact absurd built (accepts.not_built chart)

theorem add (coherent : model.Coherent) (statement : Statement) :
    (model.add statement).model.Coherent := by
  rcases add_cases model statement with ⟨error, refused⟩ | ⟨accepts, wellFormed⟩
  · rw [refused]
    exact coherent
  · have split := @mem_statements_add model statement
    rw [(add_of_accepts accepts wellFormed).2] at split ⊢
    constructor
    · exact accepts.2
    · intro other member
      rcases split member with old | rfl
      · exact coherent.wellFormed other old
      · exact wellFormed
    · intro other member name mentioned
      rw [Ascending.mem_insertAll]
      rcases split member with old | rfl
      · exact Or.inr (coherent.named other old name mentioned)
      · exact Or.inl mentioned
    · change List.Pairwise _ (if _ then _ else _)
      split
      · exact coherent.distinct
      · rename_i fresh
        rw [List.pairwise_append]
        refine ⟨coherent.distinct, List.pairwise_singleton _ _, ?_⟩
        intro earlier old later new same
        rw [List.mem_singleton] at new
        apply fresh
        unfold hasProposition
        rw [List.any_eq_true]
        exact ⟨earlier, old, decide_eq_true (new ▸ same)⟩
    · intro chart built
      exact absurd built (accepts.not_built chart)

theorem build (coherent : model.Coherent) : model.build.model.Coherent := by
  have builds := model.builds
  generalize model.build.result = result at builds
  generalize model.build.model = after at builds ⊢
  cases builds with
  | again => exact coherent
  | unsized => exact { coherent with charted := fun _ built => nomatch built }
  | conflicting => exact { coherent with charted := fun _ built => nomatch built }
  | charted refused diagram stage drawn peaceful =>
      refine { coherent with charted := fun chart built => ?_ }
      injection built with equal
      rw [← equal, Chart.diagram_ofStatements]
      exact ⟨Diagram.names_of_ofAscending drawn, rfl⟩

/-- The chart of the statements over the names of the model records the statements. -/
theorem records_ofStatements
    {diagram : Diagram}
    (coherent : model.Coherent)
    (names : diagram.names = model.names) :
    (Chart.ofStatements diagram model.statements).Records model.statements := by
  constructor
  · rw [Chart.diagram_ofStatements]
  · intro premise member
    rw [Chart.diagram_ofStatements]
    refine ⟨coherent.wellFormed premise member, ?_⟩
    rw [names]
    exact coherent.named premise member

end Coherent

/-- Every model that is reached is coherent. -/
theorem Reachable.coherent {model : Model} (reachable : model.Reachable) :
    model.Coherent := by
  obtain ⟨config, operations, rfl⟩ := reachable
  refine @run_preserves Coherent ?_ ?_ ?_ _ (Coherent.empty config) operations
  · exact fun _ text coherent => coherent.declare text
  · exact fun _ statement coherent => coherent.add statement
  · exact fun _ coherent => coherent.build

theorem coherent_run (config : Config) (operations : List Operation) :
    ((empty config).run operations).Coherent :=
  Reachable.coherent ⟨config, operations, rfl⟩

end Model
end Syllogistic
