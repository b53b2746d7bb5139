import Syllogistic.Proofs.Model.Evaluation

/-!
# What a build records

A build goes through the statements once and adds each where it belongs.  When it
succeeds, under each region stand the universal statements that exclude it and under
each group of regions the particular statements that it supports: all of them, in the
order in which the model has them, and nothing from a build that was refused before.
-/

namespace Syllogistic

/--
What is found under a key are the premises of a kind, all of them, in their order and
each once.  Without a premise of the kind nothing is found.
-/
structure Statement.Collected
    (found : Option (List Statement))
    (premises : List Statement)
    (kind : Statement → Bool) : Prop where
  isSome_iff : found.isSome = true ↔ ∃ premise ∈ premises, kind premise = true
  eq_filter : ∀ held, found = some held → held = premises.filter kind
  distinct : ∀ held, found = some held →
    held.Pairwise fun earlier later => earlier.proposition ≠ later.proposition

/-- A list that is filed under a key where it is not empty is collected there. -/
theorem Statement.collected_filed
    {premises : List Statement}
    (distinct : premises.Pairwise fun earlier later =>
      earlier.proposition ≠ later.proposition)
    (kind : Statement → Bool) :
    Statement.Collected (Table.filed (premises.filter kind)) premises kind := by
  constructor
  · rw [Table.isSome_filed, Bool.not_eq_true', List.isEmpty_eq_false_iff_exists_mem]
    simp only [List.mem_filter]
  · intro held found
    exact (Table.filed_eq_some_iff.1 found).1.symm
  · intro held found
    rw [← (Table.filed_eq_some_iff.1 found).1]
    exact distinct.sublist List.filter_sublist

namespace Model

variable {model : Model}

/-- A build that succeeds leaves the chart of the statements over the names. -/
theorem exists_chart_of_build
    (succeeds : model.build.result = .ok ()) :
    ∃ diagram, diagram.names = model.names ∧
      model.build.model.stage = .built (Chart.ofStatements diagram model.statements) := by
  have builds := model.builds
  generalize model.build.result = result at builds succeeds
  generalize model.build.model = after at builds ⊢
  cases builds with
  | again => contradiction
  | unsized => contradiction
  | conflicting => contradiction
  | charted _ diagram _ drawn _ =>
      exact ⟨diagram, Diagram.names_of_ofAscending drawn, rfl⟩

/-- No diagram is drawn for fewer than two names. -/
theorem build_ne_ok_of_few (few : model.names.size < Diagram.fewest) :
    model.build.result ≠ .ok () := by
  intro succeeds
  obtain ⟨diagram, names, _⟩ := exists_chart_of_build succeeds
  have enough := diagram.two_le_size
  rw [names] at enough
  exact Nat.not_lt.2 enough few

/--
A gathering model whose names have a diagram is built, unless an eager check finds a
conflict on the chart of its statements.
-/
theorem build_of_drawn
    {refused : List Conflict}
    {diagram : Diagram}
    (stage : model.stage = .gathering refused)
    (drawn : Diagram.ofAscending model.names = .ok diagram) :
    let chart := Chart.ofStatements diagram model.statements
    (model.build.result = .ok () ↔
        (model.config.conflictCheck = .eager → chart.conflicts = [])) ∧
      (model.build.result = .ok () →
        model.build.model = { model with stage := .built chart }) := by
  intro chart
  have builds := model.builds
  generalize model.build.result = result at builds ⊢
  generalize model.build.model = after at builds ⊢
  cases builds with
  | again _ built =>
      rw [stage] at built
      contradiction
  | unsized _ _ _ undrawn =>
      rw [drawn] at undrawn
      contradiction
  | conflicting _ other first others _ otherDrawn eager found =>
      rw [drawn] at otherDrawn
      cases otherDrawn
      simp [chart, eager, found]
  | charted _ other _ otherDrawn peaceful =>
      rw [drawn] at otherDrawn
      cases otherDrawn
      simpa [chart] using peaceful

/-- An eager check refuses a chart with conflicts for the first of them, and keeps them all. -/
theorem build_of_conflicting
    {refused : List Conflict}
    {diagram : Diagram}
    {first : Conflict}
    {others : List Conflict}
    (stage : model.stage = .gathering refused)
    (drawn : Diagram.ofAscending model.names = .ok diagram)
    (eager : model.config.conflictCheck = .eager)
    (found : (Chart.ofStatements diagram model.statements).conflicts = first :: others) :
    model.build.result = .error (.conflict first) ∧
      model.build.model = { model with stage := .gathering (first :: others) } := by
  simp only [build, stage, drawn, eager, found, and_self]

/--
Models with one configuration are built together when their charts both have conflicts or
both have none.
-/
theorem build_together
    {left right : Model}
    {leftDiagram rightDiagram : Diagram}
    (leftGathers : ∃ refused, left.stage = .gathering refused)
    (rightGathers : ∃ refused, right.stage = .gathering refused)
    (leftDrawn : Diagram.ofAscending left.names = .ok leftDiagram)
    (rightDrawn : Diagram.ofAscending right.names = .ok rightDiagram)
    (config : left.config = right.config)
    (conflicts : (Chart.ofStatements leftDiagram left.statements).conflicts = [] ↔
      (Chart.ofStatements rightDiagram right.statements).conflicts = []) :
    (left.build.result = .ok () ↔ right.build.result = .ok ()) ∧
      (left.build.result = .ok () →
        left.build.model =
            { left with stage := .built (Chart.ofStatements leftDiagram left.statements) } ∧
          right.build.model =
            { right with stage := .built (Chart.ofStatements rightDiagram right.statements) }) := by
  obtain ⟨_, leftStage⟩ := leftGathers
  obtain ⟨_, rightStage⟩ := rightGathers
  obtain ⟨leftBuilds, leftAfter⟩ := build_of_drawn leftStage leftDrawn
  obtain ⟨rightBuilds, rightAfter⟩ := build_of_drawn rightStage rightDrawn
  have together : left.build.result = .ok () ↔ right.build.result = .ok () := by
    rw [leftBuilds, rightBuilds, config, conflicts]
  exact ⟨together, fun succeeds => ⟨leftAfter succeeds, rightAfter (together.1 succeeds)⟩⟩

/-- The build of a model that is not built succeeds when the model is built by it. -/
theorem build_eq_ok_iff_isBuilt (unbuilt : model.isBuilt = false) :
    model.build.result = .ok () ↔ model.build.model.isBuilt = true := by
  have builds := model.builds
  generalize model.build.result = result at builds ⊢
  generalize model.build.model = after at builds ⊢
  cases builds with
  | again _ stage => exact absurd (exists_built_iff.2 ⟨_, stage⟩) (by simp [unbuilt])
  | unsized => simp [isBuilt, chart?]
  | conflicting => simp [isBuilt, chart?]
  | charted => simp [isBuilt, chart?]

/-- What is added to the statements of a model comes after those that it has. -/
theorem statements_prefix_run (model : Model) (operations : List Operation) :
    model.statements <+: (model.run operations).statements := by
  apply @run_preserves fun reached => model.statements <+: reached.statements
  · intro reached text kept
    rw [reached.statements_declare text]
    exact kept
  · intro reached statement kept
    rcases reached.statements_add_cases statement with same | grown
    · rw [same]
      exact kept
    · rw [grown]
      exact kept.trans (List.prefix_append _ _)
  · intro reached kept
    rw [reached.build_keeps.2.2]
    exact kept
  · exact List.prefix_refl _

/--
When a build succeeds after any operations, builds that were refused among them, under
each region are found the premises that exclude it and under each group of regions those
that assert a witness in it, all of them, in their order and each once.  A premise
excludes the regions that oppose it if it is universal, and asserts a witness in just
the group that supports it if it is particular.  The order is that of addition: what a
part of the operations has added comes before all that is added later.
-/
theorem build_collects_premises
    (config : Config)
    (operations : List Operation)
    (succeeds : ((empty config).run operations).build.result = .ok ()) :
    let premises := ((empty config).run operations).statements
    let built := ((empty config).run operations).build.model
    (∃ diagram, built.diagram? = some diagram ∧
      (∀ region, Statement.Collected (built.forcedEmpty.get? region)
        premises (diagram.excludes region)) ∧
      (∀ group, Statement.Collected (built.witnessGroups.get? group)
        premises (diagram.asserts group)) ∧
      ∀ premise ∈ premises,
        ∃ bearing, diagram.bearing? premise.proposition = some bearing ∧
          (∀ region, diagram.excludes region premise = true ↔
            premise.quantifier = some .universal ∧ region ∈ bearing.opposing) ∧
          ∀ group, diagram.asserts group premise = true ↔
            premise.quantifier = some .particular ∧ group = bearing.supporting) ∧
      ∀ earlier, earlier <+: operations →
        ((empty config).run earlier).statements <+: premises := by
  intro premises built
  have reachable : ((empty config).run operations).Reachable := ⟨config, operations, rfl⟩
  have coherent := reachable.coherent
  obtain ⟨diagram, names, stage⟩ := exists_chart_of_build succeeds
  refine ⟨⟨diagram, ?_, fun region => ?_, fun group => ?_, fun premise member => ?_⟩, ?_⟩
  · rw [diagram?_of_built stage, Chart.diagram_ofStatements]
  · rw [forcedEmpty_of_built stage, Chart.get?_forcedEmpty_ofStatements]
    exact Statement.collected_filed coherent.distinct (diagram.excludes region)
  · rw [witnessGroups_of_built stage, Chart.get?_witnessGroups_ofStatements]
    exact Statement.collected_filed coherent.distinct (diagram.asserts group)
  · have named : ∀ name ∈ premise.proposition.names, name ∈ diagram.names := by
      rw [names]
      exact coherent.named premise member
    obtain ⟨bearing, bears⟩ := Diagram.exists_bearing? named
    refine ⟨bearing, bears, fun region => ?_, fun group => ?_⟩
    · rw [Diagram.excludes_iff, bears]
      simp
    · rw [Diagram.asserts_iff, bears]
      simp
  · rintro earlier ⟨later, rfl⟩
    have parts : (empty config).run (earlier ++ later) =
        ((empty config).run earlier).run later := List.foldl_append
    unfold premises
    rw [parts]
    exact statements_prefix_run _ later

/-- Two converse premises, one of them stated twice, stand under one group in their order. -/
theorem build_collects_premises_of_converses :
    let premise := Statement.ofProposition (.categorical .particular "A" false "B")
    let converse := Statement.ofProposition (.categorical .particular "B" false "A")
    let model := (empty Config.default).run [.build, .add premise, .add converse, .add premise]
    model.build.result = .ok () ∧
      ∃ diagram, model.build.model.diagram? = some diagram ∧
        ∀ group held, model.build.model.witnessGroups.get? group = some held →
          held = [premise, converse].filter (diagram.asserts group) := by
  intro premise converse model
  have succeeds : model.build.result = .ok () := by
    have answered : model.build.result.toOption = some () := by decide +kernel
    cases result : model.build.result with
    | ok _ => rfl
    | error _ =>
        rw [result] at answered
        contradiction
  have statements : model.statements = [premise, converse] := by decide +kernel
  obtain ⟨⟨diagram, drawn, _, groups, _⟩, _⟩ :=
    build_collects_premises Config.default _ succeeds
  refine ⟨succeeds, diagram, drawn, fun group held found => ?_⟩
  rw [← statements]
  exact (groups group).eq_filter held found

end Model
end Syllogistic
