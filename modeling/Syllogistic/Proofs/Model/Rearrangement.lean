import Syllogistic.Proofs.Model.Agreement
import Syllogistic.Proofs.Model.Gathering

/-!
# Premises in another order

A model takes in all statements of a list when each is well formed and there is room for
all of their names, so the order in which they come does not matter, nor how often one is
repeated.  Models of the same propositions are then built or refused together, and what
they answer to a conclusion is the same.  The premises listed under a region, and the
conflict that is reported, may differ.
-/

namespace Syllogistic
namespace Model

/-- The model takes in every statement of a list, one after the other. -/
def AddsAll (model : Model) : List Statement → Prop
  | [] => True
  | statement :: rest =>
      (∃ fresh, (model.add statement).result = .ok fresh) ∧
        (model.add statement).model.AddsAll rest

variable {model : Model} {statements : List Statement}

/-- All of some statements are taken in when they are well formed and there is room. -/
theorem addsAll_iff
    (gathering : ∃ refused, model.stage = .gathering refused)
    (few : model.names.size ≤ Diagram.most) :
    model.AddsAll statements ↔
      (∀ proposition ∈ statements.map Statement.proposition, proposition.WellFormed) ∧
        (model.names.insertAll ((statements.map Statement.proposition).flatMap
          Proposition.names)).size ≤ Diagram.most := by
  induction statements generalizing model with
  | nil => simpa [AddsAll, Ascending.insertAll] using few
  | cons statement rest inductionHypothesis =>
      rw [AddsAll, List.map_cons, List.forall_mem_cons, List.flatMap_cons,
        ← Ascending.insertAll_insertAll]
      rcases add_cases model statement with ⟨error, refused⟩ | ⟨accepts, wellFormed⟩
      · -- What is refused is not well formed, or it has no room by itself.
        rw [refused]
        constructor
        · rintro ⟨⟨_, taken⟩, _⟩
          contradiction
        · rintro ⟨⟨wellFormed, _⟩, room⟩
          have own := Nat.le_trans (Ascending.size_le_size_insertAll _ _) room
          have added := (add_of_accepts ⟨gathering, own⟩ wellFormed).1
          rw [refused] at added
          contradiction
      · obtain ⟨taken, after⟩ := add_of_accepts accepts wellFormed
        have others := @inductionHypothesis (model.add statement).model
        rw [after] at others
        rw [after, others gathering accepts.2, taken]
        simp only [wellFormed, Except.ok.injEq, exists_eq', true_and]

/-- What a model without premises has after it takes in some statements. -/
theorem gathers_of_addsAll
    {config : Config}
    (adds : (empty config).AddsAll statements) :
    (empty config).Gathers (statements.map .statement)
      ((empty config).run (statements.map .add)) := by
  obtain ⟨wellFormed, room⟩ := (addsAll_iff ⟨[], rfl⟩ (Nat.zero_le _)).1 adds
  rw [List.forall_mem_map] at wellFormed
  rw [List.flatMap_map] at room
  have gathers := @gathers_run (empty config) (statements.map .statement) ⟨[], rfl⟩
    (List.forall_mem_map.2 wellFormed)
  rw [List.flatMap_map, List.map_map] at gathers
  exact gathers room

/-- It then states what they state. -/
theorem samePropositions_of_addsAll
    {config : Config}
    (adds : (empty config).AddsAll statements) :
    Statement.SamePropositions ((empty config).run (statements.map .add)).statements
      statements := by
  intro proposition
  have states := (gathers_of_addsAll adds).states proposition
  simpa [hasProposition_iff, empty, Premise.statement?, List.filterMap_map] using states

/-- Lists of the same propositions bring in the same names. -/
theorem insertAll_names_eq
    {first second : List Statement}
    (same : Statement.SamePropositions first second)
    (names : Ascending String) :
    names.insertAll ((first.map Statement.proposition).flatMap Proposition.names) =
      names.insertAll ((second.map Statement.proposition).flatMap Proposition.names) := by
  apply Ascending.ext_mem
  intro name
  simp only [Ascending.mem_insertAll, List.mem_flatMap, same _]

/-- Lists of the same propositions are taken in together. -/
theorem addsAll_congr
    {config : Config}
    {first second : List Statement}
    (same : Statement.SamePropositions first second) :
    (empty config).AddsAll first ↔ (empty config).AddsAll second := by
  rw [addsAll_iff ⟨[], rfl⟩ (Nat.zero_le _), addsAll_iff ⟨[], rfl⟩ (Nat.zero_le _),
    insertAll_names_eq same]
  simp only [same _]

/-- Two gathering models have the same configuration and names, and state the same. -/
structure SamePremises (left right : Model) : Prop where
  leftGathers : ∃ refused, left.stage = .gathering refused
  rightGathers : ∃ refused, right.stage = .gathering refused
  config : left.config = right.config
  names : left.names = right.names
  states : Statement.SamePropositions left.statements right.statements

/-- Lists of the same propositions that are taken in leave the same premises. -/
theorem samePremises_of_addsAll
    {config : Config}
    {first second : List Statement}
    (same : Statement.SamePropositions first second)
    (adds : (empty config).AddsAll first) :
    SamePremises ((empty config).run (first.map .add)) ((empty config).run (second.map .add)) := by
  have alsoAdds := (addsAll_congr same).1 adds
  have left := gathers_of_addsAll adds
  have right := gathers_of_addsAll alsoAdds
  constructor
  · exact ⟨[], left.stage⟩
  · exact ⟨[], right.stage⟩
  · exact left.config.trans right.config.symm
  · have names := insertAll_names_eq same (empty config).names
    rw [List.flatMap_map, List.flatMap_map] at names
    rw [left.names, right.names, List.flatMap_map, List.flatMap_map]
    exact names
  · intro proposition
    exact (samePropositions_of_addsAll adds proposition).trans
      ((same proposition).trans (samePropositions_of_addsAll alsoAdds proposition).symm)

/-- What is stated is all that a chart depends on. -/
theorem SamePremises.agrees
    {left right : Model}
    (same : left.SamePremises right) :
    left.Agrees right :=
  ⟨same.leftGathers, same.rightGathers, same.config, same.names,
    fun diagram => Chart.agrees_ofStatements diagram same.states⟩

/-- Models of the same premises are built together, and their charts agree. -/
theorem SamePremises.exists_agrees_of_build
    {left right : Model}
    (same : left.SamePremises right)
    (leftCoherent : left.Coherent)
    (rightCoherent : right.Coherent) :
    (left.build.result = .ok () ↔ right.build.result = .ok ()) ∧
      (left.build.result = .ok () → ∃ leftChart rightChart,
        left.build.model = { left with stage := .built leftChart } ∧
          right.build.model = { right with stage := .built rightChart } ∧
            leftChart.Agrees rightChart ∧
              (leftChart.conflicts = [] ↔ rightChart.conflicts = [])) :=
  same.agrees.exists_agrees_of_build leftCoherent rightCoherent

/--
Two lists of statements that state the same propositions, in any order and with any
repetitions, are both taken in by a model without premises or both not.  If they are, both
builds succeed or both fail; and if they succeed, the same regions are emptied, the same
groups have a witness, and every conclusion is refused in both models or has the same
verdict and the same marked regions in both.
-/
theorem rearranged_premises_answer_alike
    (config : Config)
    {first second : List Statement}
    (same : Statement.SamePropositions first second) :
    let left := ((empty config).run (first.map .add)).build
    let right := ((empty config).run (second.map .add)).build
    ((empty config).AddsAll first ↔ (empty config).AddsAll second) ∧
      ((empty config).AddsAll first →
        (left.result = .ok () ↔ right.result = .ok ()) ∧
          (left.result = .ok () →
            left.model.forcedEmpty.keys = right.model.forcedEmpty.keys ∧
              left.model.witnessGroups.keys = right.model.witnessGroups.keys ∧
                ∀ statement, (left.model.evaluate statement).toOption =
                  (right.model.evaluate statement).toOption)) := by
  intro left right
  refine ⟨addsAll_congr same, fun adds => ?_⟩
  have premises := samePremises_of_addsAll same adds
  obtain ⟨together, built⟩ := premises.exists_agrees_of_build (coherent_run config _)
    (coherent_run config _)
  refine ⟨together, fun succeeds => ?_⟩
  obtain ⟨leftChart, rightChart, leftAfter, rightAfter, agrees, conflicts⟩ := built succeeds
  have leftStage : left.model.stage = .built leftChart := congrArg Model.stage leftAfter
  have rightStage : right.model.stage = .built rightChart := congrArg Model.stage rightAfter
  have configs : left.model.config = right.model.config := by
    rw [leftAfter, rightAfter]
    exact premises.config
  refine ⟨?_, ?_, fun statement => ?_⟩
  · rw [forcedEmpty_of_built leftStage, forcedEmpty_of_built rightStage, agrees.forcedEmpty_keys]
  · rw [witnessGroups_of_built leftStage, witnessGroups_of_built rightStage, agrees.keys]
  · rw [toOption_evaluate leftStage, toOption_evaluate rightStage, configs, agrees.evaluate]
    simp only [ne_eq, conflicts]

/-- Three premises, of which one is repeated and the others change places. -/
theorem rearranged_premises_answer_alike_of_three :
    let every : Statement := .ofProposition (.categorical .universal "A" false "B")
    let witness : Statement := .ofProposition (.categorical .particular "A" true "C")
    let none : Statement := .ofProposition (.categorical .universal "C" true "B")
    let left := ((empty Config.default).run ([every, witness, none].map .add)).build
    let right := ((empty Config.default).run ([none, every, none, witness].map .add)).build
    Statement.SamePropositions [every, witness, none] [none, every, none, witness] ∧
      left.result = .ok () ∧ right.result = .ok () ∧
        left.model.witnessGroups.keys.length = 1 ∧
          ∀ statement, (left.model.evaluate statement).toOption =
            (right.model.evaluate statement).toOption := by
  intro every witness none left right
  have same : Statement.SamePropositions [every, witness, none] [none, every, none, witness] := by
    intro proposition
    simp only [List.map_cons, List.map_nil, List.mem_cons, List.not_mem_nil, or_false]
    grind
  obtain ⟨_, agree⟩ := rearranged_premises_answer_alike Config.default same
  have adds : (empty Config.default).AddsAll [every, witness, none] :=
    (addsAll_iff ⟨[], rfl⟩ (Nat.zero_le _)).2 ⟨by decide, by decide +kernel⟩
  have builds : left.result = .ok () :=
    (build_eq_ok_iff_isBuilt (by decide +kernel)).2 (by decide +kernel)
  obtain ⟨together, alike⟩ := agree adds
  exact ⟨same, builds, together.1 builds, by decide +kernel, (alike builds).2.2⟩

end Model
end Syllogistic
