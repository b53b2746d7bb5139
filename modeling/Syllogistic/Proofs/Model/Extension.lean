import Mathlib.Data.List.Nodup
import Syllogistic.Proofs.Chart.Correspondence
import Syllogistic.Proofs.Model.Gathering
import Syllogistic.Proofs.Model.Recording

/-!
# Models with a name to spare

A model extends another when it has its names, perhaps under other names and perhaps with
more beside them, and states its propositions about them and no others.  The two are then
built or refused together, and a conclusion about the names of the first has the same
verdict in both.  In particular a third name that no premise mentions changes no answer,
wherever its place in the order of the names: it splits every region in two, and a region
is marked when the region it is a part of was marked without the name.
-/

namespace Syllogistic
namespace Model

open Diagram

/-- The second model has the first's names, renamed, and states its propositions, renamed. -/
structure Extends (rename : String → String) (inner outer : Model) : Prop where
  innerGathers : ∃ refused, inner.stage = .gathering refused
  outerGathers : ∃ refused, outer.stage = .gathering refused
  config : inner.config = outer.config
  mapped : ∀ name ∈ inner.names, rename name ∈ outer.names
  apart : ∀ name ∈ inner.names, ∀ other ∈ inner.names, rename name = rename other → name = other
  states : Statement.StatesRenamed rename inner.statements outer.statements

/-- Two models answer a conclusion and the renamed conclusion alike. -/
inductive AnswersAlike (rename : String → String) (inner outer : Model)
    (statement other : Statement) : Prop
  /-- Neither has a verdict. -/
  | refused (error otherError : Error)
      (innerRefuses : inner.evaluate statement = .error error)
      (outerRefuses : outer.evaluate other = .error otherError)
  /-- Both have the same verdict, and mark regions that match. -/
  | judged (innerDiagram outerDiagram : Diagram) (verdict : Verdict)
      (marked widelyMarked : List Region)
      (innerDrawn : inner.diagram? = some innerDiagram)
      (outerDrawn : outer.diagram? = some outerDiagram)
      (innerJudges : inner.evaluate statement = .ok ⟨statement, verdict, marked⟩)
      (outerJudges : outer.evaluate other = .ok ⟨other, verdict, widelyMarked⟩)
      (sides : Region.Matches (Restricts rename innerDiagram outerDiagram) marked widelyMarked)

variable {rename : String → String} {inner outer : Model}

/-- Built models whose charts correspond answer alike. -/
theorem answersAlike_of_built
    {innerChart outerChart : Chart}
    {statement other : Statement}
    (innerBuilt : inner.stage = .built innerChart)
    (outerBuilt : outer.stage = .built outerChart)
    (config : inner.config = outer.config)
    (corresponds : innerChart.Corresponds rename outerChart)
    (conflicts : innerChart.conflicts = [] ↔ outerChart.conflicts = [])
    (named : ∀ name ∈ statement.proposition.names, name ∈ innerChart.diagram.names)
    (quantified : statement.quantifier ≠ none)
    (renamed : other.proposition = statement.proposition.rename rename) :
    AnswersAlike rename inner outer statement other := by
  by_cases free : inner.config.conflictCheck = .deferred → innerChart.conflicts = []
  · have outerFree := free
    rw [config, conflicts] at outerFree
    obtain ⟨verdict, marked, widelyMarked, innerJudges, outerJudges, sides⟩ :=
      corresponds.exists_evaluate inner.config.existentialImport named quantified renamed
    apply AnswersAlike.judged innerChart.diagram outerChart.diagram verdict marked widelyMarked
      (diagram?_of_built innerBuilt) (diagram?_of_built outerBuilt) _ _ sides
    · rw [evaluate_of_free innerBuilt free, innerJudges]
      rfl
    · rw [evaluate_of_free outerBuilt outerFree, ← config, outerJudges]
      rfl
  · rw [Classical.not_imp] at free
    obtain ⟨deferred, conflicting⟩ := free
    obtain ⟨error, innerRefuses⟩ :=
      exists_error_of_deferred innerBuilt deferred conflicting statement
    rw [config] at deferred
    rw [conflicts] at conflicting
    obtain ⟨otherError, outerRefuses⟩ :=
      exists_error_of_deferred outerBuilt deferred conflicting other
    exact .refused error otherError innerRefuses outerRefuses

/-- A region of the second model is marked when it restricts to one marked in the first. -/
theorem AnswersAlike.refused_or_same_verdict
    {statement other : Statement}
    (alike : AnswersAlike rename inner outer statement other) :
    (∃ error otherError, inner.evaluate statement = .error error ∧
        outer.evaluate other = .error otherError) ∨
      ∃ innerDiagram outerDiagram verdict marked widelyMarked,
        inner.diagram? = some innerDiagram ∧ outer.diagram? = some outerDiagram ∧
          inner.evaluate statement = .ok ⟨statement, verdict, marked⟩ ∧
            outer.evaluate other = .ok ⟨other, verdict, widelyMarked⟩ ∧
              ∀ wider, wider ∈ widelyMarked ↔
                ∃ region ∈ marked, Restricts rename innerDiagram outerDiagram region wider := by
  cases alike with
  | refused error otherError innerRefuses outerRefuses =>
      exact Or.inl ⟨error, otherError, innerRefuses, outerRefuses⟩
  | judged innerDiagram outerDiagram verdict marked widelyMarked innerDrawn outerDrawn innerJudges
      outerJudges sides =>
      exact Or.inr ⟨innerDiagram, outerDiagram, verdict, marked, widelyMarked, innerDrawn,
        outerDrawn, innerJudges, outerJudges, fun _ => sides.mem_wide_iff⟩

namespace Extends

/-- There are at least as many other names as names, since no two names become one. -/
theorem size_le (extension : inner.Extends rename outer) :
    inner.names.size ≤ outer.names.size := by
  have distinct : (inner.names.toList.map rename).Nodup :=
    List.Nodup.map_on extension.apart inner.names.nodup_toList
  have longer := distinct.length_le_of_subset (List.forall_mem_map.2 extension.mapped)
  rwa [List.length_map] at longer

/-- The charts of a model and of one that extends it correspond. -/
theorem corresponds
    {innerDiagram outerDiagram : Diagram}
    (extension : inner.Extends rename outer)
    (innerCoherent : inner.Coherent)
    (innerDrawn : innerDiagram.names = inner.names)
    (outerDrawn : outerDiagram.names = outer.names) :
    (Chart.ofStatements innerDiagram inner.statements).Corresponds rename
      (Chart.ofStatements outerDiagram outer.statements) := by
  apply Chart.corresponds_ofStatements
  · constructor
    · rw [innerDrawn, outerDrawn]
      exact extension.mapped
    · rw [innerDrawn]
      exact extension.apart
  · have hosted := (innerCoherent.records_ofStatements innerDrawn).hosted
    rwa [Chart.diagram_ofStatements] at hosted
  · exact extension.states

/-- Two models of at least two names are built together, and then their charts correspond. -/
theorem exists_corresponds_of_build
    (extension : inner.Extends rename outer)
    (innerCoherent : inner.Coherent)
    (outerCoherent : outer.Coherent)
    (enough : Diagram.fewest ≤ inner.names.size) :
    (inner.build.result = .ok () ↔ outer.build.result = .ok ()) ∧
      (inner.build.result = .ok () → ∃ innerChart outerChart,
        innerChart.diagram.names = inner.names ∧
          inner.build.model = { inner with stage := .built innerChart } ∧
            outer.build.model = { outer with stage := .built outerChart } ∧
              innerChart.Corresponds rename outerChart ∧
                (innerChart.conflicts = [] ↔ outerChart.conflicts = [])) := by
  obtain ⟨innerDiagram, innerDrawn⟩ := Diagram.exists_ofAscending enough innerCoherent.few
  obtain ⟨outerDiagram, outerDrawn⟩ :=
    Diagram.exists_ofAscending (Nat.le_trans enough extension.size_le) outerCoherent.few
  have innerNames := Diagram.names_of_ofAscending innerDrawn
  have outerNames := Diagram.names_of_ofAscending outerDrawn
  have corresponds := extension.corresponds innerCoherent innerNames outerNames
  have conflicts := corresponds.conflicts_eq_nil_iff
    (innerCoherent.records_ofStatements innerNames)
    (outerCoherent.records_ofStatements outerNames)
  obtain ⟨together, built⟩ := build_together extension.innerGathers extension.outerGathers
    innerDrawn outerDrawn extension.config conflicts
  refine ⟨together, fun succeeds => ?_⟩
  obtain ⟨innerAfter, outerAfter⟩ := built succeeds
  refine ⟨_, _, ?_, innerAfter, outerAfter, corresponds, conflicts⟩
  rw [Chart.diagram_ofStatements, innerNames]

/-- A conclusion about names of the first model is answered alike when both are built. -/
theorem answersAlike_of_build
    {statement other : Statement}
    (extension : inner.Extends rename outer)
    (innerCoherent : inner.Coherent)
    (outerCoherent : outer.Coherent)
    (enough : Diagram.fewest ≤ inner.names.size)
    (named : ∀ name ∈ statement.proposition.names, name ∈ inner.names)
    (quantified : statement.quantifier ≠ none)
    (renamed : other.proposition = statement.proposition.rename rename) :
    AnswersAlike rename inner.build.model outer.build.model statement other := by
  obtain ⟨together, built⟩ :=
    extension.exists_corresponds_of_build innerCoherent outerCoherent enough
  have innerUnbuilt := isBuilt_of_gathering extension.innerGathers
  have outerUnbuilt := isBuilt_of_gathering extension.outerGathers
  rw [build_eq_ok_iff_isBuilt innerUnbuilt, build_eq_ok_iff_isBuilt outerUnbuilt] at together
  rw [build_eq_ok_iff_isBuilt innerUnbuilt] at built
  cases succeeds : inner.build.model.isBuilt with
  | false =>
      have alsoFails : outer.build.model.isBuilt = false := by
        rw [← Bool.not_eq_true, ← together, succeeds]
        exact Bool.false_ne_true
      exact .refused _ _ (evaluate_of_not_built succeeds _) (evaluate_of_not_built alsoFails _)
  | true =>
      obtain ⟨innerChart, outerChart, names, innerAfter, outerAfter, corresponds, conflicts⟩ :=
        built succeeds
      rw [innerAfter, outerAfter]
      rw [← names] at named
      exact answersAlike_of_built rfl rfl extension.config corresponds conflicts named quantified
        renamed

end Extends

/-- Premises that make the same statements lead to models that state the same. -/
theorem statesRenamed_of_gathers
    {config : Config}
    {first second : List Premise}
    (innerGathers : (empty config).Gathers first inner)
    (outerGathers : (empty config).Gathers second outer)
    (same : first.filterMap Premise.statement? = second.filterMap Premise.statement?) :
    Statement.StatesRenamed id inner.statements outer.statements := by
  have states : ∀ proposition, inner.hasProposition proposition = true ↔
      outer.hasProposition proposition = true := by
    intro proposition
    rw [innerGathers.states, outerGathers.states, same]
  constructor
  · intro statement stated
    exact hasProposition_iff.1 ((states _).1 (hasProposition_iff.2 ⟨statement, stated, rfl⟩))
  · intro other stated
    obtain ⟨statement, held, equal⟩ := hasProposition_iff.1
      ((states _).2 (hasProposition_iff.2 ⟨other, stated, rfl⟩))
    exact ⟨statement, held, equal.symm⟩

/-- A model extends another when it is given the same statements and further names. -/
theorem extends_of_gathers
    {config : Config}
    {first second : List Premise}
    (innerGathers : (empty config).Gathers first inner)
    (outerGathers : (empty config).Gathers second outer)
    (further : ∀ name ∈ first.flatMap Premise.names, name ∈ second.flatMap Premise.names)
    (same : first.filterMap Premise.statement? = second.filterMap Premise.statement?) :
    inner.Extends id outer where
  innerGathers := ⟨[], innerGathers.stage⟩
  outerGathers := ⟨[], outerGathers.stage⟩
  config := innerGathers.config.trans outerGathers.config.symm
  mapped name member :=
    outerGathers.mem_names_iff.2 (further name (innerGathers.mem_names_iff.1 member))
  apart _ _ _ _ equal := equal
  states := statesRenamed_of_gathers innerGathers outerGathers same

/-- A name that is declared somewhere among some premises is one more name of theirs. -/
theorem mem_names_declared_iff
    {earlier later : List Premise}
    {text name : String} :
    name ∈ (earlier ++ .name text :: later).flatMap Premise.names ↔
      name ∈ (earlier ++ later).flatMap Premise.names ∨ name = Name.canonical text := by
  rw [List.flatMap_append, List.flatMap_append, List.flatMap_cons]
  simp only [List.mem_append, Premise.names, List.mem_singleton]
  rw [← or_assoc]
  exact or_right_comm

section SpareName

variable {earlier later : List Premise} {text left right : String}

/-- Well-formed premises over two names are all taken in, and make a model of these names. -/
theorem gathers_of_two_names
    (config : Config)
    {premises : List Premise}
    (wellFormed : ∀ premise ∈ premises, premise.WellFormed)
    (names : ∀ name, name ∈ premises.flatMap Premise.names ↔ name = left ∨ name = right) :
    (empty config).Gathers premises ((empty config).run (premises.map Premise.operation)) ∧
      ∀ name, name ∈ ((empty config).run (premises.map Premise.operation)).names ↔
        name = left ∨ name = right := by
  have gathers := @gathers_of_listed _ config [left, right] wellFormed
    (fun name member => by simpa using (names name).1 member) (Nat.le_succ 2)
  exact ⟨gathers, fun name => gathers.mem_names_iff.trans (names name)⟩

/-- A declaration among premises over two names extends the model of these. -/
theorem extends_of_declared
    (config : Config)
    (wellFormed : ∀ premise ∈ earlier ++ later, premise.WellFormed)
    (names : ∀ name, name ∈ (earlier ++ later).flatMap Premise.names ↔
      name = left ∨ name = right)
    (named : Name.canonical text ≠ "") :
    ((empty config).run ((earlier ++ later).map Premise.operation)).Extends id
      ((empty config).run ((earlier ++ .name text :: later).map Premise.operation)) := by
  have allWellFormed : ∀ premise ∈ earlier ++ .name text :: later, premise.WellFormed := by
    obtain ⟨before, after⟩ := List.forall_mem_append.1 wellFormed
    exact List.forall_mem_append.2 ⟨before, List.forall_mem_cons.2 ⟨named, after⟩⟩
  have gathers := @gathers_of_listed _ config [left, right, Name.canonical text]
    allWellFormed (fun name member => by
      rw [mem_names_declared_iff, names] at member
      simpa [or_assoc] using member) (Nat.le_refl 3)
  apply extends_of_gathers (gathers_of_two_names config wellFormed names).1 gathers
  · exact fun name member => mem_names_declared_iff.2 (Or.inl member)
  · rw [List.filterMap_append, List.filterMap_append, List.filterMap_cons_none rfl]

end SpareName

/--
Premises over exactly two names are built whether or not one more name is declared among
them, or in neither case.  Every well-formed conclusion about the two names is then refused
in both models, or it has the same verdict in both; and a region is marked in the model with
the further name just when the region that it restricts to is marked in the other.
-/
theorem spare_name_changes_no_answer
    (config : Config)
    {earlier later : List Premise}
    {text left right : String}
    (wellFormed : ∀ premise ∈ earlier ++ later, premise.WellFormed)
    (names : ∀ name, name ∈ (earlier ++ later).flatMap Premise.names ↔
      name = left ∨ name = right)
    (different : left ≠ right)
    (named : Name.canonical text ≠ "") :
    let small := ((empty config).run ((earlier ++ later).map Premise.operation)).build
    let large :=
      ((empty config).run ((earlier ++ .name text :: later).map Premise.operation)).build
    (small.result = .ok () ↔ large.result = .ok ()) ∧
      ∀ statement : Statement, statement.proposition.WellFormed →
        (∀ name ∈ statement.proposition.names, name = left ∨ name = right) →
          (∃ error largeError, small.model.evaluate statement = .error error ∧
              large.model.evaluate statement = .error largeError) ∨
            ∃ inner outer verdict marked widelyMarked,
              small.model.diagram? = some inner ∧ large.model.diagram? = some outer ∧
                small.model.evaluate statement = .ok ⟨statement, verdict, marked⟩ ∧
                  large.model.evaluate statement = .ok ⟨statement, verdict, widelyMarked⟩ ∧
                    ∀ wider, wider ∈ widelyMarked ↔
                      ∃ region ∈ marked, Restricts id inner outer region wider := by
  intro small large
  have extension := extends_of_declared config wellFormed names named
  have known := (gathers_of_two_names config wellFormed names).2
  have enough : Diagram.fewest ≤
      ((empty config).run ((earlier ++ later).map Premise.operation)).names.size := by
    have distinct : [left, right].Nodup := by simpa using different
    apply distinct.length_le_of_subset
    intro name member
    exact (known name).2 (by simpa using member)
  obtain ⟨together, _⟩ := extension.exists_corresponds_of_build (coherent_run config _)
    (coherent_run config _) enough
  refine ⟨together, fun statement stated about => ?_⟩
  have alike := extension.answersAlike_of_build (coherent_run config _) (coherent_run config _)
    enough (fun name member => (known name).2 (about name member)) stated.subject_quantified
    (Proposition.rename_id _).symm
  exact alike.refused_or_same_verdict

/-- A name that comes between two others leaves a conclusion about these as it was. -/
theorem spare_name_changes_no_answer_of_middle :
    let every : Premise := .statement (.ofProposition (.categorical .universal "A" false "C"))
    let rest : Premise := .statement (.ofProposition (.categorical .particular "C" true "A"))
    let conclusion : Statement := .ofProposition (.categorical .universal "C" false "A")
    let small := ((empty Config.default).run ([every, rest].map Premise.operation)).build
    let large :=
      ((empty Config.default).run ([every, .name "b", rest].map Premise.operation)).build
    Name.canonical "b" = "B" ∧ large.result = .ok () ∧
      ∃ inner outer marked widelyMarked,
        small.model.diagram? = some inner ∧ large.model.diagram? = some outer ∧
          small.model.evaluate conclusion = .ok ⟨conclusion, .fails, marked⟩ ∧
            large.model.evaluate conclusion = .ok ⟨conclusion, .fails, widelyMarked⟩ ∧
              marked ≠ [] ∧ ∀ wider, wider ∈ widelyMarked ↔
                ∃ region ∈ marked, Restricts id inner outer region wider := by
  intro every rest conclusion small large
  have wellFormed : ∀ premise ∈ [every] ++ [rest], premise.WellFormed := by decide +kernel
  have names : ∀ name, name ∈ ([every] ++ [rest]).flatMap Premise.names ↔
      name = "A" ∨ name = "C" := by
    intro name
    simp only [every, rest, List.cons_append, List.nil_append, List.flatMap_cons,
      List.flatMap_nil, Premise.names, Statement.ofProposition, Proposition.names,
      Proposition.categorical, List.mem_cons, List.not_mem_nil, or_false]
    grind
  obtain ⟨together, alike⟩ := @spare_name_changes_no_answer Config.default [every] [rest] "b" "A"
    "C" wellFormed names (by decide) (by decide +kernel)
  have builds : small.result = .ok () :=
    (build_eq_ok_iff_isBuilt (by decide +kernel)).2 (by decide +kernel)
  have answered : (small.model.evaluate conclusion).toOption.map
      (fun answer => (answer.verdict, answer.marked.isEmpty)) = some (.fails, false) := by
    decide +kernel
  refine ⟨by decide +kernel, together.1 builds, ?_⟩
  rcases alike conclusion (by decide) (by decide) with ⟨error, _, refuses, _⟩ |
    ⟨inner, outer, verdict, marked, widelyMarked, drawn, widelyDrawn, judges, widelyJudges, sides⟩
  · change small.model.evaluate conclusion = _ at refuses
    rw [refuses] at answered
    exact absurd answered.symm (Option.some_ne_none _)
  · change small.model.evaluate conclusion = _ at judges
    rw [judges] at answered
    simp only [Except.toOption, Option.map_some, Option.some.injEq, Prod.mk.injEq,
      List.isEmpty_eq_false_iff] at answered
    obtain ⟨rfl, inhabited⟩ := answered
    exact ⟨inner, outer, marked, widelyMarked, drawn, widelyDrawn, judges, widelyJudges, inhabited,
      sides⟩

end Model
end Syllogistic
