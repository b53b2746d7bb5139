import Syllogistic.Proofs.Chart.Conclusion
import Syllogistic.Proofs.Model.Evaluation

/-!
# Uncertain verdicts under existential import

Where the subject of a universal conclusion is imported, the verdict that it may hold
is genuine: the premises and a member of the subject leave it open.  The verdict that
it may fail is then left to subjects that the premises empty.
-/

namespace Syllogistic

universe u

namespace Interpretation

/-- Under existential import the subject of a universal conclusion is not empty. -/
theorem admissible_true_iff
    {interpretation : Interpretation.{u}}
    {premises : List Statement}
    {conclusion : Proposition}
    (universal : conclusion.subject.quantifier = some .universal) :
    interpretation.Admissible true premises conclusion ↔
      interpretation.SatisfiesAll premises ∧
        interpretation.Inhabits conclusion.subject.name := by
  constructor
  · rintro ⟨satisfies, inhabits⟩
    exact ⟨satisfies, inhabits rfl universal⟩
  · rintro ⟨satisfies, inhabits⟩
    exact ⟨satisfies, fun _ _ => inhabits⟩

end Interpretation

namespace Model

/--
Under existential import a universal conclusion may hold exactly when some
interpretation of the premises with a member of the subject makes it true and another
makes it and its subaltern false.  It may fail exactly when no interpretation of the
premises has a member of the subject, which is when they empty its whole circle.
-/
theorem evaluate_universal_uncertain
    {model : Model}
    {statement : Statement}
    (reachable : model.Reachable)
    (built : model.isBuilt = true)
    (peaceful : model.conflicts = [])
    (imports : model.config.existentialImport = true)
    (universal : statement.quantifier = some .universal)
    (named : ∀ name ∈ statement.proposition.names, name ∈ model.names) :
    ∃ evaluation diagram,
      model.evaluate statement = .ok evaluation ∧
      model.diagram? = some diagram ∧
      (evaluation.verdict = .mayHold ↔
        (∃ interpretation : Interpretation.{u},
          interpretation.SatisfiesAll model.statements ∧
            interpretation.Inhabits statement.proposition.subject.name ∧
              interpretation.Satisfies statement.proposition) ∧
        ∃ interpretation : Interpretation.{u},
          interpretation.SatisfiesAll model.statements ∧
            interpretation.Inhabits statement.proposition.subject.name ∧
              ¬ interpretation.Satisfies statement.proposition ∧
                ¬ interpretation.Satisfies statement.proposition.subaltern) ∧
      (evaluation.verdict = .mayFail ↔
        ¬ ∃ interpretation : Interpretation.{u},
          interpretation.SatisfiesAll model.statements ∧
            interpretation.Inhabits statement.proposition.subject.name) ∧
      (evaluation.verdict = .mayFail ↔
        ∀ region ∈ diagram.circle statement.proposition.subject.name,
          model.isForcedEmpty region = true) := by
  obtain ⟨chart, bearing, stage, records, calm, found⟩ :=
    reachable.exists_bearing built peaceful named
  obtain ⟨marked, evaluated⟩ := evaluate_universal stage peaceful found universal
  have mayFail := Chart.judgeUniversal_eq_mayFail_iff_forced_circle found universal
  have noSubject := records.forced_circle_iff_not_exists_admissible.{u} calm found universal
  have mayHold :=
    records.judgeUniversal_eq_mayHold_iff_exists_admissible.{u} calm found universal
  simp only [Interpretation.admissible_true_iff universal, and_assoc] at noSubject mayHold
  rw [imports] at evaluated
  rw [isForcedEmpty_of_built stage]
  refine ⟨_, chart.diagram, evaluated, diagram?_of_built stage, ?_, mayFail.trans noSubject,
    mayFail⟩
  refine mayHold.trans (and_congr_right fun _ => exists_congr fun interpretation => ?_)
  refine and_congr_right fun _ => and_congr_right fun inhabits => ?_
  constructor
  · intro unsupported
    exact ⟨fun satisfies => unsupported (satisfies.subaltern universal inhabits), unsupported⟩
  · exact And.right

/--
With all A both in B and outside it there are no A, so that all A are in C may fail.
Of B and C nothing is known, so that all B are in C may hold.
-/
theorem evaluate_universal_uncertain_without_subject :
    let first := Statement.ofProposition (.categorical .universal "A" false "B")
    let second := Statement.ofProposition (.categorical .universal "A" true "B")
    let model := (Model.empty Config.default).run
      [.add first, .add second, .declare "C", .build]
    let undecided := Statement.ofProposition (.categorical .universal "B" false "C")
    let idle := Statement.ofProposition (.categorical .universal "A" false "C")
    model.isBuilt = true ∧ model.conflicts = [] ∧
      (∃ evaluation, model.evaluate undecided = .ok evaluation ∧
        evaluation.verdict = .mayHold ∧
          (∃ interpretation : Interpretation.{0},
            interpretation.SatisfiesAll [first, second] ∧ interpretation.Inhabits "B" ∧
              interpretation.Satisfies undecided.proposition) ∧
          ∃ interpretation : Interpretation.{0},
            interpretation.SatisfiesAll [first, second] ∧ interpretation.Inhabits "B" ∧
              ¬ interpretation.Satisfies undecided.proposition ∧
                ¬ interpretation.Satisfies undecided.proposition.subaltern) ∧
      ∃ evaluation, model.evaluate idle = .ok evaluation ∧
        evaluation.verdict = .mayFail ∧
          ¬ ∃ interpretation : Interpretation.{0},
            interpretation.SatisfiesAll [first, second] ∧ interpretation.Inhabits "A" := by
  intro first second model undecided idle
  have built : model.isBuilt = true := by decide
  have peaceful : model.conflicts = [] := by decide
  have imports : model.config.existentialImport = true := by decide
  have statements : model.statements = [first, second] := by decide
  refine ⟨built, peaceful, ?_, ?_⟩
  · have named : ∀ name ∈ undecided.proposition.names, name ∈ model.names := by decide
    obtain ⟨evaluation, _, evaluated, _, mayHold, _⟩ :=
      evaluate_universal_uncertain.{0} ⟨_, _, rfl⟩ built peaceful imports rfl named
    have judged : (model.evaluate undecided).toOption.map Evaluation.verdict = some .mayHold := by
      decide
    rw [evaluated] at judged
    injection judged with verdict
    rw [statements] at mayHold
    exact ⟨evaluation, evaluated, verdict, mayHold.1 verdict⟩
  · have named : ∀ name ∈ idle.proposition.names, name ∈ model.names := by decide
    obtain ⟨evaluation, _, evaluated, _, _, mayFail, _⟩ :=
      evaluate_universal_uncertain.{0} ⟨_, _, rfl⟩ built peaceful imports rfl named
    have judged : (model.evaluate idle).toOption.map Evaluation.verdict = some .mayFail := by
      decide
    rw [evaluated] at judged
    injection judged with verdict
    rw [statements] at mayFail
    exact ⟨evaluation, evaluated, verdict, mayFail.1 verdict⟩

end Model
end Syllogistic
