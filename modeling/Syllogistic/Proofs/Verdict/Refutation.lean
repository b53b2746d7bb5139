import Syllogistic.Proofs.Chart.Conclusion
import Syllogistic.Proofs.Model.Evaluation

/-!
# Refuted conclusions

A universal conclusion that is said to fail is false wherever the premises are true,
whether the premises conflict or not.  Without conflicts the verdict is given to just
those refuted conclusions whose subaltern does not follow.
-/

namespace Syllogistic
namespace Model

universe u

/--
A universal conclusion that is said to fail is false in every admissible
interpretation.  Without conflicts it is said to fail exactly when it is false in all
of them and its subaltern is false in some.
-/
theorem evaluate_universal_fails
    {model : Model}
    {statement : Statement}
    {evaluation : Evaluation}
    (reachable : model.Reachable)
    (universal : statement.quantifier = some .universal)
    (named : ∀ name ∈ statement.proposition.names, name ∈ model.names)
    (evaluated : model.evaluate statement = .ok evaluation) :
    (evaluation.verdict = .fails →
      ∀ interpretation : Interpretation.{u},
        model.Admits statement.proposition interpretation →
          ¬ interpretation.Satisfies statement.proposition) ∧
    (model.conflicts = [] →
      (evaluation.verdict = .fails ↔
        (∃ interpretation : Interpretation.{u},
          model.Admits statement.proposition interpretation ∧
            ¬ interpretation.Satisfies statement.proposition.subaltern) ∧
        ∀ interpretation : Interpretation.{u},
          model.Admits statement.proposition interpretation →
            ¬ interpretation.Satisfies statement.proposition)) := by
  have coherent := reachable.coherent
  have evaluates := model.evaluates statement
  rw [evaluated] at evaluates
  cases evaluates with
  | unknown chart stage _ absent =>
      obtain ⟨bearing, found⟩ := coherent.exists_bearing? stage named
      rw [absent] at found
      contradiction
  | particular _ _ _ _ _ particular =>
      rw [universal] at particular
      contradiction
  | universal chart bearing stage _ found _ =>
      have records := coherent.records stage
      constructor
      · intro fails interpretation
        have definite := (Chart.judgeUniversal_eq_fails_iff.1 fails).2
        exact records.not_satisfies_of_isDefinite_opposing found universal definite
      · intro peaceful
        rw [conflicts_of_built stage] at peaceful
        exact records.judgeUniversal_eq_fails_iff_forall_not_satisfies _ peaceful found
          universal

/-- With all A in B and all B in C, that all A are outside C fails, for there are A. -/
theorem evaluate_universal_fails_contrary :
    let first := Statement.ofProposition (.categorical .universal "A" false "B")
    let second := Statement.ofProposition (.categorical .universal "B" false "C")
    let conclusion := Statement.ofProposition (.categorical .universal "A" true "C")
    let model := (Model.empty Config.default).run [.add first, .add second, .build]
    ∃ evaluation, model.evaluate conclusion = .ok evaluation ∧
      evaluation.verdict = .fails ∧
        ∀ interpretation : Interpretation.{0},
          interpretation.Admissible true [first, second] conclusion.proposition →
            ¬ interpretation.Satisfies conclusion.proposition := by
  intro first second conclusion model
  have named : ∀ name ∈ conclusion.proposition.names, name ∈ model.names := by decide
  have judged : (model.evaluate conclusion).toOption.map Evaluation.verdict = some .fails := by
    decide
  obtain ⟨evaluation, evaluated, verdict⟩ := evaluate_verdict_eq_some_iff.1 judged
  have refuted := (evaluate_universal_fails.{0} ⟨_, _, rfl⟩ rfl named evaluated).1 verdict
  have statements : model.statements = [first, second] := by decide
  have imports : model.config.existentialImport = true := by decide
  unfold Admits at refuted
  rw [statements, imports] at refuted
  exact ⟨evaluation, evaluated, verdict, refuted⟩

end Model
end Syllogistic
