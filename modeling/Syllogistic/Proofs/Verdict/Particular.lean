import Syllogistic.Proofs.Chart.Conclusion
import Syllogistic.Proofs.Model.Evaluation

/-!
# Verdicts on particular conclusions

On a model without conflicts the verdict on a particular conclusion is exact: the
conclusion holds, has no witness, or may hold just when it is true in all, in none,
or in some but not all of the interpretations of the premises.  Existential import
plays no part in it.
-/

namespace Syllogistic
namespace Model

universe u

/-- The verdict on a particular conclusion says in which interpretations it is true. -/
theorem evaluate_particular_exact
    {model : Model}
    {statement : Statement}
    (reachable : model.Reachable)
    (built : model.isBuilt = true)
    (peaceful : model.conflicts = [])
    (particular : statement.quantifier = some .particular)
    (named : ∀ name ∈ statement.proposition.names, name ∈ model.names) :
    ∃ evaluation, model.evaluate statement = .ok evaluation ∧
      (evaluation.verdict = .holds ↔
        ∀ interpretation : Interpretation.{u},
          interpretation.SatisfiesAll model.statements →
            interpretation.Satisfies statement.proposition) ∧
      (evaluation.verdict = .noWitness ↔
        ∀ interpretation : Interpretation.{u},
          interpretation.SatisfiesAll model.statements →
            ¬ interpretation.Satisfies statement.proposition) ∧
      (evaluation.verdict = .mayHold ↔
        (∃ interpretation : Interpretation.{u},
          interpretation.SatisfiesAll model.statements ∧
            interpretation.Satisfies statement.proposition) ∧
        ∃ interpretation : Interpretation.{u},
          interpretation.SatisfiesAll model.statements ∧
            ¬ interpretation.Satisfies statement.proposition) := by
  obtain ⟨chart, bearing, stage, records, calm, found⟩ :=
    reachable.exists_bearing built peaceful named
  obtain ⟨marked, evaluated⟩ := evaluate_particular stage peaceful found particular
  have holds := records.judgeParticular_eq_holds_iff_forall_satisfies.{u}
    model.config.existentialImport calm found particular
  have noWitness := records.judgeParticular_eq_noWitness_iff_forall_not_satisfies.{u}
    model.config.existentialImport calm found particular
  refine ⟨_, evaluated, ?_⟩
  refine ⟨holds, noWitness, ?_⟩
  rw [Chart.judgeParticular_eq_mayHold_iff, ne_eq, ne_eq, holds, noWitness]
  simp only [Classical.not_forall, Classical.not_not, exists_prop]

/-- From the premise that some A are B it follows that some B are A. -/
theorem evaluate_particular_exact_converse :
    let premise := Statement.ofProposition (.categorical .particular "A" false "B")
    let conclusion := Statement.ofProposition (.categorical .particular "B" false "A")
    let model := (Model.empty Config.default).run [.add premise, .build]
    model.isBuilt = true ∧ model.conflicts = [] ∧
      ∃ evaluation, model.evaluate conclusion = .ok evaluation ∧
        evaluation.verdict = .holds ∧
          ∀ interpretation : Interpretation.{0},
            interpretation.SatisfiesAll [premise] →
              interpretation.Satisfies conclusion.proposition := by
  intro premise conclusion model
  have built : model.isBuilt = true := by decide
  have peaceful : model.conflicts = [] := by decide
  have named : ∀ name ∈ conclusion.proposition.names, name ∈ model.names := by decide
  obtain ⟨evaluation, evaluated, holds, _⟩ :=
    evaluate_particular_exact.{0} ⟨_, _, rfl⟩ built peaceful rfl named
  refine ⟨built, peaceful, evaluation, evaluated, ?_⟩
  have judged : (model.evaluate conclusion).toOption.map Evaluation.verdict = some .holds := by
    decide
  rw [evaluated] at judged
  injection judged with verdict
  have statements : model.statements = [premise] := by decide
  rw [statements] at holds
  exact ⟨verdict, holds.1 verdict⟩

end Model
end Syllogistic
