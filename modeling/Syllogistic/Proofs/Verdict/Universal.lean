import Syllogistic.Proofs.Chart.Conclusion
import Syllogistic.Proofs.Model.Evaluation

/-!
# Verdicts on universal conclusions

The test for the verdict that a conclusion holds looks at the regions that support
the conclusion and comes first.  On a model without conflicts it says that the
subaltern follows.  So a universal conclusion that is said to hold need not follow,
and a refuted one is said to hold when its subaltern follows.
-/

namespace Syllogistic

universe u

namespace Interpretation

/-- A counterexample to a proposition is a member of its subject. -/
theorem Satisfies.inhabits_subject
    {interpretation : Interpretation.{u}}
    {proposition : Proposition}
    (satisfies : interpretation.Satisfies proposition.contradictory) :
    interpretation.Inhabits proposition.subject.name := by
  obtain ⟨individual, member, _⟩ := satisfies
  exact ⟨individual, member⟩

end Interpretation

namespace Model

/--
A universal conclusion is said to hold exactly when its subaltern follows.  It then
follows itself exactly when the premises empty every region that opposes it.
-/
theorem evaluate_universal_holds
    {model : Model}
    {statement : Statement}
    (reachable : model.Reachable)
    (built : model.isBuilt = true)
    (peaceful : model.conflicts = [])
    (universal : statement.quantifier = some .universal)
    (named : ∀ name ∈ statement.proposition.names, name ∈ model.names) :
    ∃ evaluation bearing,
      model.evaluate statement = .ok evaluation ∧
      model.bearing? statement.proposition = some bearing ∧
      (evaluation.verdict = .holds ↔
        (∃ interpretation : Interpretation.{u},
          model.Admits statement.proposition interpretation) ∧
        ∀ interpretation : Interpretation.{u},
          model.Admits statement.proposition interpretation →
            interpretation.Satisfies statement.proposition.subaltern) ∧
      (evaluation.verdict = .holds →
        ((∀ interpretation : Interpretation.{u},
            model.Admits statement.proposition interpretation →
              interpretation.Satisfies statement.proposition) ↔
          ∀ region ∈ bearing.opposing, model.isForcedEmpty region = true)) := by
  obtain ⟨chart, bearing, stage, records, calm, found⟩ :=
    reachable.exists_bearing built peaceful named
  have holds := records.judgeUniversal_eq_holds_iff_forall_subaltern.{u}
    model.config.existentialImport calm found universal
  obtain ⟨marked, evaluated⟩ := evaluate_universal stage peaceful found universal
  rw [isForcedEmpty_of_built stage, bearing?_of_built stage]
  refine ⟨_, bearing, evaluated, found, holds, ?_⟩
  intro verdict
  exact records.forall_satisfies_iff_forced_opposing found universal (holds.1 verdict).1

/-- With all A in B and all B in C, that all A are in C holds and follows. -/
theorem evaluate_universal_holds_transitive :
    let first := Statement.ofProposition (.categorical .universal "A" false "B")
    let second := Statement.ofProposition (.categorical .universal "B" false "C")
    let conclusion := Statement.ofProposition (.categorical .universal "A" false "C")
    let model := (Model.empty Config.default).run [.add first, .add second, .build]
    model.isBuilt = true ∧ model.conflicts = [] ∧
      ∃ evaluation, model.evaluate conclusion = .ok evaluation ∧
        evaluation.verdict = .holds ∧
          ∀ interpretation : Interpretation.{0},
            interpretation.Admissible true [first, second] conclusion.proposition →
              interpretation.Satisfies conclusion.proposition := by
  intro first second conclusion model
  have built : model.isBuilt = true := by decide
  have peaceful : model.conflicts = [] := by decide
  have named : ∀ name ∈ conclusion.proposition.names, name ∈ model.names := by decide
  obtain ⟨evaluation, bearing, evaluated, found, _, follows⟩ :=
    evaluate_universal_holds.{0} ⟨_, _, rfl⟩ built peaceful rfl named
  refine ⟨built, peaceful, evaluation, evaluated, ?_⟩
  have judged : (model.evaluate conclusion).toOption.map Evaluation.verdict = some .holds := by
    decide
  rw [evaluated] at judged
  injection judged with verdict
  have statements : model.statements = [first, second] := by decide
  have imports : model.config.existentialImport = true := by decide
  have emptied : ∀ bearing ∈ model.bearing? conclusion.proposition,
      ∀ region ∈ bearing.opposing, model.isForcedEmpty region = true := by decide
  have certain := (follows verdict).2 (emptied bearing found)
  unfold Admits at certain
  rw [statements, imports] at certain
  exact ⟨verdict, certain⟩

/--
From the premise that some B are C it is said to hold that all B are C, though some
interpretation makes the premise true and the conclusion false.
-/
theorem evaluate_universal_holds_unsound :
    let premise := Statement.ofProposition (.categorical .particular "B" false "C")
    let conclusion := Statement.ofProposition (.categorical .universal "B" false "C")
    let model := (Model.empty Config.default).run [.add premise, .build]
    model.Reachable ∧ model.isBuilt = true ∧ model.conflicts = [] ∧
      (model.evaluate conclusion).toOption.map Evaluation.verdict = some .holds ∧
        ∃ interpretation : Interpretation.{0},
          model.Admits conclusion.proposition interpretation ∧
            ¬ interpretation.Satisfies conclusion.proposition := by
  intro premise conclusion model
  have statements : model.statements = [premise] := by decide
  refine ⟨⟨_, _, rfl⟩, by decide, by decide, by decide, ?_⟩
  unfold Admits
  rw [statements]
  let twoOfB : Interpretation.{0} := ⟨Bool, fun name individual => name = "B" ∨ individual = true⟩
  refine ⟨twoOfB, ⟨?_, ?_⟩, ?_⟩
  · intro statement member
    rw [List.mem_singleton] at member
    rw [member]
    exact ⟨true, Or.inl rfl, Or.inr rfl⟩
  · intro _ _
    exact ⟨true, Or.inl rfl⟩
  · intro satisfies
    have described : "C" = "B" ∨ false = true := satisfies false (Or.inl rfl)
    simp at described

/-- A premise that contradicts a conclusion refutes it, and admits its subject. -/
theorem refuted_of_contradictory_mem
    {model : Model}
    {proposition : Proposition}
    {premise : Statement}
    (reachable : model.Reachable)
    (built : model.isBuilt = true)
    (peaceful : model.conflicts = [])
    (universal : proposition.subject.quantifier = some .universal)
    (member : premise ∈ model.statements)
    (contradicts : premise.proposition = proposition.contradictory) :
    (∃ interpretation : Interpretation.{u},
      model.Admits proposition interpretation) ∧
    ∀ interpretation : Interpretation.{u},
      model.Admits proposition interpretation →
        ¬ interpretation.Satisfies proposition := by
  obtain ⟨chart, stage, _, records⟩ := reachable.exists_records built
  have calm : chart.conflicts = [] := (conflicts_of_built stage).symm.trans peaceful
  obtain ⟨interpretation, satisfies⟩ :=
    records.conflicts_eq_nil_iff_exists_satisfiesAll.{u}.1 calm
  constructor
  · refine ⟨interpretation, satisfies, fun _ _ => ?_⟩
    have counterexample := satisfies premise member
    rw [contradicts] at counterexample
    exact counterexample.inhabits_subject
  · intro other admissible
    have counterexample := admissible.satisfies premise member
    rw [contradicts] at counterexample
    exact (Interpretation.satisfies_contradictory_iff universal).1 counterexample

/--
A universal conclusion that is false in every admissible interpretation, as when a
premise contradicts it, is said to fail exactly when its subaltern does not follow.
Otherwise it is said to hold.
-/
theorem evaluate_universal_refuted
    {model : Model}
    {statement : Statement}
    (reachable : model.Reachable)
    (built : model.isBuilt = true)
    (peaceful : model.conflicts = [])
    (universal : statement.quantifier = some .universal)
    (named : ∀ name ∈ statement.proposition.names, name ∈ model.names)
    (refuted :
      ((∃ interpretation : Interpretation.{u},
          model.Admits statement.proposition interpretation) ∧
        ∀ interpretation : Interpretation.{u},
          model.Admits statement.proposition interpretation →
            ¬ interpretation.Satisfies statement.proposition) ∨
      ∃ premise ∈ model.statements,
        premise.proposition = statement.proposition.contradictory) :
    ∃ evaluation, model.evaluate statement = .ok evaluation ∧
      (evaluation.verdict = .fails ↔
        ∃ interpretation : Interpretation.{u},
          model.Admits statement.proposition interpretation ∧
            ¬ interpretation.Satisfies statement.proposition.subaltern) ∧
      (evaluation.verdict = .holds ↔
        ∀ interpretation : Interpretation.{u},
          model.Admits statement.proposition interpretation →
            interpretation.Satisfies statement.proposition.subaltern) := by
  obtain ⟨someAdmissible, none⟩ := refuted.elim id fun ⟨_, member, contradicts⟩ =>
    refuted_of_contradictory_mem reachable built peaceful universal member contradicts
  obtain ⟨chart, bearing, stage, records, calm, found⟩ :=
    reachable.exists_bearing built peaceful named
  have holds := records.judgeUniversal_eq_holds_iff_forall_subaltern.{u}
    model.config.existentialImport calm found universal
  rw [and_iff_right someAdmissible] at holds
  have definite := (records.isDefinite_opposing_iff_forall_not_satisfies found universal
    someAdmissible).2 none
  obtain ⟨marked, evaluated⟩ := evaluate_universal stage peaceful found universal
  refine ⟨_, evaluated, ?_, holds⟩
  rw [Chart.judgeUniversal_eq_fails_iff, holds, and_iff_left definite]
  simp only [Classical.not_forall, exists_prop]

/-- With some A outside B, that all A are in B fails. -/
theorem evaluate_universal_refuted_by_premise :
    let premise := Statement.ofProposition (.categorical .particular "A" true "B")
    let conclusion := Statement.ofProposition (.categorical .universal "A" false "B")
    let model := (Model.empty Config.default).run [.add premise, .build]
    model.isBuilt = true ∧ model.conflicts = [] ∧
      ∃ evaluation, model.evaluate conclusion = .ok evaluation ∧
        evaluation.verdict = .fails ∧
          ∃ interpretation : Interpretation.{0},
            interpretation.Admissible true [premise] conclusion.proposition ∧
              ¬ interpretation.Satisfies conclusion.proposition.subaltern := by
  intro premise conclusion model
  have built : model.isBuilt = true := by decide
  have peaceful : model.conflicts = [] := by decide
  have named : ∀ name ∈ conclusion.proposition.names, name ∈ model.names := by decide
  have contradicted : ∃ premise ∈ model.statements,
      premise.proposition = conclusion.proposition.contradictory := by decide
  obtain ⟨evaluation, evaluated, fails, _⟩ := evaluate_universal_refuted.{0} ⟨_, _, rfl⟩
    built peaceful rfl named (Or.inr contradicted)
  refine ⟨built, peaceful, evaluation, evaluated, ?_⟩
  have judged : (model.evaluate conclusion).toOption.map Evaluation.verdict = some .fails := by
    decide
  rw [evaluated] at judged
  injection judged with verdict
  have statements : model.statements = [premise] := by decide
  have imports : model.config.existentialImport = true := by decide
  unfold Admits at fails
  rw [statements, imports] at fails
  exact ⟨verdict, fails.1 verdict⟩

/--
With some A in B and some A outside B it is said to hold that all A are in B, though
the premises are consistent and the conclusion is false in all their interpretations.
-/
theorem evaluate_universal_refuted_holds :
    let first := Statement.ofProposition (.categorical .particular "A" true "B")
    let second := Statement.ofProposition (.categorical .particular "A" false "B")
    let conclusion := Statement.ofProposition (.categorical .universal "A" false "B")
    let model := (Model.empty Config.default).run [.add first, .add second, .build]
    model.Reachable ∧ model.isBuilt = true ∧ model.conflicts = [] ∧
      (model.evaluate conclusion).toOption.map Evaluation.verdict = some .holds ∧
        (∃ interpretation : Interpretation.{0},
          model.Admits conclusion.proposition interpretation) ∧
        ∀ interpretation : Interpretation.{0},
          model.Admits conclusion.proposition interpretation →
            ¬ interpretation.Satisfies conclusion.proposition := by
  intro first second conclusion model
  have reachable : model.Reachable := ⟨_, _, rfl⟩
  have built : model.isBuilt = true := by decide
  have peaceful : model.conflicts = [] := by decide
  have member : first ∈ model.statements := by decide
  refine ⟨reachable, built, peaceful, by decide, ?_⟩
  exact refuted_of_contradictory_mem reachable built peaceful rfl member rfl

end Model
end Syllogistic
