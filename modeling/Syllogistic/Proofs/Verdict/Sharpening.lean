import Syllogistic.Proofs.Chart.Conclusion
import Syllogistic.Proofs.Model.Resemblance

/-!
# What existential import changes

Existential import lets the circle of a universal subject count as one more group with a
witness.  The regions of this circle that are left support the conclusion or oppose it, so
the new group settles the conclusion only where the regions of the other kind are all
emptied, and then it settles it the way the verdict already leans.  Verdicts become sharper
by it and never turn round, and the same regions are marked.
-/

namespace Syllogistic

/-- The verdict stays as it is, or what is said to be possible is said to be certain. -/
inductive Verdict.SharpensTo : Verdict → Verdict → Prop
  | holds : SharpensTo holds holds
  | fails : SharpensTo fails fails
  | mayHold : SharpensTo mayHold mayHold
  | proved : SharpensTo mayHold holds
  | mayFail : SharpensTo mayFail mayFail
  | refuted : SharpensTo mayFail fails

namespace Chart

variable {chart : Chart} {bearing : Bearing}

/-- Import sharpens the verdict on a universal conclusion and marks the same regions. -/
theorem judgeUniversal_sharpensTo
    {proposition : Proposition}
    (found : chart.diagram.bearing? proposition = some bearing)
    (universal : proposition.subject.quantifier = some .universal) :
    (chart.judgeUniversal false proposition.subject bearing).1.SharpensTo
        (chart.judgeUniversal true proposition.subject bearing).1 ∧
      (chart.judgeUniversal false proposition.subject bearing).2 =
        (chart.judgeUniversal true proposition.subject bearing).2 := by
  have supports := isDefinite_true_supporting_iff found universal
  have opposes := isDefinite_true_opposing_iff found universal
  unfold judgeUniversal
  dsimp only
  by_cases supported : chart.isDefinite false (chart.unexcluded bearing.supporting)
      proposition.subject = true
  · rw [if_pos supported, if_pos (supports.2 (Or.inl supported))]
    exact ⟨.holds, rfl⟩
  rw [if_neg supported]
  by_cases refuted : chart.isDefinite false (chart.unexcluded bearing.opposing)
      proposition.subject = true
  · -- What refutes the conclusion is left of its opposition, so import cannot prove it.
    have unproved : ¬ chart.isDefinite true (chart.unexcluded bearing.supporting)
        proposition.subject = true := by
      rw [supports]
      exact not_or.2 ⟨supported, fun imported => ne_nil_of_isDefinite refuted imported.2⟩
    rw [if_pos refuted, if_neg unproved, if_pos (opposes.2 (Or.inl refuted))]
    exact ⟨.fails, rfl⟩
  rw [if_neg refuted]
  by_cases nothing : chart.unexcluded bearing.supporting = []
  · have unproved : ¬ chart.isDefinite true (chart.unexcluded bearing.supporting)
        proposition.subject = true := fun definite => ne_nil_of_isDefinite definite nothing
    rw [if_pos (List.isEmpty_iff.2 nothing), if_neg unproved]
    split
    · exact ⟨.refuted, rfl⟩
    · exact ⟨.mayFail, rfl⟩
  · have unrefuted : ¬ chart.isDefinite true (chart.unexcluded bearing.opposing)
        proposition.subject = true := by
      rw [opposes]
      exact not_or.2 ⟨refuted, fun imported => nothing imported.2⟩
    have something := mt List.isEmpty_iff.1 nothing
    rw [if_neg something, if_neg unrefuted]
    split
    · exact ⟨.proved, rfl⟩
    · exact ⟨.mayHold, rfl⟩

/-- Import sharpens the verdict on a conclusion about the circles and marks the same regions. -/
theorem evaluate_sharpensTo
    {statement : Statement}
    (found : chart.diagram.bearing? statement.proposition = some bearing)
    (quantified : statement.quantifier ≠ none) :
    ∃ verdict sharper marked,
      chart.evaluate false statement = .ok ⟨statement, verdict, marked⟩ ∧
        chart.evaluate true statement = .ok ⟨statement, sharper, marked⟩ ∧
          (statement.quantifier = some .particular → sharper = verdict) ∧
            (statement.quantifier = some .universal → verdict.SharpensTo sharper) := by
  cases kind : statement.quantifier with
  | none => exact absurd kind quantified
  | some quantifier =>
      cases quantifier with
      | particular =>
          have same := chart.judgeParticular_congr bearing kind kind true false
          refine ⟨_, _, _, evaluate_of_particular found kind, ?_, fun _ => rfl, nofun⟩
          rw [evaluate_of_particular found kind, same]
      | universal =>
          obtain ⟨sharpens, marks⟩ := judgeUniversal_sharpensTo found kind
          refine ⟨_, _, _, evaluate_of_universal found kind, ?_, nofun, fun _ => sharpens⟩
          rw [evaluate_of_universal found kind, marks]

end Chart

namespace Model

/-- The model after some operations, with or without existential import. -/
def runImporting (config : Config) (operations : List Operation) (imports : Bool) : Model :=
  (empty { config with existentialImport := imports }).run operations

/--
After the same operations a model with existential import is built when one without it is.
Unless a deferred conflict keeps them from judging, both judge every quantified conclusion
about their names and mark the same regions.  On a particular conclusion they agree; on a
universal one the verdict with import is the other verdict or, where that is a possible one,
the certain one that it leans to.
-/
theorem existential_import_sharpens
    (config : Config)
    (operations : List Operation)
    {statement : Statement}
    (built : (runImporting config operations false).isBuilt = true)
    (free : config.conflictCheck = .deferred →
      (runImporting config operations false).conflicts = [])
    (quantified : statement.quantifier ≠ none)
    (named : ∀ name ∈ statement.proposition.names,
      name ∈ (runImporting config operations false).names) :
    (runImporting config operations true).isBuilt = true ∧
      ∃ verdict sharper marked,
        (runImporting config operations false).evaluate statement =
            .ok ⟨statement, verdict, marked⟩ ∧
          (runImporting config operations true).evaluate statement =
              .ok ⟨statement, sharper, marked⟩ ∧
            (statement.quantifier = some .particular → sharper = verdict) ∧
              (statement.quantifier = some .universal → verdict.SharpensTo sharper) := by
  have configs : ∀ imports, (runImporting config operations imports).config =
      { config with existentialImport := imports } := fun _ => config_run _ operations
  have same : (runImporting config operations false).Resembles
      (runImporting config operations true) :=
    Resembles.run ⟨rfl, rfl, rfl, rfl⟩ fun _ => rfl
  have coherent : (runImporting config operations false).Coherent := coherent_run _ operations
  obtain ⟨chart, stage⟩ := exists_built_iff.1 built
  have alsoStage : (runImporting config operations true).stage = .built chart :=
    same.stage_of_built stage
  obtain ⟨bearing, found⟩ := coherent.exists_bearing? stage named
  obtain ⟨verdict, sharper, marked, judges, alsoJudges, sharpens⟩ :=
    Chart.evaluate_sharpensTo found quantified
  rw [conflicts_of_built stage] at free
  refine ⟨exists_built_iff.2 ⟨chart, alsoStage⟩, verdict, sharper, marked, ?_, ?_, sharpens⟩
  · rw [evaluate_of_free stage (by rwa [configs]), configs, judges]
    rfl
  · rw [evaluate_of_free alsoStage (by rwa [configs]), configs, alsoJudges]
    rfl

/-- A rule proves itself with existential import only; without it its subject may be empty. -/
theorem existential_import_sharpens_of_rule :
    let rule := Statement.ofProposition (.categorical .universal "A" false "B")
    let config : Config := { Config.default with conflictCheck := .off }
    let importing := runImporting config [.add rule, .build]
    (importing false).isBuilt = true ∧
      ∃ marked, marked ≠ [] ∧
        (importing false).evaluate rule = .ok ⟨rule, .mayHold, marked⟩ ∧
          (importing true).evaluate rule = .ok ⟨rule, .holds, marked⟩ := by
  intro rule config importing
  have built : (importing false).isBuilt = true := by decide
  have quantified : rule.quantifier ≠ none := nofun
  have named : ∀ name ∈ rule.proposition.names, name ∈ (importing false).names := by decide
  obtain ⟨_, verdict, sharper, marked, judges, alsoJudges, _, sharpens⟩ :=
    existential_import_sharpens config [.add rule, .build] built nofun quantified named
  have uncertain : ((importing false).evaluate rule).toOption.map
      (fun answer => (answer.verdict, answer.marked.isEmpty)) = some (.mayHold, false) := by
    decide
  have certain : ((importing true).evaluate rule).toOption.map
      (fun answer => answer.verdict.certain) = some true := by
    decide
  change (importing false).evaluate rule = _ at judges
  change (importing true).evaluate rule = _ at alsoJudges
  rw [judges] at uncertain
  rw [alsoJudges] at certain
  simp only [Except.toOption, Option.map_some, Option.some.injEq, Prod.mk.injEq,
    List.isEmpty_eq_false_iff] at uncertain certain
  obtain ⟨rfl, shown⟩ := uncertain
  -- The one certain verdict to which a possible one is sharpened is that the rule holds.
  cases sharpens rfl with
  | mayHold => contradiction
  | proved => exact ⟨built, marked, shown, judges, alsoJudges⟩

end Model
end Syllogistic
