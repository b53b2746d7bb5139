import Syllogistic.Proofs.Chart.Conclusion
import Syllogistic.Proofs.Model.Evaluation

/-!
# Premises as conclusions

A premise is judged on the chart on which it stands, in the company of all others.  Its own
entry decides: the group of a particular premise has a witness, so the premise holds as long
as some region of the group is left, and of the opposition to a universal premise nothing is
left that could refute it.
-/

namespace Syllogistic
namespace Chart
namespace Records

variable {chart : Chart} {premises : List Statement} {premise : Statement} {bearing : Bearing}

/-- Nothing is left of the opposition to a universal premise. -/
theorem unexcluded_opposing_eq_nil
    (records : chart.Records premises)
    (stated : premise ∈ premises)
    (found : chart.diagram.bearing? premise.proposition = some bearing)
    (universal : premise.quantifier = some .universal) :
    chart.unexcluded bearing.opposing = [] := by
  rw [unexcluded_eq_nil_iff]
  intro region opposes
  rw [records.isForcedEmpty_iff]
  exact ⟨premise, stated, Diagram.excludes_iff.2 ⟨universal, bearing, found, opposes⟩⟩

/-- What is left of the support of a particular premise is definite if anything is. -/
theorem isDefinite_supporting_iff_ne_nil
    (records : chart.Records premises)
    (existentialImport : Bool)
    (subject : Term)
    (stated : premise ∈ premises)
    (found : chart.diagram.bearing? premise.proposition = some bearing)
    (particular : premise.quantifier = some .particular) :
    chart.isDefinite existentialImport (chart.unexcluded bearing.supporting) subject = true ↔
      chart.unexcluded bearing.supporting ≠ [] := by
  constructor
  · exact ne_nil_of_isDefinite
  · intro something
    have asserts : chart.diagram.asserts bearing.supporting premise = true :=
      Diagram.asserts_iff.2 ⟨particular, bearing, found, rfl⟩
    have witnessed := records.mem_keys_iff.2 ⟨premise, stated, asserts⟩
    exact isDefinite_iff.2 ⟨bearing.supporting, mem_groupsFor_iff.2 (.inl witnessed),
      List.exists_mem_of_ne_nil _ something, fun _ remaining => remaining⟩

/-- A particular premise holds or has no witness, as its group is left a region or not. -/
theorem judgeParticular_of_mem
    (records : chart.Records premises)
    (existentialImport : Bool)
    (stated : premise ∈ premises)
    (found : chart.diagram.bearing? premise.proposition = some bearing)
    (particular : premise.quantifier = some .particular) :
    let verdict :=
      (chart.judgeParticular existentialImport premise.proposition.subject bearing).1
    (verdict = .holds ↔ ∃ region ∈ bearing.supporting, chart.isForcedEmpty region = false) ∧
      (verdict = .noWitness ↔
        ∀ region ∈ bearing.supporting, chart.isForcedEmpty region = true) := by
  intro verdict
  constructor
  · rw [judgeParticular_eq_holds_iff,
      records.isDefinite_supporting_iff_ne_nil existentialImport _ stated found particular,
      ne_eq, unexcluded_eq_nil_iff]
    simp only [Classical.not_forall, exists_prop, Bool.not_eq_true]
  · rw [judgeParticular_eq_noWitness_iff, unexcluded_eq_nil_iff]

/-- No premise refutes another: a universal one is never said to fail. -/
theorem judgeUniversal_ne_fails_of_mem
    (records : chart.Records premises)
    (existentialImport : Bool)
    (stated : premise ∈ premises)
    (found : chart.diagram.bearing? premise.proposition = some bearing)
    (universal : premise.quantifier = some .universal) :
    (chart.judgeUniversal existentialImport premise.proposition.subject bearing).1 ≠ .fails := by
  intro fails
  have definite := (judgeUniversal_eq_fails_iff.1 fails).2
  rw [records.unexcluded_opposing_eq_nil stated found universal, isDefinite_nil] at definite
  contradiction

/-- With import a universal premise holds if anything is left of the circle of its subject. -/
theorem judgeUniversal_eq_holds_iff_of_mem
    (records : chart.Records premises)
    (stated : premise ∈ premises)
    (found : chart.diagram.bearing? premise.proposition = some bearing)
    (universal : premise.quantifier = some .universal) :
    (chart.judgeUniversal true premise.proposition.subject bearing).1 = .holds ↔
      ∃ region ∈ chart.diagram.circle premise.proposition.subject.name,
        chart.isForcedEmpty region = false := by
  have emptied := records.unexcluded_opposing_eq_nil stated found universal
  rw [judgeUniversal_eq_holds_iff, isDefinite_true_supporting_iff found universal]
  constructor
  · intro definite
    have something : chart.unexcluded bearing.supporting ≠ [] :=
      definite.elim ne_nil_of_isDefinite And.left
    obtain ⟨region, remaining⟩ := List.exists_mem_of_ne_nil _ something
    obtain ⟨supports, free⟩ := mem_unexcluded_iff.1 remaining
    exact ⟨region, (Diagram.mem_circle_iff_mem_bearing found universal).2 (.inl supports), free⟩
  · rintro ⟨region, inside, free⟩
    -- The region is not among those that oppose the premise, for these are all emptied.
    have supports : region ∈ bearing.supporting := by
      refine ((Diagram.mem_circle_iff_mem_bearing found universal).1 inside).resolve_right ?_
      intro opposes
      rw [unexcluded_eq_nil_iff.1 emptied region opposes] at free
      contradiction
    exact .inr ⟨List.ne_nil_of_mem (mem_unexcluded_iff.2 ⟨supports, free⟩), emptied⟩

end Records
end Chart

namespace Model

/--
On a built model that judges, conflicts or not, a particular premise holds if some region
that supports it is not emptied and has no witness otherwise.  A universal premise never
fails; with existential import it holds if some region in the circle of its subject is not
emptied, and may fail otherwise.
-/
theorem evaluate_premise
    {model : Model}
    {premise : Statement}
    (reachable : model.Reachable)
    (built : model.isBuilt = true)
    (free : model.config.conflictCheck = .deferred → model.conflicts = [])
    (stated : premise ∈ model.statements) :
    ∃ evaluation bearing diagram,
      model.evaluate premise = .ok evaluation ∧
      model.bearing? premise.proposition = some bearing ∧
      model.diagram? = some diagram ∧
      (premise.quantifier = some .particular →
        (evaluation.verdict = .holds ↔
          ∃ region ∈ bearing.supporting, model.isForcedEmpty region = false) ∧
        (evaluation.verdict = .noWitness ↔
          ∀ region ∈ bearing.supporting, model.isForcedEmpty region = true)) ∧
      (premise.quantifier = some .universal →
        evaluation.verdict ≠ .fails ∧
        (model.config.existentialImport = true →
          (evaluation.verdict = .holds ↔
            ∃ region ∈ diagram.circle premise.proposition.subject.name,
              model.isForcedEmpty region = false) ∧
          (evaluation.verdict = .mayFail ↔
            ∀ region ∈ diagram.circle premise.proposition.subject.name,
              model.isForcedEmpty region = true))) := by
  obtain ⟨chart, stage, _, records⟩ := reachable.exists_records built
  have hosted := records.hosted premise stated
  obtain ⟨bearing, found⟩ := Diagram.exists_bearing? hosted.named
  rw [conflicts_of_built stage] at free
  rw [evaluate_of_free stage free, bearing?_of_built stage, diagram?_of_built stage,
    isForcedEmpty_of_built stage]
  cases kind : premise.quantifier with
  | none => exact absurd kind hosted.wellFormed.subject_quantified
  | some quantifier =>
      cases quantifier with
      | particular =>
          rw [Chart.evaluate_of_particular found kind]
          refine ⟨_, bearing, chart.diagram, rfl, found, rfl, fun _ => ?_, nofun⟩
          exact records.judgeParticular_of_mem _ stated found kind
      | universal =>
          rw [Chart.evaluate_of_universal found kind]
          refine ⟨_, bearing, chart.diagram, rfl, found, rfl, nofun, fun _ => ⟨?_, ?_⟩⟩
          · exact records.judgeUniversal_ne_fails_of_mem _ stated found kind
          · intro imports
            rw [imports]
            exact ⟨records.judgeUniversal_eq_holds_iff_of_mem stated found kind,
              Chart.judgeUniversal_eq_mayFail_iff_forced_circle found kind⟩

/--
Two rules that leave no A, and the premise that there is one: without a conflict check the
model is built, the premise has no witness, and the first rule may fail.  That some B are C
is not touched by the conflict, and holds.
-/
theorem evaluate_premise_of_conflicting :
    let rule := Statement.ofProposition (.categorical .universal "A" false "B")
    let counter := Statement.ofProposition (.categorical .universal "A" true "B")
    let witness := Statement.ofProposition (.categorical .particular "A" false "C")
    let other := Statement.ofProposition (.categorical .particular "B" false "C")
    let model := (empty { Config.default with conflictCheck := .off }).run
      ([rule, counter, witness, other].map .add ++ [.build])
    model.isBuilt = true ∧ model.conflicts ≠ [] ∧
      (∃ evaluation, model.evaluate rule = .ok evaluation ∧ evaluation.verdict = .mayFail) ∧
        (∃ evaluation, model.evaluate witness = .ok evaluation ∧
          evaluation.verdict = .noWitness) ∧
          ∃ evaluation, model.evaluate other = .ok evaluation ∧ evaluation.verdict = .holds := by
  intro rule counter witness other model
  have built : model.isBuilt = true := by decide +kernel
  have reachable : model.Reachable := ⟨_, _, rfl⟩
  have undeferred : model.config.conflictCheck ≠ .deferred := by decide +kernel
  have judged := fun premise =>
    @evaluate_premise model premise reachable built fun deferred => absurd deferred undeferred
  refine ⟨built, by decide +kernel, ?_, ?_, ?_⟩
  · obtain ⟨evaluation, _, diagram, evaluated, _, drawn, _, universal⟩ :=
      judged rule (by decide +kernel)
    have emptied : ∀ diagram ∈ model.diagram?, ∀ region ∈ diagram.circle "A",
        model.isForcedEmpty region = true := by
      decide +kernel
    have mayFail := ((universal rfl).2 (by decide +kernel)).2
    exact ⟨evaluation, evaluated, mayFail.2 (emptied diagram drawn)⟩
  · obtain ⟨evaluation, bearing, _, evaluated, found, _, particular, _⟩ :=
      judged witness (by decide +kernel)
    have emptied : ∀ bearing ∈ model.bearing? witness.proposition,
        ∀ region ∈ bearing.supporting, model.isForcedEmpty region = true := by
      decide +kernel
    exact ⟨evaluation, evaluated, (particular rfl).2.2 (emptied bearing found)⟩
  · obtain ⟨evaluation, bearing, _, evaluated, found, _, particular, _⟩ :=
      judged other (by decide +kernel)
    have left : ∀ bearing ∈ model.bearing? other.proposition,
        ∃ region ∈ bearing.supporting, model.isForcedEmpty region = false := by
      decide +kernel
    exact ⟨evaluation, evaluated, (particular rfl).1.2 (left bearing found)⟩

end Model
end Syllogistic
