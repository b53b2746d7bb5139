import Syllogistic.Proofs.Chart.Conclusion
import Syllogistic.Proofs.Model.Evaluation

/-!
# What the marked regions show

With a verdict come marked regions: what is left of the support where the conclusion holds
or may hold, the whole support where it has no witness, and all counterexamples where it
fails or may fail.  What they show is said by the interpretations that are admissible for
the conclusion.
-/

namespace Syllogistic

universe u

/-- What the marked regions show under a verdict, for the interpretations that are admitted. -/
def Verdict.Shows (verdict : Verdict) (diagram : Diagram)
    (admits : Interpretation.{u} → Prop) (marked : List Region) : Prop :=
  match verdict with
  | holds | fails =>
      ∀ interpretation, admits interpretation →
        ∃ region ∈ marked, interpretation.Occupies diagram region
  | noWitness =>
      ∀ interpretation, admits interpretation →
        ∀ region ∈ marked, ¬ interpretation.Occupies diagram region
  | mayHold =>
      (∀ region ∈ marked, ∃ interpretation, admits interpretation ∧
        interpretation.Occupies diagram region) ∧
      ∃ interpretation, admits interpretation ∧
        ∀ region ∈ marked, ¬ interpretation.Occupies diagram region
  | mayFail | unknown _ => True

namespace Chart

/-- What the tests for a verdict have found, with the regions that are marked for it. -/
inductive Judges (chart : Chart) (existentialImport : Bool) (conclusion : Proposition)
    (bearing : Bearing) : Verdict → List Region → Prop
  /-- What is left of the support is definite. -/
  | holds
      (definite : chart.isDefinite existentialImport (chart.unexcluded bearing.supporting)
        conclusion.subject = true) :
      Judges chart existentialImport conclusion bearing .holds
        (chart.unexcluded bearing.supporting)
  /-- Something is left of the support, and it is not definite. -/
  | mayHold
      (something : chart.unexcluded bearing.supporting ≠ [])
      (indefinite : ¬ chart.isDefinite existentialImport
        (chart.unexcluded bearing.supporting) conclusion.subject = true) :
      Judges chart existentialImport conclusion bearing .mayHold
        (chart.unexcluded bearing.supporting)
  /-- Nothing is left of the support of a particular conclusion. -/
  | noWitness
      (particular : conclusion.subject.quantifier = some .particular)
      (nothing : chart.unexcluded bearing.supporting = []) :
      Judges chart existentialImport conclusion bearing .noWitness bearing.supporting
  /-- What is left of the opposition to a universal conclusion is definite. -/
  | fails
      (universal : conclusion.subject.quantifier = some .universal)
      (definite : chart.isDefinite existentialImport (chart.unexcluded bearing.opposing)
        conclusion.subject = true) :
      Judges chart existentialImport conclusion bearing .fails bearing.opposing
  /-- Nothing is left of the support of a universal conclusion. -/
  | mayFail
      (universal : conclusion.subject.quantifier = some .universal)
      (nothing : chart.unexcluded bearing.supporting = []) :
      Judges chart existentialImport conclusion bearing .mayFail bearing.opposing

variable {chart : Chart} {existentialImport : Bool} {conclusion : Proposition}
  {bearing : Bearing} {verdict : Verdict} {marked : List Region} {premises : List Statement}

theorem judges_particular (particular : conclusion.subject.quantifier = some .particular) :
    let judged := chart.judgeParticular existentialImport conclusion.subject bearing
    chart.Judges existentialImport conclusion bearing judged.1 judged.2 := by
  unfold judgeParticular
  dsimp only
  split
  · rename_i nothing
    exact .noWitness particular (List.isEmpty_iff.1 nothing)
  · rename_i something
    rw [List.isEmpty_iff] at something
    split
    · rename_i definite
      exact .holds definite
    · rename_i indefinite
      exact .mayHold something indefinite

theorem judges_universal (universal : conclusion.subject.quantifier = some .universal) :
    let judged := chart.judgeUniversal existentialImport conclusion.subject bearing
    chart.Judges existentialImport conclusion bearing judged.1 judged.2 := by
  unfold judgeUniversal
  dsimp only
  split
  · rename_i definite
    exact .holds definite
  · rename_i indefinite
    split
    · rename_i refuted
      exact .fails universal refuted
    · split
      · rename_i nothing
        exact .mayFail universal (List.isEmpty_iff.1 nothing)
      · rename_i something
        rw [List.isEmpty_iff] at something
        exact .mayHold something indefinite

/-- A conclusion with a quantifier about two circles is judged by its tests. -/
theorem exists_judges
    {statement : Statement}
    (found : chart.diagram.bearing? statement.proposition = some bearing)
    (quantified : statement.quantifier ≠ none) :
    ∃ verdict marked,
      chart.evaluate existentialImport statement = .ok ⟨statement, verdict, marked⟩ ∧
        chart.Judges existentialImport statement.proposition bearing verdict marked := by
  cases quantifier : statement.quantifier with
  | none => exact absurd quantifier quantified
  | some kind =>
      cases kind with
      | particular =>
          exact ⟨_, _, evaluate_of_particular found quantifier, judges_particular quantifier⟩
      | universal =>
          exact ⟨_, _, evaluate_of_universal found quantifier, judges_universal quantifier⟩

/-- The marked regions are supporting ones, or opposing ones of a universal conclusion. -/
theorem Judges.sublist (judges : chart.Judges existentialImport conclusion bearing verdict marked) :
    marked.Sublist bearing.supporting ∨
      conclusion.subject.quantifier = some .universal ∧ marked.Sublist bearing.opposing := by
  cases judges with
  | holds | mayHold => exact .inl List.filter_sublist
  | noWitness => exact .inl (List.Sublist.refl _)
  | fails universal | mayFail universal => exact .inr ⟨universal, List.Sublist.refl _⟩

theorem Judges.pairwise
    (judges : chart.Judges existentialImport conclusion bearing verdict marked)
    (found : chart.diagram.bearing? conclusion = some bearing) :
    marked.Pairwise (· < ·) := by
  have ordered := chart.diagram.pairwise_regions
  rcases judges.sublist with supports | ⟨_, opposes⟩
  · exact ordered.sublist (supports.trans (Diagram.supporting_sublist_regions found))
  · exact ordered.sublist (opposes.trans (Diagram.opposing_sublist_regions found))

theorem Judges.mem_circle
    {region : Region}
    (judges : chart.Judges existentialImport conclusion bearing verdict marked)
    (found : chart.diagram.bearing? conclusion = some bearing)
    (quantified : conclusion.subject.quantifier ≠ none)
    (member : region ∈ marked) :
    region ∈ chart.diagram.circle conclusion.subject.name := by
  rcases judges.sublist with supports | ⟨universal, opposes⟩
  · exact Diagram.mem_circle_of_mem_supporting found quantified (supports.subset member)
  · exact (Diagram.mem_circle_iff_mem_bearing found universal).2 (.inr (opposes.subset member))

/-- Only what is left of the support is marked for a conclusion that is possible. -/
theorem Judges.isForcedEmpty_eq_false
    {region : Region}
    (judges : chart.Judges existentialImport conclusion bearing verdict marked)
    (possible : verdict.possible = true)
    (member : region ∈ marked) :
    chart.isForcedEmpty region = false := by
  cases judges with
  | holds | mayHold => exact (mem_unexcluded_iff.1 member).2
  | noWitness | fails | mayFail => contradiction

/-- Where something is left of the support but not definite, it may be occupied or vacant. -/
theorem Records.shows_mayHold
    (records : chart.Records premises)
    (peaceful : chart.conflicts = [])
    (found : chart.diagram.bearing? conclusion = some bearing)
    (quantified : conclusion.subject.quantifier ≠ none)
    (something : chart.unexcluded bearing.supporting ≠ [])
    (indefinite : ¬ chart.isDefinite existentialImport
      (chart.unexcluded bearing.supporting) conclusion.subject = true) :
    Verdict.mayHold.Shows.{u} chart.diagram
      (·.Admissible existentialImport premises conclusion)
      (chart.unexcluded bearing.supporting) := by
  have named := Diagram.subject_mem_names found
  have drawn := records.draws_groupsFor existentialImport conclusion.subject
  -- What is left of the support lies in the circle of the subject and keeps it open.
  have isOpen : chart.Open (chart.groupsFor existentialImport conclusion.subject) := by
    obtain ⟨region, remaining⟩ := List.exists_mem_of_ne_nil _ something
    obtain ⟨supports, free⟩ := mem_unexcluded_iff.1 remaining
    exact (records.open_groupsFor_iff peaceful).2 fun _ _ =>
      ⟨region, Diagram.mem_circle_of_mem_supporting found quantified supports, free⟩
  constructor
  · intro region remaining
    obtain ⟨supports, free⟩ := mem_unexcluded_iff.1 remaining
    refine ⟨_, (records.admissible_iff named).2 (realizes_ofArea_unforced drawn isOpen), ?_⟩
    rw [Interpretation.occupies_ofArea_iff]
    exact ⟨(Diagram.supporting_sublist_regions found).subset supports, free⟩
  · rw [isDefinite_iff_forall_realizes.{u} drawn isOpen] at indefinite
    simp only [Classical.not_forall, not_exists, not_and] at indefinite
    obtain ⟨interpretation, realizes, vacant⟩ := indefinite
    exact ⟨interpretation, (records.admissible_iff named).2 realizes, vacant⟩

/-- The marked regions show what the verdict says. -/
theorem Judges.shows
    (judges : chart.Judges existentialImport conclusion bearing verdict marked)
    (records : chart.Records premises)
    (peaceful : chart.conflicts = [])
    (found : chart.diagram.bearing? conclusion = some bearing)
    (quantified : conclusion.subject.quantifier ≠ none) :
    verdict.Shows.{u} chart.diagram (·.Admissible existentialImport premises conclusion)
      marked := by
  have realizes : ∀ interpretation : Interpretation.{u},
      interpretation.Admissible existentialImport premises conclusion →
        interpretation.Realizes chart (chart.groupsFor existentialImport conclusion.subject) :=
    fun _ => (records.admissible_iff (Diagram.subject_mem_names found)).1
  cases judges with
  | holds definite =>
      intro interpretation admissible
      exact exists_occupied_of_isDefinite definite (realizes interpretation admissible)
  | mayHold something indefinite =>
      exact records.shows_mayHold peaceful found quantified something indefinite
  | noWitness _ nothing =>
      intro interpretation admissible region supports
      have forced := unexcluded_eq_nil_iff.1 nothing region supports
      exact (realizes interpretation admissible).vacant region forced
  | fails _ definite =>
      intro interpretation admissible
      have realized := realizes interpretation admissible
      rw [← exists_occupied_unexcluded_iff realized]
      exact exists_occupied_of_isDefinite definite realized
  | mayFail => trivial

end Chart

namespace Model

/-- The marked regions are in order and in place, and they show what the verdict says. -/
structure Marks (model : Model) (diagram : Diagram) (evaluation : Evaluation) : Prop where
  ascending : evaluation.marked.Pairwise (· < ·)
  inside : ∀ region ∈ evaluation.marked,
    region ∈ diagram.circle evaluation.statement.proposition.subject.name
  unforced : evaluation.verdict.possible = true →
    ∀ region ∈ evaluation.marked, model.isForcedEmpty region = false
  shows : evaluation.verdict.Shows.{u} diagram (model.Admits evaluation.statement.proposition)
    evaluation.marked

/--
The regions that are marked for a conclusion about names of a model without conflicts are
regions inside the circle of its subject in ascending order.  Every admissible
interpretation occupies one of them if the conclusion holds or fails, and none does if it
has no witness.  If it may hold, each of them is occupied in some admissible
interpretation, and some other leaves them all vacant.  None is forced empty where the
conclusion holds or may hold.
-/
theorem evaluate_marks
    {model : Model}
    {statement : Statement}
    (reachable : model.Reachable)
    (built : model.isBuilt = true)
    (peaceful : model.conflicts = [])
    (quantified : statement.quantifier ≠ none)
    (named : ∀ name ∈ statement.proposition.names, name ∈ model.names) :
    ∃ evaluation diagram,
      model.evaluate statement = .ok evaluation ∧ evaluation.statement = statement ∧
        model.diagram? = some diagram ∧ model.Marks.{u} diagram evaluation := by
  obtain ⟨chart, bearing, stage, records, calm, found⟩ :=
    reachable.exists_bearing built peaceful named
  obtain ⟨verdict, marked, evaluated, judges⟩ := Chart.exists_judges found quantified
  refine ⟨⟨statement, verdict, marked⟩, chart.diagram, ?_, rfl, diagram?_of_built stage, ?_⟩
  · rw [evaluate_of_built stage peaceful, evaluated]
    rfl
  · constructor
    · exact judges.pairwise found
    · exact fun region => judges.mem_circle found quantified
    · rw [isForcedEmpty_of_built stage]
      exact fun possible region => judges.isForcedEmpty_eq_false possible
    · exact judges.shows records calm found quantified

/--
Where some A are in B and no B are in C, that some A are in C may hold, and that all B are
in C fails: the regions marked for the first may be vacant, those for the second are not.
-/
theorem evaluate_marks_of_two_premises :
    let witness := Statement.ofProposition (.categorical .particular "A" false "B")
    let exclusion := Statement.ofProposition (.categorical .universal "B" true "C")
    let model := (Model.empty Config.default).run [.add witness, .add exclusion, .build]
    let undecided := Statement.ofProposition (.categorical .particular "A" false "C")
    let refuted := Statement.ofProposition (.categorical .universal "B" false "C")
    model.isBuilt = true ∧ model.conflicts = [] ∧
      (∃ evaluation diagram, model.evaluate undecided = .ok evaluation ∧
        model.diagram? = some diagram ∧ evaluation.verdict = .mayHold ∧
          (∀ region ∈ evaluation.marked, ∃ interpretation : Interpretation.{0},
            model.Admits undecided.proposition interpretation ∧
              interpretation.Occupies diagram region) ∧
          ∃ interpretation : Interpretation.{0},
            model.Admits undecided.proposition interpretation ∧
              ∀ region ∈ evaluation.marked, ¬ interpretation.Occupies diagram region) ∧
      ∃ evaluation diagram, model.evaluate refuted = .ok evaluation ∧
        model.diagram? = some diagram ∧ evaluation.verdict = .fails ∧
          ∀ interpretation : Interpretation.{0},
            model.Admits refuted.proposition interpretation →
              ∃ region ∈ evaluation.marked, interpretation.Occupies diagram region := by
  intro witness exclusion model undecided refuted
  have built : model.isBuilt = true := by decide
  have peaceful : model.conflicts = [] := by decide
  refine ⟨built, peaceful, ?_, ?_⟩
  · obtain ⟨evaluation, diagram, evaluated, same, drawn, marks⟩ :=
      @evaluate_marks.{0} model undecided ⟨_, _, rfl⟩ built peaceful (by decide) (by decide)
    have verdict : evaluation.verdict = .mayHold := verdict_of_evaluate evaluated (by decide)
    have shown := marks.shows
    rw [verdict, same] at shown
    exact ⟨evaluation, diagram, evaluated, drawn, verdict, shown⟩
  · obtain ⟨evaluation, diagram, evaluated, same, drawn, marks⟩ :=
      @evaluate_marks.{0} model refuted ⟨_, _, rfl⟩ built peaceful (by decide) (by decide)
    have verdict : evaluation.verdict = .fails := verdict_of_evaluate evaluated (by decide)
    have shown := marks.shows
    rw [verdict, same] at shown
    exact ⟨evaluation, diagram, evaluated, drawn, verdict, shown⟩

end Model
end Syllogistic
