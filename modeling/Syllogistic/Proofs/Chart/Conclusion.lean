import Syllogistic.Proofs.Chart.Records

/-!
# What a chart decides

The verdict on a particular conclusion says exactly what the premises leave of it.
The verdict that a universal conclusion holds is about its subaltern: the regions
that oppose the conclusion play no part in it, and where it is given they are not
tested at all.
-/

namespace Syllogistic

universe u

namespace Chart

variable {chart : Chart} {bearing : Bearing} {existentialImport : Bool} {subject : Term}

/-! ## The verdicts by their tests -/

/-- A particular conclusion about two circles has the verdict of the particular judgement. -/
theorem evaluate_of_particular
    {statement : Statement}
    (found : chart.diagram.bearing? statement.proposition = some bearing)
    (particular : statement.quantifier = some .particular) :
    chart.evaluate existentialImport statement = .ok ⟨statement,
      (chart.judgeParticular existentialImport statement.proposition.subject bearing).1,
      (chart.judgeParticular existentialImport statement.proposition.subject bearing).2⟩ := by
  rw [Statement.quantifier] at particular
  simp only [evaluate, found, particular]

/-- A universal conclusion about two circles has the verdict of the universal judgement. -/
theorem evaluate_of_universal
    {statement : Statement}
    (found : chart.diagram.bearing? statement.proposition = some bearing)
    (universal : statement.quantifier = some .universal) :
    chart.evaluate existentialImport statement = .ok ⟨statement,
      (chart.judgeUniversal existentialImport statement.proposition.subject bearing).1,
      (chart.judgeUniversal existentialImport statement.proposition.subject bearing).2⟩ := by
  rw [Statement.quantifier] at universal
  simp only [evaluate, found, universal]

/-- Nothing is definite in an area without regions. -/
theorem isDefinite_nil : chart.isDefinite existentialImport [] subject = false := by
  rw [← Bool.not_eq_true, isDefinite_iff]
  rintro ⟨group, _, ⟨region, remaining⟩, contained⟩
  exact List.not_mem_nil (contained region remaining)

/-- A definite area is left with some region. -/
theorem ne_nil_of_isDefinite
    {area : List Region}
    (definite : chart.isDefinite existentialImport area subject = true) :
    area ≠ [] := by
  rintro rfl
  rw [isDefinite_nil] at definite
  contradiction

/-- An imported circle makes an area definite that holds what is left of it. -/
theorem isDefinite_true_iff
    {area : List Region}
    (universal : subject.quantifier = some .universal) :
    chart.isDefinite true area subject = true ↔
      chart.isDefinite false area subject = true ∨
        (∃ region, region ∈ chart.unexcluded (chart.diagram.circle subject.name)) ∧
          ∀ region ∈ chart.unexcluded (chart.diagram.circle subject.name), region ∈ area := by
  simp only [isDefinite_iff, mem_groupsFor_iff]
  constructor
  · rintro ⟨group, witnessed | ⟨_, _, rfl⟩, remains, contained⟩
    · exact Or.inl ⟨group, Or.inl witnessed, remains, contained⟩
    · exact Or.inr ⟨remains, contained⟩
  · rintro (⟨group, witnessed | ⟨imported, _⟩, remains, contained⟩ | ⟨remains, contained⟩)
    · exact ⟨group, Or.inl witnessed, remains, contained⟩
    · contradiction
    · exact ⟨_, Or.inr ⟨trivial, universal, rfl⟩, remains, contained⟩

/-- If a circle falls into two parts, importing it counts for a part when the other is emptied. -/
theorem isDefinite_true_unexcluded_iff
    {area rest : List Region}
    (universal : subject.quantifier = some .universal)
    (parted : ∀ region, region ∈ chart.diagram.circle subject.name ↔
      region ∈ area ∨ region ∈ rest)
    (apart : ∀ region ∈ area, region ∉ rest) :
    chart.isDefinite true (chart.unexcluded area) subject = true ↔
      chart.isDefinite false (chart.unexcluded area) subject = true ∨
        chart.unexcluded area ≠ [] ∧ chart.unexcluded rest = [] := by
  rw [isDefinite_true_iff universal]
  apply or_congr_right
  simp only [mem_unexcluded_iff, parted]
  constructor
  · rintro ⟨⟨region, inside, free⟩, contained⟩
    have kept : region ∈ chart.unexcluded area :=
      mem_unexcluded_iff.2 (contained region ⟨inside, free⟩)
    refine ⟨List.ne_nil_of_mem kept, unexcluded_eq_nil_iff.2 fun other inRest => ?_⟩
    apply Classical.byContradiction
    intro unforced
    rw [Bool.not_eq_true] at unforced
    exact apart other (contained other ⟨Or.inr inRest, unforced⟩).1 inRest
  · rintro ⟨something, emptied⟩
    obtain ⟨region, kept⟩ := List.exists_mem_of_ne_nil _ something
    obtain ⟨inArea, free⟩ := mem_unexcluded_iff.1 kept
    refine ⟨⟨region, Or.inl inArea, free⟩, ?_⟩
    rintro other ⟨inside, unforced⟩
    refine ⟨inside.resolve_right ?_, unforced⟩
    intro inRest
    rw [unexcluded_eq_nil_iff.1 emptied other inRest] at unforced
    contradiction

section ImportedCircle

variable {proposition : Proposition}

/-- Import makes the support definite that is left when the opposition is emptied. -/
theorem isDefinite_true_supporting_iff
    (found : chart.diagram.bearing? proposition = some bearing)
    (universal : proposition.subject.quantifier = some .universal) :
    chart.isDefinite true (chart.unexcluded bearing.supporting) proposition.subject = true ↔
      chart.isDefinite false (chart.unexcluded bearing.supporting) proposition.subject = true ∨
        chart.unexcluded bearing.supporting ≠ [] ∧ chart.unexcluded bearing.opposing = [] :=
  isDefinite_true_unexcluded_iff universal
    (fun _ => Diagram.mem_circle_iff_mem_bearing found universal)
    (Diagram.not_mem_opposing_of_mem_supporting found universal)

/-- Import makes the opposition definite that is left when the support is emptied. -/
theorem isDefinite_true_opposing_iff
    (found : chart.diagram.bearing? proposition = some bearing)
    (universal : proposition.subject.quantifier = some .universal) :
    chart.isDefinite true (chart.unexcluded bearing.opposing) proposition.subject = true ↔
      chart.isDefinite false (chart.unexcluded bearing.opposing) proposition.subject = true ∨
        chart.unexcluded bearing.opposing ≠ [] ∧ chart.unexcluded bearing.supporting = [] :=
  isDefinite_true_unexcluded_iff universal
    (fun _ => (Diagram.mem_circle_iff_mem_bearing found universal).trans or_comm)
    (fun region opposing supporting =>
      Diagram.not_mem_opposing_of_mem_supporting found universal region supporting opposing)

end ImportedCircle

theorem judgeParticular_eq_noWitness_iff :
    (chart.judgeParticular existentialImport subject bearing).1 = .noWitness ↔
      chart.unexcluded bearing.supporting = [] := by
  unfold judgeParticular
  dsimp only
  rw [← List.isEmpty_iff]
  split
  · rename_i nothing
    simp [nothing]
  · rename_i something
    split <;> simp [something]

theorem judgeParticular_eq_holds_iff :
    (chart.judgeParticular existentialImport subject bearing).1 = .holds ↔
      chart.isDefinite existentialImport (chart.unexcluded bearing.supporting) subject =
        true := by
  unfold judgeParticular
  dsimp only
  split
  · rename_i nothing
    rw [List.isEmpty_iff] at nothing
    simp [nothing, isDefinite_nil]
  · split
    · rename_i definite
      simp [definite]
    · rename_i indefinite
      simp [indefinite]

/-- What is left of the support is marked where it is definite. -/
theorem judgeParticular_of_isDefinite
    (definite : chart.isDefinite existentialImport (chart.unexcluded bearing.supporting)
      subject = true) :
    chart.judgeParticular existentialImport subject bearing =
      (.holds, chart.unexcluded bearing.supporting) := by
  have something := mt List.isEmpty_iff.1 (ne_nil_of_isDefinite definite)
  unfold judgeParticular
  dsimp only
  rw [if_neg something, if_pos definite]

/-- The verdict that is neither of the two certain ones is the third. -/
theorem judgeParticular_eq_mayHold_iff :
    (chart.judgeParticular existentialImport subject bearing).1 = .mayHold ↔
      (chart.judgeParticular existentialImport subject bearing).1 ≠ .noWitness ∧
        (chart.judgeParticular existentialImport subject bearing).1 ≠ .holds := by
  unfold judgeParticular
  dsimp only
  split
  · simp
  · split <;> simp

theorem judgeUniversal_eq_holds_iff :
    (chart.judgeUniversal existentialImport subject bearing).1 = .holds ↔
      chart.isDefinite existentialImport (chart.unexcluded bearing.supporting) subject =
        true := by
  unfold judgeUniversal
  dsimp only
  split
  · rename_i definite
    simp [definite]
  · rename_i indefinite
    split
    · simp [indefinite]
    · split <;> simp [indefinite]

/-- A refutation counts only where the supporting regions are not definite. -/
theorem judgeUniversal_eq_fails_iff :
    (chart.judgeUniversal existentialImport subject bearing).1 = .fails ↔
      ¬ (chart.judgeUniversal existentialImport subject bearing).1 = .holds ∧
        chart.isDefinite existentialImport (chart.unexcluded bearing.opposing) subject =
          true := by
  rw [judgeUniversal_eq_holds_iff]
  unfold judgeUniversal
  dsimp only
  split
  · rename_i definite
    simp [definite]
  · rename_i indefinite
    split
    · rename_i refuted
      simp [indefinite, refuted]
    · rename_i unrefuted
      split <;> simp [unrefuted]

/-- A universal conclusion may fail when no supporting region is left and no refutation counts. -/
theorem judgeUniversal_eq_mayFail_iff :
    (chart.judgeUniversal existentialImport subject bearing).1 = .mayFail ↔
      chart.unexcluded bearing.supporting = [] ∧
        chart.isDefinite existentialImport (chart.unexcluded bearing.opposing) subject =
          false := by
  unfold judgeUniversal
  dsimp only
  rw [← List.isEmpty_iff, ← Bool.not_eq_true (chart.isDefinite _ _ _)]
  split
  · rename_i definite
    have something : (chart.unexcluded bearing.supporting).isEmpty = false := by
      rw [← Bool.not_eq_true, List.isEmpty_iff]
      exact ne_nil_of_isDefinite definite
    simp [something]
  · split
    · rename_i refuted
      simp [refuted]
    · rename_i unrefuted
      split
      · rename_i nothing
        simp [nothing, unrefuted]
      · rename_i something
        simp [something]

/-- Where the subject is imported, a conclusion may fail only if its circle is forced empty. -/
theorem judgeUniversal_eq_mayFail_iff_forced_circle
    {proposition : Proposition}
    (found : chart.diagram.bearing? proposition = some bearing)
    (universal : proposition.subject.quantifier = some .universal) :
    (chart.judgeUniversal true proposition.subject bearing).1 = .mayFail ↔
      ∀ region ∈ chart.diagram.circle proposition.subject.name,
        chart.isForcedEmpty region = true := by
  have parted : ∀ region, region ∈ chart.diagram.circle proposition.subject.name ↔
      region ∈ bearing.supporting ∨ region ∈ bearing.opposing :=
    fun _ => Diagram.mem_circle_iff_mem_bearing found universal
  have emptied : (∀ region ∈ chart.diagram.circle proposition.subject.name,
      chart.isForcedEmpty region = true) ↔
        chart.unexcluded bearing.supporting = [] ∧ chart.unexcluded bearing.opposing = [] := by
    simp only [unexcluded_eq_nil_iff, parted, or_imp, forall_and]
  rw [judgeUniversal_eq_mayFail_iff, emptied]
  apply and_congr_right
  intro nothing
  constructor
  · intro unrefuted
    apply Classical.byContradiction
    intro something
    have refuted := (isDefinite_true_opposing_iff found universal).2 (Or.inr ⟨something, nothing⟩)
    rw [refuted] at unrefuted
    contradiction
  · intro vacated
    rw [vacated, isDefinite_nil]

/-- The verdict on a universal conclusion that is none of the three others is the fourth. -/
theorem judgeUniversal_eq_mayHold_iff :
    (chart.judgeUniversal existentialImport subject bearing).1 = .mayHold ↔
      (chart.judgeUniversal existentialImport subject bearing).1 ≠ .holds ∧
        (chart.judgeUniversal existentialImport subject bearing).1 ≠ .fails ∧
          (chart.judgeUniversal existentialImport subject bearing).1 ≠ .mayFail := by
  unfold judgeUniversal
  dsimp only
  split
  · simp
  · split
    · simp
    · split <;> simp

/-- Only the witness groups count for a particular conclusion. -/
theorem groupsFor_eq_keys
    (chart : Chart)
    (existentialImport : Bool)
    (particular : subject.quantifier = some .particular) :
    chart.groupsFor existentialImport subject = chart.witnessGroups.keys := by
  unfold groupsFor
  rw [particular]
  simp

/-- Neither import nor the name of the subject matters to the particular judgement. -/
theorem judgeParticular_congr
    {other : Term}
    (chart : Chart)
    (bearing : Bearing)
    (particular : subject.quantifier = some .particular)
    (alsoParticular : other.quantifier = some .particular)
    (left right : Bool) :
    chart.judgeParticular left subject bearing = chart.judgeParticular right other bearing := by
  unfold judgeParticular isDefinite
  rw [groupsFor_eq_keys chart left particular, groupsFor_eq_keys chart right alsoParticular]

/-! ## The tests by the interpretations of the premises -/

namespace Records

variable {premises : List Statement} {proposition : Proposition}

section Particular

/-- A particular conclusion holds when it is true in every interpretation. -/
theorem judgeParticular_eq_holds_iff_forall_satisfies
    (records : chart.Records premises)
    (existentialImport : Bool)
    (peaceful : chart.conflicts = [])
    (found : chart.diagram.bearing? proposition = some bearing)
    (particular : proposition.subject.quantifier = some .particular) :
    (chart.judgeParticular existentialImport proposition.subject bearing).1 = .holds ↔
      ∀ interpretation : Interpretation.{u}, interpretation.SatisfiesAll premises →
        interpretation.Satisfies proposition := by
  have groups := groupsFor_eq_keys chart existentialImport particular
  have drawn := records.draws_groupsFor existentialImport proposition.subject
  have isOpen := records.conflicts_eq_nil_iff.1 peaceful
  rw [← groups] at isOpen
  rw [judgeParticular_eq_holds_iff,
    isDefinite_unexcluded_iff_forall_realizes.{u} drawn isOpen, groups]
  simp only [records.satisfiesAll_iff, Interpretation.satisfies_particular_iff found particular]

/-- A particular conclusion has no witness when it is false in every interpretation. -/
theorem judgeParticular_eq_noWitness_iff_forall_not_satisfies
    (records : chart.Records premises)
    (existentialImport : Bool)
    (peaceful : chart.conflicts = [])
    (found : chart.diagram.bearing? proposition = some bearing)
    (particular : proposition.subject.quantifier = some .particular) :
    (chart.judgeParticular existentialImport proposition.subject bearing).1 = .noWitness ↔
      ∀ interpretation : Interpretation.{u}, interpretation.SatisfiesAll premises →
        ¬ interpretation.Satisfies proposition := by
  have isOpen := records.conflicts_eq_nil_iff.1 peaceful
  have inside := (Diagram.supporting_sublist_regions found).subset
  rw [judgeParticular_eq_noWitness_iff,
    unexcluded_eq_nil_iff_forall_realizes.{u} records.draws_keys isOpen inside]
  simp only [records.satisfiesAll_iff, Interpretation.satisfies_particular_iff found particular,
    not_exists, not_and]

end Particular

section Universal

/-- The groups that count are open when some interpretation is admissible. -/
theorem open_groupsFor_iff_exists_admissible
    (records : chart.Records premises)
    (named : proposition.subject.name ∈ chart.diagram.names) :
    chart.Open (chart.groupsFor existentialImport proposition.subject) ↔
      ∃ interpretation : Interpretation.{u},
        interpretation.Admissible existentialImport premises proposition := by
  simp only [records.admissible_iff named]
  constructor
  · intro isOpen
    have drawn := records.draws_groupsFor existentialImport proposition.subject
    exact ⟨_, realizes_ofArea_unforced drawn isOpen⟩
  · rintro ⟨interpretation, realizes⟩
    exact open_of_realizes realizes

/-- An area is definite when every admissible interpretation occupies a region of it. -/
theorem isDefinite_unexcluded_iff_forall_admissible
    {area : List Region}
    (records : chart.Records premises)
    (named : proposition.subject.name ∈ chart.diagram.names)
    (someAdmissible : ∃ interpretation : Interpretation.{u},
      interpretation.Admissible existentialImport premises proposition) :
    chart.isDefinite existentialImport (chart.unexcluded area) proposition.subject = true ↔
      ∀ interpretation : Interpretation.{u},
        interpretation.Admissible existentialImport premises proposition →
          ∃ region ∈ area, interpretation.Occupies chart.diagram region := by
  have drawn := records.draws_groupsFor existentialImport proposition.subject
  have isOpen := (records.open_groupsFor_iff_exists_admissible named).2 someAdmissible
  simp only [records.admissible_iff named]
  exact isDefinite_unexcluded_iff_forall_realizes drawn isOpen

/-- On a chart without conflicts only the imported circle may fail to be open. -/
theorem open_groupsFor_iff
    (records : chart.Records premises)
    (peaceful : chart.conflicts = []) :
    chart.Open (chart.groupsFor existentialImport subject) ↔
      (existentialImport = true → subject.quantifier = some .universal →
        ∃ region ∈ chart.diagram.circle subject.name, chart.isForcedEmpty region = false) := by
  constructor
  · intro isOpen imports universal
    exact isOpen _ (mem_groupsFor_iff.2 (Or.inr ⟨imports, universal, rfl⟩))
  · intro circle group member
    rcases mem_groupsFor_iff.1 member with witnessed | ⟨imports, universal, imported⟩
    · exact records.conflicts_eq_nil_iff.1 peaceful group witnessed
    · rw [imported]
      exact circle imports universal

/-- A definite part of the circle of the subject leaves a region of that circle. -/
theorem open_groupsFor_of_isDefinite
    {area : List Region}
    (records : chart.Records premises)
    (peaceful : chart.conflicts = [])
    (inside : ∀ region ∈ area, region ∈ chart.diagram.circle subject.name)
    (definite : chart.isDefinite existentialImport (chart.unexcluded area) subject = true) :
    chart.Open (chart.groupsFor existentialImport subject) := by
  obtain ⟨_, _, ⟨region, remaining⟩, contained⟩ := isDefinite_iff.1 definite
  obtain ⟨member, unforced⟩ := mem_unexcluded_iff.1 (contained region remaining)
  exact (records.open_groupsFor_iff peaceful).2 fun _ _ =>
    ⟨region, inside region member, unforced⟩

/-- A universal conclusion is said to hold when its subaltern follows, and not from nothing. -/
theorem judgeUniversal_eq_holds_iff_forall_subaltern
    (records : chart.Records premises)
    (existentialImport : Bool)
    (peaceful : chart.conflicts = [])
    (found : chart.diagram.bearing? proposition = some bearing)
    (universal : proposition.subject.quantifier = some .universal) :
    (chart.judgeUniversal existentialImport proposition.subject bearing).1 = .holds ↔
      (∃ interpretation : Interpretation.{u},
        interpretation.Admissible existentialImport premises proposition) ∧
      ∀ interpretation : Interpretation.{u},
        interpretation.Admissible existentialImport premises proposition →
          interpretation.Satisfies proposition.subaltern := by
  have quantified : proposition.subject.quantifier ≠ none := by
    rw [universal]
    exact Option.some_ne_none _
  have named := Diagram.subject_mem_names found
  rw [judgeUniversal_eq_holds_iff]
  simp only [Interpretation.satisfies_subaltern_iff found quantified]
  constructor
  · intro definite
    -- The imported circle is not open by itself; the definite support shows that it is.
    have isOpen := records.open_groupsFor_of_isDefinite peaceful
      (fun _ => Diagram.mem_circle_of_mem_supporting found quantified) definite
    have someAdmissible := (records.open_groupsFor_iff_exists_admissible named).1 isOpen
    refine ⟨someAdmissible, ?_⟩
    exact (records.isDefinite_unexcluded_iff_forall_admissible named someAdmissible).1
      definite
  · intro certain
    exact (records.isDefinite_unexcluded_iff_forall_admissible named certain.1).2 certain.2

/-- The opposition is definite when the conclusion is false in every interpretation. -/
theorem isDefinite_opposing_iff_forall_not_satisfies
    (records : chart.Records premises)
    (found : chart.diagram.bearing? proposition = some bearing)
    (universal : proposition.subject.quantifier = some .universal)
    (someAdmissible : ∃ interpretation : Interpretation.{u},
      interpretation.Admissible existentialImport premises proposition) :
    chart.isDefinite existentialImport (chart.unexcluded bearing.opposing)
        proposition.subject = true ↔
      ∀ interpretation : Interpretation.{u},
        interpretation.Admissible existentialImport premises proposition →
          ¬ interpretation.Satisfies proposition := by
  have named := Diagram.subject_mem_names found
  rw [records.isDefinite_unexcluded_iff_forall_admissible named someAdmissible]
  simp only [Interpretation.satisfies_universal_iff found universal, Classical.not_forall,
    Classical.not_not, exists_prop]

/-- What is left of the opposition and definite has a counterexample, conflicts or not. -/
theorem not_satisfies_of_isDefinite_opposing
    {interpretation : Interpretation.{u}}
    (records : chart.Records premises)
    (found : chart.diagram.bearing? proposition = some bearing)
    (universal : proposition.subject.quantifier = some .universal)
    (definite : chart.isDefinite existentialImport (chart.unexcluded bearing.opposing)
      proposition.subject = true)
    (admissible : interpretation.Admissible existentialImport premises proposition) :
    ¬ interpretation.Satisfies proposition := by
  have named := Diagram.subject_mem_names found
  have realizes := (records.admissible_iff named).1 admissible
  obtain ⟨region, remaining, occupied⟩ := exists_occupied_of_isDefinite definite realizes
  rw [Interpretation.satisfies_universal_iff found universal]
  intro vacant
  exact vacant region (mem_unexcluded_iff.1 remaining).1 occupied

/--
A universal conclusion is said to fail when it is false in every admissible
interpretation and its subaltern is false in some.
-/
theorem judgeUniversal_eq_fails_iff_forall_not_satisfies
    (records : chart.Records premises)
    (existentialImport : Bool)
    (peaceful : chart.conflicts = [])
    (found : chart.diagram.bearing? proposition = some bearing)
    (universal : proposition.subject.quantifier = some .universal) :
    (chart.judgeUniversal existentialImport proposition.subject bearing).1 = .fails ↔
      (∃ interpretation : Interpretation.{u},
        interpretation.Admissible existentialImport premises proposition ∧
          ¬ interpretation.Satisfies proposition.subaltern) ∧
      ∀ interpretation : Interpretation.{u},
        interpretation.Admissible existentialImport premises proposition →
          ¬ interpretation.Satisfies proposition := by
  have named := Diagram.subject_mem_names found
  rw [judgeUniversal_eq_fails_iff,
    records.judgeUniversal_eq_holds_iff_forall_subaltern.{u} existentialImport peaceful found
      universal]
  constructor
  · rintro ⟨notHolds, definite⟩
    have inside : ∀ region ∈ bearing.opposing,
        region ∈ chart.diagram.circle proposition.subject.name := fun region opposes =>
      (Diagram.mem_circle_iff_mem_bearing found universal).2 (Or.inr opposes)
    have isOpen := records.open_groupsFor_of_isDefinite peaceful inside definite
    have someAdmissible := (records.open_groupsFor_iff_exists_admissible.{u} named).1 isOpen
    constructor
    · simpa only [someAdmissible, true_and, Classical.not_forall, exists_prop] using notHolds
    · exact fun _ => records.not_satisfies_of_isDefinite_opposing found universal definite
  · rintro ⟨⟨interpretation, admissible, unsupported⟩, refuted⟩
    constructor
    · exact fun holds => unsupported (holds.2 interpretation admissible)
    · exact (records.isDefinite_opposing_iff_forall_not_satisfies found universal
        ⟨interpretation, admissible⟩).2 refuted

/-- The conclusion follows when every opposing region is forced empty. -/
theorem forall_satisfies_iff_forced_opposing
    (records : chart.Records premises)
    (found : chart.diagram.bearing? proposition = some bearing)
    (universal : proposition.subject.quantifier = some .universal)
    (someAdmissible : ∃ interpretation : Interpretation.{u},
      interpretation.Admissible existentialImport premises proposition) :
    (∀ interpretation : Interpretation.{u},
        interpretation.Admissible existentialImport premises proposition →
          interpretation.Satisfies proposition) ↔
      ∀ region ∈ bearing.opposing, chart.isForcedEmpty region = true := by
  have named := Diagram.subject_mem_names found
  have drawn := records.draws_groupsFor existentialImport proposition.subject
  have isOpen := (records.open_groupsFor_iff_exists_admissible named).2 someAdmissible
  have inside := (Diagram.opposing_sublist_regions found).subset
  have nothing := unexcluded_eq_nil_iff_forall_realizes.{u} drawn isOpen inside
  simp only [records.admissible_iff named,
    Interpretation.satisfies_universal_iff found universal]
  rw [← nothing, unexcluded_eq_nil_iff]

section Import

/-- The circle of an imported subject is forced empty when no interpretation is admissible. -/
theorem forced_circle_iff_not_exists_admissible
    (records : chart.Records premises)
    (peaceful : chart.conflicts = [])
    (found : chart.diagram.bearing? proposition = some bearing)
    (universal : proposition.subject.quantifier = some .universal) :
    (∀ region ∈ chart.diagram.circle proposition.subject.name,
        chart.isForcedEmpty region = true) ↔
      ¬ ∃ interpretation : Interpretation.{u},
        interpretation.Admissible true premises proposition := by
  rw [← records.open_groupsFor_iff_exists_admissible (Diagram.subject_mem_names found),
    records.open_groupsFor_iff peaceful]
  simp [universal]

/--
Where the subject is imported, a conclusion may hold when it is true in some admissible
interpretation and its subaltern is false in some other.
-/
theorem judgeUniversal_eq_mayHold_iff_exists_admissible
    (records : chart.Records premises)
    (peaceful : chart.conflicts = [])
    (found : chart.diagram.bearing? proposition = some bearing)
    (universal : proposition.subject.quantifier = some .universal) :
    (chart.judgeUniversal true proposition.subject bearing).1 = .mayHold ↔
      (∃ interpretation : Interpretation.{u},
        interpretation.Admissible true premises proposition ∧
          interpretation.Satisfies proposition) ∧
      ∃ interpretation : Interpretation.{u},
        interpretation.Admissible true premises proposition ∧
          ¬ interpretation.Satisfies proposition.subaltern := by
  rw [judgeUniversal_eq_mayHold_iff, ne_eq, ne_eq, ne_eq,
    records.judgeUniversal_eq_holds_iff_forall_subaltern.{u} true peaceful found universal,
    records.judgeUniversal_eq_fails_iff_forall_not_satisfies.{u} true peaceful found universal,
    judgeUniversal_eq_mayFail_iff_forced_circle found universal,
    records.forced_circle_iff_not_exists_admissible.{u} peaceful found universal,
    Classical.not_not]
  constructor
  · rintro ⟨notHolds, notFails, someAdmissible⟩
    have unsupported : ∃ interpretation : Interpretation.{u},
        interpretation.Admissible true premises proposition ∧
          ¬ interpretation.Satisfies proposition.subaltern := by
      simpa only [someAdmissible, true_and, Classical.not_forall, exists_prop] using notHolds
    refine ⟨?_, unsupported⟩
    simpa only [unsupported, true_and, Classical.not_forall, Classical.not_not,
      exists_prop] using notFails
  · rintro ⟨⟨first, admissible, satisfies⟩, ⟨second, otherAdmissible, unsupported⟩⟩
    refine ⟨?_, ?_, first, admissible⟩
    · exact fun holds => unsupported (holds.2 second otherAdmissible)
    · exact fun fails => fails.2 first admissible satisfies

end Import

end Universal

end Records
end Chart
end Syllogistic
