import Syllogistic.Diagram.Bearing
import Syllogistic.Proofs.Diagram.Regions

/-!
# Which regions bear on a proposition

Where both names of a proposition have a circle, the supporting regions are those
in the circle of the subject that comply with the predicate, and the regions that
oppose a universal proposition are the rest of that circle.
-/

namespace Syllogistic
namespace Diagram

variable {diagram : Diagram} {proposition : Proposition} {bearing : Bearing}

/-- Only a proposition about two circles has a bearing. -/
theorem exists_positions_of_bearing?
    (found : diagram.bearing? proposition = some bearing) :
    ∃ subject predicate,
      diagram.position? proposition.subject.name = some subject ∧
        diagram.position? proposition.predicate.name = some predicate := by
  unfold bearing? at found
  split at found
  · rename_i subject predicate subjectFound predicateFound
    exact ⟨subject, predicate, subjectFound, predicateFound⟩
  · contradiction

theorem subject_mem_names
    (found : diagram.bearing? proposition = some bearing) :
    proposition.subject.name ∈ diagram.names := by
  obtain ⟨subject, _, subjectFound, _⟩ := exists_positions_of_bearing? found
  exact exists_position?_iff.1 ⟨subject, subjectFound⟩

theorem predicate_mem_names
    (found : diagram.bearing? proposition = some bearing) :
    proposition.predicate.name ∈ diagram.names := by
  obtain ⟨_, predicate, _, predicateFound⟩ := exists_positions_of_bearing? found
  exact exists_position?_iff.1 ⟨predicate, predicateFound⟩

/-- Every proposition about two circles has a bearing. -/
theorem exists_bearing?
    (named : ∀ name ∈ proposition.names, name ∈ diagram.names) :
    ∃ bearing, diagram.bearing? proposition = some bearing := by
  have subjectNamed : proposition.subject.name ∈ diagram.names :=
    named _ (by simp [Proposition.names])
  have predicateNamed : proposition.predicate.name ∈ diagram.names :=
    named _ (by simp [Proposition.names])
  obtain ⟨subject, subjectFound⟩ := exists_position?_iff.2 subjectNamed
  obtain ⟨predicate, predicateFound⟩ := exists_position?_iff.2 predicateNamed
  unfold bearing?
  rw [subjectFound, predicateFound]
  cases proposition.subject.quantifier with
  | none => exact ⟨_, rfl⟩
  | some quantifier => cases quantifier <;> exact ⟨_, rfl⟩

/-- A proposition has a bearing when it is about two circles. -/
theorem exists_bearing?_iff :
    (∃ bearing, diagram.bearing? proposition = some bearing) ↔
      ∀ name ∈ proposition.names, name ∈ diagram.names := by
  constructor
  · rintro ⟨bearing, found⟩ name mentioned
    obtain ⟨subject, predicate, subjectFound, predicateFound⟩ :=
      exists_positions_of_bearing? found
    rcases List.mem_cons.1 mentioned with rfl | last
    · exact exists_position?_iff.1 ⟨subject, subjectFound⟩
    · rw [List.mem_singleton.1 last]
      exact exists_position?_iff.1 ⟨predicate, predicateFound⟩
  · exact exists_bearing?

/-- The supporting regions come in the order of the regions. -/
theorem supporting_sublist_regions
    (found : diagram.bearing? proposition = some bearing) :
    bearing.supporting.Sublist diagram.regions := by
  obtain ⟨subject, predicate, subjectFound, predicateFound⟩ :=
    exists_positions_of_bearing? found
  unfold bearing? at found
  rw [subjectFound, predicateFound] at found
  have inside : (diagram.regionsAt subject).Sublist diagram.regions := List.filter_sublist
  cases quantifier : proposition.subject.quantifier with
  | none =>
      simp only [quantifier] at found
      cases found
      exact List.nil_sublist _
  | some kind =>
      simp only [quantifier] at found
      cases kind <;>
        · cases found
          exact List.filter_sublist.trans inside

/-- The opposing regions come in the order of the regions. -/
theorem opposing_sublist_regions
    (found : diagram.bearing? proposition = some bearing) :
    bearing.opposing.Sublist diagram.regions := by
  obtain ⟨subject, predicate, subjectFound, predicateFound⟩ :=
    exists_positions_of_bearing? found
  unfold bearing? at found
  rw [subjectFound, predicateFound] at found
  have inside : (diagram.regionsAt subject).Sublist diagram.regions := List.filter_sublist
  cases quantifier : proposition.subject.quantifier with
  | none =>
      simp only [quantifier] at found
      cases found
      exact List.nil_sublist _
  | some kind =>
      simp only [quantifier] at found
      cases kind with
      | particular =>
          cases found
          exact List.nil_sublist _
      | universal =>
          cases found
          exact List.filter_sublist.trans inside

section Membership

variable {subject predicate : Nat} {region : Region}

/-- The supporting regions comply with the predicate inside the circle of the subject. -/
theorem mem_supporting_iff
    (found : diagram.bearing? proposition = some bearing)
    (quantified : proposition.subject.quantifier ≠ none)
    (subjectFound : diagram.position? proposition.subject.name = some subject)
    (predicateFound : diagram.position? proposition.predicate.name = some predicate) :
    region ∈ bearing.supporting ↔
      (region ∈ diagram.regions ∧ region.contains subject = true) ∧
        complies proposition.predicate.negated predicate region = true := by
  unfold bearing? at found
  rw [subjectFound, predicateFound] at found
  cases quantifier : proposition.subject.quantifier with
  | none => exact absurd quantifier quantified
  | some kind =>
      simp only [quantifier] at found
      cases kind <;>
        · cases found
          rw [List.mem_filter, mem_regionsAt]

/-- The opposing regions do not comply with the predicate inside the circle of the subject. -/
theorem mem_opposing_iff
    (found : diagram.bearing? proposition = some bearing)
    (universal : proposition.subject.quantifier = some .universal)
    (subjectFound : diagram.position? proposition.subject.name = some subject)
    (predicateFound : diagram.position? proposition.predicate.name = some predicate) :
    region ∈ bearing.opposing ↔
      (region ∈ diagram.regions ∧ region.contains subject = true) ∧
        complies proposition.predicate.negated predicate region = false := by
  unfold bearing? at found
  rw [subjectFound, predicateFound, universal] at found
  cases found
  rw [List.mem_filter, mem_regionsAt, Bool.not_eq_true']

/-- Supporting regions are in the circle of the subject and, unless negated, in the other. -/
theorem mem_supporting_iff_circle
    (found : diagram.bearing? proposition = some bearing)
    (quantified : proposition.subject.quantifier ≠ none) :
    region ∈ bearing.supporting ↔
      region ∈ diagram.circle proposition.subject.name ∧
        (region ∈ diagram.circle proposition.predicate.name ↔
          proposition.predicate.negated = false) := by
  obtain ⟨subject, predicate, subjectFound, predicateFound⟩ :=
    exists_positions_of_bearing? found
  rw [mem_supporting_iff found quantified subjectFound predicateFound,
    mem_circle_iff subjectFound, mem_circle_iff predicateFound]
  apply and_congr_right
  rintro ⟨drawn, _⟩
  unfold complies
  cases proposition.predicate.negated <;> simp [drawn]

/-- Opposing regions are in the circle of the subject and, if negated, in the other. -/
theorem mem_opposing_iff_circle
    (found : diagram.bearing? proposition = some bearing)
    (universal : proposition.subject.quantifier = some .universal) :
    region ∈ bearing.opposing ↔
      region ∈ diagram.circle proposition.subject.name ∧
        (region ∈ diagram.circle proposition.predicate.name ↔
          proposition.predicate.negated = true) := by
  obtain ⟨subject, predicate, subjectFound, predicateFound⟩ :=
    exists_positions_of_bearing? found
  rw [mem_opposing_iff found universal subjectFound predicateFound,
    mem_circle_iff subjectFound, mem_circle_iff predicateFound]
  apply and_congr_right
  rintro ⟨drawn, _⟩
  unfold complies
  cases proposition.predicate.negated <;> simp [drawn]

/-- The predicate of a universal proposition divides the circle of the subject in two. -/
theorem bearing?_of_universal
    (universal : proposition.subject.quantifier = some .universal)
    (subjectFound : diagram.position? proposition.subject.name = some subject)
    (predicateFound : diagram.position? proposition.predicate.name = some predicate) :
    let complying := complies proposition.predicate.negated predicate
    diagram.bearing? proposition =
      some ⟨(diagram.circle proposition.subject.name).filter complying,
        (diagram.circle proposition.subject.name).filter (!complying ·)⟩ := by
  unfold bearing? circle
  rw [subjectFound, predicateFound, universal]
  rfl

end Membership

/-- Two circles leave a region inside the first that complies with the second. -/
theorem supporting_ne_nil
    (found : diagram.bearing? proposition = some bearing)
    (quantified : proposition.subject.quantifier ≠ none)
    (different : proposition.subject.name ≠ proposition.predicate.name) :
    bearing.supporting ≠ [] := by
  have subjectNamed := subject_mem_names found
  have predicateNamed := predicate_mem_names found
  obtain ⟨region, _, circles⟩ := @exists_mem_circle_iff diagram proposition.subject.name
    (fun name => name = proposition.subject.name ∨ proposition.predicate.negated = false)
    subjectNamed (Or.inl rfl)
  apply List.ne_nil_of_mem (a := region)
  rw [mem_supporting_iff_circle found quantified, circles _ subjectNamed,
    circles _ predicateNamed]
  exact ⟨Or.inl rfl, or_iff_right different.symm⟩

/-- Whatever supports a proposition lies in the circle of its subject. -/
theorem mem_circle_of_mem_supporting
    {region : Region}
    (found : diagram.bearing? proposition = some bearing)
    (quantified : proposition.subject.quantifier ≠ none)
    (member : region ∈ bearing.supporting) :
    region ∈ diagram.circle proposition.subject.name :=
  ((mem_supporting_iff_circle found quantified).1 member).1

/-- Every region of the circle of the subject is in one of the halves, and in it once. -/
theorem perm_circle
    (found : diagram.bearing? proposition = some bearing)
    (universal : proposition.subject.quantifier = some .universal) :
    (bearing.supporting ++ bearing.opposing).Perm (diagram.circle proposition.subject.name) := by
  obtain ⟨subject, predicate, subjectFound, predicateFound⟩ :=
    exists_positions_of_bearing? found
  rw [bearing?_of_universal universal subjectFound predicateFound] at found
  cases found
  exact List.filter_append_perm _ _

/-- The circle of the subject of a universal proposition falls into support and opposition. -/
theorem mem_circle_iff_mem_bearing
    {region : Region}
    (found : diagram.bearing? proposition = some bearing)
    (universal : proposition.subject.quantifier = some .universal) :
    region ∈ diagram.circle proposition.subject.name ↔
      region ∈ bearing.supporting ∨ region ∈ bearing.opposing := by
  have quantified : proposition.subject.quantifier ≠ none := by
    rw [universal]
    exact Option.some_ne_none _
  rw [mem_supporting_iff_circle found quantified, mem_opposing_iff_circle found universal,
    ← and_or_left]
  by_cases complying : region ∈ diagram.circle proposition.predicate.name
  · cases proposition.predicate.negated <;> simp [complying]
  · cases proposition.predicate.negated <;> simp [complying]

/-- No region both supports a universal proposition and opposes it. -/
theorem not_mem_opposing_of_mem_supporting
    (found : diagram.bearing? proposition = some bearing)
    (universal : proposition.subject.quantifier = some .universal) :
    ∀ region ∈ bearing.supporting, region ∉ bearing.opposing := by
  intro region supports opposes
  have quantified : proposition.subject.quantifier ≠ none := by
    rw [universal]
    exact Option.some_ne_none _
  have complies := ((mem_supporting_iff_circle found quantified).1 supports).2
  have contradicts := ((mem_opposing_iff_circle found universal).1 opposes).2
  rw [complies] at contradicts
  cases negated : proposition.predicate.negated <;> simp [negated] at contradicts

end Diagram
end Syllogistic
