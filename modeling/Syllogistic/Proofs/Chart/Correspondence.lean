import Syllogistic.Proofs.Chart.Conclusion
import Syllogistic.Proofs.Diagram.Embedding

/-!
# Charts that correspond

When the names of one diagram are sent to names of another, the charts of some premises
on the one and of the renamed premises on the other correspond: a region is emptied when
the region that it restricts to is, and the witness groups match.  Every test of the
judgement looks at regions inside the circle of some premise or of the conclusion, and
there it has the same answer on both charts.  So a conclusion and the renamed conclusion
have the same verdict, and the regions marked for them match.
-/

namespace Syllogistic

/-- The second list states the renamed propositions of the first and no others. -/
structure Statement.StatesRenamed (rename : String → String) (first second : List Statement) :
    Prop where
  widened : ∀ statement ∈ first, ∃ other ∈ second,
    other.proposition = statement.proposition.rename rename
  narrowed : ∀ other ∈ second, ∃ statement ∈ first,
    other.proposition = statement.proposition.rename rename

/-- A renamed statement has the quantifier of the statement. -/
theorem Statement.quantifier_eq_of_rename
    {rename : String → String}
    {statement other : Statement}
    (renamed : other.proposition = statement.proposition.rename rename) :
    other.quantifier = statement.quantifier := by
  rw [Statement.quantifier, renamed]
  rfl

namespace Diagram

variable {rename : String → String} {inner outer : Diagram} {statement other : Statement}

/-- A statement empties a region when the renamed one empties a region that restricts to it. -/
theorem Restricts.excludes_eq
    {region wider : Region}
    (restricts : Restricts rename inner outer region wider)
    (embeds : inner.Embeds rename outer)
    (named : ∀ name ∈ statement.proposition.names, name ∈ inner.names)
    (renamed : other.proposition = statement.proposition.rename rename) :
    inner.excludes region statement = outer.excludes wider other := by
  obtain ⟨bearing, wideBearing, found, widelyFound⟩ := embeds.exists_bearing? named
  rw [Bool.eq_iff_iff, excludes_iff, excludes_iff, Statement.quantifier_eq_of_rename renamed,
    renamed, found, widelyFound]
  apply and_congr_right
  intro universal
  simpa using (embeds.matches_opposing found widelyFound universal).mem_iff region wider restricts

/-- A particular statement and the renamed one assert a witness in groups that match. -/
theorem Embeds.exists_asserts
    (embeds : inner.Embeds rename outer)
    (named : ∀ name ∈ statement.proposition.names, name ∈ inner.names)
    (renamed : other.proposition = statement.proposition.rename rename)
    (particular : statement.quantifier = some .particular) :
    ∃ group wide, inner.asserts group statement = true ∧ outer.asserts wide other = true ∧
      Region.Matches (Restricts rename inner outer) group wide := by
  obtain ⟨bearing, wideBearing, found, widelyFound⟩ := embeds.exists_bearing? named
  have quantified : statement.quantifier ≠ none := by
    rw [particular]
    exact Option.some_ne_none _
  refine ⟨bearing.supporting, wideBearing.supporting, ?_, ?_,
    embeds.matches_supporting found widelyFound quantified⟩
  · exact asserts_iff.2 ⟨particular, bearing, found, rfl⟩
  · rw [← renamed] at widelyFound
    have alsoParticular := (Statement.quantifier_eq_of_rename renamed).trans particular
    exact asserts_iff.2 ⟨alsoParticular, wideBearing, widelyFound, rfl⟩

end Diagram

namespace Chart

open Diagram

section Premises

variable {rename : String → String} {inner outer : Diagram} {first second : List Statement}

/-- Some premise empties a region when a renamed one empties what restricts to it. -/
theorem isForcedEmpty_eq_of_statesRenamed
    {region wider : Region}
    (embeds : inner.Embeds rename outer)
    (hosted : ∀ statement ∈ first, inner.Hosts statement)
    (states : Statement.StatesRenamed rename first second)
    (restricts : Restricts rename inner outer region wider) :
    (ofStatements inner first).isForcedEmpty region =
      (ofStatements outer second).isForcedEmpty wider := by
  rw [Bool.eq_iff_iff, isForcedEmpty_ofStatements_iff, isForcedEmpty_ofStatements_iff]
  constructor
  · rintro ⟨statement, stated, excludes⟩
    obtain ⟨other, held, renamed⟩ := states.widened statement stated
    refine ⟨other, held, ?_⟩
    rwa [← restricts.excludes_eq embeds (hosted statement stated).named renamed]
  · rintro ⟨other, held, excludes⟩
    obtain ⟨statement, stated, renamed⟩ := states.narrowed other held
    refine ⟨statement, stated, ?_⟩
    rwa [restricts.excludes_eq embeds (hosted statement stated).named renamed]

/-- A group with a witness has a group to match it that renamed premises give a witness. -/
theorem exists_wide_key
    {group : List Region}
    (embeds : inner.Embeds rename outer)
    (hosted : ∀ statement ∈ first, inner.Hosts statement)
    (states : Statement.StatesRenamed rename first second)
    (member : group ∈ (ofStatements inner first).witnessGroups.keys) :
    ∃ wide ∈ (ofStatements outer second).witnessGroups.keys,
      Region.Matches (Restricts rename inner outer) group wide := by
  obtain ⟨statement, stated, asserts⟩ := mem_keys_ofStatements_iff.1 member
  obtain ⟨other, held, renamed⟩ := states.widened statement stated
  obtain ⟨particular, _⟩ := asserts_iff.1 asserts
  obtain ⟨own, wide, assertsOwn, assertsWide, sides⟩ :=
    embeds.exists_asserts (hosted statement stated).named renamed particular
  rw [asserts_unique asserts assertsOwn]
  exact ⟨wide, mem_keys_ofStatements_iff.2 ⟨other, held, assertsWide⟩, sides⟩

/-- Renamed premises give no other groups a witness than such as match one. -/
theorem exists_narrow_key
    {wide : List Region}
    (embeds : inner.Embeds rename outer)
    (hosted : ∀ statement ∈ first, inner.Hosts statement)
    (states : Statement.StatesRenamed rename first second)
    (member : wide ∈ (ofStatements outer second).witnessGroups.keys) :
    ∃ group ∈ (ofStatements inner first).witnessGroups.keys,
      Region.Matches (Restricts rename inner outer) group wide := by
  obtain ⟨other, held, asserts⟩ := mem_keys_ofStatements_iff.1 member
  obtain ⟨statement, stated, renamed⟩ := states.narrowed other held
  obtain ⟨particular, _⟩ := asserts_iff.1 asserts
  rw [Statement.quantifier_eq_of_rename renamed] at particular
  obtain ⟨group, own, assertsGroup, assertsOwn, sides⟩ :=
    embeds.exists_asserts (hosted statement stated).named renamed particular
  rw [asserts_unique asserts assertsOwn]
  exact ⟨group, mem_keys_ofStatements_iff.2 ⟨statement, stated, assertsGroup⟩, sides⟩

end Premises

/--
The names of one chart are sent to names of another; a region is emptied on the first when
a region that restricts to it is emptied on the other, and the witness groups match.
-/
structure Corresponds (rename : String → String) (inner outer : Chart) : Prop where
  embeds : inner.diagram.Embeds rename outer.diagram
  forced : ∀ region wider, Restricts rename inner.diagram outer.diagram region wider →
    inner.isForcedEmpty region = outer.isForcedEmpty wider
  widened : ∀ group ∈ inner.witnessGroups.keys, ∃ wide ∈ outer.witnessGroups.keys,
    Region.Matches (Restricts rename inner.diagram outer.diagram) group wide
  narrowed : ∀ wide ∈ outer.witnessGroups.keys, ∃ group ∈ inner.witnessGroups.keys,
    Region.Matches (Restricts rename inner.diagram outer.diagram) group wide

/-- The charts of some premises and of the renamed premises correspond. -/
theorem corresponds_ofStatements
    {rename : String → String}
    {inner outer : Diagram}
    {first second : List Statement}
    (embeds : inner.Embeds rename outer)
    (hosted : ∀ statement ∈ first, inner.Hosts statement)
    (states : Statement.StatesRenamed rename first second) :
    (ofStatements inner first).Corresponds rename (ofStatements outer second) := by
  constructor <;> rw [diagram_ofStatements, diagram_ofStatements]
  · exact embeds
  · exact fun _ _ => isForcedEmpty_eq_of_statesRenamed embeds hosted states
  · exact fun _ => exists_wide_key embeds hosted states
  · exact fun _ => exists_narrow_key embeds hosted states

namespace Corresponds

variable {rename : String → String} {inner outer : Chart} {area wide : List Region}

/-- What is left of lists that match still matches. -/
theorem unexcluded
    (corresponds : inner.Corresponds rename outer)
    (sides : Region.Matches (Restricts rename inner.diagram outer.diagram) area wide) :
    Region.Matches (Restricts rename inner.diagram outer.diagram)
      (inner.unexcluded area) (outer.unexcluded wide) := by
  constructor
  · intro region wider restricts
    rw [mem_unexcluded_iff, mem_unexcluded_iff, sides.mem_iff region wider restricts,
      corresponds.forced region wider restricts]
  · intro region member
    exact sides.widened region (mem_unexcluded_iff.1 member).1
  · intro wider member
    exact sides.narrowed wider (mem_unexcluded_iff.1 member).1

/-- Lists that match both have a region that is not emptied, or neither has one. -/
theorem exists_unforced_iff
    (corresponds : inner.Corresponds rename outer)
    (sides : Region.Matches (Restricts rename inner.diagram outer.diagram) area wide) :
    (∃ region ∈ area, inner.isForcedEmpty region = false) ↔
      ∃ wider ∈ wide, outer.isForcedEmpty wider = false := by
  simpa only [mem_unexcluded_iff] using (corresponds.unexcluded sides).exists_mem_iff

/-- Charts that correspond both have conflicts among their premises, or neither has one. -/
theorem conflicts_eq_nil_iff
    {first second : List Statement}
    (corresponds : inner.Corresponds rename outer)
    (innerRecords : inner.Records first)
    (outerRecords : outer.Records second) :
    inner.conflicts = [] ↔ outer.conflicts = [] := by
  rw [innerRecords.conflicts_eq_nil_iff, outerRecords.conflicts_eq_nil_iff]
  constructor
  · intro isOpen wide member
    obtain ⟨group, inKeys, sides⟩ := corresponds.narrowed wide member
    exact (corresponds.exists_unforced_iff sides).1 (isOpen group inKeys)
  · intro isOpen group member
    obtain ⟨wide, inKeys, sides⟩ := corresponds.widened group member
    exact (corresponds.exists_unforced_iff sides).2 (isOpen wide inKeys)

section Judgement

variable {existentialImport : Bool} {subject : Term}

/-- The groups that count for a conclusion have groups that count for the renamed one. -/
theorem groupsFor_widened
    {group : List Region}
    (corresponds : inner.Corresponds rename outer)
    (named : subject.name ∈ inner.diagram.names)
    (member : group ∈ inner.groupsFor existentialImport subject) :
    ∃ wide ∈ outer.groupsFor existentialImport (subject.rename rename),
      Region.Matches (Restricts rename inner.diagram outer.diagram) group wide := by
  rcases mem_groupsFor_iff.1 member with inKeys | ⟨imports, universal, rfl⟩
  · obtain ⟨wide, alsoInKeys, sides⟩ := corresponds.widened group inKeys
    exact ⟨wide, mem_groupsFor_iff.2 (Or.inl alsoInKeys), sides⟩
  · exact ⟨_, mem_groupsFor_iff.2 (Or.inr ⟨imports, universal, rfl⟩),
      corresponds.embeds.matches_circle named⟩

theorem groupsFor_narrowed
    (corresponds : inner.Corresponds rename outer)
    (named : subject.name ∈ inner.diagram.names)
    (member : wide ∈ outer.groupsFor existentialImport (subject.rename rename)) :
    ∃ group ∈ inner.groupsFor existentialImport subject,
      Region.Matches (Restricts rename inner.diagram outer.diagram) group wide := by
  rcases mem_groupsFor_iff.1 member with inKeys | ⟨imports, universal, rfl⟩
  · obtain ⟨group, alsoInKeys, sides⟩ := corresponds.narrowed wide inKeys
    exact ⟨group, mem_groupsFor_iff.2 (Or.inl alsoInKeys), sides⟩
  · exact ⟨_, mem_groupsFor_iff.2 (Or.inr ⟨imports, universal, rfl⟩),
      corresponds.embeds.matches_circle named⟩

/-- Lists that match are both definite or both not. -/
theorem isDefinite_eq
    (corresponds : inner.Corresponds rename outer)
    (named : subject.name ∈ inner.diagram.names)
    (sides : Region.Matches (Restricts rename inner.diagram outer.diagram) area wide) :
    inner.isDefinite existentialImport area subject =
      outer.isDefinite existentialImport wide (subject.rename rename) := by
  rw [Bool.eq_iff_iff, isDefinite_iff, isDefinite_iff]
  constructor
  · rintro ⟨group, member, some, included⟩
    obtain ⟨other, alsoMember, groups⟩ := corresponds.groupsFor_widened named member
    have left := corresponds.unexcluded groups
    exact ⟨other, alsoMember, left.exists_mem_iff.1 some, (left.subset_iff sides).1 included⟩
  · rintro ⟨other, member, some, included⟩
    obtain ⟨group, alsoMember, groups⟩ := corresponds.groupsFor_narrowed named member
    have left := corresponds.unexcluded groups
    exact ⟨group, alsoMember, left.exists_mem_iff.2 some, (left.subset_iff sides).2 included⟩

variable {bearing wideBearing : Bearing}

/-- A particular conclusion and the renamed one have the same verdict. -/
theorem judgeParticular
    (corresponds : inner.Corresponds rename outer)
    (named : subject.name ∈ inner.diagram.names)
    (supporting : Region.Matches (Restricts rename inner.diagram outer.diagram)
      bearing.supporting wideBearing.supporting) :
    let judged := inner.judgeParticular existentialImport subject bearing
    let widely := outer.judgeParticular existentialImport (subject.rename rename) wideBearing
    judged.1 = widely.1 ∧
      Region.Matches (Restricts rename inner.diagram outer.diagram) judged.2 widely.2 := by
  have left := corresponds.unexcluded supporting
  unfold Chart.judgeParticular
  dsimp only
  rw [left.isEmpty_eq, corresponds.isDefinite_eq named left]
  split
  · exact ⟨rfl, supporting⟩
  · split
    · exact ⟨rfl, left⟩
    · exact ⟨rfl, left⟩

/-- A universal conclusion and the renamed one have the same verdict. -/
theorem judgeUniversal
    (corresponds : inner.Corresponds rename outer)
    (named : subject.name ∈ inner.diagram.names)
    (supporting : Region.Matches (Restricts rename inner.diagram outer.diagram)
      bearing.supporting wideBearing.supporting)
    (opposing : Region.Matches (Restricts rename inner.diagram outer.diagram)
      bearing.opposing wideBearing.opposing) :
    let judged := inner.judgeUniversal existentialImport subject bearing
    let widely := outer.judgeUniversal existentialImport (subject.rename rename) wideBearing
    judged.1 = widely.1 ∧
      Region.Matches (Restricts rename inner.diagram outer.diagram) judged.2 widely.2 := by
  have left := corresponds.unexcluded supporting
  have leftOpposing := corresponds.unexcluded opposing
  unfold Chart.judgeUniversal
  dsimp only
  rw [left.isEmpty_eq, corresponds.isDefinite_eq named left,
    corresponds.isDefinite_eq named leftOpposing]
  split
  · exact ⟨rfl, left⟩
  · split
    · exact ⟨rfl, opposing⟩
    · split
      · exact ⟨rfl, opposing⟩
      · exact ⟨rfl, left⟩

end Judgement

/-- A quantified conclusion about circles of the first chart is judged alike on both. -/
theorem exists_evaluate
    {statement other : Statement}
    (corresponds : inner.Corresponds rename outer)
    (existentialImport : Bool)
    (named : ∀ name ∈ statement.proposition.names, name ∈ inner.diagram.names)
    (quantified : statement.quantifier ≠ none)
    (renamed : other.proposition = statement.proposition.rename rename) :
    ∃ verdict marked widelyMarked,
      inner.evaluate existentialImport statement = .ok ⟨statement, verdict, marked⟩ ∧
        outer.evaluate existentialImport other = .ok ⟨other, verdict, widelyMarked⟩ ∧
          Region.Matches (Restricts rename inner.diagram outer.diagram) marked widelyMarked := by
  obtain ⟨bearing, wideBearing, found, widelyFound⟩ := corresponds.embeds.exists_bearing? named
  have supporting := corresponds.embeds.matches_supporting found widelyFound quantified
  have subjectNamed := subject_mem_names found
  have subjects : other.proposition.subject = statement.proposition.subject.rename rename := by
    rw [renamed]
    rfl
  have quantifiers := Statement.quantifier_eq_of_rename renamed
  have otherFound := widelyFound
  rw [← renamed] at otherFound
  cases kind : statement.quantifier with
  | none => exact absurd kind quantified
  | some quantifier =>
      rw [kind] at quantifiers
      cases quantifier with
      | particular =>
          obtain ⟨same, sides⟩ := corresponds.judgeParticular subjectNamed supporting
          rw [evaluate_of_particular found kind, evaluate_of_particular otherFound quantifiers,
            subjects, same]
          exact ⟨_, _, _, rfl, rfl, sides⟩
      | universal =>
          have opposing := corresponds.embeds.matches_opposing found widelyFound kind
          obtain ⟨same, sides⟩ := corresponds.judgeUniversal subjectNamed supporting opposing
          rw [evaluate_of_universal found kind, evaluate_of_universal otherFound quantifiers,
            subjects, same]
          exact ⟨_, _, _, rfl, rfl, sides⟩

end Corresponds
end Chart
end Syllogistic
