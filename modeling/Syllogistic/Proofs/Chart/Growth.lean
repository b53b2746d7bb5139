import Syllogistic.Proofs.Chart.Conclusion
import Syllogistic.Proofs.Chart.Conflicts

/-!
# Charts that grow

Further premises add to a chart and take nothing from it: what stands under a region or a
group of regions stands there still, with the new premises after it, and stranded premises
stay stranded.  So where no witness is left, none comes back.  A conclusion that holds may
lose the regions that witness it, all but those that a premise asserts to have a witness;
it holds still where none of the witness groups is emptied.
-/

namespace Syllogistic

/-- The lists of one table stand under the same keys of the other and are perhaps continued. -/
def Table.LengthensTo {Key Item : Type} [LT Key] [DecidableEq Key]
    (short long : Table Key (List Item)) : Prop :=
  ∀ key held, short.get? key = some held → ∃ more, long.get? key = some more ∧ held <+: more

namespace Table.LengthensTo

variable {Key Item : Type} [LT Key] [DecidableEq Key] {short long : Table Key (List Item)}

theorem contains
    {key : Key}
    (lengthens : short.LengthensTo long)
    (present : short.contains key = true) :
    long.contains key = true := by
  obtain ⟨held, found⟩ := Option.isSome_iff_exists.1 present
  obtain ⟨more, alsoFound, _⟩ := lengthens key held found
  exact Option.isSome_iff_exists.2 ⟨more, alsoFound⟩

theorem of_filed
    {items more : Key → List Item}
    (filedShort : ∀ key, short.get? key = filed (items key))
    (filedLong : ∀ key, long.get? key = filed (more key))
    (continued : ∀ key, items key <+: more key) :
    short.LengthensTo long := by
  intro key held found
  rw [filedShort, filed_eq_some_iff] at found
  obtain ⟨rfl, inhabited⟩ := found
  refine ⟨more key, ?_, continued key⟩
  rw [filedLong, filed_eq_some_iff]
  exact ⟨rfl, fun nothing => inhabited (List.prefix_nil.1 (nothing ▸ continued key))⟩

end Table.LengthensTo

/-- A premise that some premises strand is stranded by all lists that have them. -/
theorem Diagram.Strands.of_subset
    {diagram : Diagram}
    {first second : List Statement}
    {witness : Statement}
    (strands : diagram.Strands first witness)
    (kept : first ⊆ second) :
    diagram.Strands second witness := by
  obtain ⟨bearing, found, emptied⟩ := strands.emptied
  refine ⟨strands.particular, bearing, found, fun region supports => ?_⟩
  obtain ⟨premise, stated, excludes⟩ := emptied region supports
  exact ⟨premise, kept stated, excludes⟩

/-- A premise that is reported on is reported on again, and no text is missing then. -/
theorem Chart.Records.exists_further_report
    {chart : Chart}
    {first premises : List Statement}
    {conflict : Conflict}
    {witness : Statement}
    (records : chart.Records premises)
    (kept : first ⊆ premises)
    (reports : conflict.Reports chart.diagram first witness) :
    ∃ further ∈ chart.conflicts, further.Reports chart.diagram premises witness ∧
      conflict.exclusions ⊆ further.exclusions := by
  obtain ⟨further, found, again⟩ := records.exists_reports_iff.2
    ⟨kept reports.stated, reports.stranded.of_subset kept⟩
  refine ⟨further, found, again, fun text listed => ?_⟩
  obtain ⟨premise, stated, narrows, named⟩ := (reports.mem_exclusions_iff text).1 listed
  exact (again.mem_exclusions_iff text).2 ⟨premise, kept stated, narrows, named⟩

namespace Chart

/-- The charts have the same circles, and the second has all that is recorded on the first. -/
structure Grows (small large : Chart) : Prop where
  diagram : small.diagram = large.diagram
  forcedEmpty : small.forcedEmpty.LengthensTo large.forcedEmpty
  witnessGroups : small.witnessGroups.LengthensTo large.witnessGroups

/-- Further premises make a chart grow. -/
theorem grows_ofStatements
    (diagram : Diagram)
    {first second : List Statement}
    (continued : first <+: second) :
    (ofStatements diagram first).Grows (ofStatements diagram second) where
  diagram := by rw [diagram_ofStatements, diagram_ofStatements]
  forcedEmpty := .of_filed (get?_forcedEmpty_ofStatements diagram first)
    (get?_forcedEmpty_ofStatements diagram second) fun _ => continued.filter _
  witnessGroups := .of_filed (get?_witnessGroups_ofStatements diagram first)
    (get?_witnessGroups_ofStatements diagram second) fun _ => continued.filter _

namespace Grows

variable {small large : Chart} {existentialImport : Bool} {area : List Region}
  {subject : Term} {bearing : Bearing} {statement : Statement} {marked : List Region}

theorem isForcedEmpty
    {region : Region}
    (grows : small.Grows large)
    (forced : small.isForcedEmpty region = true) :
    large.isForcedEmpty region = true :=
  grows.forcedEmpty.contains forced

theorem mem_keys
    {group : List Region}
    (grows : small.Grows large)
    (witnessed : group ∈ small.witnessGroups.keys) :
    group ∈ large.witnessGroups.keys :=
  Table.mem_keys_iff.2 (grows.witnessGroups.contains (Table.mem_keys_iff.1 witnessed))

/-- What is left on the larger chart was left on the smaller one. -/
theorem sublist_unexcluded (grows : small.Grows large) (area : List Region) :
    (large.unexcluded area).Sublist (small.unexcluded area) := by
  apply List.monotone_filter_right
  intro region left
  rw [Bool.not_eq_true', ← Bool.not_eq_true] at left ⊢
  exact fun forced => left (grows.isForcedEmpty forced)

/-- What is definite stays so when every witness group is left a region. -/
theorem isDefinite
    (grows : small.Grows large)
    (isOpen : large.Open large.witnessGroups.keys)
    (particular : subject.quantifier = some .particular)
    (definite : small.isDefinite existentialImport (small.unexcluded area) subject = true) :
    large.isDefinite existentialImport (large.unexcluded area) subject = true := by
  rw [isDefinite_iff, groupsFor_eq_keys _ _ particular] at definite ⊢
  obtain ⟨group, witnessed, _, contained⟩ := definite
  have kept := grows.mem_keys witnessed
  -- What was left of the group may be gone, but not all of it.
  obtain ⟨region, inGroup, free⟩ := isOpen group kept
  refine ⟨group, kept, ⟨region, mem_unexcluded_iff.2 ⟨inGroup, free⟩⟩, ?_⟩
  intro other remaining
  have inside := contained other ((grows.sublist_unexcluded group).subset remaining)
  exact mem_unexcluded_iff.2 ⟨(mem_unexcluded_iff.1 inside).1, (mem_unexcluded_iff.1 remaining).2⟩

/-- Where no witness is left, the judgement stays the same. -/
theorem judgeParticular_of_noWitness
    (grows : small.Grows large)
    (noWitness : (small.judgeParticular existentialImport subject bearing).1 = .noWitness) :
    large.judgeParticular existentialImport subject bearing =
      small.judgeParticular existentialImport subject bearing := by
  have nothing := judgeParticular_eq_noWitness_iff.1 noWitness
  have still : large.unexcluded bearing.supporting = [] := by
    rw [← List.sublist_nil, ← nothing]
    exact grows.sublist_unexcluded _
  unfold judgeParticular
  rw [nothing, still]
  rfl

/-- A conclusion that holds does so still, perhaps with fewer marked regions. -/
theorem judgeParticular_of_holds
    (grows : small.Grows large)
    (isOpen : large.Open large.witnessGroups.keys)
    (particular : subject.quantifier = some .particular)
    (holds : (small.judgeParticular existentialImport subject bearing).1 = .holds) :
    (large.judgeParticular existentialImport subject bearing).1 = .holds ∧
      (large.judgeParticular existentialImport subject bearing).2.Sublist
        (small.judgeParticular existentialImport subject bearing).2 := by
  have definite := judgeParticular_eq_holds_iff.1 holds
  have still := grows.isDefinite isOpen particular definite
  refine ⟨judgeParticular_eq_holds_iff.2 still, ?_⟩
  rw [judgeParticular_of_isDefinite definite, judgeParticular_of_isDefinite still]
  exact grows.sublist_unexcluded _

/--
A particular conclusion without a witness gets none, and one that holds does so still when
every witness group is left a region.
-/
theorem evaluate_particular
    {evaluation : Evaluation}
    (grows : small.Grows large)
    (particular : statement.quantifier = some .particular)
    (evaluated : small.evaluate existentialImport statement = .ok evaluation) :
    (evaluation.verdict = .noWitness →
        large.evaluate existentialImport statement = .ok evaluation) ∧
      (evaluation.verdict = .holds → large.Open large.witnessGroups.keys →
        ∃ kept, large.evaluate existentialImport statement = .ok kept ∧
          kept.verdict = .holds ∧ kept.marked.Sublist evaluation.marked) := by
  cases found : small.diagram.bearing? statement.proposition with
  | none =>
      rw [evaluate, found] at evaluated
      cases evaluated
      constructor
      · intro noWitness
        cases noWitness
      · intro holds
        cases holds
  | some bearing =>
      rw [evaluate_of_particular found particular] at evaluated
      cases evaluated
      rw [grows.diagram] at found
      rw [evaluate_of_particular found particular]
      constructor
      · intro noWitness
        rw [grows.judgeParticular_of_noWitness noWitness]
      · intro holds isOpen
        obtain ⟨still, fewer⟩ := grows.judgeParticular_of_holds isOpen particular holds
        exact ⟨_, rfl, still, fewer⟩

end Grows
end Chart
end Syllogistic
