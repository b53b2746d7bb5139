import Syllogistic.Chart
import Syllogistic.Proofs.Diagram.Bearing
import Syllogistic.Proofs.Table

/-!
# What is recorded on a chart

On the chart of a list of statements, under each region stand the universal
statements that it opposes, and under each group of regions the particular
statements that it supports, in their order.  Each step of recording adds its
statement where it belongs, and a run of steps adds up to a filter of the list.
-/

namespace Syllogistic

namespace Diagram

/-- The statement is universal and empties the region. -/
def excludes (diagram : Diagram) (region : Region) (statement : Statement) : Bool :=
  match diagram.bearing? statement.proposition, statement.quantifier with
  | some bearing, some .universal => bearing.opposing.contains region
  | _, _ => false

/-- The statement is particular and asserts a witness in just this group of regions. -/
def asserts (diagram : Diagram) (group : List Region) (statement : Statement) : Bool :=
  match diagram.bearing? statement.proposition, statement.quantifier with
  | some bearing, some .particular => group == bearing.supporting
  | _, _ => false

theorem excludes_iff {diagram : Diagram} {region : Region} {statement : Statement} :
    diagram.excludes region statement = true ↔
      statement.quantifier = some .universal ∧
        ∃ bearing, diagram.bearing? statement.proposition = some bearing ∧
          region ∈ bearing.opposing := by
  unfold excludes
  split
  · rename_i bearing found universal
    rw [found, universal]
    simp
  · rename_i other
    constructor
    · intro absurdity
      contradiction
    · rintro ⟨universal, bearing, found, _⟩
      exact absurd universal (other bearing found)

theorem asserts_iff {diagram : Diagram} {group : List Region} {statement : Statement} :
    diagram.asserts group statement = true ↔
      statement.quantifier = some .particular ∧
        ∃ bearing, diagram.bearing? statement.proposition = some bearing ∧
          group = bearing.supporting := by
  unfold asserts
  split
  · rename_i bearing found particular
    rw [found, particular]
    simp
  · rename_i other
    constructor
    · intro absurdity
      contradiction
    · rintro ⟨particular, bearing, found, _⟩
      exact absurd particular (other bearing found)

/-- A statement asserts a witness in one group at most. -/
theorem asserts_unique
    {diagram : Diagram}
    {group other : List Region}
    {statement : Statement}
    (asserts : diagram.asserts group statement = true)
    (alsoAsserts : diagram.asserts other statement = true) :
    group = other := by
  obtain ⟨_, bearing, found, rfl⟩ := asserts_iff.1 asserts
  obtain ⟨_, _, alsoFound, rfl⟩ := asserts_iff.1 alsoAsserts
  rw [found] at alsoFound
  cases alsoFound
  rfl

end Diagram

namespace Chart

open Table

/-- Recording a statement adds it under the regions that it empties. -/
theorem get?_forcedEmpty_record
    {chart : Chart}
    {region : Region}
    {premises : List Statement}
    (found : chart.forcedEmpty.get? region = filed premises)
    (statement : Statement) :
    (chart.record statement).forcedEmpty.get? region =
      filed (premises ++ [statement].filter (chart.diagram.excludes region)) := by
  unfold record
  split
  · rename_i bearing bears particular
    have harmless : chart.diagram.excludes region statement = false := by
      unfold Diagram.excludes
      rw [bears, particular]
    simp [harmless, found]
  · rename_i bearing bears universal
    have distinct := chart.diagram.nodup_regions.sublist
      (Diagram.opposing_sublist_regions bears)
    have excludes : chart.diagram.excludes region statement =
        bearing.opposing.contains region := by
      unfold Diagram.excludes
      rw [bears, universal]
    rw [get?_foldl_record distinct found, List.filter_cons, List.filter_nil, excludes]
    simp
  · rename_i noParticular noUniversal
    have harmless : chart.diagram.excludes region statement = false := by
      rw [← Bool.not_eq_true, Diagram.excludes_iff]
      rintro ⟨universal, bearing, bears, _⟩
      exact noUniversal bearing bears universal
    simp [harmless, found]

/-- Recording a statement adds it under the group whose witness it asserts. -/
theorem get?_witnessGroups_record
    {chart : Chart}
    {group : List Region}
    {premises : List Statement}
    (found : chart.witnessGroups.get? group = filed premises)
    (statement : Statement) :
    (chart.record statement).witnessGroups.get? group =
      filed (premises ++ [statement].filter (chart.diagram.asserts group)) := by
  unfold record
  split
  · rename_i bearing bears particular
    have asserts : chart.diagram.asserts group statement =
        (group == bearing.supporting) := by
      unfold Diagram.asserts
      rw [bears, particular]
    rw [get?_record found, List.filter_cons, List.filter_nil, asserts]
    simp
  · rename_i bearing bears universal
    have silent : chart.diagram.asserts group statement = false := by
      unfold Diagram.asserts
      rw [bears, universal]
    simp [silent, found]
  · rename_i noParticular noUniversal
    have silent : chart.diagram.asserts group statement = false := by
      rw [← Bool.not_eq_true, Diagram.asserts_iff]
      rintro ⟨particular, bearing, bears, _⟩
      exact noParticular bearing bears particular
    simp [silent, found]

variable {diagram : Diagram} {statements : List Statement}

/--
What is filed on a chart and grows by the statements of some kind at each step is, on
the chart of a list, the statements of that kind in the list.
-/
theorem filed_ofStatements
    (look : Chart → Option (List Statement))
    {kind : Statement → Bool}
    (start : look (blank diagram) = none)
    (step : ∀ (chart : Chart) (premises : List Statement) (statement : Statement),
      chart.diagram = diagram →
        look chart = filed premises →
          look (chart.record statement) = filed (premises ++ [statement].filter kind)) :
    look (ofStatements diagram statements) = filed (statements.filter kind) := by
  suffices run : ∀ (chart : Chart) (premises : List Statement),
      chart.diagram = diagram →
        look chart = filed premises →
          look (statements.foldl record chart) = filed (premises ++ statements.filter kind) from
    run (blank diagram) [] rfl start
  induction statements with
  | nil =>
      intro chart premises _ found
      simpa using found
  | cons statement rest inductionHypothesis =>
      intro chart premises same found
      have kept := (diagram_record chart statement).trans same
      rw [List.foldl_cons,
        inductionHypothesis _ _ kept (step chart premises statement same found),
        List.append_assoc, ← List.filter_append, List.singleton_append]

/-- Under a region stand the statements of the list that empty it. -/
theorem get?_forcedEmpty_ofStatements
    (diagram : Diagram)
    (statements : List Statement)
    (region : Region) :
    (ofStatements diagram statements).forcedEmpty.get? region =
      filed (statements.filter (diagram.excludes region)) := by
  apply filed_ofStatements (fun chart => chart.forcedEmpty.get? region) rfl
  rintro chart premises statement rfl found
  exact get?_forcedEmpty_record found statement

/-- Under a group of regions stand the statements of the list that assert its witness. -/
theorem get?_witnessGroups_ofStatements
    (diagram : Diagram)
    (statements : List Statement)
    (group : List Region) :
    (ofStatements diagram statements).witnessGroups.get? group =
      filed (statements.filter (diagram.asserts group)) := by
  apply filed_ofStatements (fun chart => chart.witnessGroups.get? group) rfl
  rintro chart premises statement rfl found
  exact get?_witnessGroups_record found statement

/-- A region is forced empty when some statement of the list empties it. -/
theorem isForcedEmpty_ofStatements_iff {region : Region} :
    (ofStatements diagram statements).isForcedEmpty region = true ↔
      ∃ statement ∈ statements, diagram.excludes region statement = true := by
  unfold isForcedEmpty contains
  rw [get?_forcedEmpty_ofStatements, isSome_filed, Bool.not_eq_true',
    List.isEmpty_eq_false_iff_exists_mem]
  simp only [List.mem_filter]

/-- A group of regions has a witness when some statement of the list asserts it. -/
theorem mem_keys_ofStatements_iff {group : List Region} :
    group ∈ (ofStatements diagram statements).witnessGroups.keys ↔
      ∃ statement ∈ statements, diagram.asserts group statement = true := by
  rw [mem_keys_iff]
  unfold contains
  rw [get?_witnessGroups_ofStatements, isSome_filed, Bool.not_eq_true',
    List.isEmpty_eq_false_iff_exists_mem]
  simp only [List.mem_filter]

end Chart
end Syllogistic
