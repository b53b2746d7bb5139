import Syllogistic.Proofs.Chart.Records

/-!
# Charts that agree

The texts of the premises stand on a chart, in their order, yet no verdict looks at
them.  Two charts over the same circles that empty the same regions and have the same
witness groups judge every conclusion alike, and one has a conflict when the other has.
Which regions are emptied and which groups have a witness depends on the propositions
stated, and neither on their order nor on how often they are stated.
-/

namespace Syllogistic

/-- Two lists state the same propositions, in whatever order and however often. -/
def Statement.SamePropositions (first second : List Statement) : Prop :=
  ∀ proposition, proposition ∈ first.map Statement.proposition ↔
    proposition ∈ second.map Statement.proposition

theorem Statement.SamePropositions.symm
    {first second : List Statement}
    (same : SamePropositions first second) :
    SamePropositions second first :=
  fun proposition => (same proposition).symm

/-- Where each statement of two lists has its like in the other, both have one of a kind. -/
theorem Statement.exists_iff_of_covered
    {first second : List Statement}
    {alike : Statement → Statement → Prop}
    {kind : Statement → Bool}
    (covered : ∀ statement ∈ first, ∃ other ∈ second, alike statement other)
    (covering : ∀ other ∈ second, ∃ statement ∈ first, alike other statement)
    (agree : ∀ statement other, alike statement other → kind statement = kind other) :
    (∃ statement ∈ first, kind statement = true) ↔ ∃ other ∈ second, kind other = true := by
  constructor
  · rintro ⟨statement, member, holds⟩
    obtain ⟨other, stated, like⟩ := covered statement member
    exact ⟨other, stated, (agree statement other like).symm.trans holds⟩
  · rintro ⟨other, member, holds⟩
    obtain ⟨statement, stated, like⟩ := covering other member
    exact ⟨statement, stated, (agree other statement like).symm.trans holds⟩

/-- Two statements empty the same regions and assert the same groups of regions. -/
structure Diagram.Alike (diagram : Diagram) (left right : Statement) : Prop where
  excludes : ∀ region, diagram.excludes region left = diagram.excludes region right
  asserts : ∀ group, diagram.asserts group left = diagram.asserts group right

/-- The text of a statement plays no part in what it empties and asserts. -/
theorem Diagram.alike_of_proposition_eq
    {diagram : Diagram}
    {left right : Statement}
    (equal : left.proposition = right.proposition) :
    diagram.Alike left right := by
  constructor
  · intro region
    rw [excludes, Statement.quantifier, equal]
    rfl
  · intro group
    rw [asserts, Statement.quantifier, equal]
    rfl

/-- Every statement of a list has one that is alike in any other that states the same. -/
theorem Statement.SamePropositions.exists_alike
    {first second : List Statement}
    {statement : Statement}
    (same : SamePropositions first second)
    (diagram : Diagram)
    (member : statement ∈ first) :
    ∃ other ∈ second, diagram.Alike statement other := by
  obtain ⟨other, stated, equal⟩ := List.mem_map.1 ((same _).1 (List.mem_map_of_mem member))
  exact ⟨other, stated, Diagram.alike_of_proposition_eq equal.symm⟩

namespace Chart

/-- Two charts have the same circles, empty the same regions and have the same witness groups. -/
structure Agrees (left right : Chart) : Prop where
  diagram : left.diagram = right.diagram
  forced : left.isForcedEmpty = right.isForcedEmpty
  keys : left.witnessGroups.keys = right.witnessGroups.keys

/-- Charts agree when every statement of one is like a statement of the other. -/
theorem agrees_of_alike
    {diagram : Diagram}
    {first second : List Statement}
    (covered : ∀ statement ∈ first, ∃ other ∈ second, diagram.Alike statement other)
    (covering : ∀ other ∈ second, ∃ statement ∈ first, diagram.Alike other statement) :
    (ofStatements diagram first).Agrees (ofStatements diagram second) where
  diagram := by rw [diagram_ofStatements, diagram_ofStatements]
  forced := by
    funext region
    rw [Bool.eq_iff_iff, isForcedEmpty_ofStatements_iff, isForcedEmpty_ofStatements_iff]
    exact Statement.exists_iff_of_covered covered covering fun _ _ alike => alike.excludes region
  keys := by
    apply Table.keys_eq_of_contains
    intro group
    rw [Bool.eq_iff_iff, ← Table.mem_keys_iff, ← Table.mem_keys_iff,
      mem_keys_ofStatements_iff, mem_keys_ofStatements_iff]
    exact Statement.exists_iff_of_covered covered covering fun _ _ alike => alike.asserts group

/-- The charts of the same propositions agree. -/
theorem agrees_ofStatements
    (diagram : Diagram)
    {first second : List Statement}
    (same : Statement.SamePropositions first second) :
    (ofStatements diagram first).Agrees (ofStatements diagram second) :=
  agrees_of_alike (fun _ => same.exists_alike diagram) fun _ => same.symm.exists_alike diagram

namespace Agrees

variable {left right : Chart}

theorem forcedEmpty_keys (agrees : left.Agrees right) :
    left.forcedEmpty.keys = right.forcedEmpty.keys :=
  Table.keys_eq_of_contains (congrFun agrees.forced)

theorem unexcluded (agrees : left.Agrees right) : left.unexcluded = right.unexcluded := by
  funext area
  rw [Chart.unexcluded, Chart.unexcluded, agrees.forced]

theorem isDefinite (agrees : left.Agrees right) : left.isDefinite = right.isDefinite := by
  funext existentialImport area subject
  rw [Chart.isDefinite, Chart.isDefinite, groupsFor, groupsFor, agrees.keys, agrees.diagram,
    agrees.unexcluded]

/-- Charts that agree judge every conclusion alike. -/
theorem evaluate (agrees : left.Agrees right) : left.evaluate = right.evaluate := by
  funext existentialImport statement
  simp only [Chart.evaluate, judgeParticular, judgeUniversal, unknownNames, agrees.diagram,
    agrees.unexcluded, agrees.isDefinite]

/-- Charts of well-formed premises that agree both have conflicts or both have none. -/
theorem conflicts_eq_nil_iff
    {first second : List Statement}
    (agrees : left.Agrees right)
    (leftRecords : left.Records first)
    (rightRecords : right.Records second) :
    left.conflicts = [] ↔ right.conflicts = [] := by
  rw [leftRecords.conflicts_eq_nil_iff, rightRecords.conflicts_eq_nil_iff, Open, Open,
    agrees.keys, agrees.forced]

end Agrees
end Chart
end Syllogistic
