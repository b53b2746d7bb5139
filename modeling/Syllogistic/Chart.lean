import Syllogistic.Diagram.Bearing

/-!
# Charts

A chart is a diagram on which premises are recorded.  A universal premise empties
the regions that oppose it; a particular premise asserts that the group of
regions supporting it has a witness.  A group whose regions are all empty is a
conflict.
-/

namespace Syllogistic

/-- A diagram with what the premises say about its regions. -/
structure Chart where
  /-- The diagram. -/
  diagram : Diagram
  /-- The regions without individuals, each with the premises that say so. -/
  forcedEmpty : Table Region (List Statement)
  /-- The groups of regions with a witness, each with the premises that say so. -/
  witnessGroups : Table (List Region) (List Statement)

namespace Chart

/-- A chart on which nothing is recorded. -/
def blank (diagram : Diagram) : Chart :=
  ⟨diagram, .empty, .empty⟩

/--
Records a premise.  A statement about a name without a circle, or without a
quantifier, is no premise and leaves the chart as it is.
-/
def record (chart : Chart) (statement : Statement) : Chart :=
  match chart.diagram.bearing? statement.proposition, statement.quantifier with
  | some bearing, some .particular =>
      { chart with
        witnessGroups := chart.witnessGroups.record bearing.supporting statement }
  | some bearing, some .universal =>
      { chart with
        forcedEmpty := bearing.opposing.foldl
          (fun table region => table.record region statement) chart.forcedEmpty }
  | _, _ => chart

/-- The chart of a list of premises. -/
def ofStatements (diagram : Diagram) (statements : List Statement) : Chart :=
  statements.foldl record (blank diagram)

/-- Some premise empties the region. -/
def isForcedEmpty (chart : Chart) (region : Region) : Bool :=
  chart.forcedEmpty.contains region

/-- The regions of a list that no premise empties. -/
def unexcluded (chart : Chart) (regions : List Region) : List Region :=
  regions.filter (!chart.isForcedEmpty ·)

/-- The texts of the premises that empty some region of a group, each text once. -/
def exclusions (chart : Chart) (group : List Region) : List String :=
  ((group.flatMap fun region => (chart.forcedEmpty.get? region).getD []).map
    Statement.text).eraseDups

/-- The conflicts of a witness group with the premises that empty all of its regions. -/
def conflictsOf (chart : Chart) (group : List Region) (witnesses : List Statement) :
    List Conflict :=
  if group.all chart.isForcedEmpty then
    witnesses.map fun witness => ⟨witness.text, chart.exclusions group⟩
  else []

/-- The conflicts among the recorded premises, in the order of the witness groups. -/
def conflicts (chart : Chart) : List Conflict :=
  chart.witnessGroups.entries.flatMap fun entry => chart.conflictsOf entry.1 entry.2

@[simp] theorem diagram_record (chart : Chart) (statement : Statement) :
    (chart.record statement).diagram = chart.diagram := by
  unfold record
  split <;> rfl

@[simp] theorem diagram_ofStatements (diagram : Diagram) (statements : List Statement) :
    (ofStatements diagram statements).diagram = diagram := by
  suffices kept : ∀ chart : Chart, (statements.foldl record chart).diagram = chart.diagram from
    kept (blank diagram)
  induction statements with
  | nil => intro chart; rfl
  | cons statement rest ih => intro chart; simp [ih]

end Chart
end Syllogistic
