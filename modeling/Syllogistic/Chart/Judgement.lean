import Syllogistic.Chart
import Syllogistic.Verdict

/-!
# Judging a conclusion on a chart

The only source of certainty is a witness: a group of regions at least one of
which is inhabited.  So an area certainly is inhabited when some witness group,
less the regions that are forced empty, is left non-empty and inside the area.
Under existential import the circle of a universal subject is such a group too.
-/

namespace Syllogistic
namespace Chart

/-- The groups of regions with a witness when a conclusion about `subject` is judged. -/
def groupsFor (chart : Chart) (existentialImport : Bool) (subject : Term) :
    List (List Region) :=
  chart.witnessGroups.keys ++
    if existentialImport && subject.quantifier = some .universal then
      [chart.diagram.circle subject.name]
    else []

/-- Some region of the area certainly is inhabited. -/
def isDefinite (chart : Chart) (existentialImport : Bool) (area : List Region)
    (subject : Term) : Bool :=
  (chart.groupsFor existentialImport subject).any fun group =>
    let remaining := chart.unexcluded group
    !remaining.isEmpty && remaining.all area.contains

/-- The verdict on a particular conclusion, with the regions to mark. -/
def judgeParticular (chart : Chart) (existentialImport : Bool) (subject : Term)
    (bearing : Bearing) : Verdict × List Region :=
  let supporting := chart.unexcluded bearing.supporting
  if supporting.isEmpty then
    (.noWitness, bearing.supporting)
  else if chart.isDefinite existentialImport supporting subject then
    (.holds, supporting)
  else
    (.mayHold, supporting)

/-- The verdict on a universal conclusion, with the regions to mark. -/
def judgeUniversal (chart : Chart) (existentialImport : Bool) (subject : Term)
    (bearing : Bearing) : Verdict × List Region :=
  let supporting := chart.unexcluded bearing.supporting
  let opposing := chart.unexcluded bearing.opposing
  if chart.isDefinite existentialImport supporting subject then
    (.holds, supporting)
  else if chart.isDefinite existentialImport opposing subject then
    (.fails, bearing.opposing)
  else if supporting.isEmpty then
    (.mayFail, bearing.opposing)
  else
    (.mayHold, supporting)

/-- The names of a conclusion that have no circle. -/
def unknownNames (chart : Chart) (proposition : Proposition) : List String :=
  proposition.names.filter fun name => !chart.diagram.names.toList.contains name

/-- Judges a conclusion; a proposition without a quantifier is no conclusion. -/
def evaluate (chart : Chart) (existentialImport : Bool) (statement : Statement) :
    Except GrammarFault Evaluation :=
  let proposition := statement.proposition
  match chart.diagram.bearing? proposition with
  | none => .ok ⟨statement, .unknown (chart.unknownNames proposition), []⟩
  | some bearing =>
      match proposition.subject.quantifier with
      | none => .error (.unquantifiedSubject statement.text)
      | some .particular =>
          let judged := chart.judgeParticular existentialImport proposition.subject bearing
          .ok ⟨statement, judged.1, judged.2⟩
      | some .universal =>
          let judged := chart.judgeUniversal existentialImport proposition.subject bearing
          .ok ⟨statement, judged.1, judged.2⟩

end Chart
end Syllogistic
