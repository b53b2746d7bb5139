import Syllogistic.Json
import Syllogistic.Model.Evaluation

/-!
# Snapshots

A snapshot is what a renderer needs to draw a model: regions by their
identifiers, premises by their texts, and the evaluations that were asked for.
-/

namespace Syllogistic

/-- A group of regions with a witness. -/
structure WitnessRecord where
  /-- The identifiers of the regions. -/
  regions : List String
  /-- The texts of the premises that assert the witness. -/
  statements : List String
deriving DecidableEq

/-- An evaluation in words. -/
structure EvaluationRecord where
  /-- The text of the conclusion. -/
  statement : String
  /-- What the premises say about it. -/
  verdict : Verdict
  /-- The identifiers of the marked regions. -/
  marked : List String
deriving DecidableEq

/-- What a renderer needs to draw a model. -/
structure Snapshot where
  /-- The names in order. -/
  names : List String
  /-- The labels of the regions under their identifiers. -/
  regions : Table String String
  /-- The texts of the premises that empty a region, under its identifier. -/
  forcedEmpty : Table String (List String)
  /-- The groups of regions with a witness. -/
  witnesses : List WitnessRecord
  /-- The evaluations in the order in which they were added. -/
  evaluations : List EvaluationRecord

namespace Snapshot

/-- The snapshot of a chart. -/
def ofChart (chart : Chart) : Snapshot where
  names := chart.diagram.names.toList
  regions := chart.diagram.labels
  forcedEmpty := .ofList <| chart.forcedEmpty.entries.map fun (region, statements) =>
    (chart.diagram.identifier region, statements.map Statement.text)
  witnesses := chart.witnessGroups.entries.map fun (group, statements) =>
    ⟨group.map chart.diagram.identifier, statements.map Statement.text⟩
  evaluations := []

/-- The snapshot of a model, which before it is built shows its names only. -/
def ofModel (model : Model) : Snapshot :=
  match model.chart? with
  | some chart => ofChart chart
  | none => ⟨model.names.toList, .empty, .empty, [], []⟩

/-- Adds an evaluation, whose marked regions are identified by the diagram of the model. -/
def push (snapshot : Snapshot) (model : Model) (evaluation : Evaluation) : Snapshot :=
  let marked := match model.chart? with
    | some chart => evaluation.marked.map chart.diagram.identifier
    | none => []
  { snapshot with
    evaluations := snapshot.evaluations ++
      [⟨evaluation.statement.text, evaluation.verdict, marked⟩] }

/-- A list of texts as JSON. -/
private def texts (values : List String) : Json :=
  .list (values.map .text)

/-- A group with a witness as JSON. -/
private def witnessJson (group : WitnessRecord) : Json :=
  .record [("regions", texts group.regions), ("statements", texts group.statements)]

/-- An evaluation as JSON. -/
private def evaluationJson (evaluation : EvaluationRecord) : Json :=
  let verdict := evaluation.verdict
  .record
    [("statement", .text evaluation.statement), ("verdict", .text verdict.word),
      ("possible", .truth verdict.possible), ("certain", .truth verdict.certain),
      ("valid", .truth verdict.valid), ("reason", .text verdict.reason),
      ("color", .text verdict.color), ("pattern", .text verdict.pattern),
      ("marked", texts evaluation.marked)]

/-- A snapshot as JSON; the evaluations are left out where there are none. -/
def toJson (snapshot : Snapshot) : Json :=
  .record <|
    [("categories", texts snapshot.names),
      ("regions", .record (snapshot.regions.entries.map fun (identifier, label) =>
        (identifier, .text label))),
      ("forced_empty", .record (snapshot.forcedEmpty.entries.map fun (identifier, premises) =>
        (identifier, texts premises))),
      ("witness_groups", .list (snapshot.witnesses.map witnessJson))] ++
    if snapshot.evaluations.isEmpty then []
    else [("evaluations", .list (snapshot.evaluations.map evaluationJson))]

end Snapshot
end Syllogistic
