import Syllogistic.Chart.Judgement
import Syllogistic.Config
import Syllogistic.Event

/-!
# Models

A model first gathers names and statements.  Once it is built its premises stand
on a chart, and it takes no more.  The outcome of an operation holds the model
afterwards whether the operation succeeds or not.
-/

namespace Syllogistic

/-- How far a model has come. -/
inductive Stage
  /-- Premises may be added; the conflicts are those of the last build that was refused. -/
  | gathering (refused : List Conflict)
  /-- The premises stand on a chart. -/
  | built (chart : Chart)

/-- A collection of premises. -/
structure Model where
  /-- How premises are read and conclusions evaluated. -/
  config : Config
  /-- The names that were declared or stand in a statement. -/
  names : Ascending String
  /-- The statements in the order in which they were added. -/
  statements : List Statement
  /-- How far the model has come. -/
  stage : Stage

/-- The result of an operation on a model, the model afterwards, and what happened. -/
structure Outcome (α : Type) where
  result : Except Error α
  model : Model
  events : List Event

namespace Model

/-- The model without premises. -/
def empty (config : Config) : Model :=
  ⟨config, .empty, [], .gathering []⟩

instance : Inhabited Model := ⟨empty Config.default⟩

/-- The chart of a built model. -/
def chart? (model : Model) : Option Chart :=
  match model.stage with
  | .gathering _ => none
  | .built chart => some chart

/-- The diagram of a built model. -/
def diagram? (model : Model) : Option Diagram :=
  model.chart?.map Chart.diagram

/-- The regions that the premises of a built model empty. -/
def forcedEmpty (model : Model) : Table Region (List Statement) :=
  (model.chart?.map Chart.forcedEmpty).getD .empty

/-- The groups of regions with a witness in a built model. -/
def witnessGroups (model : Model) : Table (List Region) (List Statement) :=
  (model.chart?.map Chart.witnessGroups).getD .empty

/-- The model is built. -/
def isBuilt (model : Model) : Bool :=
  model.chart?.isSome

/-- The conflicts among the premises, where they have been looked for. -/
def conflicts (model : Model) : List Conflict :=
  match model.stage with
  | .gathering refused => refused
  | .built chart => chart.conflicts

/-- The model has neither names nor statements. -/
def isEmpty (model : Model) : Bool :=
  model.names.toList.isEmpty && model.statements.isEmpty

/-- The model has the name that a text gives. -/
def hasName (model : Model) (text : String) : Bool :=
  decide (Name.canonical text ∈ model.names)

/-- The model has a statement of the proposition. -/
def hasProposition (model : Model) (proposition : Proposition) : Bool :=
  model.statements.any fun statement => statement.proposition = proposition

/-- Some premise of the built model empties the region. -/
def isForcedEmpty (model : Model) (region : Region) : Bool :=
  match model.chart? with
  | none => false
  | some chart => chart.isForcedEmpty region

/-- The regions of the built model for and against a proposition. -/
def bearing? (model : Model) (proposition : Proposition) : Option Bearing :=
  model.chart?.bind fun chart => chart.diagram.bearing? proposition

/-- A name followed by the statements that mention it. -/
private def displayName (model : Model) (name : String) : String :=
  let mentioning := model.statements.filter fun statement => statement.proposition.mentions name
  let shown := mentioning.map fun statement => "<" ++ statement.proposition.display ++ ">"
  name ++ " \x7b" ++ ", ".intercalate shown ++ "\x7d\n"

/-- The model with a line for each name. -/
def display (model : Model) : String :=
  String.join (model.names.toList.map model.displayName)

/-- The outcome of a refused operation that leaves the model as it was. -/
def refuse {α : Type} (model : Model) (error : Error) : Outcome α :=
  ⟨.error error, model, []⟩

end Model
end Syllogistic
