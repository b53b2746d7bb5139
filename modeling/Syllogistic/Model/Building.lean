import Syllogistic.Model.Premises

/-!
# Building a model

Building draws the diagram of the names and records the statements on it.  With
an eager conflict check a conflict refuses the build: the model goes on gathering
and keeps only the conflicts.
-/

namespace Syllogistic

/-- What there is to tell about a finished chart. -/
def Chart.events (chart : Chart) : List Event :=
  let conflicts := chart.conflicts
  conflicts.map Event.conflicting ++
    [.recorded chart.forcedEmpty.size chart.witnessGroups.size conflicts.length]

namespace Model

/-- Draws the diagram of the names and records the statements on it. -/
def build (model : Model) : Outcome Unit :=
  match model.stage with
  | .built _ => model.refuse (.stage .alreadyBuilt)
  | .gathering _ =>
      match Diagram.ofAscending model.names with
      | .error fault => ⟨.error (.size fault), { model with stage := .gathering [] }, []⟩
      | .ok diagram =>
          let chart := Chart.ofStatements diagram model.statements
          let events := .drawn diagram.names.toList :: chart.events
          match model.config.conflictCheck, chart.conflicts with
          | .eager, first :: others =>
              ⟨.error (.conflict first), { model with stage := .gathering (first :: others) },
                events⟩
          | _, _ => ⟨.ok (), { model with stage := .built chart }, events⟩

/-- The built model of a block of premises. -/
def ofPremises (config : Config) (block : String) : Outcome Unit :=
  let gathered := (empty config).read block
  match gathered.result with
  | .error error => ⟨.error error, gathered.model, gathered.events⟩
  | .ok _ =>
      let built := gathered.model.build
      { built with events := gathered.events ++ built.events }

end Model
end Syllogistic
