import Syllogistic.Model
import Syllogistic.Statement.Reader

/-!
# Evaluating conclusions on a model

A built model evaluates any number of conclusions and does not change.  With a
deferred conflict check a conflict among the premises refuses every conclusion.
-/

namespace Syllogistic
namespace Model

/-- The conflict that keeps the model from evaluating conclusions. -/
def blocking? (model : Model) : Option Conflict :=
  if model.config.conflictCheck = .deferred then model.conflicts.head? else none

/-- Evaluates a conclusion. -/
def evaluate (model : Model) (statement : Statement) : Except Error Evaluation :=
  match model.chart? with
  | none => .error (.stage .notBuilt)
  | some chart =>
      match model.blocking? with
      | some conflict => .error (.conflict conflict)
      | none => (chart.evaluate model.config.existentialImport statement).mapError .grammar

/-- Reads a conclusion and evaluates it. -/
def evaluateText (model : Model) (conclusion : String) : Except Error Evaluation :=
  match Statement.read conclusion with
  | .error fault => .error (.grammar fault)
  | .ok statement => model.evaluate statement

/-- Some region of the area certainly is inhabited when `subject` is spoken of. -/
def isDefinite (model : Model) (area : List Region) (subject : Term) : Bool :=
  match model.chart? with
  | none => false
  | some chart => chart.isDefinite model.config.existentialImport area subject

end Model
end Syllogistic
