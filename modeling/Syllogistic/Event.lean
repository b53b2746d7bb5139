import Syllogistic.Error
import Syllogistic.Text.Blank
import Syllogistic.Text.Quoted
import Syllogistic.Verdict

/-!
# Events

What happens while premises are read, a diagram is built and conclusions are
evaluated is told as a list of events.  An event has a severity, a topic and a
message for a log.
-/

namespace Syllogistic

open Text

/-- How much an event matters. -/
inductive Severity
  | warning
  | information
  | detail
deriving DecidableEq, Repr

/-- The severity as a log shows it. -/
def Severity.word : Severity → String
  | warning => "WARN"
  | information => "INFO"
  | detail => "DEBUG"

/-- Something that happened. -/
inductive Event
  /-- A new name was declared. -/
  | declared (text : String)
  /-- A new statement was added. -/
  | added (proposition : Proposition)
  /-- A line of a block of premises was refused. -/
  | refused (number : Nat) (line : String) (error : Error)
  /-- A block was read to its end; how many lines it gave, and what the model now holds. -/
  | read (lines names statements : Nat)
  /-- A diagram was drawn. -/
  | drawn (names : List String)
  /-- A conflict was found. -/
  | conflicting (conflict : Conflict)
  /-- The premises were recorded; how many regions, groups and conflicts there are. -/
  | recorded (forcedEmpty witnessGroups conflicts : Nat)
  /-- A conclusion was about names without a circle. -/
  | unknownNames (proposition : Proposition) (names : List String)
  /-- A conclusion was judged. -/
  | judged (proposition : Proposition) (verdict : Verdict)
deriving DecidableEq, Repr

namespace Event

/-- How much the event matters. -/
def severity : Event → Severity
  | declared _ | added _ | drawn _ | judged _ _ => .detail
  | read _ _ _ | recorded _ _ _ | unknownNames _ _ => .information
  | refused _ _ _ | conflicting _ => .warning

/-- The part of the work that the event belongs to. -/
def topic : Event → String
  | declared _ | added _ | refused _ _ _ | read _ _ _ => "ingest"
  | drawn _ => "regions"
  | conflicting _ | recorded _ _ _ => "constraints"
  | unknownNames _ _ | judged _ _ => "evaluation"

/-- The event in words. -/
def message : Event → String
  | declared text => "Declared " ++ trimmed text
  | added proposition => "Added " ++ proposition.display
  | refused number line error =>
      "Line " ++ toString number ++ " \"" ++ trimmed line ++ "\": " ++ error.message
  | read lines names statements =>
      "Read " ++ toString lines ++ " lines, " ++ toString names ++ " categories and " ++
        toString statements ++ " statements"
  | drawn names => "Regions over " ++ quotedList names
  | conflicting conflict => conflict.message
  | recorded forcedEmpty witnessGroups conflicts =>
      toString forcedEmpty ++ " forced empty regions, " ++ toString witnessGroups ++
        " witness groups, " ++ toString conflicts ++ " conflicts"
  | unknownNames proposition names =>
      "Unknown categories in " ++ proposition.display ++ ": " ++ quotedList names
  | judged proposition verdict => proposition.display ++ ": " ++ verdict.word

end Event

/-- The event of an evaluation, which depends on whether its names are known. -/
def Evaluation.event (evaluation : Evaluation) : Event :=
  match evaluation.verdict with
  | .unknown names => .unknownNames evaluation.statement.proposition names
  | verdict => .judged evaluation.statement.proposition verdict

end Syllogistic
