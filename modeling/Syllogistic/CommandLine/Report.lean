import Syllogistic.CommandLine.Style
import Syllogistic.Snapshot

/-!
# What the command line prints

A report is a list of lines for the two output streams, in the order in which
they are written, with the exit code.  Comments on the premises begin with a `c`.
-/

namespace Syllogistic
namespace CommandLine

/-- A line of one of the output streams, without its line end. -/
inductive Line
  | output (text : String)
  | complaint (text : String)
deriving DecidableEq, Repr

/-- What a run prints, and the code that it exits with. -/
structure Report where
  lines : List Line
  exitCode : Nat
deriving DecidableEq, Repr

namespace Report

/-- What is written to standard output. -/
def standardOutput (report : Report) : String :=
  String.join <| report.lines.filterMap fun
    | .output text => some (text ++ "\n")
    | .complaint _ => none

/-- What is written to standard error. -/
def standardError (report : Report) : String :=
  String.join <| report.lines.filterMap fun
    | .output _ => none
    | .complaint text => some (text ++ "\n")

end Report

/-- The line that reports a failure. -/
def failureLine (message : String) : Line :=
  .complaint (Color.red.paint message)

/-- The line that logs an event. -/
def eventLine (event : Event) : Line :=
  .complaint ("c " ++ event.severity.word ++ " [" ++ event.topic ++ "] " ++ event.message)

/-- The colour of a verdict, by whether it is possible and whether it is certain. -/
def verdictColor (verdict : Verdict) : Color :=
  match verdict.possible, verdict.certain with
  | true, true => .green
  | true, false => .yellowGreen
  | false, true => .red
  | false, false => .darkOrange

/-- The lines about the diagram of a model and what its premises say. -/
def summaryLines (chart : Chart) : List Line :=
  let diagram := chart.diagram
  let regions := diagram.regions.map fun region =>
    diagram.identifier region ++ " " ++ diagram.label region
  let empty := chart.forcedEmpty.entries.flatMap fun (region, statements) =>
    statements.map fun statement =>
      "Empty: " ++ diagram.identifier region ++ " by [" ++ statement.text ++ "]"
  let witnesses := chart.witnessGroups.entries.flatMap fun (group, statements) =>
    statements.map fun statement =>
      "Witness: (" ++ ", ".intercalate (group.map diagram.identifier) ++ ") by [" ++
        statement.text ++ "]"
  let conflicts := chart.conflicts.map fun conflict =>
    Color.darkOrange.paint conflict.message
  (["Sets: " ++ ", ".intercalate diagram.names.toList,
      "Regions: " ++ ", ".intercalate regions] ++ empty ++ witnesses ++ conflicts).map
    fun comment => .output ("c " ++ comment)

/-- The lines about an evaluation; the marked regions are told where there are any. -/
def evaluationLines (diagram : Diagram) (evaluation : Evaluation) : List Line :=
  let verdict := evaluation.verdict
  let color := verdictColor verdict
  let marked := ", ".intercalate (evaluation.marked.map diagram.identifier)
  [.output (evaluation.statement.text ++ ": " ++ color.paintBold verdict.word),
    .output ("  " ++ color.paint verdict.reason)] ++
  if evaluation.marked.isEmpty then []
  else [.output ("  Marked (" ++ verdict.color ++ " " ++ verdict.pattern ++ "): " ++ marked)]

end CommandLine
end Syllogistic
