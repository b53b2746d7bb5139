import Syllogistic.CommandLine.Options
import Syllogistic.CommandLine.Report
import Syllogistic.Model.Building

/-!
# A run of the command line

A run reads the premises, builds the model and evaluates the conclusions.  Its
exit code is 0 if every conclusion is valid, 10 if one is not, 1 if there is no
model to evaluate them on, and 2 if the arguments are at fault.
-/

namespace Syllogistic
namespace CommandLine

open Text

/-- Why a file of premises cannot be read. -/
inductive FileFault
  | missing
  | directory
  /-- The path goes through a file as if it were a directory. -/
  | notDirectory
  | notText
  | other (cause : String)
deriving DecidableEq, Repr

/-- The wording of a fault of a file. -/
def FileFault.message : FileFault → String
  | missing => "No such file or directory (os error 2)"
  | directory => "Is a directory (os error 21)"
  | notDirectory => "Not a directory (os error 20)"
  | notText => "stream did not contain valid UTF-8"
  | other cause => cause

/-- The text of a file with some content. -/
def decodeFile (content : ByteArray) : Except FileFault String :=
  match String.fromUTF8? content with
  | some text => .ok text
  | none => .error .notText

/-- The premises of the file, if one is given, and of the options. -/
def Options.premisesText (options : Options) (readFile : String → Except FileFault String) :
    Except String String := do
  let content ← match options.file with
    | none => .ok ""
    | some path =>
        (readFile path).mapError fun fault =>
          "Failed to read " ++ quoted path ++ ": " ++ fault.message
  .ok (content ++ String.join (options.premises.map ("\n" ++ ·)))

/-- The lines that log events, when the program logs and the level admits them. -/
def logLines (logging : Bool) (options : Options) (events : List Event) : List Line :=
  if logging then
    (events.filter fun event => (options.logLevel.getD .warn).admits event.severity).map
      eventLine
  else []

/-- A run that ends with a failure before any conclusion is evaluated. -/
def failed (message : String) : Report :=
  ⟨[failureLine message], 1⟩

/-- The lines about the conclusions, in their order. -/
def conclusionLines (logging : Bool) (options : Options) (model : Model) (chart : Chart) :
    List Line :=
  options.conclusions.flatMap fun conclusion =>
    match model.evaluateText conclusion with
    | .error error => [failureLine (conclusion ++ ": " ++ error.message)]
    | .ok evaluation =>
        logLines logging options [evaluation.event] ++
          if options.json then [] else evaluationLines chart.diagram evaluation

/-- The evaluations of the conclusions that do not fail, in their order. -/
def evaluations (options : Options) (model : Model) : List Evaluation :=
  options.conclusions.filterMap fun conclusion => (model.evaluateText conclusion).toOption

/-- The conclusion is evaluated, and valid. -/
def isValid (model : Model) (conclusion : String) : Bool :=
  match model.evaluateText conclusion with
  | .ok evaluation => evaluation.verdict.valid
  | .error _ => false

/-- The snapshot of a model with the evaluations of the conclusions. -/
def snapshot (options : Options) (model : Model) : Snapshot :=
  (evaluations options model).foldl
    (fun snapshot evaluation => snapshot.push model evaluation) (.ofModel model)

/-- The answers of a built model. -/
def answer (logging : Bool) (options : Options) (model : Model) (chart : Chart) : Report :=
  let answers := conclusionLines logging options model chart
  { lines :=
      if options.json then answers ++ [.output (snapshot options model).toJson.render]
      else summaryLines chart ++ answers
    exitCode := if options.conclusions.all (isValid model) then 0 else 10 }

/-- Reads premises, builds their model and evaluates the conclusions. -/
def runOn (logging : Bool) (options : Options) (premises : String) : Report :=
  if isAllBlank premises.toList then failed "The diagram is empty!"
  else
    let outcome := Model.ofPremises options.config premises
    let log := logLines logging options outcome.events
    let report := match outcome.result, outcome.model.chart? with
      | .error error, _ => failed error.message
      | .ok (), some chart => answer logging options outcome.model chart
      | .ok (), none => failed (StageFault.message .notBuilt)
    { report with lines := log ++ report.lines }

/-- Runs with some options, where `readFile` gives the text of a file. -/
def run (logging : Bool) (readFile : String → Except FileFault String) (options : Options) :
    Report :=
  match options.premisesText readFile with
  | .error message => failed message
  | .ok premises => runOn logging options premises

/-- The answer to the question for the version. -/
def versionReport : Report :=
  ⟨[.output "venn_syllogism 0.1.0"], 0⟩

/-- The answer to arguments that cannot be read. -/
def usageReport : Report :=
  ⟨[.complaint "error: the arguments cannot be read"], 2⟩

/-- Runs with some arguments. -/
def runArguments (logging : Bool) (readFile : String → Except FileFault String)
    (arguments : List String) : Report :=
  match Request.read arguments with
  | none => usageReport
  | some .version => versionReport
  | some (.run options) => run logging readFile options

end CommandLine
end Syllogistic
