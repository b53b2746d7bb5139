import Syllogistic.CommandLine.Run

/-!
# The program

The program reads its arguments and the file that they name, runs, and writes the
lines of the report to the two output streams.  It is built without a log.
-/

namespace Syllogistic
namespace CommandLine

/-- The program writes events to a log. -/
def logging : Bool := false

/-- The cause of a failure to read a file. -/
def fileFault : IO.Error → FileFault
  | .noFileOrDirectory .. => .missing
  | .inappropriateType _ code _ => if code = 21 then .directory else .notDirectory
  | error => .other (toString error)

/-- Reads a file as a text. -/
def readFile (path : String) : IO (Except FileFault String) := do
  match ← (IO.FS.readBinFile path).toBaseIO with
  | .ok content => return decodeFile content
  | .error error => return .error (fileFault error)

/-- The path of the file that some arguments name. -/
def namedFile? (arguments : List String) : Option String :=
  match Request.read arguments with
  | some (.run options) => options.file
  | _ => none

/-- Writes a line to its stream. -/
def writeLine : Line → IO Unit
  | .output text => IO.println text
  | .complaint text => IO.eprintln text

end CommandLine
end Syllogistic

open Syllogistic.CommandLine in
/-- Runs the program with its arguments. -/
def main (arguments : List String) : IO UInt32 := do
  let content ← match namedFile? arguments with
    | some path => readFile path
    | none => pure (.error .missing)
  let report := runArguments logging (fun _ => content) arguments
  report.lines.forM writeLine
  return report.exitCode.toUInt32
