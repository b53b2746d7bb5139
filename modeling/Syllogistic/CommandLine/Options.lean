import Syllogistic.Config
import Syllogistic.Event

/-!
# Options of the command line

An option is given by a letter or by a word.  Its value follows in the same
argument or in the next one, which may be empty but may not look like an option
itself.  Premises and conclusions add up; any other option is given once.  The
arguments are read in their order up to the first fault or request for the
version.
-/

namespace Syllogistic
namespace CommandLine

/-- The least severity that is logged. -/
inductive LogLevel
  | off
  | error
  | warn
  | info
  | debug
  | trace
deriving DecidableEq, Repr

namespace LogLevel

/-- Every level under its name. -/
def names : List (String × LogLevel) :=
  [("off", off), ("error", error), ("warn", warn), ("info", info), ("debug", debug),
    ("trace", trace)]

/-- The level that a word names in any ASCII case. -/
def ofWord? (word : String) : Option LogLevel :=
  names.lookup (String.ofList (word.toList.map Char.toLower))

/-- Events of this severity are logged. -/
def admits : LogLevel → Severity → Bool
  | off, _ | error, _ => false
  | warn, severity => severity == .warning
  | info, severity => severity == .warning || severity == .information
  | debug, _ | trace, _ => true

end LogLevel

/-- What the command line asks for. -/
structure Options where
  /-- The path of a file of premises. -/
  file : Option String
  /-- Premises, read after those of the file. -/
  premises : List String
  /-- Conclusions to evaluate. -/
  conclusions : List String
  /-- A universal conclusion is taken without a member of its subject. -/
  noExistentialImport : Bool
  /-- When a conflict among the premises stops the work, if that is said. -/
  conflictCheck : Option ConflictCheck
  /-- The answer is a snapshot in JSON. -/
  json : Bool
  /-- The least severity that is logged, if that is said. -/
  logLevel : Option LogLevel
deriving DecidableEq, Repr

/-- A run of the program, or a question for its version. -/
inductive Request
  | run (options : Options)
  | version
deriving DecidableEq, Repr

/-- An option that has a value. -/
inductive Setting
  | file
  | premise
  | conclusion
  | conflictCheck
  | logLevel
deriving DecidableEq, Repr

/-- An option that has no value. -/
inductive Switch
  | noExistentialImport
  | json
deriving DecidableEq, Repr

namespace Options

/-- The options of an empty command line. -/
def empty : Options :=
  ⟨none, [], [], false, none, false, none⟩

/-- A value for an option that is given once, unless it is given already. -/
private def once {α : Type} (old : Option α) (value : α) : Option (Option α) :=
  if old.isSome then none else some (some value)

/-- The options with a value for a setting, if it is a value of that setting. -/
def set (options : Options) (setting : Setting) (value : String) : Option Options :=
  match setting with
  | .file =>
      if value = "" then none
      else (once options.file value).map fun file => { options with file }
  | .premise => some { options with premises := options.premises ++ [value] }
  | .conclusion => some { options with conclusions := options.conclusions ++ [value] }
  | .conflictCheck =>
      (ConflictCheck.ofWord? value).bind fun check =>
        (once options.conflictCheck check).map fun conflictCheck =>
          { options with conflictCheck }
  | .logLevel =>
      (LogLevel.ofWord? value).bind fun level =>
        (once options.logLevel level).map fun logLevel => { options with logLevel }

/-- The options with a switch turned on, unless it is on already. -/
def turnOn (options : Options) (switch : Switch) : Option Options :=
  match switch with
  | .noExistentialImport =>
      if options.noExistentialImport then none
      else some { options with noExistentialImport := true }
  | .json => if options.json then none else some { options with json := true }

/-- The configuration that the options ask for. -/
def config (options : Options) : Config :=
  { Config.default with
    existentialImport := !options.noExistentialImport
    conflictCheck := options.conflictCheck.getD Config.default.conflictCheck }

end Options

/-- What one argument is. -/
inductive Argument
  /-- A setting, with the value that stands in the same argument. -/
  | setting (setting : Setting) (value : Option String)
  | switch (switch : Switch)
  | version
  /-- The end of the options. -/
  | finish
  /-- A value, which only a setting before it can take. -/
  | value
  /-- What looks like an option and is none. -/
  | unknown
deriving DecidableEq, Repr

namespace Argument

/-- The setting of a word after two dashes. -/
def settingOfWord? : String → Option Setting
  | "file" => some .file
  | "premise" => some .premise
  | "eval" => some .conclusion
  | "conflict-check" => some .conflictCheck
  | "log-level" => some .logLevel
  | _ => none

/-- The setting of a letter after one dash. -/
def settingOfLetter? : Char → Option Setting
  | 'f' => some .file
  | 'p' => some .premise
  | 'e' => some .conclusion
  | _ => none

/-- The argument of a word after two dashes, and of what follows an equals sign. -/
def ofWord (word : String) (value : Option String) : Argument :=
  match settingOfWord? word with
  | some known => setting known value
  | none =>
      match word, value with
      | "json", none => switch .json
      | "no-existential-import", none => switch .noExistentialImport
      | "version", none => version
      | _, _ => unknown

/-- The value that stands after a letter, from which one equals sign is dropped. -/
def attached : List Char → Option String
  | [] => none
  | '=' :: rest => some (String.ofList rest)
  | rest => some (String.ofList rest)

/-- The argument of a letter after one dash. -/
def ofLetter (letter : Char) (rest : List Char) : Argument :=
  match settingOfLetter? letter with
  | some known => setting known (attached rest)
  | none => if letter = 'V' then version else unknown

/-- What an argument is; a single dash is a value. -/
def ofString (text : String) : Argument :=
  match text.toList with
  | ['-', '-'] => finish
  | '-' :: '-' :: long =>
      let name := String.ofList (long.takeWhile (· ≠ '='))
      match long.dropWhile (· ≠ '=') with
      | [] => ofWord name none
      | _ :: rest => ofWord name (some (String.ofList rest))
  | '-' :: letter :: rest => ofLetter letter rest
  | _ => value

end Argument

/-- Reads arguments on top of some options; a usage error gives nothing. -/
def readFrom (options : Options) : List String → Option Request
  | [] => some (.run options)
  | argument :: rest =>
      match Argument.ofString argument with
      | .setting setting (some value) =>
          (options.set setting value).bind (readFrom · rest)
      | .setting setting none =>
          match rest with
          | [] => none
          | value :: others =>
              if Argument.ofString value = .value then
                (options.set setting value).bind (readFrom · others)
              else none
      | .switch switch => (options.turnOn switch).bind (readFrom · rest)
      | .version => some .version
      | .finish => if rest = [] then some (.run options) else none
      | .value | .unknown => none

/-- Reads the arguments of a command line. -/
def Request.read (arguments : List String) : Option Request :=
  readFrom .empty arguments

end CommandLine
end Syllogistic
