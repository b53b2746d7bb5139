/-!
# Configuration

A configuration says what a universal conclusion takes for granted, what becomes
of conflicts among the premises, and where a block of premises is cut.
-/

namespace Syllogistic

/-- When a conflict among the premises stops the work. -/
inductive ConflictCheck
  /-- The diagram is not built. -/
  | eager
  /-- The diagram is built, and no conclusion is evaluated. -/
  | deferred
  /-- Conflicts are recorded and nothing else. -/
  | off
deriving DecidableEq, Repr

namespace ConflictCheck

/-- The word for a conflict check. -/
def word : ConflictCheck → String
  | eager => "eager"
  | deferred => "deferred"
  | off => "off"

/-- Every conflict check. -/
def all : List ConflictCheck := [eager, deferred, off]

/-- The conflict check that a word names in any ASCII case. -/
def ofWord? (text : String) : Option ConflictCheck :=
  all.find? fun check => text.toList.map Char.toLower == check.word.toList

/-- The complaint about a word that names no conflict check. -/
def unknownMessage (text : String) : String :=
  "Unknown conflict check \"" ++ text ++ "\""

@[simp] theorem ofWord?_word (check : ConflictCheck) : ofWord? check.word = some check := by
  cases check <;> decide

end ConflictCheck

/-- How premises are read and conclusions evaluated. -/
structure Config where
  /-- A universal conclusion is evaluated as if its subject had a member. -/
  existentialImport : Bool
  /-- When a conflict among the premises stops the work. -/
  conflictCheck : ConflictCheck
  /-- The characters that separate premises. -/
  separators : List Char
deriving DecidableEq, Repr

/-- Existential import, an eager check, and premises cut at line ends and semicolons. -/
def Config.default : Config :=
  ⟨true, .eager, ['\n', ';']⟩

instance : Inhabited Config := ⟨Config.default⟩

end Syllogistic
