import Syllogistic.Region
import Syllogistic.Statement

/-!
# Verdicts

A verdict on a conclusion says whether the premises leave it possible and
whether they settle it.  Each comes with a colour and a pattern for the regions
that are marked in a diagram, and with a reason in words.
-/

namespace Syllogistic

/-- What the premises say about a conclusion. -/
inductive Verdict
  /-- The conclusion follows. -/
  | holds
  /-- The conclusion is possible and does not follow. -/
  | mayHold
  /-- Every region that could witness the conclusion is empty. -/
  | noWitness
  /-- The conclusion is refuted. -/
  | fails
  /-- Nothing supports the conclusion, and nothing is known to refute it. -/
  | mayFail
  /-- The conclusion is about sets that the premises do not name. -/
  | unknown (names : List String)
deriving DecidableEq, Repr

namespace Verdict

/-- The verdict in a word or three. -/
def word : Verdict → String
  | holds => "TRUE"
  | mayHold => "MAYBE TRUE"
  | noWitness => "NO TRUE WITNESS"
  | fails => "FALSE"
  | mayFail => "MAYBE FALSE"
  | unknown _ => "UNKNOWN"

/-- The premises leave the conclusion possible. -/
def possible : Verdict → Bool
  | holds | mayHold => true
  | noWitness | fails | mayFail | unknown _ => false

/-- The verdict stands in every case that the premises allow. -/
def certain : Verdict → Bool
  | holds | noWitness | fails | unknown _ => true
  | mayHold | mayFail => false

/-- A valid conclusion is possible, and certain. -/
def valid (verdict : Verdict) : Bool :=
  verdict.possible && verdict.certain

/-- The colour of the marked regions. -/
def color : Verdict → String
  | holds | mayHold => "green"
  | noWitness | fails | mayFail => "red"
  | unknown _ => ""

/-- The pattern that fills the marked regions. -/
def pattern : Verdict → String
  | holds => "///"
  | mayHold => ".."
  | noWitness | fails => "xxx"
  | mayFail => "+"
  | unknown _ => ""

/-- The verdict explained; unknown names are listed. -/
def reason : Verdict → String
  | holds => "This is a TRUE statement. The green shadow in the diagram shows all valid areas."
  | mayHold =>
      "This statement may be TRUE but not necessarily TRUE. The green shadow in the diagram " ++
        "shows areas which satisfy the statement, but they may be empty."
  | noWitness =>
      "This is a FALSE statement. The red shadow in the diagram shows all areas which fit the " ++
        "statement, but they are all empty."
  | fails =>
      "This is a FALSE statement. The red shadow in the diagram shows all areas which refute " ++
        "the statement."
  | mayFail =>
      "This statement may be FALSE but not necessarily FALSE. The red shadow in the diagram " ++
        "shows all areas which refute the statement, but they may be empty."
  | unknown [] => "Set name(s) not found:"
  | unknown names => "Set name(s) not found: " ++ ", ".intercalate names

end Verdict

/-- A verdict on a conclusion with the regions of the diagram that show it. -/
structure Evaluation where
  /-- The conclusion. -/
  statement : Statement
  /-- What the premises say about it. -/
  verdict : Verdict
  /-- The regions that are marked, in order. -/
  marked : List Region
deriving DecidableEq

end Syllogistic
