import Syllogistic.Statement.Reader

/-!
# Premises

A block of premises is cut into numbered lines at the separators outside quotes.
A line with a copula is a statement, a line of one token declares a name, and a
blank line says nothing.
-/

namespace Syllogistic

open Text

/-- What a line of a block of premises says. -/
inductive Premise
  /-- There is a set of this name. -/
  | name (name : String)
  /-- The statement holds. -/
  | statement (statement : Statement)
deriving DecidableEq, Repr

namespace Premise

/-- Reads a line; a blank line has no premise. -/
def read (line : String) : Except GrammarFault (Option Premise) := do
  let tokens ← Token.scan line
  if tokens.any Token.isCopula then
    let statement ← Statement.read line
    .ok (some (.statement statement))
  else
    match tokens with
    | [] => .ok none
    | [token] =>
        let name ← token.name
        if name = "" then .error .nothingToRead else .ok (some (.name name))
    | _ => .error (.severalWords (trimmed line))

/-- The lines of a block of premises, numbered from one. -/
def lines (separators : List Char) (block : String) : List (Nat × String) :=
  ((cutOutsideQuotes separators.contains block.toList).zipIdx 1).map fun (line, number) =>
    (number, String.ofList line)

/-- Without their numbers the lines are the pieces of the block. -/
theorem map_snd_lines (separators : List Char) (block : String) :
    (lines separators block).map Prod.snd =
      (cutOutsideQuotes separators.contains block.toList).map String.ofList := by
  unfold lines
  rw [List.map_map]
  conv => rhs; rw [← List.zipIdx_map_fst 1 (cutOutsideQuotes _ _), List.map_map]
  rfl

end Premise
end Syllogistic
