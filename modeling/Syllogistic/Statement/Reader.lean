import Syllogistic.Statement
import Syllogistic.Token

/-!
# Reading statements

A clause reads `some|all NAME is|are [not] NAME`, with the keywords in any ASCII
case.  The first copula divides it; each side may begin with a negation and a
quantifier and must then hold one name.  What the sides of a well-formed
statement may not hold is thus read first and refused afterwards.
-/

namespace Syllogistic

open Text

/-- The canonical name that a token gives to a set; a keyword gives none. -/
def Token.name (token : Token) : Except GrammarFault String :=
  if token.isReserved then .error (.reservedWord token.text)
  else .ok (Name.canonical token.text)

namespace Term

/-- Whether some tokens begin with the negation, and the tokens after it. -/
def takeNegation : List Token → Bool × List Token
  | [] => (false, [])
  | token :: rest => if token.isNegation then (true, rest) else (false, token :: rest)

/-- The quantifier that some tokens begin with, if any, and the tokens after it. -/
def takeQuantifier : List Token → Option Quantifier × List Token
  | [] => (none, [])
  | token :: rest =>
      if token.isWord "some" then (some .particular, rest)
      else if token.isWord "all" then (some .universal, rest)
      else (none, token :: rest)

/-- Reads one side of a clause. -/
def ofTokens (clause : String) (side : List Token) : Except GrammarFault Term :=
  let (negated, unnegated) := takeNegation side
  let (quantifier, category) := takeQuantifier unnegated
  match category with
  | [] => .error (.noName (trimmed clause))
  | _ :: extra :: _ => .error (.extraWord extra.text)
  | [token] => do
      let name ← token.name
      if name = "" then .error (.noName (trimmed clause))
      else .ok ⟨name, negated, quantifier⟩

end Term

namespace Statement

/-- Reads the tokens of a clause as a statement, well formed or not. -/
def ofTokens (clause : String) (tokens : List Token) : Except GrammarFault Statement :=
  if tokens = [] then .error .nothingToRead
  else
    match tokens.dropWhile (!·.isCopula) with
    | [] => .error (.noCopula (trimmed clause))
    | _ :: after => do
        let subject ← Term.ofTokens clause (tokens.takeWhile (!·.isCopula))
        let predicate ← Term.ofTokens clause after
        .ok ⟨⟨subject, predicate⟩, some (trimmed clause)⟩

/-- Reads a clause as a well-formed statement. -/
def read (clause : String) : Except GrammarFault Statement := do
  let tokens ← Token.scan clause
  let statement ← ofTokens clause tokens
  statement.check
  .ok statement

end Statement
end Syllogistic
