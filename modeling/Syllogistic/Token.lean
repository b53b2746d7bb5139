import Syllogistic.Error
import Syllogistic.Text.Blank
import Syllogistic.Text.Cut

/-!
# Tokens

A clause is cut into tokens at the blanks outside quotes.  A token that holds a
quote is never a keyword, so a quoted name may be any word.
-/

namespace Syllogistic

/-- A stretch of a clause between blanks outside quotes. -/
structure Token where
  /-- The token as it is written, quotes included. -/
  text : String
deriving DecidableEq, Repr

namespace Token

open Text

/-- A token is quoted when it holds a quote. -/
def isQuoted (token : Token) : Bool :=
  token.text.toList.contains quoteMark

/-- Two words that differ at most in the case of ASCII letters. -/
def sameWord (left right : String) : Bool :=
  left.toList.map Char.toLower == right.toList.map Char.toLower

/-- An unquoted token that is the given word in any ASCII case. -/
def isWord (word : String) (token : Token) : Bool :=
  !token.isQuoted && sameWord token.text word

/-- The copula joins subject and predicate. -/
def isCopula (token : Token) : Bool :=
  token.isWord "is" || token.isWord "are"

/-- The keyword that negates a term. -/
def isNegation (token : Token) : Bool :=
  token.isWord "not"

/-- A keyword cannot name a set. -/
def isReserved (token : Token) : Bool :=
  token.isCopula || token.isNegation || token.isWord "some" || token.isWord "all"

/-- The tokens of a text whose quotes are taken to be closed. -/
def split (text : List Char) : List Token :=
  ((cutOutsideQuotes isBlank text).filter (· ≠ [])).map fun piece => ⟨String.ofList piece⟩

/-- The tokens of a clause, provided that every quote in it is closed. -/
def scan (clause : String) : Except GrammarFault (List Token) :=
  if leavesQuoteOpen clause.toList then
    .error (.unclosedQuote (trimmed clause))
  else
    .ok (split clause.toList)

@[simp] theorem split_nil : split [] = [] := rfl

end Token
end Syllogistic
