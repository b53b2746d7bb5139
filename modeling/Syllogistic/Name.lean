import Syllogistic.Text.Blank
import Syllogistic.Text.Cut
import Syllogistic.Text.UpperCase

/-!
# Names of sets

A set is named by a word, by a possessive such as `bear's`, or by several words
in quotes.  Names are compared in their canonical form, so `A's`, `a` and `"A"`
name the same set, and a canonical name is shown either in quotes or as a
possessive.
-/

namespace Syllogistic
namespace Name

open Text

/-- The text inside a pair of quotes that encloses it, or the text itself. -/
def unquote : List Char → List Char
  | [] => []
  | first :: rest =>
      if first = quoteMark && rest.getLast? = some quoteMark then rest.dropLast
      else first :: rest

/-- The straight and the curved apostrophe. -/
def isApostrophe (c : Char) : Bool :=
  c == '\x27' || c == '\u2019'

/-- The text without one possessive ending, an apostrophe and an `s` of either case. -/
def dropPossessive (text : List Char) : List Char :=
  match text.reverse with
  | ending :: mark :: stem =>
      if (ending == 's' || ending == 'S') && isApostrophe mark then stem.reverse else text
  | _ => text

/-- The words of a text with one space between neighbours. -/
def joinWords (text : List Char) : List Char :=
  [' '].intercalate (words text)

/-- The canonical form of a written name, over characters. -/
def canonicalChars (text : List Char) : List Char :=
  upper (joinWords (dropPossessive (unquote (trim text))))

/--
The canonical form of a written name: without the blanks and the pair of quotes
around it and without one possessive ending, one space between its words, in
upper case.
-/
def canonical (text : String) : String :=
  String.ofList (canonicalChars text.toList)

/-- A name is shown in quotes when it holds a blank, and else as a possessive. -/
def display (name : String) : String :=
  if name.toList.any isBlank then "\"" ++ name ++ "\"" else name ++ "'s"

@[simp] theorem toList_canonical (text : String) :
    (canonical text).toList = canonicalChars text.toList := by
  simp [canonical]

@[simp] theorem unquote_nil : unquote [] = [] := rfl

/-- A pair of quotes around a text comes off. -/
@[simp] theorem unquote_enclosed (text : List Char) :
    unquote (quoteMark :: (text ++ [quoteMark])) = text := by
  simp [unquote]

/-- A lone quote encloses nothing and stays. -/
@[simp] theorem unquote_lone : unquote [quoteMark] = [quoteMark] := rfl

end Name
end Syllogistic
