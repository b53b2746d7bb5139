import Syllogistic.Text.Visible

/-!
# Quoted text for messages

Messages show a list of names, or the path of a file, between double quotes.  A
double quote and a backslash inside are marked by a backslash, and a character
that does not show as itself is named by its escape, so a quoted text always
stands on one line and hides nothing.
-/

namespace Syllogistic
namespace Text

/-- The escape of one character inside a quoted text. -/
def escaped (c : Char) : List Char :=
  if c = '"' then ['\\', '"']
  else if c = '\\' then ['\\', '\\']
  else if c = '\t' then ['\\', 't']
  else if c = '\n' then ['\\', 'n']
  else if c = '\r' then ['\\', 'r']
  else if c = '\x00' then ['\\', '0']
  else if showsAsItself c then [c]
  else ['\\', 'u', '\x7b'] ++ Nat.toDigits 16 c.toNat ++ ['\x7d']

/-- A text between double quotes. -/
def quoted (text : String) : String :=
  String.ofList ('"' :: text.toList.flatMap escaped ++ ['"'])

/-- A list of texts, each between double quotes, in square brackets. -/
def quotedList (texts : List String) : String :=
  "[" ++ ", ".intercalate (texts.map quoted) ++ "]"

/-- A double quote inside a text is written after a backslash. -/
@[simp] theorem escaped_quote : escaped '"' = ['\\', '"'] := rfl

@[simp] theorem quotedList_nil : quotedList [] = "[]" := rfl

end Text
end Syllogistic
