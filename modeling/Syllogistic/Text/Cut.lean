/-!
# Cutting a text outside quotes

A double quote opens a quoted stretch and the next one closes it.  A text is cut
at each stop character that stands outside every quoted stretch; a double quote
never is a stop, whatever the class of stops.
-/

namespace Syllogistic
namespace Text

/-- The double quote, which opens and closes quoted stretches. -/
def quoteMark : Char := '"'

/-- A text whose last quoted stretch is never closed has an odd number of quotes. -/
def leavesQuoteOpen (text : List Char) : Bool :=
  text.count quoteMark % 2 == 1

/--
The pieces of a text between its stops outside quotes, empty pieces included.
The flag says whether the text begins inside a quoted stretch.
-/
def cutFrom (stop : Char → Bool) : Bool → List Char → List (List Char)
  | _, [] => [[]]
  | inside, c :: rest =>
      if c = quoteMark then
        (cutFrom stop (!inside) rest).modifyHead (c :: ·)
      else if stop c && !inside then
        [] :: cutFrom stop inside rest
      else
        (cutFrom stop inside rest).modifyHead (c :: ·)

/-- The pieces of a text between its stops outside quotes, empty pieces included. -/
def cutOutsideQuotes (stop : Char → Bool) (text : List Char) : List (List Char) :=
  cutFrom stop false text

@[simp] theorem cutFrom_nil (stop : Char → Bool) (inside : Bool) :
    cutFrom stop inside [] = [[]] := rfl

/-- A quote joins the first piece and turns the inside out. -/
@[simp] theorem cutFrom_quote (stop : Char → Bool) (inside : Bool) (rest : List Char) :
    cutFrom stop inside (quoteMark :: rest) =
      (cutFrom stop (!inside) rest).modifyHead (quoteMark :: ·) := by
  simp [cutFrom]

/-- Cutting yields at least one piece. -/
theorem cutFrom_ne_nil (stop : Char → Bool) (inside : Bool) (text : List Char) :
    cutFrom stop inside text ≠ [] := by
  fun_induction cutFrom stop inside text <;> simp_all

end Text
end Syllogistic
