/-!
# Blank characters

A character is blank when it has the Unicode property `White_Space`.  Trimming
and the cutting of a text into words both go by this class, so a no-break space
separates words while a zero-width space does not.
-/

namespace Syllogistic
namespace Text

/-- Membership in the property `White_Space`, whose 25 characters form ten ranges. -/
def isBlank (c : Char) : Bool :=
  let n := c.toNat
  (0x09 ≤ n && n ≤ 0x0D) || n == 0x20 || n == 0x85 || n == 0xA0 || n == 0x1680 ||
    (0x2000 ≤ n && n ≤ 0x200A) || n == 0x2028 || n == 0x2029 || n == 0x202F ||
    n == 0x205F || n == 0x3000

/-- A text that holds nothing but blanks. -/
def isAllBlank (text : List Char) : Bool :=
  text.all isBlank

/-- The text after its leading blanks. -/
def trimLeft (text : List Char) : List Char :=
  text.dropWhile isBlank

/-- The text before its trailing blanks. -/
def trimRight (text : List Char) : List Char :=
  (trimLeft text.reverse).reverse

/-- The text between its leading and its trailing blanks. -/
def trim (text : List Char) : List Char :=
  trimRight (trimLeft text)

/-- A string without its leading and trailing blanks. -/
def trimmed (text : String) : String :=
  String.ofList (trim text.toList)

/-- The maximal blank-free stretches of a text, in order. -/
def words (text : List Char) : List (List Char) :=
  (text.splitOnP isBlank).filter (· ≠ [])

/-- Every character that the core library counts as white space is blank. -/
theorem isBlank_of_isWhitespace {c : Char} (white : c.isWhitespace = true) :
    isBlank c = true := by
  simp only [Char.isWhitespace, Bool.or_eq_true, decide_eq_true_eq] at white
  rcases white with ((rfl | rfl) | rfl) | rfl <;> decide

@[simp] theorem trim_nil : trim [] = [] := rfl

@[simp] theorem words_nil : words [] = [] := by
  simp [words]

/-- No word is empty. -/
theorem ne_nil_of_mem_words {text word : List Char} (member : word ∈ words text) :
    word ≠ [] := by
  have kept := List.mem_filter.1 member
  simpa using kept.2

end Text
end Syllogistic
