import Syllogistic.Proofs.Text.Cut
import Syllogistic.Proofs.Text.Words
import Syllogistic.Token

/-!
# Tokens of texts put together

Where two texts meet at a blank, and the first has closed its quotes, the tokens of the
first are followed by those of the second.  A token with a quote or an apostrophe in it
is no keyword.
-/

namespace Syllogistic
namespace Token

open Text

variable {text left : List Char} {blank : Char} {token : Token}

/-- The tokens on both sides of a blank outside quotes are the tokens of the text. -/
theorem split_append_blank
    (blanks : isBlank blank = true)
    (closed : leavesQuoteOpen left = false)
    (right : List Char) :
    split (left ++ blank :: right) = split left ++ split right := by
  unfold split
  rw [cutOutsideQuotes_append_stop blanks (ne_quoteMark_of_isBlank blanks) closed,
    List.filter_append, List.map_append]

/-- A blank in front belongs to no token. -/
theorem split_cons_blank (blanks : isBlank blank = true) (text : List Char) :
    split (blank :: text) = split text :=
  split_append_blank blanks leavesQuoteOpen_nil text

theorem split_blanks_append
    {blanks : List Char}
    (blank : ∀ c ∈ blanks, isBlank c = true)
    (text : List Char) :
    split (blanks ++ text) = split text := by
  induction blanks with
  | nil => rfl
  | cons c rest ih =>
      rw [List.forall_mem_cons] at blank
      exact (split_cons_blank blank.1 _).trans (ih blank.2)

theorem split_of_blanks (blank : ∀ c ∈ text, isBlank c = true) : split text = [] := by
  have nothing := split_blanks_append blank []
  rwa [List.append_nil, split_nil] at nothing

theorem split_append_blanks
    {blanks : List Char}
    (blank : ∀ c ∈ blanks, isBlank c = true)
    (closed : leavesQuoteOpen text = false) :
    split (text ++ blanks) = split text := by
  cases blanks with
  | nil => rw [List.append_nil]
  | cons c rest =>
      rw [List.forall_mem_cons] at blank
      rw [split_append_blank blank.1 closed, split_of_blanks blank.2, List.append_nil]

/-- Blanks around a text with closed quotes are no part of its tokens. -/
theorem split_trim (closed : leavesQuoteOpen text = false) : split (trim text) = split text := by
  obtain ⟨before, behind, same, blanksBefore, blanksBehind⟩ := exists_append_trim text
  have inner : leavesQuoteOpen (trim text) = false :=
    (leavesQuoteOpen_of_ink (ink_trim text)).trans closed
  conv_rhs =>
    rw [same, split_blanks_append blanksBefore, split_append_blanks blanksBehind inner]

/-- A text with all its blanks in quotes is one token. -/
theorem split_eq_singleton
    (inhabited : text ≠ [])
    (whole : cutOutsideQuotes isBlank text = [text]) :
    split text = [⟨String.ofList text⟩] := by
  unfold split
  rw [whole]
  simp [inhabited]

/-- A text without blanks is one token, if it is any. -/
theorem split_of_blankFree
    (inhabited : text ≠ [])
    (free : BlankFree text) :
    split text = [⟨String.ofList text⟩] := by
  apply split_eq_singleton inhabited
  apply cutFrom_eq_singleton
  rintro left blank right rfl blanks
  rw [free blank (List.mem_append_right _ List.mem_cons_self)] at blanks
  contradiction

/-- A text that is not all blank has a token. -/
theorem split_ne_nil (inked : ink text ≠ []) : split text ≠ [] := by
  induction text using cut_induction isBlank with
  | whole text alone =>
      have inhabited : text ≠ [] := by
        rintro rfl
        exact inked rfl
      rw [split_eq_singleton inhabited alone]
      exact List.cons_ne_nil _ _
  | divided left blank right blanks _ closed leftTokens rightTokens =>
      have dry : ink [blank] = [] := ink_of_isAllBlank (by simpa using blanks)
      rw [List.append_cons, ink_append, ink_append, dry, List.append_nil] at inked
      rw [split_append_blank blanks closed]
      by_cases leftInk : ink left = []
      · rw [leftInk, List.nil_append] at inked
        exact List.append_ne_nil_of_right_ne_nil _ (rightTokens inked)
      · exact List.append_ne_nil_of_left_ne_nil (leftTokens leftInk) _

/-- Every token of a text with closed quotes has closed quotes. -/
theorem leavesQuoteOpen_of_mem_split
    (closed : leavesQuoteOpen text = false)
    (member : token ∈ split text) :
    leavesQuoteOpen token.text.toList = false := by
  obtain ⟨piece, kept, rfl⟩ := List.mem_map.1 member
  rw [String.toList_ofList]
  exact leavesQuoteOpen_of_mem_cutOutsideQuotes closed (List.mem_filter.1 kept).1

/-- A token is not a word that lacks one of its characters. -/
theorem isWord_eq_false_of_mem
    {word : String}
    {c : Char}
    (member : c ∈ token.text.toList)
    (foreign : c.toLower ∉ word.toList.map Char.toLower) :
    token.isWord word = false := by
  have different : sameWord token.text word = false := by
    unfold sameWord
    rw [beq_eq_false_iff_ne]
    intro same
    rw [← same] at foreign
    exact foreign (List.mem_map_of_mem member)
  rw [isWord, different, Bool.and_false]

/-- A token with a character that no keyword holds is no keyword. -/
theorem isReserved_eq_false_of_mem
    {c : Char}
    (member : c ∈ token.text.toList)
    (foreign : ∀ word ∈ ["is", "are", "not", "some", "all"],
      c.toLower ∉ word.toList.map Char.toLower) :
    token.isReserved = false := by
  have noWord : ∀ word ∈ ["is", "are", "not", "some", "all"], token.isWord word = false :=
    fun word listed => isWord_eq_false_of_mem member (foreign word listed)
  unfold isReserved isCopula isNegation
  simp only [List.forall_mem_cons] at noWord
  obtain ⟨isIs, isAre, isNot, isSome, isAll, _⟩ := noWord
  simp only [isIs, isAre, isNot, isSome, isAll, Bool.or_false]

end Token
end Syllogistic
