import Syllogistic.Name
import Syllogistic.Proofs.Text.Cut
import Syllogistic.Proofs.Text.Words

/-!
# Canonical names and their display

A canonical name is settled: it is in upper case and has one space between its words.
A settled name of one word is shown as a possessive, and its canonical form is the name
again.  Several words are shown in quotes, which come off again, but a possessive ending
of the name then comes off as well.  So a settled name is its own canonical form unless it
stands in quotes or ends in a possessive.
-/

namespace Syllogistic
namespace Name

open Text

variable {text stem : List Char} {mark ending : Char}

/-! ## Possessives -/

/-- The text ends in an apostrophe and an `s` of either case. -/
def EndsInPossessive (text : List Char) : Prop :=
  ∃ stem mark ending, text = stem ++ [mark, ending] ∧ isApostrophe mark = true ∧
    (ending = 's' ∨ ending = 'S')

/-- A possessive ending comes off. -/
theorem dropPossessive_append
    (apostrophe : isApostrophe mark = true)
    (letter : ending = 's' ∨ ending = 'S')
    (stem : List Char) :
    dropPossessive (stem ++ [mark, ending]) = stem := by
  rcases letter with rfl | rfl <;> simp [dropPossessive, apostrophe]

/-- Any other text stays as it is. -/
theorem dropPossessive_eq_self (plain : ¬ EndsInPossessive text) : dropPossessive text = text := by
  unfold dropPossessive
  split
  · rename_i ending mark stem reversed
    split
    · rename_i possessive
      rw [Bool.and_eq_true, Bool.or_eq_true, beq_iff_eq, beq_iff_eq] at possessive
      refine absurd ⟨stem.reverse, mark, ending, ?_, possessive.2, possessive.1⟩ plain
      rw [← List.reverse_reverse text, reversed]
      simp
    · rfl
  · rfl

theorem dropPossessive_eq_self_iff : dropPossessive text = text ↔ ¬ EndsInPossessive text := by
  refine ⟨?_, dropPossessive_eq_self⟩
  rintro same ⟨stem, mark, ending, rfl, apostrophe, letter⟩
  rw [dropPossessive_append apostrophe letter] at same
  simpa using congrArg List.length same

instance (text : List Char) : Decidable (EndsInPossessive text) :=
  decidable_of_iff (¬ dropPossessive text = text) (by
    rw [dropPossessive_eq_self_iff, Classical.not_not])

/-! ## Settled names -/

/-- A text in upper case with one space between its words. -/
structure Settled (text : List Char) : Prop where
  upper : upper text = text
  joined : joinWords text = text

theorem joinWords_joinWords (text : List Char) : joinWords (joinWords text) = joinWords text := by
  unfold joinWords
  rw [words_intercalate (fun word member => ne_nil_of_mem_words member)
    fun word member => blankFree_of_mem_words member]

/-- The joined words of an upper-case form are the upper-case form of the joined words. -/
theorem joinWords_upper (text : List Char) : joinWords (upper text) = upper (joinWords text) := by
  unfold joinWords
  rw [words_upper]
  induction words text with
  | nil => rfl
  | cons word rest ih =>
      by_cases last : rest = []
      · simp [last]
      · have more : rest.map upper ≠ [] := by simpa using last
        have space : upper [' '] = [' '] := by decide
        rw [List.map_cons, List.intercalate_cons_of_ne_nil more, ih,
          List.intercalate_cons_of_ne_nil last, upper_append, upper_append, space]

/-- A canonical form is settled. -/
theorem settled_canonicalChars (text : List Char) : Settled (canonicalChars text) where
  upper := upper_upper _
  joined := by
    unfold canonicalChars
    rw [joinWords_upper, joinWords_joinWords]

theorem settled_canonical (text : String) : Settled (canonical text).toList := by
  rw [toList_canonical]
  exact settled_canonicalChars _

/-- There are no blanks around a settled text. -/
theorem Settled.trim_eq (settled : Settled text) : trim text = text := by
  rw [← settled.joined]
  exact trim_intercalate (fun _ member => ne_nil_of_mem_words member)
    fun _ member => blankFree_of_mem_words member

/-- Joining the words of a text keeps its ink. -/
theorem ink_joinWords (text : List Char) : ink (joinWords text) = ink text := by
  unfold joinWords
  rw [ink_intercalate, flatten_words, ink_ink]

/-! ## Quotes -/

/-- A pair of quotes comes off, or the text stays as it is. -/
theorem unquote_cases (text : List Char) :
    (∃ inner, text = quoteMark :: (inner ++ [quoteMark]) ∧ unquote text = inner) ∨
      unquote text = text := by
  rcases text with _ | ⟨first, rest⟩
  · exact .inr rfl
  · by_cases enclosed : first = quoteMark ∧ rest.getLast? = some quoteMark
    · obtain ⟨rfl, last⟩ := enclosed
      refine .inl ⟨rest.dropLast, by rw [List.dropLast_append_getLast? _ last], ?_⟩
      simp [unquote, last]
    · right
      rw [unquote, if_neg]
      simpa using enclosed

theorem getLast?_quoted (text : List Char) :
    (quoteMark :: (text ++ [quoteMark])).getLast? = some quoteMark := by
  rw [← List.cons_append, List.getLast?_concat]

/-- A text that does not end in a quote keeps its quotes. -/
theorem unquote_eq_self (closes : text.getLast? ≠ some quoteMark) : unquote text = text := by
  rcases unquote_cases text with ⟨inner, rfl, _⟩ | same
  · exact absurd (getLast?_quoted inner) closes
  · exact same

theorem ne_quoteMark_of_isApostrophe (apostrophe : isApostrophe mark = true) :
    mark ≠ quoteMark := by
  rintro rfl
  contradiction

theorem isBlank_of_isApostrophe (apostrophe : isApostrophe mark = true) :
    isBlank mark = false := by
  rw [isApostrophe, Bool.or_eq_true, beq_iff_eq, beq_iff_eq] at apostrophe
  rcases apostrophe with rfl | rfl <;> rfl

@[simp] theorem leavesQuoteOpen_upper (text : List Char) :
    leavesQuoteOpen (upper text) = leavesQuoteOpen text := by
  unfold leavesQuoteOpen
  rw [count_quote_upper]

@[simp] theorem leavesQuoteOpen_unquote (text : List Char) :
    leavesQuoteOpen (unquote text) = leavesQuoteOpen text := by
  rcases unquote_cases text with ⟨inner, rfl, same⟩ | same
  · rw [same]
    simp
  · rw [same]

@[simp] theorem leavesQuoteOpen_dropPossessive (text : List Char) :
    leavesQuoteOpen (dropPossessive text) = leavesQuoteOpen text := by
  by_cases possessive : EndsInPossessive text
  · obtain ⟨stem, mark, ending, rfl, apostrophe, letter⟩ := possessive
    have plainMark := beq_eq_false_iff_ne.2 (ne_quoteMark_of_isApostrophe apostrophe)
    have plainEnding : (ending == quoteMark) = false := by rcases letter with rfl | rfl <;> rfl
    rw [dropPossessive_append apostrophe letter]
    simp [plainMark, plainEnding]
  · rw [dropPossessive_eq_self possessive]

/-- A canonical form leaves a quote open just where the written name does. -/
theorem leavesQuoteOpen_canonicalChars (text : List Char) :
    leavesQuoteOpen (canonicalChars text) = leavesQuoteOpen text := by
  unfold canonicalChars
  rw [leavesQuoteOpen_upper, leavesQuoteOpen_of_ink (ink_joinWords _),
    leavesQuoteOpen_dropPossessive, leavesQuoteOpen_unquote, leavesQuoteOpen_of_ink (ink_trim _)]

/-! ## Display -/

/-- The possessive of a text without blanks has none. -/
theorem blankFree_possessive (free : BlankFree text) : BlankFree (text ++ ['\x27', 's']) := by
  intro c member
  rw [List.mem_append] at member
  rcases member with name | ending
  · exact free c name
  · have plain : BlankFree ['\x27', 's'] := by decide
    exact plain c ending

/-- The possessive of a settled name of one word names the set again. -/
theorem canonicalChars_possessive
    (settled : Settled text)
    (free : BlankFree text) :
    canonicalChars (text ++ ['\x27', 's']) = text := by
  have unquoted : unquote (text ++ ['\x27', 's']) = text ++ ['\x27', 's'] := by
    apply unquote_eq_self
    simp
    decide
  have stem : dropPossessive (text ++ ['\x27', 's']) = text :=
    dropPossessive_append rfl (.inl rfl) text
  rw [canonicalChars, trim_of_blankFree (blankFree_possessive free), unquoted, stem,
    settled.joined, settled.upper]

/-- The quotes around a name come off, and then its possessive ending, if it has one. -/
theorem canonicalChars_quoted (text : List Char) :
    canonicalChars (quoteMark :: (text ++ [quoteMark])) =
      upper (joinWords (dropPossessive text)) := by
  have trimmed : trim (quoteMark :: (text ++ [quoteMark])) =
      quoteMark :: (text ++ [quoteMark]) := by
    apply trim_eq_self
    · rintro c ⟨⟩
      rfl
    · rw [getLast?_quoted]
      rintro c ⟨⟩
      rfl
  rw [canonicalChars, trimmed, unquote_enclosed]

/-- Without its possessive ending a settled text is another, and it stays the same if it has none. -/
theorem Settled.upper_joinWords_dropPossessive_eq_self_iff (settled : Settled text) :
    Text.upper (joinWords (dropPossessive text)) = text ↔ ¬ EndsInPossessive text := by
  constructor
  · rintro same ⟨stem, mark, ending, rfl, apostrophe, letter⟩
    have upperStem : Text.upper stem = stem := by
      rw [upper_eq_self_iff]
      intro c member
      exact upper_eq_self_iff.1 settled.upper c (List.mem_append_left _ member)
    have inked : ink [mark, ending] = [mark, ending] := by
      have plainMark := isBlank_of_isApostrophe apostrophe
      have plainEnding : isBlank ending = false := by rcases letter with rfl | rfl <;> rfl
      simp [ink, plainMark, plainEnding]
    -- Joining words removes no ink, and the ending is ink.
    rw [dropPossessive_append apostrophe letter, ← joinWords_upper, upperStem] at same
    have lengths := congrArg (List.length ∘ ink) same
    rw [Function.comp_apply, Function.comp_apply, ink_joinWords, ink_append, inked] at lengths
    simp at lengths
  · intro plain
    rw [dropPossessive_eq_self plain, settled.joined, settled.upper]

/-- A settled name in quotes names the set again just if it does not end in a possessive. -/
theorem canonicalChars_quoted_eq_self_iff (settled : Settled text) :
    canonicalChars (quoteMark :: (text ++ [quoteMark])) = text ↔ ¬ EndsInPossessive text := by
  rw [canonicalChars_quoted, settled.upper_joinWords_dropPossessive_eq_self_iff]

/-! ## Names read twice -/

/-- The text stands in a pair of quotes. -/
def Enclosed (text : List Char) : Prop :=
  ∃ inner, text = quoteMark :: (inner ++ [quoteMark])

theorem unquote_eq_self_iff : unquote text = text ↔ ¬ Enclosed text := by
  constructor
  · rintro same ⟨inner, rfl⟩
    rw [unquote_enclosed] at same
    have lengths := congrArg List.length same
    rw [List.length_cons, List.length_append, List.length_singleton] at lengths
    omega
  · intro bare
    rcases unquote_cases text with ⟨inner, same, _⟩ | same
    · exact absurd ⟨inner, same⟩ bare
    · exact same

instance (text : List Char) : Decidable (Enclosed text) :=
  decidable_of_iff (¬ unquote text = text) (by rw [unquote_eq_self_iff, Classical.not_not])

theorem dropPossessive_sublist (text : List Char) : (dropPossessive text).Sublist text := by
  by_cases possessive : EndsInPossessive text
  · obtain ⟨stem, mark, ending, rfl, apostrophe, letter⟩ := possessive
    rw [dropPossessive_append apostrophe letter]
    exact List.sublist_append_left stem _
  · rw [dropPossessive_eq_self possessive]

/-- A settled name is its own canonical form unless quotes or a possessive ending come off it. -/
theorem Settled.canonicalChars_eq_self_iff (settled : Settled text) :
    canonicalChars text = text ↔ ¬ Enclosed text ∧ ¬ EndsInPossessive text := by
  by_cases enclosed : Enclosed text
  · obtain ⟨inner, rfl⟩ := enclosed
    -- The two quotes come off, and no other step brings a quote in.
    have fewer : (canonicalChars (quoteMark :: (inner ++ [quoteMark]))).count quoteMark ≤
        inner.count quoteMark := by
      rw [canonicalChars_quoted, count_quote_upper, ← count_quote_ink, ink_joinWords,
        count_quote_ink]
      exact (dropPossessive_sublist inner).count_le quoteMark
    refine iff_of_false (fun same => ?_) fun bare => bare.1 ⟨inner, rfl⟩
    rw [same, List.count_cons_self, List.count_append] at fewer
    omega
  · rw [canonicalChars, settled.trim_eq, unquote_eq_self_iff.2 enclosed,
      settled.upper_joinWords_dropPossessive_eq_self_iff]
    exact (and_iff_right enclosed).symm

theorem canonical_eq_self_iff {name : String} (settled : Settled name.toList) :
    canonical name = name ↔ ¬ Enclosed name.toList ∧ ¬ EndsInPossessive name.toList := by
  rw [← settled.canonicalChars_eq_self_iff, ← toList_canonical, String.toList_inj]

end Name
end Syllogistic
