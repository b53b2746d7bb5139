import Syllogistic.Proofs.Statement.Faults
import Syllogistic.Proofs.Text.Outside
import Syllogistic.Proofs.Token.Scanner

/-!
# Tokens and the blanks between them

The tokens of a text are what the blanks outside quotes leave of it.  Between two tokens
there is at least one such blank, and how many there are, and which, does not matter: the
tokens with any blanks between them have the same tokens again.
-/

namespace Syllogistic
namespace Token

open Text

variable {text gap : List Char} {pieces : List (List Char)} {token : Token} {tokens : List Token}

/-! ## One token -/

/-- No token is empty, and none has a blank outside quotes. -/
theorem ne_nil_and_whole_of_mem_split (member : token ∈ split text) :
    token.text.toList ≠ [] ∧ cutOutsideQuotes isBlank token.text.toList = [token.text.toList] := by
  obtain ⟨piece, kept, rfl⟩ := List.mem_map.1 member
  obtain ⟨among, inhabited⟩ := List.mem_filter.1 kept
  rw [String.toList_ofList]
  exact ⟨by simpa using inhabited, cutOutsideQuotes_of_mem among⟩

/-- A token is the only token of its text. -/
theorem split_of_mem_split (member : token ∈ split text) : split token.text.toList = [token] := by
  obtain ⟨inhabited, whole⟩ := ne_nil_and_whole_of_mem_split member
  rw [split_eq_singleton inhabited whole, String.ofList_toList]

/-! ## Blanks around tokens -/

/-- A text is made of its tokens, each after a gap, and of an ending after all of them. -/
structure Spaced (text : List Char) (tokens : List Token) (gaps : List (List Char))
    (ending : List Char) : Prop where
  /-- There is a gap before every token. -/
  counted : gaps.length = tokens.length
  /-- Gaps and tokens in turn, and the ending, make the text. -/
  whole : (List.zipWith (· ++ ·) gaps (tokens.map (·.text.toList))).flatten ++ ending = text
  /-- The gaps and the ending hold just the blanks outside quotes. -/
  blanks : gaps.flatten ++ ending = outsideStops isBlank text
  /-- Every token but the first comes after a blank. -/
  apart : ∀ gap ∈ gaps.tail, gap ≠ []

/-- The tokens of a text stand in it with gaps between them. -/
theorem exists_spaced (text : List Char) :
    ∃ gaps ending, Spaced text (split text) gaps ending := by
  induction text using cut_induction isBlank with
  | whole text alone =>
      have none := outsideStops_eq_nil_iff.2 alone
      by_cases empty : text = []
      · rw [empty]
        exact ⟨[], [], rfl, rfl, rfl, by simp⟩
      · rw [split_eq_singleton empty alone]
        exact ⟨[[]], [], rfl, by simp, by simp [none], by simp⟩
  | divided left c right blanks plain closed leftSpaced rightSpaced =>
      obtain ⟨leftGaps, leftEnding, leftCount, leftWhole, leftBlanks, leftApart⟩ := leftSpaced
      obtain ⟨rightGaps, rightEnding, rightCount, rightWhole, rightBlanks, rightApart⟩ :=
        rightSpaced
      have stops := outsideStops_append_stop blanks plain closed right
      rw [split_append_blank blanks closed]
      cases rightGaps with
      | nil =>
          -- There is no token on the right, so all of it belongs to the ending.
          have none : split right = [] := List.eq_nil_of_length_eq_zero rightCount.symm
          rw [none, List.append_nil]
          refine ⟨leftGaps, leftEnding ++ c :: rightEnding, leftCount, ?_, ?_, leftApart⟩
          · rw [← List.append_assoc, leftWhole, ← rightWhole]
            rfl
          · rw [stops, ← leftBlanks, ← rightBlanks, List.append_assoc]
            rfl
      | cons gap others =>
          -- The ending of the left and the stop come before the first token on the right.
          obtain ⟨first, rest, tokens⟩ := List.exists_cons_of_length_eq_add_one rightCount.symm
          rw [tokens] at rightWhole rightCount ⊢
          refine ⟨leftGaps ++ (leftEnding ++ c :: gap) :: others, rightEnding, ?_, ?_, ?_, ?_⟩
          · rw [List.length_append, List.length_append, leftCount, List.length_cons,
              List.length_cons, ← List.length_cons, rightCount, List.length_cons]
          · rw [List.map_append, List.zipWith_append (by simpa using leftCount),
              List.flatten_append]
            conv_rhs => rw [← leftWhole, ← rightWhole]
            simp
          · rw [stops, ← leftBlanks, ← rightBlanks]
            simp
          · intro between member
            cases leftGaps with
            | nil => exact rightApart between member
            | cons lead more =>
                rcases List.mem_append.1 member with before | behind
                · exact leftApart between before
                · rcases List.mem_cons.1 behind with rfl | later
                  · simp
                  · exact rightApart between later

/-! ## Tokens put together -/

theorem leavesQuoteOpen_intercalate
    (gapClosed : leavesQuoteOpen gap = false)
    (closed : ∀ piece ∈ pieces, leavesQuoteOpen piece = false) :
    leavesQuoteOpen (gap.intercalate pieces) = false := by
  induction pieces with
  | nil => simp
  | cons piece rest ih =>
      rw [List.forall_mem_cons] at closed
      by_cases last : rest = []
      · rw [last, List.intercalate_singleton, closed.1]
      · rw [List.intercalate_cons_of_ne_nil last, leavesQuoteOpen_append, leavesQuoteOpen_append,
          closed.1, gapClosed, ih closed.2]
        rfl

/-- Tokens with the same blanks between neighbours are the tokens of the text that they make. -/
theorem split_intercalate
    (inhabited : gap ≠ [])
    (blanks : ∀ c ∈ gap, isBlank c = true)
    (tokensOnly : ∀ token ∈ tokens, split token.text.toList = [token])
    (closed : ∀ token ∈ tokens, leavesQuoteOpen token.text.toList = false) :
    split (gap.intercalate (tokens.map (·.text.toList))) = tokens := by
  induction tokens with
  | nil => simp
  | cons token rest ih =>
      rw [List.forall_mem_cons] at tokensOnly closed
      by_cases last : rest = []
      · simp [last, tokensOnly.1]
      · obtain ⟨blank, others, rfl⟩ := List.exists_cons_of_ne_nil inhabited
        rw [List.forall_mem_cons] at blanks
        rw [List.map_cons, List.intercalate_cons_of_ne_nil (mt List.map_eq_nil_iff.1 last),
          List.append_assoc, List.cons_append, split_append_blank blanks.1 closed.1,
          split_blanks_append blanks.2, tokensOnly.1, ih tokensOnly.2 closed.2,
          List.singleton_append]

/-- What the blanks outside quotes leave of a text are its tokens. -/
theorem flatten_split (text : List Char) :
    ((split text).map (·.text.toList)).flatten = dropOutsideStops isBlank text := by
  induction text using cut_induction isBlank with
  | whole text alone =>
      rw [dropOutsideStops_of_whole alone]
      by_cases empty : text = []
      · simp [empty]
      · simp [split_eq_singleton empty alone]
  | divided left c right blanks plain closed leftTokens rightTokens =>
      rw [split_append_blank blanks closed, dropOutsideStops_append_stop blanks plain closed,
        List.map_append, List.flatten_append, leftTokens, rightTokens]

/--
A clause has tokens just when its quotes are even in number.  No token is empty, each closes
its quotes, has no blank outside them, and is quoted when it holds one; one pass over the
clause finds the same tokens with these flags.  Together the tokens are the clause without
its blanks outside quotes, and such blanks stand between any two.  With any blanks between
them the tokens are those of the text that they make.
-/
theorem scan_finds_tokens (clause : String) :
    ((∃ fault, scan clause = .error fault) ↔ Odd (clause.toList.count quoteMark)) ∧
    (Odd (clause.toList.count quoteMark) →
      (Scanner.pass clause.toList).inside = true ∧
        scan clause = .error (.unclosedQuote (trimmed clause))) ∧
    (Even (clause.toList.count quoteMark) → ∃ tokens, scan clause = .ok tokens ∧
      (∀ token ∈ tokens, token.text ≠ "" ∧ Even (token.text.toList.count quoteMark) ∧
        outsideStops isBlank token.text.toList = [] ∧
          (token.isQuoted = true ↔ quoteMark ∈ token.text.toList)) ∧
      (Scanner.pass clause.toList).inside = false ∧
      (Scanner.pass clause.toList).tokens = tokens.map (fun token => (token, token.isQuoted)) ∧
      (String.join (tokens.map Token.text)).toList = dropOutsideStops isBlank clause.toList ∧
      (∃ gaps ending, Spaced clause.toList tokens gaps ending) ∧
      ∀ gap : String, gap ≠ "" → (∀ c ∈ gap.toList, isBlank c = true) →
        scan (gap.intercalate (tokens.map Token.text)) = .ok tokens) := by
  refine ⟨?_, fun opened => ?_, fun even => ?_⟩
  · simp only [scan_eq_error_iff, exists_and_left, exists_eq, and_true]
  · refine ⟨?_, scan_eq_error_iff.2 ⟨opened, rfl⟩⟩
    rw [Scanner.inside_pass, ← Bool.not_eq_false, leavesQuoteOpen_eq_false_iff,
      Nat.not_even_iff_odd]
    exact opened
  · have closed := leavesQuoteOpen_eq_false_iff.2 even
    refine ⟨split clause.toList, Statement.scan_eq_ok_iff.2 ⟨even, rfl⟩, ?_, ?_, ?_, ?_, ?_, ?_⟩
    · intro token member
      obtain ⟨inhabited, whole⟩ := ne_nil_and_whole_of_mem_split member
      refine ⟨?_, ?_, outsideStops_eq_nil_iff.2 whole, ?_⟩
      · simpa using inhabited
      · exact leavesQuoteOpen_eq_false_iff.1 (leavesQuoteOpen_of_mem_split closed member)
      · simp [isQuoted]
    · rw [Scanner.inside_pass, closed]
    · exact Scanner.tokens_pass clause.toList
    · rw [String.toList_join, List.flatMap_map, ← flatten_split]
      rfl
    · exact exists_spaced clause.toList
    · intro gap inhabited blanks
      have gapClosed := leavesQuoteOpen_of_blanks blanks
      rw [Statement.scan_eq_ok_iff, ← leavesQuoteOpen_eq_false_iff, String.toList_intercalate,
        List.map_map]
      constructor
      · apply leavesQuoteOpen_intercalate gapClosed
        rw [List.forall_mem_map]
        exact fun token member => leavesQuoteOpen_of_mem_split closed member
      · apply split_intercalate (by simpa using inhabited) blanks
        · exact fun token member => split_of_mem_split member
        · exact fun token member => leavesQuoteOpen_of_mem_split closed member

/-- Runs in quotes and out of them make one token until a blank comes that is outside quotes. -/
theorem scan_finds_tokens_of_mixed_runs :
    let clause := " a\"b c\"d\t\"is\" e"
    let tokens : List Token := [⟨"a\"b c\"d"⟩, ⟨"\"is\""⟩, ⟨"e"⟩]
    Even (clause.toList.count quoteMark) ∧ scan clause = .ok tokens ∧
      (Scanner.pass clause.toList).tokens = tokens.zip [true, true, false] ∧
      scan ("\n ".intercalate (tokens.map Token.text)) = .ok tokens := by
  intro clause tokens
  have closed : Even (clause.toList.count quoteMark) := by decide +kernel
  obtain ⟨found, scanned, _, _, passed, _, _, again⟩ := (scan_finds_tokens clause).2.2 closed
  have expected : scan clause = .ok tokens := by decide +kernel
  cases scanned.symm.trans expected
  have blanks : ∀ c ∈ "\n ".toList, isBlank c = true := List.all_eq_true.1 (by decide +kernel)
  refine ⟨closed, expected, ?_, again "\n " (by decide) blanks⟩
  rw [passed]
  decide +kernel

end Token
end Syllogistic
