import Syllogistic.Proofs.Text.Cut
import Syllogistic.Token

/-!
# Tokens in one pass

The tokens of a text can be found in one pass over its characters, with a buffer for the
token that is being read, a flag that says whether that token is quoted, and another that
says whether a quote stands open.  The pass finds the tokens that lie between the blanks
outside quotes, and flags just those that hold a quote.
-/

namespace Syllogistic
namespace Token

open Text

/-- A pass over a text in progress. -/
structure Scanner where
  /-- The tokens that have been read, each with its flag. -/
  done : List (Token × Bool)
  /-- The characters of the token that is being read. -/
  buffer : List Char
  /-- That token holds a quote. -/
  quoted : Bool
  /-- A quote stands open. -/
  inside : Bool

/-- A piece as a token, with the flag that says whether it holds a quote. -/
def flagged (piece : List Char) : Token × Bool :=
  (⟨String.ofList piece⟩, piece.contains quoteMark)

namespace Scanner

/-- The pass before the first character. -/
def start : Scanner := ⟨[], [], false, false⟩

/-- The tokens so far, the one in the buffer included unless it is empty. -/
def tokens (scanner : Scanner) : List (Token × Bool) :=
  if scanner.buffer = [] then scanner.done
  else scanner.done ++ [(⟨String.ofList scanner.buffer⟩, scanner.quoted)]

/-- The next character is a quote, or a blank that ends the token, or part of the token. -/
def step (scanner : Scanner) (c : Char) : Scanner :=
  if c = quoteMark then
    { scanner with buffer := scanner.buffer ++ [c], quoted := true, inside := !scanner.inside }
  else if isBlank c && !scanner.inside then
    { scanner with done := scanner.tokens, buffer := [], quoted := false }
  else
    { scanner with buffer := scanner.buffer ++ [c] }

/-- The pass after all characters of a text. -/
def pass (text : List Char) : Scanner :=
  text.foldl step start

/-- The flag of the token that is being read says whether it holds a quote. -/
def Sound (scanner : Scanner) : Prop :=
  scanner.quoted = scanner.buffer.contains quoteMark

variable {scanner : Scanner} {c : Char}

theorem Sound.step (sound : scanner.Sound) (c : Char) : (scanner.step c).Sound := by
  unfold Sound at sound ⊢
  unfold Scanner.step
  split
  · rename_i quote
    simp [quote]
  · rename_i plain
    split
    · rfl
    · simp [sound, Ne.symm plain]

/-- A blank outside quotes ends the token. -/
theorem step_of_outside
    (blanks : isBlank c = true)
    (outside : scanner.inside = false) :
    scanner.step c = ⟨scanner.tokens, [], false, false⟩ := by
  simp [step, ne_quoteMark_of_isBlank blanks, blanks, outside]

/-- Any other character joins the token, and a quote turns the inside out. -/
theorem step_of_passes
    (passes : ¬ (isBlank c = true ∧ c ≠ quoteMark ∧ scanner.inside = false)) :
    (scanner.step c).done = scanner.done ∧ (scanner.step c).buffer = scanner.buffer ++ [c] ∧
      (scanner.step c).inside = (scanner.inside ^^ (c == quoteMark)) := by
  unfold step
  by_cases quote : c = quoteMark
  · simp [quote]
  · have shielded : (isBlank c && !scanner.inside) = false := by
      rw [Bool.eq_false_iff, ne_eq, Bool.and_eq_true, Bool.not_eq_true']
      exact fun outside => passes ⟨outside.1, quote, outside.2⟩
    rw [if_neg quote, shielded, if_neg Bool.false_ne_true, beq_eq_false_iff_ne.2 quote,
      Bool.xor_false]
    exact ⟨rfl, rfl, rfl⟩

/-- A quote stands open after a text just when the text leaves one open. -/
theorem inside_foldl (scanner : Scanner) (text : List Char) :
    (text.foldl step scanner).inside = (scanner.inside ^^ leavesQuoteOpen text) := by
  induction text generalizing scanner with
  | nil => simp
  | cons c rest ih =>
      rw [List.foldl_cons, ih, leavesQuoteOpen_cons, ← Bool.xor_assoc]
      congr 1
      by_cases outside : isBlank c = true ∧ c ≠ quoteMark ∧ scanner.inside = false
      · obtain ⟨blanks, plain, closed⟩ := outside
        rw [step_of_outside blanks closed, closed, beq_eq_false_iff_ne.2 plain]
        rfl
      · exact (step_of_passes outside).2.2

/-- What a sound pass has in its buffer is a token flagged by its quotes, if it is any. -/
theorem Sound.tokens_eq (sound : scanner.Sound) :
    scanner.tokens = scanner.done ++ ([scanner.buffer].filter (· ≠ [])).map flagged := by
  unfold tokens flagged
  rw [sound]
  split
  · rename_i empty
    simp [empty]
  · rename_i inhabited
    simp [inhabited]

/-- A pass reads on to the pieces of what is left, the first of them behind its buffer. -/
theorem Sound.tokens_foldl (sound : scanner.Sound) (text : List Char) :
    (text.foldl Scanner.step scanner).tokens =
      scanner.done ++
        (((cutFrom isBlank scanner.inside text).modifyHead (scanner.buffer ++ ·)).filter
          (· ≠ [])).map flagged := by
  induction text generalizing scanner with
  | nil => simpa using sound.tokens_eq
  | cons c rest ih =>
      rw [List.foldl_cons, ih (sound.step c)]
      by_cases outside : isBlank c = true ∧ c ≠ quoteMark ∧ scanner.inside = false
      · obtain ⟨blanks, plain, closed⟩ := outside
        rw [step_of_outside blanks closed, closed, cutFrom_stop blanks plain, sound.tokens_eq,
          modifyHead_nil_append, List.modifyHead_cons, List.append_nil, List.append_assoc]
        conv_rhs => rw [← List.singleton_append, List.filter_append, List.map_append]
      · obtain ⟨done, buffer, inside⟩ := step_of_passes outside
        rw [done, buffer, inside, cutFrom_cons outside, List.modifyHead_modifyHead]
        simp only [Function.comp_def, List.append_assoc, List.singleton_append]

theorem inside_pass (text : List Char) : (pass text).inside = leavesQuoteOpen text := by
  rw [pass, inside_foldl, start, Bool.false_xor]

/-- One pass over a text finds its tokens, each with the flag that says whether it is quoted. -/
theorem tokens_pass (text : List Char) :
    (pass text).tokens = (split text).map fun token => (token, token.isQuoted) := by
  have sound : start.Sound := rfl
  rw [pass, sound.tokens_foldl, split, List.map_map]
  unfold start
  rw [modifyHead_nil_append, List.nil_append]
  apply List.map_congr_left
  intro piece _
  simp [flagged, isQuoted]

end Scanner

end Token
end Syllogistic
