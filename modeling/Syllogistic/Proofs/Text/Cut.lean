import Mathlib.Algebra.Group.Nat.Even
import Syllogistic.Text.Blank
import Syllogistic.Text.Cut

/-!
# Pieces outside quotes

A text is cut at its first stop outside quotes, if it has one, and then on both sides
of it, for the stretch before such a stop has closed all its quotes.  Facts about the
pieces of a text are proved along this division.
-/

namespace Syllogistic
namespace Text

variable {stop : Char → Bool} {left right text : List Char} {c : Char}

/-! ## Open quotes -/

@[simp] theorem leavesQuoteOpen_nil : leavesQuoteOpen [] = false := rfl

/-- A quote turns over whether a text leaves a quote open. -/
@[simp] theorem leavesQuoteOpen_cons (c : Char) (rest : List Char) :
    leavesQuoteOpen (c :: rest) = ((c == quoteMark) ^^ leavesQuoteOpen rest) := by
  unfold leavesQuoteOpen
  rw [List.count_cons, Bool.eq_iff_iff]
  cases c == quoteMark
  · simp
  · simp
    omega

@[simp] theorem leavesQuoteOpen_append (left right : List Char) :
    leavesQuoteOpen (left ++ right) = (leavesQuoteOpen left ^^ leavesQuoteOpen right) := by
  induction left with
  | nil => simp
  | cons c rest ih => simp [ih]

theorem ne_quoteMark_of_isBlank (blanks : isBlank c = true) : c ≠ quoteMark := by
  rintro rfl
  contradiction

/-- A blank neither opens nor closes a quote. -/
theorem leavesQuoteOpen_cons_blank (blanks : isBlank c = true) (text : List Char) :
    leavesQuoteOpen (c :: text) = leavesQuoteOpen text := by
  rw [leavesQuoteOpen_cons, beq_eq_false_iff_ne.2 (ne_quoteMark_of_isBlank blanks), Bool.false_xor]

/-- A blank between two texts neither opens nor closes a quote. -/
theorem leavesQuoteOpen_append_blank (blanks : isBlank c = true) (left right : List Char) :
    leavesQuoteOpen (left ++ c :: right) = (leavesQuoteOpen left ^^ leavesQuoteOpen right) := by
  rw [leavesQuoteOpen_append, leavesQuoteOpen_cons_blank blanks]

theorem leavesQuoteOpen_eq_false_iff :
    leavesQuoteOpen text = false ↔ Even (text.count quoteMark) := by
  unfold leavesQuoteOpen
  rw [Nat.even_iff, beq_eq_false_iff_ne, Nat.mod_two_ne_one]

/-! ## Pieces -/

theorem modifyHead_nil_append (pieces : List (List Char)) :
    pieces.modifyHead ([] ++ ·) = pieces := by
  cases pieces <;> rfl

/-- An outside stop ends the piece before it, and the next one begins behind it. -/
theorem cutFrom_stop
    (stops : stop c = true)
    (unquoted : c ≠ quoteMark)
    (right : List Char) :
    cutFrom stop false (c :: right) = [] :: cutFrom stop false right := by
  simp [cutFrom, unquoted, stops]

/-- Any other character joins the first piece. -/
theorem cutFrom_cons
    {inside : Bool}
    (passes : ¬ (stop c = true ∧ c ≠ quoteMark ∧ inside = false))
    (rest : List Char) :
    cutFrom stop inside (c :: rest) =
      (cutFrom stop (inside ^^ (c == quoteMark)) rest).modifyHead (c :: ·) := by
  by_cases quote : c = quoteMark
  · simp [quote]
  · have shielded : (stop c && !inside) = false := by
      rw [Bool.eq_false_iff, ne_eq, Bool.and_eq_true, Bool.not_eq_true']
      exact fun stopped => passes ⟨stopped.1, quote, stopped.2⟩
    rw [cutFrom, if_neg quote, shielded, if_neg Bool.false_ne_true, beq_eq_false_iff_ne.2 quote,
      Bool.xor_false]

/-- The pieces before an outside stop and the pieces behind it are the pieces of the text. -/
theorem cutFrom_append_stop
    (stops : stop c = true)
    (unquoted : c ≠ quoteMark)
    {inside : Bool}
    (closed : (inside ^^ leavesQuoteOpen left) = false)
    (right : List Char) :
    cutFrom stop inside (left ++ c :: right) =
      cutFrom stop inside left ++ cutFrom stop false right := by
  induction left generalizing inside with
  | nil =>
      rw [leavesQuoteOpen_nil, Bool.xor_false] at closed
      rw [closed, List.nil_append, cutFrom_stop stops unquoted, cutFrom_nil, List.singleton_append]
  | cons d rest ih =>
      rw [leavesQuoteOpen_cons, ← Bool.xor_assoc] at closed
      rw [List.cons_append]
      by_cases outside : stop d = true ∧ d ≠ quoteMark ∧ inside = false
      · obtain ⟨earlier, plain, rfl⟩ := outside
        rw [beq_eq_false_iff_ne.2 plain, Bool.xor_false] at closed
        rw [cutFrom_stop earlier plain, cutFrom_stop earlier plain, ih closed, List.cons_append]
      · rw [cutFrom_cons outside, cutFrom_cons outside, ih closed]
        obtain ⟨first, others, pieces⟩ :=
          List.exists_cons_of_ne_nil (cutFrom_ne_nil stop (inside ^^ (d == quoteMark)) rest)
        rw [pieces]
        rfl

/-- A text whose stops all stand inside quotes is one piece. -/
theorem cutFrom_eq_singleton
    {inside : Bool}
    (shielded : ∀ left c right, text = left ++ c :: right → stop c = true → c ≠ quoteMark →
      (inside ^^ leavesQuoteOpen left) = true) :
    cutFrom stop inside text = [text] := by
  induction text generalizing inside with
  | nil => rfl
  | cons d rest ih =>
      have passes : ¬ (stop d = true ∧ d ≠ quoteMark ∧ inside = false) := by
        rintro ⟨stops, unquoted, outside⟩
        have inner := shielded [] d rest rfl stops unquoted
        rw [outside] at inner
        contradiction
      have alone : cutFrom stop (inside ^^ (d == quoteMark)) rest = [rest] := by
        apply ih
        intro left c right same stops unquoted
        have inner := shielded (d :: left) c right (by rw [same]; rfl) stops unquoted
        rwa [leavesQuoteOpen_cons, ← Bool.xor_assoc] at inner
      rw [cutFrom_cons passes, alone]
      rfl

/-- A text is one piece, or it has a stop outside quotes. -/
theorem whole_or_divided (stop : Char → Bool) (text : List Char) :
    cutOutsideQuotes stop text = [text] ∨
      ∃ left c right, text = left ++ c :: right ∧ stop c = true ∧ c ≠ quoteMark ∧
        leavesQuoteOpen left = false := by
  by_cases divided : ∃ left c right, text = left ++ c :: right ∧ stop c = true ∧ c ≠ quoteMark ∧
      leavesQuoteOpen left = false
  · exact .inr divided
  · left
    apply cutFrom_eq_singleton
    intro left c right same stops unquoted
    rw [Bool.false_xor, ← Bool.not_eq_false]
    exact fun closed => divided ⟨left, c, right, same, stops, unquoted, closed⟩

/-- What holds of texts of one piece and passes from two texts to the two around a stop. -/
@[elab_as_elim]
theorem cut_induction
    {motive : List Char → Prop}
    (stop : Char → Bool)
    (whole : ∀ text, cutOutsideQuotes stop text = [text] → motive text)
    (divided : ∀ left c right, stop c = true → c ≠ quoteMark → leavesQuoteOpen left = false →
      motive left → motive right → motive (left ++ c :: right))
    (text : List Char) :
    motive text := by
  rcases whole_or_divided stop text with alone | ⟨left, c, right, same, stops, unquoted, closed⟩
  · exact whole text alone
  · rw [same]
    exact divided left c right stops unquoted closed
      (cut_induction stop whole divided left) (cut_induction stop whole divided right)
termination_by text.length
decreasing_by
  all_goals
    rw [same, List.length_append, List.length_cons]
    omega

/-- The pieces on both sides of a stop outside quotes are the pieces of the text. -/
theorem cutOutsideQuotes_append_stop
    (stops : stop c = true)
    (unquoted : c ≠ quoteMark)
    (closed : leavesQuoteOpen left = false)
    (right : List Char) :
    cutOutsideQuotes stop (left ++ c :: right) =
      cutOutsideQuotes stop left ++ cutOutsideQuotes stop right :=
  cutFrom_append_stop stops unquoted (by rw [closed]; rfl) right

/-- A text is one piece just when all its stops stand inside quotes. -/
theorem cutOutsideQuotes_eq_singleton_iff :
    cutOutsideQuotes stop text = [text] ↔
      ∀ left c right, text = left ++ c :: right → stop c = true → c ≠ quoteMark →
        leavesQuoteOpen left = true := by
  constructor
  · rintro whole left c right rfl stops unquoted
    rw [← Bool.not_eq_false]
    intro closed
    rw [cutOutsideQuotes_append_stop stops unquoted closed] at whole
    have before := List.length_pos_iff.2 (cutFrom_ne_nil stop false left)
    have behind := List.length_pos_iff.2 (cutFrom_ne_nil stop false right)
    have lengths := congrArg List.length whole
    unfold cutOutsideQuotes at lengths
    rw [List.length_append, List.length_singleton] at lengths
    omega
  · intro shielded
    apply cutFrom_eq_singleton
    intro left c right same stops unquoted
    rw [Bool.false_xor]
    exact shielded left c right same stops unquoted

/-- A stretch of one piece is one piece, if the quotes before it are closed. -/
theorem cutOutsideQuotes_of_stretch
    {before behind : List Char}
    (closed : leavesQuoteOpen before = false)
    (whole : cutOutsideQuotes stop (before ++ (text ++ behind)) = [before ++ (text ++ behind)]) :
    cutOutsideQuotes stop text = [text] := by
  rw [cutOutsideQuotes_eq_singleton_iff] at whole ⊢
  rintro left c right rfl stops unquoted
  have shielded := whole (before ++ left) c (right ++ behind) (by simp) stops unquoted
  rwa [leavesQuoteOpen_append, closed, Bool.false_xor] at shielded

/-- No piece of a text is cut any further. -/
theorem cutOutsideQuotes_of_mem
    {piece : List Char}
    (member : piece ∈ cutOutsideQuotes stop text) :
    cutOutsideQuotes stop piece = [piece] := by
  induction text using cut_induction stop with
  | whole text alone =>
      rw [alone, List.mem_singleton] at member
      rwa [member]
  | divided left c right stops unquoted closed leftPieces rightPieces =>
      rw [cutOutsideQuotes_append_stop stops unquoted closed, List.mem_append] at member
      exact member.elim leftPieces rightPieces

/-- Closed pieces are the pieces of the text that they make with a stop between neighbours. -/
theorem cutOutsideQuotes_intercalate
    {pieces : List (List Char)}
    (stops : stop c = true)
    (unquoted : c ≠ quoteMark)
    (inhabited : pieces ≠ [])
    (closed : ∀ piece ∈ pieces, leavesQuoteOpen piece = false)
    (whole : ∀ piece ∈ pieces, cutOutsideQuotes stop piece = [piece]) :
    cutOutsideQuotes stop ([c].intercalate pieces) = pieces := by
  induction pieces with
  | nil => contradiction
  | cons piece rest ih =>
      rw [List.forall_mem_cons] at closed whole
      by_cases last : rest = []
      · rw [last, List.intercalate_singleton, whole.1]
      · rw [List.intercalate_cons_of_ne_nil last, List.append_assoc, List.singleton_append,
          cutOutsideQuotes_append_stop stops unquoted closed.1, whole.1,
          ih last closed.2 whole.2, List.singleton_append]

/-- Every piece of a text with closed quotes has closed quotes. -/
theorem leavesQuoteOpen_of_mem_cutOutsideQuotes
    {piece : List Char}
    (closed : leavesQuoteOpen text = false)
    (member : piece ∈ cutOutsideQuotes stop text) :
    leavesQuoteOpen piece = false := by
  induction text using cut_induction stop with
  | whole text alone =>
      rw [alone, List.mem_singleton] at member
      rwa [member]
  | divided left c right stops unquoted leftClosed leftPieces rightPieces =>
      rw [cutOutsideQuotes_append_stop stops unquoted leftClosed, List.mem_append] at member
      rw [leavesQuoteOpen_append, leavesQuoteOpen_cons, leftClosed, Bool.false_xor,
        beq_eq_false_iff_ne.2 unquoted, Bool.false_xor] at closed
      rcases member with before | behind
      · exact leftPieces leftClosed before
      · exact rightPieces closed behind

end Text
end Syllogistic
