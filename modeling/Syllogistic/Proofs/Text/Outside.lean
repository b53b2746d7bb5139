import Mathlib.Data.List.Infix
import Syllogistic.Proofs.Text.Cut

/-!
# Stops outside quotes

A stop stands outside quotes when the number of quotes before it is even.  Cutting a text
takes away just these stops, so the pieces with the stops put back between them are the
text again.  All pieces but the last close their quotes; what quote the text leaves open,
the last one leaves open.
-/

namespace Syllogistic
namespace Text

/-- Each character of a text, after the text before it. -/
def inContext (text : List Char) : List (List Char × Char) :=
  text.inits.zip text

/-- A stop that is no quote, after a text with an even number of quotes. -/
def StopsOutside (stop : Char → Bool) (before : List Char) (c : Char) : Prop :=
  stop c = true ∧ c ≠ quoteMark ∧ Even (before.count quoteMark)

instance (stop : Char → Bool) (before : List Char) (c : Char) :
    Decidable (StopsOutside stop before c) :=
  inferInstanceAs (Decidable (_ ∧ _ ∧ _))

/-- The stops of a text that stand outside quotes, in order. -/
def outsideStops (stop : Char → Bool) (text : List Char) : List Char :=
  ((inContext text).filter fun place => StopsOutside stop place.1 place.2).map Prod.snd

/-- A text without its stops outside quotes. -/
def dropOutsideStops (stop : Char → Bool) (text : List Char) : List Char :=
  ((inContext text).filter fun place => ¬ StopsOutside stop place.1 place.2).map Prod.snd

variable {stop : Char → Bool} {left right text before : List Char} {c : Char}

/-! ## Characters and what stands before them -/

theorem inContext_cons (c : Char) (rest : List Char) :
    inContext (c :: rest) =
      ([], c) :: (inContext rest).map fun place => (c :: place.1, place.2) := by
  unfold inContext
  rw [List.inits_cons, List.zip_cons_cons, List.zip_map_left]
  rfl

theorem inContext_append (left right : List Char) :
    inContext (left ++ right) =
      inContext left ++ (inContext right).map fun place => (left ++ place.1, place.2) := by
  induction left with
  | nil => simp [inContext]
  | cons d rest ih =>
      rw [List.cons_append, inContext_cons, inContext_cons, ih, List.map_append, List.map_map,
        List.cons_append]
      rfl

theorem map_snd_inContext (text : List Char) : (inContext text).map Prod.snd = text := by
  unfold inContext
  rw [List.map_snd_zip]
  rw [List.length_inits]
  exact Nat.le_succ _

theorem mem_inContext_iff :
    (before, c) ∈ inContext text ↔ ∃ behind, text = before ++ c :: behind := by
  induction text generalizing before with
  | nil => simp [inContext]
  | cons d rest ih =>
      rw [inContext_cons, List.mem_cons, List.mem_map]
      constructor
      · rintro (first | ⟨⟨inner, e⟩, member, same⟩)
        · cases first
          exact ⟨rest, rfl⟩
        · cases same
          obtain ⟨behind, rfl⟩ := ih.1 member
          exact ⟨behind, rfl⟩
      · rintro ⟨behind, same⟩
        cases before with
        | nil =>
            cases same
            exact .inl rfl
        | cons e inner =>
            cases same
            exact .inr ⟨(inner, c), ih.2 ⟨behind, rfl⟩, rfl⟩

/-- What is chosen by the quotes before it is chosen alike behind a text that closes its own. -/
theorem filter_inContext_append
    {chosen : List Char × Char → Bool}
    (same : ∀ before c, chosen (left ++ before, c) = chosen (before, c))
    (right : List Char) :
    ((inContext (left ++ right)).filter chosen).map Prod.snd =
      ((inContext left).filter chosen).map Prod.snd ++
        ((inContext right).filter chosen).map Prod.snd := by
  rw [inContext_append, List.filter_append, List.map_append, List.filter_map, List.map_map]
  congr 2
  apply List.filter_congr
  exact fun place _ => same place.1 place.2

/-! ## Stops -/

/-- A text with closed quotes before another does not change where its quotes stand. -/
theorem stopsOutside_append_iff (closed : leavesQuoteOpen left = false) :
    StopsOutside stop (left ++ before) c ↔ StopsOutside stop before c := by
  unfold StopsOutside
  rw [← leavesQuoteOpen_eq_false_iff, ← leavesQuoteOpen_eq_false_iff, leavesQuoteOpen_append,
    closed, Bool.false_xor]

theorem outsideStops_append (closed : leavesQuoteOpen left = false) (right : List Char) :
    outsideStops stop (left ++ right) = outsideStops stop left ++ outsideStops stop right :=
  filter_inContext_append (by simp [stopsOutside_append_iff closed]) right

theorem dropOutsideStops_append (closed : leavesQuoteOpen left = false) (right : List Char) :
    dropOutsideStops stop (left ++ right) =
      dropOutsideStops stop left ++ dropOutsideStops stop right :=
  filter_inContext_append (by simp [stopsOutside_append_iff closed]) right

theorem outsideStops_append_stop
    (stops : stop c = true)
    (unquoted : c ≠ quoteMark)
    (closed : leavesQuoteOpen left = false)
    (right : List Char) :
    outsideStops stop (left ++ c :: right) =
      outsideStops stop left ++ c :: outsideStops stop right := by
  have plain : leavesQuoteOpen [c] = false := by simpa using unquoted
  have single : outsideStops stop [c] = [c] := by
    simp [outsideStops, inContext, StopsOutside, stops, unquoted]
  rw [outsideStops_append closed, ← List.singleton_append, outsideStops_append plain, single,
    List.singleton_append]

theorem dropOutsideStops_append_stop
    (stops : stop c = true)
    (unquoted : c ≠ quoteMark)
    (closed : leavesQuoteOpen left = false)
    (right : List Char) :
    dropOutsideStops stop (left ++ c :: right) =
      dropOutsideStops stop left ++ dropOutsideStops stop right := by
  have plain : leavesQuoteOpen [c] = false := by simpa using unquoted
  have single : dropOutsideStops stop [c] = [] := by
    simp [dropOutsideStops, inContext, StopsOutside, stops, unquoted]
  rw [dropOutsideStops_append closed, ← List.singleton_append, dropOutsideStops_append plain,
    single, List.nil_append]

/-- A text is one piece just when it has no stop outside quotes. -/
theorem outsideStops_eq_nil_iff :
    outsideStops stop text = [] ↔ cutOutsideQuotes stop text = [text] := by
  unfold outsideStops
  rw [List.map_eq_nil_iff, List.filter_eq_nil_iff, cutOutsideQuotes_eq_singleton_iff]
  simp only [Prod.forall, mem_inContext_iff, decide_eq_true_eq, StopsOutside,
    ← leavesQuoteOpen_eq_false_iff, not_and, Bool.not_eq_false, forall_exists_index]

/-- Nothing is taken out of a text of one piece. -/
theorem dropOutsideStops_of_whole (whole : cutOutsideQuotes stop text = [text]) :
    dropOutsideStops stop text = text := by
  have none := outsideStops_eq_nil_iff.2 whole
  unfold outsideStops at none
  rw [List.map_eq_nil_iff, List.filter_eq_nil_iff] at none
  unfold dropOutsideStops
  rw [List.filter_eq_self.2, map_snd_inContext]
  simpa using none

/-! ## Pieces -/

theorem length_cutOutsideQuotes (stop : Char → Bool) (text : List Char) :
    (cutOutsideQuotes stop text).length = (outsideStops stop text).length + 1 := by
  induction text using cut_induction stop with
  | whole text alone => rw [alone, outsideStops_eq_nil_iff.2 alone]; rfl
  | divided left c right stops unquoted closed leftPieces rightPieces =>
      rw [cutOutsideQuotes_append_stop stops unquoted closed,
        outsideStops_append_stop stops unquoted closed, List.length_append, List.length_append,
        leftPieces, rightPieces, List.length_cons]
      omega

/-- The pieces with each stop put back behind its piece, and an ending behind the last one. -/
theorem flatten_zipWith_outsideStops (stop : Char → Bool) (text ending : List Char) :
    (List.zipWith (· ++ ·) (cutOutsideQuotes stop text)
      ((outsideStops stop text).map ([·]) ++ [ending])).flatten = text ++ ending := by
  induction text using cut_induction stop generalizing ending with
  | whole text alone =>
      rw [alone, outsideStops_eq_nil_iff.2 alone]
      simp
  | divided left c right stops unquoted closed leftText rightText =>
      have lengths : (cutOutsideQuotes stop left).length =
          ((outsideStops stop left).map ([·]) ++ [[c]]).length := by
        simp [length_cutOutsideQuotes]
      rw [cutOutsideQuotes_append_stop stops unquoted closed,
        outsideStops_append_stop stops unquoted closed, List.map_append, List.map_cons,
        List.append_assoc, List.cons_append, List.append_cons, List.zipWith_append lengths,
        List.flatten_append, leftText, rightText]
      simp

/-- Only the last piece may leave a quote open. -/
theorem leavesQuoteOpen_of_mem_dropLast
    {piece : List Char}
    (member : piece ∈ (cutOutsideQuotes stop text).dropLast) :
    leavesQuoteOpen piece = false := by
  induction text using cut_induction stop with
  | whole text alone =>
      rw [alone] at member
      contradiction
  | divided left c right stops unquoted closed _ rightPieces =>
      have more : cutOutsideQuotes stop right ≠ [] := cutFrom_ne_nil stop false right
      rw [cutOutsideQuotes_append_stop stops unquoted closed,
        List.dropLast_append_of_ne_nil more, List.mem_append] at member
      rcases member with before | behind
      · exact leavesQuoteOpen_of_mem_cutOutsideQuotes closed before
      · exact rightPieces behind

/-- The last piece leaves a quote open just when the text does. -/
theorem exists_mem_getLast?_cutOutsideQuotes (stop : Char → Bool) (text : List Char) :
    ∃ last ∈ (cutOutsideQuotes stop text).getLast?,
      leavesQuoteOpen last = leavesQuoteOpen text := by
  induction text using cut_induction stop with
  | whole text alone => exact ⟨text, by rw [alone]; rfl, rfl⟩
  | divided left c right stops unquoted closed _ rightPieces =>
      have more : cutOutsideQuotes stop right ≠ [] := cutFrom_ne_nil stop false right
      obtain ⟨last, ends, same⟩ := rightPieces
      refine ⟨last, ?_, ?_⟩
      · rwa [cutOutsideQuotes_append_stop stops unquoted closed,
          List.getLast?_append_of_ne_nil _ more]
      · rw [leavesQuoteOpen_append, leavesQuoteOpen_cons, closed, Bool.false_xor,
          beq_eq_false_iff_ne.2 unquoted, Bool.false_xor, same]

end Text
end Syllogistic
