import Mathlib.Data.List.Basic
import Syllogistic.Text.Blank
import Syllogistic.Text.Cut
import Syllogistic.Text.UpperCase

/-!
# Upper case is final

No character of an upper-case form has another upper case, so a text in upper case
stays as it is.  Blanks and quotes have no case: the mapping neither changes nor makes
one, and what separates the words of a text separates those of its upper case.
-/

namespace Syllogistic
namespace Text

/-- A character that is its own upper case. -/
def IsUpper (c : Char) : Prop :=
  upperChar c = [c]

instance (c : Char) : Decidable (IsUpper c) :=
  inferInstanceAs (Decidable (upperChar c = [c]))

/-- A blank or a double quote. -/
def isSeparator (c : Char) : Bool :=
  isBlank c || c == quoteMark

/-! ## The tables -/

/-- The code points of the blanks and of the double quote. -/
def separatorCodes : List Nat :=
  [0x09, 0x0A, 0x0B, 0x0C, 0x0D, 0x20, 0x22, 0x85, 0xA0, 0x1680, 0x2000, 0x2001, 0x2002, 0x2003,
   0x2004, 0x2005, 0x2006, 0x2007, 0x2008, 0x2009, 0x200A, 0x2028, 0x2029, 0x202F, 0x205F, 0x3000]

theorem mem_separatorCodes {c : Char} (separates : isSeparator c = true) :
    c.toNat ∈ separatorCodes := by
  rw [isSeparator, Bool.or_eq_true] at separates
  rcases separates with blank | quote
  · simp only [isBlank, Bool.or_eq_true, Bool.and_eq_true, decide_eq_true_eq, beq_iff_eq] at blank
    simp only [separatorCodes, List.mem_cons, List.not_mem_nil, or_false]
    omega
  · rw [beq_iff_eq] at quote
    rw [quote]
    decide

namespace CaseRun

/-- No upper-case form of the run lies at the code point. -/
def misses (run : CaseRun) (n : Nat) : Bool :=
  Nat.blt n run.upper || Nat.blt (run.upper + (run.last - run.first)) n

/--
No upper-case form of the first run belongs to the second: their intervals lie apart,
they take turns, or the only form of the first is none of the second.
-/
def avoids (run other : CaseRun) : Bool :=
  Nat.blt (run.upper + (run.last - run.first)) other.first || Nat.blt other.last run.upper ||
    (run.step == 2 && other.step == 2 && (run.upper + other.first) % 2 == 1) ||
      (run.first == run.last && !other.covers run.upper)

variable {run other : CaseRun} {n m : Nat}

theorem covers_iff :
    run.covers n = true ↔ run.first ≤ n ∧ n ≤ run.last ∧ (n - run.first) % run.step = 0 := by
  simp [covers, and_assoc]

theorem apply_ne_of_misses
    (misses : run.misses m = true)
    (covered : run.covers n = true) :
    run.apply n ≠ m := by
  obtain ⟨low, high, _⟩ := covers_iff.1 covered
  rw [CaseRun.misses, Bool.or_eq_true, Nat.blt_eq, Nat.blt_eq] at misses
  unfold apply
  omega

theorem covers_apply_of_avoids
    (avoids : run.avoids other = true)
    (covered : run.covers n = true) :
    other.covers (run.apply n) = false := by
  obtain ⟨low, high, aligned⟩ := covers_iff.1 covered
  rw [← Bool.not_eq_true]
  intro reached
  obtain ⟨otherLow, otherHigh, otherAligned⟩ := covers_iff.1 reached
  unfold apply at otherLow otherHigh otherAligned
  simp only [CaseRun.avoids, Bool.or_eq_true, Bool.and_eq_true, Nat.blt_eq, beq_iff_eq,
    Bool.not_eq_true'] at avoids
  rcases avoids with ((before | after) | ⟨⟨step, otherStep⟩, odd⟩) | ⟨single, outside⟩
  · omega
  · omega
  · rw [step] at aligned
    rw [otherStep] at otherAligned
    omega
  · have only : run.apply n = run.upper := by
      unfold apply
      omega
    rw [only, outside] at reached
    contradiction

end CaseRun

/-- No run leads to a character of a run. -/
theorem caseRuns_avoid :
    (caseRuns.all fun run => caseRuns.all run.avoids) = true := by
  decide +kernel

/-- No run leads to a character whose upper case is longer than one character. -/
theorem caseRuns_miss_expanding :
    (caseRuns.all fun run => caseExpansions.all fun entry => run.misses entry.1) = true := by
  decide +kernel

/-- No run leads to a separator. -/
theorem caseRuns_miss_separators :
    (caseRuns.all fun run => separatorCodes.all run.misses) = true := by
  decide +kernel

/-- Every run leads to code points of characters, and never to a small letter of ASCII. -/
theorem caseRuns_lead_to_char :
    ∀ run ∈ caseRuns,
      (run.upper + (run.last - run.first) < 0xD800 ∨
        0xDFFF < run.upper ∧ run.upper + (run.last - run.first) < 0x110000) ∧
      (0x80 ≤ run.upper ∨ run.upper + (run.last - run.first) < 0x61) := by
  decide +kernel

/-- An expansion is not empty and holds neither a separator nor a character of another case. -/
theorem caseExpansions_settled :
    ∀ entry ∈ caseExpansions, entry.2 ≠ [] ∧ ∀ n ∈ entry.2,
      IsUpper (Char.ofNat n) ∧ isSeparator (Char.ofNat n) = false := by
  decide +kernel

/-- The upper case of an ASCII character has no other, and is a separator only if nothing changed. -/
theorem ascii_settled :
    ∀ n < 0x80, IsUpper (Char.ofNat n).toUpper ∧
      (isSeparator (Char.ofNat n).toUpper = true → (Char.ofNat n).toUpper = Char.ofNat n) := by
  decide +kernel

/-- An ASCII character below the small letters is its own upper case. -/
theorem ascii_capital : ∀ n < 0x61, IsUpper (Char.ofNat n) := by
  decide +kernel

/-! ## Characters -/

/-- A character beyond ASCII that neither expands nor belongs to a run is its own upper case. -/
theorem isUpper_of_untouched
    {c : Char}
    (beyond : 0x80 ≤ c.toNat)
    (expandsNowhere : caseExpansions.lookup c.toNat = none)
    (covered : ∀ run ∈ caseRuns, run.covers c.toNat = false) :
    IsUpper c := by
  have runsNowhere : caseRuns.find? (·.covers c.toNat) = none := by
    rw [List.find?_eq_none]
    intro run member
    rw [covered run member]
    exact Bool.false_ne_true
  unfold IsUpper upperChar upperBeyondAscii
  rw [if_neg (Nat.not_lt.2 beyond), expandsNowhere, runsNowhere]
  simp

/-- The upper case of a character, by the table that it comes from. -/
inductive UpperForm (c : Char) : List Char → Prop
  | ascii (low : c.toNat < 0x80) : UpperForm c [c.toUpper]
  | expanded {entry : Nat × List Nat} (listed : entry ∈ caseExpansions) :
      UpperForm c (entry.2.map Char.ofNat)
  | shifted {run : CaseRun} (listed : run ∈ caseRuns) (covered : run.covers c.toNat = true) :
      UpperForm c [Char.ofNat (run.apply c.toNat)]
  | kept (upper : IsUpper c) : UpperForm c [c]

theorem upperForm (c : Char) : UpperForm c (upperChar c) := by
  by_cases ascii : c.toNat < 0x80
  · rw [upperChar, if_pos ascii]
    exact .ascii ascii
  have beyond : upperChar c = (upperBeyondAscii c.toNat).map Char.ofNat := if_neg ascii
  unfold upperBeyondAscii at beyond
  split at beyond
  · rename_i expansion found
    obtain ⟨before, after, table, _⟩ := List.lookup_eq_some_iff.1 found
    have listed : (c.toNat, expansion) ∈ caseExpansions := by
      rw [table]
      exact List.mem_append_right _ List.mem_cons_self
    rw [beyond]
    exact .expanded listed
  · split at beyond
    · rename_i run found
      have covered := List.find?_some found
      rw [beyond]
      exact .shifted (List.mem_of_find?_eq_some found) covered
    · have upper : IsUpper c := by
        unfold IsUpper
        rw [beyond, List.map_singleton, Char.ofNat_toNat]
      rw [upper]
      exact .kept upper

/-- The code point of the upper case in a run is that of a character. -/
theorem toNat_ofNat_apply
    {run : CaseRun} {n : Nat}
    (member : run ∈ caseRuns)
    (covered : run.covers n = true) :
    (Char.ofNat (run.apply n)).toNat = run.apply n := by
  obtain ⟨low, high, _⟩ := CaseRun.covers_iff.1 covered
  have valid : (run.apply n).isValidChar := by
    have leads := (caseRuns_lead_to_char run member).1
    unfold Nat.isValidChar CaseRun.apply
    omega
  rw [Char.ofNat, dif_pos valid]
  rfl

/-- The upper case in a run is its own upper case. -/
theorem isUpper_apply
    {run : CaseRun} {n : Nat}
    (member : run ∈ caseRuns)
    (covered : run.covers n = true) :
    IsUpper (Char.ofNat (run.apply n)) := by
  have code := toNat_ofNat_apply member covered
  by_cases ascii : run.apply n < 0x80
  · obtain ⟨low, high, _⟩ := CaseRun.covers_iff.1 covered
    have leads := (caseRuns_lead_to_char run member).2
    have capital : run.apply n < 0x61 := by
      unfold CaseRun.apply at *
      omega
    exact ascii_capital _ capital
  · refine isUpper_of_untouched (by omega) ?_ ?_
    · rw [code, List.lookup_eq_none_iff]
      intro entry listed
      have misses := List.all_eq_true.1 (List.all_eq_true.1 caseRuns_miss_expanding run member)
      simpa using CaseRun.apply_ne_of_misses (misses entry listed) covered
    · rw [code]
      intro other listed
      have avoids := List.all_eq_true.1 (List.all_eq_true.1 caseRuns_avoid run member)
      exact CaseRun.covers_apply_of_avoids (avoids other listed) covered

/-- The upper case in a run is no separator. -/
theorem isSeparator_apply
    {run : CaseRun} {n : Nat}
    (member : run ∈ caseRuns)
    (covered : run.covers n = true) :
    isSeparator (Char.ofNat (run.apply n)) = false := by
  rw [← Bool.not_eq_true]
  intro separates
  have listed := mem_separatorCodes separates
  rw [toNat_ofNat_apply member covered] at listed
  have misses := List.all_eq_true.1 (List.all_eq_true.1 caseRuns_miss_separators run member)
  exact CaseRun.apply_ne_of_misses (misses _ listed) covered rfl

/-- No character of an upper-case form has another upper case. -/
theorem isUpper_of_mem_upperChar {c d : Char} (member : d ∈ upperChar c) : IsUpper d := by
  have form := upperForm c
  generalize upperChar c = image at form member
  cases form with
  | ascii low =>
      have settled := (ascii_settled c.toNat low).1
      rwa [Char.ofNat_toNat, ← List.mem_singleton.1 member] at settled
  | expanded listed =>
      obtain ⟨n, code, rfl⟩ := List.mem_map.1 member
      exact ((caseExpansions_settled _ listed).2 n code).1
  | shifted listed covered =>
      rw [List.mem_singleton.1 member]
      exact isUpper_apply listed covered
  | kept upper => rwa [List.mem_singleton.1 member]

/-- A separator in an upper-case form is the character itself. -/
theorem eq_of_mem_upperChar
    {c d : Char}
    (member : d ∈ upperChar c)
    (separates : isSeparator d = true) :
    d = c := by
  have form := upperForm c
  generalize upperChar c = image at form member
  cases form with
  | ascii low =>
      have settled := (ascii_settled c.toNat low).2
      rw [Char.ofNat_toNat, ← List.mem_singleton.1 member] at settled
      exact settled separates
  | expanded listed =>
      obtain ⟨n, code, rfl⟩ := List.mem_map.1 member
      rw [((caseExpansions_settled _ listed).2 n code).2] at separates
      contradiction
  | shifted listed covered =>
      rw [List.mem_singleton.1 member, isSeparator_apply listed covered] at separates
      contradiction
  | kept _ => exact List.mem_singleton.1 member

theorem upperChar_ne_nil (c : Char) : upperChar c ≠ [] := by
  have form := upperForm c
  generalize upperChar c = image at form
  cases form with
  | expanded listed =>
      rw [ne_eq, List.map_eq_nil_iff]
      exact (caseExpansions_settled _ listed).1
  | ascii | shifted | kept => exact List.cons_ne_nil _ _

/-! ## Texts -/

/-- A text in upper case holds upper-case characters only. -/
theorem isUpper_of_mem_upper {text : List Char} {c : Char} (member : c ∈ upper text) :
    IsUpper c := by
  obtain ⟨origin, _, image⟩ := List.mem_flatMap.1 member
  exact isUpper_of_mem_upperChar image

/-- A text is its own upper case exactly when each of its characters is. -/
theorem upper_eq_self_iff {text : List Char} : upper text = text ↔ ∀ c ∈ text, IsUpper c := by
  constructor
  · intro same c member
    rw [← same] at member
    exact isUpper_of_mem_upper member
  · intro settled
    induction text with
    | nil => rfl
    | cons c rest ih =>
        have head : upperChar c = [c] := settled c List.mem_cons_self
        rw [upper_cons, head, ih fun d member => settled d (List.mem_cons_of_mem c member)]
        rfl

/-- The upper case of a text is in upper case. -/
@[simp] theorem upper_upper (text : List Char) : upper (upper text) = upper text :=
  upper_eq_self_iff.2 fun _ member => isUpper_of_mem_upper member

/-- A separator is its own upper case. -/
theorem upperChar_of_isSeparator {c : Char} (separates : isSeparator c = true) :
    upperChar c = [c] := by
  have upright : ∀ n ∈ separatorCodes, IsUpper (Char.ofNat n) := by decide +kernel
  have settled := upright c.toNat (mem_separatorCodes separates)
  rwa [Char.ofNat_toNat] at settled

/-- A separator occurs in the upper case of a character as often as in the character. -/
theorem count_upperChar
    {d : Char}
    (separates : isSeparator d = true)
    (c : Char) :
    (upperChar c).count d = [c].count d := by
  by_cases same : c = d
  · rw [same, upperChar_of_isSeparator separates]
  · have absent : d ∉ upperChar c := fun member =>
      same (eq_of_mem_upperChar member separates).symm
    have other : d ∉ [c] := fun member => same (List.mem_singleton.1 member).symm
    rw [List.count_eq_zero.2 absent, List.count_eq_zero.2 other]

/-- A text and its upper case hold equally many quotes. -/
@[simp] theorem count_quote_upper (text : List Char) :
    (upper text).count quoteMark = text.count quoteMark := by
  induction text with
  | nil => rfl
  | cons c rest ih =>
      rw [upper_cons, List.count_append, ih, count_upperChar (by decide), ← List.count_append,
        List.singleton_append]

/-- The upper case of a character is blank just where the character is. -/
theorem isBlank_of_mem_upperChar {c d : Char} (member : d ∈ upperChar c) :
    isBlank d = isBlank c := by
  by_cases blank : isBlank d = true
  · rw [eq_of_mem_upperChar member (by rw [isSeparator, blank, Bool.true_or])]
  · by_cases origin : isBlank c = true
    · rw [upperChar_of_isSeparator (by rw [isSeparator, origin, Bool.true_or]),
        List.mem_singleton] at member
      rw [member]
    · rw [Bool.not_eq_true] at blank origin
      rw [blank, origin]

end Text
end Syllogistic
