import Syllogistic.Proofs.Text.Cut
import Syllogistic.Proofs.Text.Words

/-!
# Lower case within ASCII

Only the letters `A` to `Z` have another lower case here.  Blanks and quotes keep their
places when a text is put into lower case, so it is trimmed and cut alike, and its upper
case is the same.
-/

namespace Syllogistic
namespace Text

/-- The text with its ASCII letters in lower case. -/
def lower (text : List Char) : List Char :=
  text.map Char.toLower

variable {text : List Char}

/-! ## Characters -/

/-- A character beyond ASCII is its own lower case. -/
theorem toLower_of_beyond {c : Char} (beyond : 0x80 ≤ c.toNat) : c.toLower = c := by
  unfold Char.toLower
  rw [dif_neg]
  rintro ⟨_, high⟩
  have small : c.toNat ≤ 'Z'.toNat := high
  have last : 'Z'.toNat = 0x5A := rfl
  omega

/-- What the ASCII characters share with their lower case, all characters share with theirs. -/
theorem apply_toLower
    {Value : Type}
    {f : Char → Value}
    (ascii : ∀ n < 0x80, f (Char.ofNat n).toLower = f (Char.ofNat n))
    (c : Char) :
    f c.toLower = f c := by
  by_cases low : c.toNat < 0x80
  · have same := ascii c.toNat low
    rwa [Char.ofNat_toNat] at same
  · rw [toLower_of_beyond (Nat.not_lt.1 low)]

@[simp] theorem toLower_toLower (c : Char) : c.toLower.toLower = c.toLower :=
  apply_toLower (f := Char.toLower) (by decide +kernel) c

@[simp] theorem isBlank_toLower (c : Char) : isBlank c.toLower = isBlank c :=
  apply_toLower (by decide +kernel) c

@[simp] theorem toLower_beq_quoteMark (c : Char) : (c.toLower == quoteMark) = (c == quoteMark) :=
  apply_toLower (f := (· == quoteMark)) (by decide +kernel) c

@[simp] theorem toLower_eq_quoteMark_iff (c : Char) : c.toLower = quoteMark ↔ c = quoteMark := by
  rw [← beq_iff_eq, toLower_beq_quoteMark, beq_iff_eq]

@[simp] theorem upperChar_toLower (c : Char) : upperChar c.toLower = upperChar c :=
  apply_toLower (by decide +kernel) c

/-! ## Texts -/

@[simp] theorem lower_nil : lower [] = [] := rfl

@[simp] theorem lower_cons (c : Char) (rest : List Char) :
    lower (c :: rest) = c.toLower :: lower rest := rfl

@[simp] theorem lower_append (left right : List Char) :
    lower (left ++ right) = lower left ++ lower right :=
  List.map_append

@[simp] theorem lower_lower (text : List Char) : lower (lower text) = lower text := by
  simp [lower]

@[simp] theorem lower_eq_nil_iff : lower text = [] ↔ text = [] :=
  List.map_eq_nil_iff

/-- Texts that differ at most in case have the same upper case. -/
@[simp] theorem upper_lower (text : List Char) : upper (lower text) = upper text := by
  induction text with
  | nil => rfl
  | cons c rest ih => rw [lower_cons, upper_cons, upper_cons, upperChar_toLower, ih]

@[simp] theorem leavesQuoteOpen_lower (text : List Char) :
    leavesQuoteOpen (lower text) = leavesQuoteOpen text := by
  induction text with
  | nil => rfl
  | cons c rest ih =>
      rw [lower_cons, leavesQuoteOpen_cons, leavesQuoteOpen_cons, toLower_beq_quoteMark, ih]

theorem reverse_lower (text : List Char) : (lower text).reverse = lower text.reverse :=
  List.map_reverse.symm

theorem trimLeft_lower (text : List Char) : trimLeft (lower text) = lower (trimLeft text) := by
  have same : isBlank ∘ Char.toLower = isBlank := funext isBlank_toLower
  rw [trimLeft, lower, List.dropWhile_map, same]
  rfl

theorem trim_lower (text : List Char) : trim (lower text) = lower (trim text) := by
  unfold trim trimRight
  rw [trimLeft_lower, reverse_lower, trimLeft_lower, reverse_lower]

/-- A text is cut at the same places in either case if its stops have no case. -/
theorem cutFrom_lower
    {stop : Char → Bool}
    (caseless : ∀ c, stop c.toLower = stop c)
    (inside : Bool)
    (text : List Char) :
    cutFrom stop inside (lower text) = (cutFrom stop inside text).map lower := by
  have joined (c : Char) (pieces : List (List Char)) :
      (pieces.map lower).modifyHead (c.toLower :: ·) = (pieces.modifyHead (c :: ·)).map lower := by
    cases pieces <;> rfl
  fun_induction cutFrom stop inside text with
  | case1 => rfl
  | case2 inside rest ih => rw [lower_cons, ← joined, ← ih]; rfl
  | case3 inside c rest plain stops ih =>
      rw [lower_cons, cutFrom, if_neg (by simpa using plain), caseless, if_pos stops, ih]
      rfl
  | case4 inside c rest plain passes ih =>
      rw [lower_cons, cutFrom, if_neg (by simpa using plain), caseless, if_neg passes, ih, joined]

end Text
end Syllogistic
