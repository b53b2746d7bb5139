import Mathlib.Data.List.TakeWhile
import Syllogistic.Proofs.Text.UpperCase

/-!
# Words and blanks

A text is a blank-free stretch, or it has a blank between two shorter texts whose words
it holds one after the other; facts about the words of a text are proved along this
division.  Trimming a text and cutting it into words keep its ink, the characters that
are not blank.
-/

namespace Syllogistic
namespace Text

/-- No character of the text is blank. -/
def BlankFree (text : List Char) : Prop :=
  ∀ c ∈ text, isBlank c = false

instance (text : List Char) : Decidable (BlankFree text) :=
  List.decidableBAll (fun c => isBlank c = false) text

/-- The characters of a text that are not blank. -/
def ink (text : List Char) : List Char :=
  text.filter (!isBlank ·)

variable {text left right : List Char} {blank : Char}

/-- A text without blanks, or the first blank of a text between what stands around it. -/
theorem blankFree_or_exists_blank (text : List Char) :
    BlankFree text ∨
      ∃ left blank right, text = left ++ blank :: right ∧ isBlank blank = true := by
  by_cases free : BlankFree text
  · exact .inl free
  · simp only [BlankFree, not_forall, Bool.not_eq_false] at free
    obtain ⟨blank, member, blanks⟩ := free
    obtain ⟨left, right, same⟩ := List.append_of_mem member
    exact .inr ⟨left, blank, right, same, blanks⟩

/-- What holds of blank-free texts and passes from two texts to the two around a blank. -/
@[elab_as_elim]
theorem blank_induction
    {motive : List Char → Prop}
    (free : ∀ text, BlankFree text → motive text)
    (divided : ∀ left blank right, isBlank blank = true → motive left → motive right →
      motive (left ++ blank :: right))
    (text : List Char) :
    motive text := by
  rcases blankFree_or_exists_blank text with stretch | ⟨left, blank, right, same, blanks⟩
  · exact free text stretch
  · rw [same]
    exact divided left blank right blanks
      (blank_induction free divided left) (blank_induction free divided right)
termination_by text.length
decreasing_by
  all_goals
    rw [same, List.length_append, List.length_cons]
    omega

/-! ## Words -/

/-- The words on both sides of a blank are the words of the text. -/
theorem words_append_blank (blanks : isBlank blank = true) (left right : List Char) :
    words (left ++ blank :: right) = words left ++ words right := by
  unfold words
  rw [List.splitOnP_append_cons left right blanks, List.filter_append]

/-- A text without blanks is one word, if it is any. -/
theorem words_of_blankFree (free : BlankFree text) (inhabited : text ≠ []) :
    words text = [text] := by
  unfold words
  rw [List.splitOnP_eq_singleton free]
  simp [inhabited]

/-- No word holds a blank. -/
theorem blankFree_of_mem_words {word : List Char} : word ∈ words text → BlankFree word := by
  induction text using blank_induction with
  | free text free =>
      intro member
      by_cases inhabited : text = []
      · simp [inhabited] at member
      · rw [words_of_blankFree free inhabited, List.mem_singleton] at member
        rwa [member]
  | divided left blank right blanks leftFree rightFree =>
      rw [words_append_blank blanks, List.mem_append]
      rintro (member | member)
      · exact leftFree member
      · exact rightFree member

/-- Words with one space between neighbours are the words of the text that they make. -/
theorem words_intercalate
    {list : List (List Char)}
    (inhabited : ∀ word ∈ list, word ≠ [])
    (free : ∀ word ∈ list, BlankFree word) :
    words ([' '].intercalate list) = list := by
  induction list with
  | nil => simp
  | cons word rest ih =>
      have wordAlone : words word = [word] :=
        words_of_blankFree (free word List.mem_cons_self) (inhabited word List.mem_cons_self)
      by_cases last : rest = []
      · rw [last, List.intercalate_singleton, wordAlone]
      · rw [List.intercalate_cons_of_ne_nil last, List.append_assoc, List.singleton_append,
          words_append_blank (by decide), wordAlone,
          ih (fun other member => inhabited other (List.mem_cons_of_mem word member))
            fun other member => free other (List.mem_cons_of_mem word member)]
        rfl

/-- The upper case of a text without blanks has none. -/
theorem BlankFree.upper (free : BlankFree text) : BlankFree (upper text) := by
  intro d member
  obtain ⟨c, origin, image⟩ := List.mem_flatMap.1 member
  rw [isBlank_of_mem_upperChar image, free c origin]

/-- The words of an upper-case form are the upper-case forms of the words. -/
theorem words_upper (text : List Char) : words (upper text) = (words text).map upper := by
  induction text using blank_induction with
  | free text free =>
      by_cases empty : text = []
      · simp [empty]
      · have inhabited : upper text ≠ [] := by
          obtain ⟨c, rest, rfl⟩ := List.exists_cons_of_ne_nil empty
          rw [upper_cons]
          exact List.append_ne_nil_of_left_ne_nil (upperChar_ne_nil c) _
        rw [words_of_blankFree free empty, words_of_blankFree free.upper inhabited,
          List.map_singleton]
  | divided left blank right blanks leftWords rightWords =>
      have fixed : upperChar blank = [blank] :=
        upperChar_of_isSeparator (by rw [isSeparator, blanks, Bool.true_or])
      rw [upper_append, upper_cons, fixed, List.singleton_append, words_append_blank blanks,
        words_append_blank blanks, leftWords, rightWords, List.map_append]

/-! ## Ink -/

@[simp] theorem ink_append (left right : List Char) :
    ink (left ++ right) = ink left ++ ink right :=
  List.filter_append ..

theorem ink_of_blankFree (free : BlankFree text) : ink text = text := by
  unfold ink
  rw [List.filter_eq_self]
  intro c member
  rw [free c member, Bool.not_false]

/-- All ink of a text is ink. -/
@[simp] theorem ink_ink (text : List Char) : ink (ink text) = ink text := by
  simp [ink]

theorem ink_of_isAllBlank (blanks : ∀ c ∈ text, isBlank c = true) : ink text = [] := by
  unfold ink
  rw [List.filter_eq_nil_iff]
  intro c member
  rw [blanks c member]
  exact Bool.false_ne_true

/-- A text and its ink hold equally many quotes. -/
theorem count_quote_ink (text : List Char) :
    (ink text).count quoteMark = text.count quoteMark :=
  List.count_filter (by decide)

/-- Texts with the same ink leave a quote open alike. -/
theorem leavesQuoteOpen_of_ink (same : ink left = ink right) :
    leavesQuoteOpen left = leavesQuoteOpen right := by
  unfold leavesQuoteOpen
  rw [← count_quote_ink left, same, count_quote_ink]

theorem leavesQuoteOpen_of_blanks (blanks : ∀ c ∈ text, isBlank c = true) :
    leavesQuoteOpen text = false :=
  (@leavesQuoteOpen_of_ink text [] (ink_of_isAllBlank blanks)).trans rfl

/-- The words of a text hold all its ink. -/
theorem flatten_words (text : List Char) : (words text).flatten = ink text := by
  induction text using blank_induction with
  | free text free =>
      by_cases empty : text = []
      · simp [empty, ink]
      · rw [words_of_blankFree free empty, List.flatten_singleton, ink_of_blankFree free]
  | divided left blank right blanks leftInk rightInk =>
      have dry : ink [blank] = [] := by simp [ink, blanks]
      rw [words_append_blank blanks, List.flatten_append, leftInk, rightInk, List.append_cons,
        ink_append, ink_append, dry, List.append_nil]

/-- One space between neighbours adds no ink. -/
theorem ink_intercalate (list : List (List Char)) :
    ink ([' '].intercalate list) = ink list.flatten := by
  induction list with
  | nil => rfl
  | cons word rest ih =>
      by_cases last : rest = []
      · simp [last]
      · have dry : ink [' '] = [] := by decide
        rw [List.intercalate_cons_of_ne_nil last, List.flatten_cons, ink_append, ink_append, dry,
          List.append_nil, ih, ink_append]

/-! ## Trimming -/

theorem exists_append_trimLeft (text : List Char) :
    ∃ before, text = before ++ trimLeft text ∧ ∀ c ∈ before, isBlank c = true :=
  ⟨text.takeWhile isBlank, List.takeWhile_append_dropWhile.symm,
    fun _ member => List.mem_takeWhile_imp member⟩

/-- Trimming takes blanks away from both ends and nothing else. -/
theorem exists_append_trim (text : List Char) :
    ∃ before behind, text = before ++ (trim text ++ behind) ∧
      (∀ c ∈ before, isBlank c = true) ∧ ∀ c ∈ behind, isBlank c = true := by
  obtain ⟨before, fromLeft, blanksBefore⟩ := exists_append_trimLeft text
  obtain ⟨behind, fromRight, blanksBehind⟩ := exists_append_trimLeft (trimLeft text).reverse
  refine ⟨before, behind.reverse, ?_, blanksBefore, by simpa using blanksBehind⟩
  rw [trim, trimRight, ← List.reverse_append, ← fromRight, List.reverse_reverse]
  exact fromLeft

/-- Blanks around a text are no ink. -/
theorem ink_trim (text : List Char) : ink (trim text) = ink text := by
  obtain ⟨before, behind, same, blanksBefore, blanksBehind⟩ := exists_append_trim text
  conv_rhs =>
    rw [same, ink_append, ink_append, ink_of_isAllBlank blanksBefore,
      ink_of_isAllBlank blanksBehind, List.nil_append, List.append_nil]

/-- A text that neither begins nor ends with a blank is trimmed. -/
theorem trim_eq_self
    (opens : ∀ c ∈ text.head?, isBlank c = false)
    (closes : ∀ c ∈ text.getLast?, isBlank c = false) :
    trim text = text := by
  have untouched : ∀ stretch : List Char, (∀ c ∈ stretch.head?, isBlank c = false) →
      trimLeft stretch = stretch := by
    rintro (_ | ⟨c, rest⟩) opens
    · rfl
    · rw [trimLeft, List.dropWhile_cons, opens c rfl]
      rfl
  rw [trim, untouched text opens, trimRight, untouched, List.reverse_reverse]
  rwa [List.head?_reverse]

theorem isBlank_of_mem_head?_trimLeft {c : Char} (first : c ∈ (trimLeft text).head?) :
    isBlank c = false := by
  have stopped := List.head?_dropWhile_not isBlank text
  unfold trimLeft at first
  rw [Option.mem_def.1 first] at stopped
  exact stopped

@[simp] theorem trim_trim (text : List Char) : trim (trim text) = trim text := by
  apply trim_eq_self
  · intro c first
    obtain ⟨behind, same, _⟩ := exists_append_trimLeft (trimLeft text).reverse
    have opening : trimLeft text = trim text ++ behind.reverse := by
      rw [trim, trimRight, ← List.reverse_append, ← same, List.reverse_reverse]
    apply @isBlank_of_mem_head?_trimLeft text
    rw [opening, List.head?_append, Option.mem_def.1 first]
    rfl
  · intro c last
    rw [trim, trimRight, List.getLast?_reverse] at last
    exact isBlank_of_mem_head?_trimLeft last

theorem trim_of_blankFree (free : BlankFree text) : trim text = text :=
  trim_eq_self (fun c first => free c (List.mem_of_mem_head? first))
    fun c last => free c (List.mem_of_getLast? last)

/-- Words with one space between neighbours neither begin nor end with a blank. -/
theorem trim_intercalate
    {list : List (List Char)}
    (inhabited : ∀ word ∈ list, word ≠ [])
    (free : ∀ word ∈ list, BlankFree word) :
    trim ([' '].intercalate list) = [' '].intercalate list := by
  have opening (word : List Char) (rest : List (List Char)) :
      word <+: [' '].intercalate (word :: rest) := by
    by_cases last : rest = []
    · simpa only [last, List.intercalate_singleton] using List.prefix_refl word
    · rw [List.intercalate_cons_of_ne_nil last, List.append_assoc]
      exact List.prefix_append _ _
  apply trim_eq_self
  · rcases list with _ | ⟨word, rest⟩
    · simp
    · intro c first
      obtain ⟨d, tail, rfl⟩ := List.exists_cons_of_ne_nil (inhabited word List.mem_cons_self)
      obtain ⟨after, same⟩ := opening (d :: tail) rest
      rw [← same, List.cons_append, List.head?_cons, Option.mem_some_iff] at first
      exact first ▸ free _ List.mem_cons_self d List.mem_cons_self
  · induction list with
    | nil => simp
    | cons word rest ih =>
        by_cases last : rest = []
        · intro c closes
          rw [last, List.intercalate_singleton] at closes
          exact free word List.mem_cons_self c (List.mem_of_getLast? closes)
        · have more : [' '].intercalate rest ≠ [] := by
            obtain ⟨next, others, rfl⟩ := List.exists_cons_of_ne_nil last
            intro nothing
            have none := List.prefix_nil.1 (nothing ▸ opening next others)
            exact inhabited next (by simp) none
          rw [List.intercalate_cons_of_ne_nil last, List.getLast?_append_of_ne_nil _ more]
          exact ih (fun other member => inhabited other (List.mem_cons_of_mem word member))
            fun other member => free other (List.mem_cons_of_mem word member)

end Text
end Syllogistic
