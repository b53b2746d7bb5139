import Syllogistic.Proofs.Name
import Syllogistic.Proofs.Statement.Grammar
import Syllogistic.Proofs.Token

/-!
# Reading displayed statements

The display of a well-formed proposition is cut into the words that it puts around the
names and into the tokens of the displayed names.  It reads back just when each name is
one token that names it again.  A canonical name of one word always is.  A name of
several words is shown in quotes, which take a possessive ending of the name away, and
which a quote of the name itself closes too early if a blank comes after it.
-/

namespace Syllogistic

open Text

/-! ## Names -/

namespace Name

variable {name : String}

/-- Every blank of the text stands outside the quotes of the text. -/
def SpacedOutside (text : List Char) : Prop :=
  ∀ left blank right, text = left ++ blank :: right → isBlank blank = true →
    leavesQuoteOpen left = false

/--
The display of the name gives it back: the name is one word, or it has no possessive
ending and each of its blanks stands outside its own quotes, and so inside those around
the name.
-/
def Readable (name : String) : Prop :=
  BlankFree name.toList ∨
    ¬ EndsInPossessive name.toList ∧ SpacedOutside name.toList

/-- A name in canonical form that is not empty, holds no quote and has no possessive ending. -/
structure Plain (name : String) : Prop where
  inhabited : name ≠ ""
  canonical : canonical name = name
  unquoted : quoteMark ∉ name.toList
  bare : ¬ EndsInPossessive name.toList

instance (name : String) : Decidable (Plain name) :=
  decidable_of_iff
    (name ≠ "" ∧ Name.canonical name = name ∧ quoteMark ∉ name.toList ∧
      ¬ EndsInPossessive name.toList)
    ⟨fun ⟨inhabited, canonical, unquoted, bare⟩ => ⟨inhabited, canonical, unquoted, bare⟩,
      fun ⟨inhabited, canonical, unquoted, bare⟩ => ⟨inhabited, canonical, unquoted, bare⟩⟩

theorem leavesQuoteOpen_of_unquoted
    {text : List Char}
    (unquoted : quoteMark ∉ text) :
    leavesQuoteOpen text = false := by
  rw [leavesQuoteOpen_eq_false_iff, List.count_eq_zero.2 unquoted]
  exact Even.zero

/-- Without quotes of its own a name is readable unless it ends in a possessive. -/
theorem Plain.readable (plain : Plain name) : Readable name := by
  refine .inr ⟨plain.bare, fun left blank right same _ => ?_⟩
  apply leavesQuoteOpen_of_unquoted
  intro member
  apply plain.unquoted
  rw [same]
  exact List.mem_append_left _ member

theorem Plain.settled (plain : Plain name) : Settled name.toList := by
  rw [← plain.canonical]
  exact settled_canonical _

theorem toList_display_of_blankFree (free : BlankFree name.toList) :
    (display name).toList = name.toList ++ ['\x27', 's'] := by
  have noBlank : name.toList.any isBlank = false := by simpa [BlankFree] using free
  rw [display, noBlank, if_neg Bool.false_ne_true, String.toList_append]
  rfl

theorem toList_display_of_blank (several : ¬ BlankFree name.toList) :
    (display name).toList = quoteMark :: (name.toList ++ [quoteMark]) := by
  have someBlank : name.toList.any isBlank = true := by simpa [BlankFree] using several
  rw [display, if_pos someBlank, String.toList_append, String.toList_append]
  rfl

/-- A displayed name closes its quotes just where the name does. -/
theorem leavesQuoteOpen_display (name : String) :
    leavesQuoteOpen (display name).toList = leavesQuoteOpen name.toList := by
  by_cases free : BlankFree name.toList
  · rw [toList_display_of_blankFree free, leavesQuoteOpen_append]
    exact Bool.xor_false _
  · rw [toList_display_of_blank free]
    simp

/-- A displayed name neither begins nor ends with a blank. -/
theorem isBlank_of_ends_display
    {c : Char}
    (ends : c ∈ (display name).toList.head? ∨ c ∈ (display name).toList.getLast?) :
    isBlank c = false := by
  by_cases free : BlankFree name.toList
  · rw [toList_display_of_blankFree free] at ends
    apply blankFree_possessive free c
    exact ends.elim List.mem_of_mem_head? List.mem_of_getLast?
  · have quote : c = quoteMark := by
      rw [toList_display_of_blank free, getLast?_quoted] at ends
      simpa [eq_comm] using ends
    rw [quote]
    rfl

theorem toList_display_ne_nil (name : String) : (display name).toList ≠ [] := by
  by_cases free : BlankFree name.toList
  · rw [toList_display_of_blankFree free]
    simp
  · rw [toList_display_of_blank free]
    simp

/-- A displayed name has a token. -/
theorem split_display_ne_nil (name : String) : Token.split (display name).toList ≠ [] := by
  apply Token.split_ne_nil
  by_cases free : BlankFree name.toList
  · rw [toList_display_of_blankFree free, ink_append]
    exact List.append_ne_nil_of_right_ne_nil _ (by decide)
  · rw [toList_display_of_blank free]
    have mark : ink [quoteMark] ≠ [] := by decide
    exact List.append_ne_nil_of_left_ne_nil mark _

/-- A token with a character of no keyword names the set of its canonical form. -/
theorem names_of_canonicalChars
    {text : List Char}
    {c : Char}
    (member : c ∈ text)
    (foreign : ∀ word ∈ ["is", "are", "not", "some", "all"],
      c.toLower ∉ word.toList.map Char.toLower)
    (same : canonicalChars text = name.toList)
    (inhabited : name ≠ "") :
    Token.Names ⟨String.ofList text⟩ name where
  unreserved := Token.isReserved_eq_false_of_mem (by rwa [String.toList_ofList]) foreign
  canonical := by rw [canonical, String.toList_ofList, same, String.ofList_toList]
  inhabited := inhabited

/-- The possessive of a settled name of one word is a token that names it. -/
theorem exists_token_of_blankFree
    (settled : Settled name.toList)
    (inhabited : name ≠ "")
    (free : BlankFree name.toList) :
    ∃ token, Token.split (display name).toList = [token] ∧ token.Names name := by
  have whole := Token.split_of_blankFree (by simp) (blankFree_possessive free)
  rw [toList_display_of_blankFree free]
  refine ⟨_, whole, ?_⟩
  have mark : '\x27' ∈ name.toList ++ ['\x27', 's'] :=
    List.mem_append_right _ List.mem_cons_self
  exact names_of_canonicalChars mark (by decide) (canonicalChars_possessive settled free) inhabited

/-- In quotes, a text whose blanks stand outside its own quotes is one piece. -/
theorem SpacedOutside.cutOutsideQuotes_quoted
    {text : List Char}
    (outside : SpacedOutside text) :
    cutOutsideQuotes isBlank (quoteMark :: (text ++ [quoteMark])) =
      [quoteMark :: (text ++ [quoteMark])] := by
  have inner : cutFrom isBlank true (text ++ [quoteMark]) = [text ++ [quoteMark]] := by
    apply cutFrom_eq_singleton
    intro left blank right same blanks unquoted
    rcases List.append_eq_append_iff.1 same with ⟨between, rfl, last⟩ | ⟨between, rfl, last⟩
    · rcases between with _ | ⟨d, between⟩
      · cases last
        contradiction
      · simp at last
    · rcases between with _ | ⟨d, between⟩
      · cases last
        contradiction
      · cases last
        rw [outside left blank between rfl blanks]
        rfl
  rw [cutOutsideQuotes, cutFrom_quote, Bool.not_false, inner]
  rfl

/-- In quotes, a text that is one token has its blanks outside its own quotes. -/
theorem spacedOutside_of_split_quoted
    {text : List Char}
    {token : Token}
    (alone : Token.split (quoteMark :: (text ++ [quoteMark])) = [token]) :
    SpacedOutside text := by
  rintro left blank right rfl blanks
  rw [← Bool.not_eq_true]
  intro opened
  have closed : leavesQuoteOpen (quoteMark :: left) = false := by
    rw [leavesQuoteOpen_cons, opened]
    rfl
  have mark : ink [quoteMark] ≠ [] := by decide
  have before : Token.split (quoteMark :: left) ≠ [] :=
    Token.split_ne_nil (List.append_ne_nil_of_left_ne_nil mark (ink left))
  have behind : Token.split (right ++ [quoteMark]) ≠ [] := by
    apply Token.split_ne_nil
    rw [ink_append]
    exact List.append_ne_nil_of_right_ne_nil _ mark
  rw [List.append_assoc, List.cons_append, ← List.cons_append,
    Token.split_append_blank blanks closed] at alone
  have lengths := congrArg List.length alone
  rw [List.length_append, List.length_singleton] at lengths
  have beforeLength := List.length_pos_iff.2 before
  have behindLength := List.length_pos_iff.2 behind
  omega

theorem spacedOutside_iff {text : List Char} :
    cutOutsideQuotes isBlank (quoteMark :: (text ++ [quoteMark])) =
      [quoteMark :: (text ++ [quoteMark])] ↔ SpacedOutside text :=
  ⟨fun whole => spacedOutside_of_split_quoted
    (Token.split_eq_singleton (List.cons_ne_nil _ _) whole), SpacedOutside.cutOutsideQuotes_quoted⟩

instance (text : List Char) : Decidable (SpacedOutside text) :=
  decidable_of_iff _ spacedOutside_iff

instance (name : String) : Decidable (Readable name) :=
  inferInstanceAs (Decidable (BlankFree name.toList ∨
    ¬ EndsInPossessive name.toList ∧ SpacedOutside name.toList))

/-- The display of a settled name is a token that names it just when the name is readable. -/
theorem exists_token_iff_readable
    (settled : Settled name.toList)
    (inhabited : name ≠ "") :
    (∃ token, Token.split (display name).toList = [token] ∧ token.Names name) ↔
      Readable name := by
  by_cases free : BlankFree name.toList
  · exact ⟨fun _ => .inl free, fun _ => exists_token_of_blankFree settled inhabited free⟩
  · have whole (outside : SpacedOutside name.toList) :=
      Token.split_eq_singleton (List.cons_ne_nil _ _) outside.cutOutsideQuotes_quoted
    rw [toList_display_of_blank free, Readable, or_iff_right free]
    constructor
    · rintro ⟨token, alone, names⟩
      have outside := spacedOutside_of_split_quoted alone
      rw [whole outside, List.cons.injEq] at alone
      obtain ⟨rfl, _⟩ := alone
      have same := congrArg String.toList names.canonical
      rw [toList_canonical, String.toList_ofList] at same
      exact ⟨(canonicalChars_quoted_eq_self_iff settled).1 same, outside⟩
    · rintro ⟨bare, outside⟩
      refine ⟨_, whole outside, ?_⟩
      have same := (canonicalChars_quoted_eq_self_iff settled).2 bare
      exact names_of_canonicalChars List.mem_cons_self (by decide) same inhabited

end Name

/-! ## Terms -/

namespace Term

/-- The words that a displayed term has before its name. -/
def words (term : Term) : List String :=
  (if term.negated then ["not"] else []) ++ term.quantifier.toList.map Quantifier.word

/-- The display of a term is its name after these words, with a space behind each of them. -/
theorem toList_display (term : Term) :
    term.display.toList =
      (term.words.flatMap fun word => word.toList ++ [' ']) ++ (Name.display term.name).toList := by
  obtain ⟨name, negated, quantifier⟩ := term
  cases negated <;> cases quantifier <;> simp [display, words]

/-- Each of the words is a stretch without blanks and without quotes. -/
theorem blankFree_of_mem_words {term : Term} {word : String} (member : word ∈ term.words) :
    word.toList ≠ [] ∧ BlankFree word.toList ∧ leavesQuoteOpen word.toList = false := by
  have negation : "not".toList ≠ [] ∧ BlankFree "not".toList ∧
      leavesQuoteOpen "not".toList = false := by
    decide
  rcases List.mem_append.1 member with before | behind
  · split at before
    · rw [List.mem_singleton.1 before]
      exact negation
    · cases before
  · obtain ⟨quantifier, _, rfl⟩ := List.mem_map.1 behind
    cases quantifier <;> decide

/-- Such words in front of a text are tokens in front of its tokens, and they open no quote. -/
theorem split_words_append
    {words : List String}
    (free : ∀ word ∈ words,
      word.toList ≠ [] ∧ BlankFree word.toList ∧ leavesQuoteOpen word.toList = false)
    (text : List Char) :
    let whole := (words.flatMap fun word => word.toList ++ [' ']) ++ text
    leavesQuoteOpen whole = leavesQuoteOpen text ∧
      Token.split whole = words.map Token.mk ++ Token.split text := by
  induction words with
  | nil => exact ⟨rfl, rfl⟩
  | cons word rest ih =>
      rw [List.forall_mem_cons] at free
      obtain ⟨⟨inhabited, stretch, closed⟩, others⟩ := free
      obtain ⟨quotes, split⟩ := ih others
      simp only [List.flatMap_cons, List.append_assoc, List.cons_append, List.nil_append]
      constructor
      · rw [leavesQuoteOpen_append_blank (by decide), closed, Bool.false_xor, quotes]
      · rw [Token.split_append_blank (by decide) closed, Token.split_of_blankFree inhabited stretch,
          String.ofList_toList, split]
        rfl

/-- A displayed term closes its quotes just where its name does. -/
theorem leavesQuoteOpen_display (term : Term) :
    leavesQuoteOpen term.display.toList = leavesQuoteOpen term.name.toList := by
  rw [toList_display, (split_words_append (fun _ => blankFree_of_mem_words) _).1,
    Name.leavesQuoteOpen_display]

theorem split_display (term : Term) :
    Token.split term.display.toList =
      term.words.map Token.mk ++ Token.split (Name.display term.name).toList := by
  rw [toList_display, (split_words_append (fun _ => blankFree_of_mem_words) _).2]

/-- The display of a term is written as the term if its name is given by one token. -/
theorem written_display
    {term : Term}
    (given : ∃ token, Token.split (Name.display term.name).toList = [token] ∧
      token.Names term.name) :
    Written (Token.split term.display.toList) term := by
  obtain ⟨token, alone, names⟩ := given
  rw [split_display, alone]
  obtain ⟨name, negated, quantifier⟩ := term
  have quantified : Quantified ((words ⟨name, false, quantifier⟩).map Token.mk ++ [token])
      ⟨name, false, quantifier⟩ := by
    cases quantifier with
    | none => exact .bare names
    | some quantifier => exact .quantified (by cases quantifier <;> decide) names
  cases negated with
  | false => exact .affirmed quantified
  | true => exact .negated (by decide) quantified

theorem toList_display_ne_nil (term : Term) : term.display.toList ≠ [] := by
  rw [toList_display]
  exact List.append_ne_nil_of_right_ne_nil _ (Name.toList_display_ne_nil term.name)

/-- A displayed term neither begins nor ends with a blank. -/
theorem isBlank_of_ends_display
    {term : Term}
    {c : Char}
    (ends : c ∈ term.display.toList.head? ∨ c ∈ term.display.toList.getLast?) :
    isBlank c = false := by
  have named := Name.toList_display_ne_nil term.name
  rw [toList_display, List.getLast?_append_of_ne_nil _ named] at ends
  rcases ends with first | last
  · by_cases bare : term.words = []
    · rw [bare] at first
      exact Name.isBlank_of_ends_display (.inl first)
    · obtain ⟨word, rest, words⟩ := List.exists_cons_of_ne_nil bare
      obtain ⟨inhabited, free, _⟩ := @blankFree_of_mem_words term word (by simp [words])
      rw [words, List.flatMap_cons, List.append_assoc, List.append_assoc,
        List.head?_append_of_ne_nil _ inhabited] at first
      exact free c (List.mem_of_mem_head? first)
  · exact Name.isBlank_of_ends_display (.inr last)

end Term

/-! ## Propositions -/

namespace Proposition

variable {quantifier : Quantifier} {subject predicate : String} {negated : Bool}

/-- A well-formed proposition has a quantifier before its subject and perhaps a negation. -/
theorem WellFormed.exists_eq
    {proposition : Proposition}
    (wellFormed : proposition.WellFormed) :
    ∃ quantifier subject predicate negated, subject ≠ predicate ∧
      proposition = ⟨⟨subject, false, some quantifier⟩, ⟨predicate, negated, none⟩⟩ := by
  obtain ⟨⟨subject, denied, quantifier⟩, ⟨predicate, negated, other⟩⟩ := proposition
  obtain ⟨quantified, unquantified, affirmed, different⟩ := wellFormed
  cases unquantified
  cases affirmed
  obtain ⟨kind, rfl⟩ := Option.ne_none_iff_exists'.1 quantified
  exact ⟨kind, subject, predicate, negated, different, rfl⟩

/-- The negation before a displayed predicate, if there is one. -/
def negation (negated : Bool) : List Token :=
  if negated then [⟨"not"⟩] else []

/-! ### The display as a text and as tokens -/

theorem toList_display (proposition : Proposition) :
    proposition.display.toList =
      proposition.subject.display.toList ++
        ' ' :: ("are".toList ++ ' ' :: proposition.predicate.display.toList) := by
  simp [display]

/-- A displayed proposition closes its quotes when both names do. -/
theorem leavesQuoteOpen_display
    {proposition : Proposition}
    (closed : ∀ name ∈ proposition.names, leavesQuoteOpen name.toList = false) :
    leavesQuoteOpen proposition.display.toList = false := by
  have word : leavesQuoteOpen "are".toList = false := by decide
  rw [toList_display, leavesQuoteOpen_append_blank (by decide),
    leavesQuoteOpen_append_blank (by decide), word, Term.leavesQuoteOpen_display,
    Term.leavesQuoteOpen_display, closed _ List.mem_cons_self,
    closed _ (List.mem_cons_of_mem _ List.mem_cons_self)]
  rfl

/-- The tokens of a displayed proposition are those of its terms around a copula. -/
theorem split_display
    {proposition : Proposition}
    (closed : leavesQuoteOpen proposition.subject.name.toList = false) :
    Token.split proposition.display.toList =
      Token.split proposition.subject.display.toList ++
        ⟨"are"⟩ :: Token.split proposition.predicate.display.toList := by
  have copula : Token.split "are".toList = [⟨"are"⟩] := by decide
  rw [toList_display, Token.split_append_blank (by decide)
      ((Term.leavesQuoteOpen_display _).trans closed),
    Token.split_append_blank (by decide) (by decide), copula, List.singleton_append]

/-- No blank stands before or behind a displayed proposition. -/
theorem trimmed_display (proposition : Proposition) :
    trimmed proposition.display = proposition.display := by
  rw [← String.toList_inj, trimmed, String.toList_ofList, toList_display]
  apply trim_eq_self
  · intro c first
    rw [List.head?_append_of_ne_nil _ (Term.toList_display_ne_nil _)] at first
    exact Term.isBlank_of_ends_display (.inl first)
  · intro c last
    rw [List.append_cons, List.append_cons "are".toList, ← List.append_assoc,
      List.getLast?_append_of_ne_nil _ (Term.toList_display_ne_nil _)] at last
    exact Term.isBlank_of_ends_display (.inr last)

theorem split_display_subject :
    Token.split (Term.display ⟨subject, false, some quantifier⟩).toList =
      ⟨quantifier.word⟩ :: Token.split (Name.display subject).toList :=
  Term.split_display _

theorem split_display_predicate :
    Token.split (Term.display ⟨predicate, negated, none⟩).toList =
      negation negated ++ Token.split (Name.display predicate).toList := by
  rw [Term.split_display]
  cases negated <;> rfl

/-- The words around two names make a clause just when each name is given by one token. -/
theorem clause_iff_of_sides
    {subjectSide predicateSide : List Token}
    (subjectGiven : subjectSide ≠ [])
    (predicateGiven : predicateSide ≠ [])
    (different : subject ≠ predicate) :
    Clause
      (⟨quantifier.word⟩ :: (subjectSide ++ ⟨"are"⟩ :: (negation negated ++ predicateSide)))
      ⟨⟨subject, false, some quantifier⟩, ⟨predicate, negated, none⟩⟩ ↔
    (∃ token, subjectSide = [token] ∧ token.Names subject) ∧
      ∃ token, predicateSide = [token] ∧ token.Names predicate := by
  obtain ⟨first, more, rfl⟩ := List.exists_cons_of_ne_nil subjectGiven
  obtain ⟨second, others, rfl⟩ := List.exists_cons_of_ne_nil predicateGiven
  constructor
  · intro clause
    generalize written : (⟨quantifier.word⟩ :: (first :: more ++
      ⟨"are"⟩ :: (negation negated ++ second :: others)) : List Token) = tokens at clause
    -- A clause holds as many tokens as the words and one token for each name.
    have short : more = [] ∧ others = [] := by
      have lengths := congrArg List.length written
      rw [← List.length_eq_zero_iff, ← List.length_eq_zero_iff]
      cases clause <;> simp [negation] at lengths <;> omega
    obtain ⟨rfl, rfl⟩ := short
    cases clause with
    | affirmed quantifies namesSubject joins namesPredicate =>
        cases written
        exact ⟨⟨_, rfl, namesSubject⟩, _, rfl, namesPredicate⟩
    | denied quantifies namesSubject joins negates namesPredicate =>
        cases written
        exact ⟨⟨_, rfl, namesSubject⟩, _, rfl, namesPredicate⟩
  · rintro ⟨⟨_, alone, namesSubject⟩, _, single, namesPredicate⟩
    rw [alone, single]
    have quantifies : Token.isWord quantifier.word ⟨quantifier.word⟩ = true := by
      cases quantifier <;> decide
    have joins : Token.isCopula ⟨"are"⟩ = true := by decide
    cases negated with
    | false => exact .affirmed quantifies namesSubject joins namesPredicate different
    | true => exact .denied quantifies namesSubject joins (by decide) namesPredicate different

end Proposition

/-! ## Statements -/

namespace Statement

open Proposition

variable {clause : String} {statement : Statement}

/-- A displayed proposition reads back just when each name is one token that names it. -/
theorem read_display_iff
    {proposition : Proposition}
    (wellFormed : proposition.WellFormed)
    (closed : ∀ name ∈ proposition.names, leavesQuoteOpen name.toList = false) :
    (∃ again, read proposition.display = .ok again ∧ again.proposition = proposition) ↔
      ∀ name ∈ proposition.names,
        ∃ token, Token.split (Name.display name).toList = [token] ∧ token.Names name := by
  obtain ⟨quantifier, subject, predicate, negated, different, rfl⟩ := wellFormed.exists_eq
  simp only [names, List.forall_mem_cons, List.not_mem_nil, false_imp_iff, implies_true,
    and_true] at closed ⊢
  have tokens := @split_display ⟨⟨subject, false, some quantifier⟩, ⟨predicate, negated, none⟩⟩
    closed.1
  dsimp only at tokens
  rw [split_display_subject, split_display_predicate, List.cons_append] at tokens
  rw [← clause_iff_of_sides (Name.split_display_ne_nil subject)
    (Name.split_display_ne_nil predicate) different, ← tokens]
  constructor
  · rintro ⟨again, accepted, same⟩
    have written := (read_eq_ok_iff.1 accepted).2.1
    rwa [same] at written
  · intro written
    refine ⟨⟨_, some (trimmed _)⟩, read_eq_ok_iff.2 ⟨?_, written, rfl⟩, rfl⟩
    rw [← leavesQuoteOpen_eq_false_iff]
    apply leavesQuoteOpen_display
    simpa [names] using closed

/-- Both names of a clause are given by tokens of the clause. -/
theorem exists_tokens_of_clause
    {tokens : List Token}
    {proposition : Proposition}
    (clause : Clause tokens proposition) :
    (∃ token ∈ tokens, token.Names proposition.subject.name) ∧
      ∃ token ∈ tokens, token.Names proposition.predicate.name := by
  cases clause with
  | affirmed _ namesSubject _ namesPredicate =>
      exact ⟨⟨_, by simp, namesSubject⟩, _, by simp, namesPredicate⟩
  | denied _ namesSubject _ _ namesPredicate =>
      exact ⟨⟨_, by simp, namesSubject⟩, _, by simp, namesPredicate⟩

/-- A name that a token of a text with closed quotes gives is settled and has closed quotes. -/
theorem settled_of_names
    {text : List Char}
    {name : String}
    (closed : leavesQuoteOpen text = false)
    (given : ∃ token ∈ Token.split text, token.Names name) :
    name ≠ "" ∧ Name.Settled name.toList ∧ leavesQuoteOpen name.toList = false := by
  obtain ⟨token, listed, names⟩ := given
  refine ⟨names.inhabited, ?_⟩
  rw [← names.canonical, Name.toList_canonical, Name.leavesQuoteOpen_canonicalChars]
  exact ⟨Name.settled_canonicalChars _, Token.leavesQuoteOpen_of_mem_split closed listed⟩

/-- A name that was read is not empty, settled, and leaves no quote open. -/
theorem settled_of_read
    (accepted : read clause = .ok statement)
    {name : String}
    (member : name ∈ statement.proposition.names) :
    name ≠ "" ∧ Name.Settled name.toList ∧ leavesQuoteOpen name.toList = false := by
  obtain ⟨even, written, _⟩ := read_eq_ok_iff.1 accepted
  obtain ⟨subject, predicate⟩ := exists_tokens_of_clause written
  have closed := leavesQuoteOpen_eq_false_iff.2 even
  simp only [names, List.mem_cons, List.not_mem_nil, or_false] at member
  rcases member with rfl | rfl
  · exact settled_of_names closed subject
  · exact settled_of_names closed predicate

/--
The display of a statement that was read is read back as the same proposition exactly
when both names are readable: a name of several words may not end in a possessive, and
its blanks must stand outside its own quotes.
-/
theorem read_display_of_read (accepted : read clause = .ok statement) :
    (∃ again, read statement.proposition.display = .ok again ∧
      again.proposition = statement.proposition) ↔
    ∀ name ∈ statement.proposition.names, Name.Readable name := by
  have wellFormed := (clause_iff.1 (read_eq_ok_iff.1 accepted).2.1).2
  rw [read_display_iff wellFormed fun name member => (settled_of_read accepted member).2.2]
  refine forall₂_congr fun name member => ?_
  obtain ⟨inhabited, settled, _⟩ := settled_of_read accepted member
  exact Name.exists_token_iff_readable settled inhabited

/--
The display of any proposition whose names are given by one token each is read as the
proposition, and refused for the fault of the proposition if it is not well formed.
-/
theorem read_display
    {proposition : Proposition}
    (closed : ∀ name ∈ proposition.names, leavesQuoteOpen name.toList = false)
    (given : ∀ name ∈ proposition.names,
      ∃ token, Token.split (Name.display name).toList = [token] ∧ token.Names name) :
    read proposition.display =
      (ofProposition proposition).check.map fun _ => ⟨proposition, some proposition.display⟩ := by
  have even := leavesQuoteOpen_eq_false_iff.1 (leavesQuoteOpen_display closed)
  have subject := Term.written_display (given _ List.mem_cons_self)
  have predicate := Term.written_display (given _ (List.mem_cons_of_mem _ List.mem_cons_self))
  have tokens : ofTokens proposition.display (Token.split proposition.display.toList) =
      .ok ⟨proposition, some proposition.display⟩ := by
    rw [ofTokens_eq_ok_iff, split_display (closed _ List.mem_cons_self), trimmed_display]
    exact ⟨⟨_, _, _, rfl, by decide, subject, predicate⟩, rfl⟩
  rw [read, scan_eq_ok_iff.2 ⟨even, rfl⟩]
  change ofTokens _ _ >>= _ = _
  rw [tokens]
  change (ofProposition proposition).check >>= _ = _
  cases (ofProposition proposition).check <;> rfl

/-- A name of several words without quotes in it reads back. -/
theorem read_display_of_read_several_words :
    ∃ statement, read "Some a's are not \"red  things\"" = .ok statement ∧
      statement.proposition.names = ["A", "RED THINGS"] ∧
        ∃ again, read statement.proposition.display = .ok again ∧
          again.proposition = statement.proposition := by
  have accepted : read "Some a's are not \"red  things\"" =
      .ok ⟨⟨⟨"A", false, some .particular⟩, ⟨"RED THINGS", true, none⟩⟩,
        some "Some a's are not \"red  things\""⟩ := by
    decide +kernel
  exact ⟨_, accepted, rfl, (read_display_of_read accepted).2 (by decide +kernel)⟩

/-- The quotes around a name of several words take its possessive ending away. -/
theorem read_display_loses_possessive :
    ∃ statement again, read "All \"big a's's\" are fruit" = .ok statement ∧
      read statement.proposition.display = .ok again ∧
        statement.proposition.names = ["BIG A'S", "FRUIT"] ∧
          again.proposition.names = ["BIG A", "FRUIT"] ∧
            again.proposition ≠ statement.proposition := by
  let proposition : Proposition :=
    ⟨⟨"BIG A'S", false, some .universal⟩, ⟨"FRUIT", false, none⟩⟩
  have accepted : read "All \"big a's's\" are fruit" =
      .ok ⟨proposition, some "All \"big a's's\" are fruit"⟩ := by
    decide +kernel
  have again : read proposition.display =
      .ok ⟨⟨⟨"BIG A", false, some .universal⟩, ⟨"FRUIT", false, none⟩⟩,
        some "All \"BIG A'S\" are FRUIT's"⟩ := by
    decide +kernel
  exact ⟨_, _, accepted, again, rfl, rfl, by decide⟩

/-- Neither such a name nor one whose own quotes open at its blank is readable. -/
example : ¬ Name.Readable "BIG A'S" ∧ ¬ Name.Readable "\"RED APPLES\"" := by
  decide +kernel

/-- The display of a well-formed proposition over plain names reads back. -/
theorem exists_read_display
    (valid : statement.check = .ok ())
    (plain : ∀ name ∈ statement.proposition.names, Name.Plain name) :
    ∃ again, read statement.proposition.display = .ok again ∧
      again.proposition = statement.proposition := by
  rw [read_display_iff (check_eq_ok_iff.1 valid) fun name member =>
    Name.leavesQuoteOpen_of_unquoted (plain name member).unquoted]
  intro name member
  rw [Name.exists_token_iff_readable (plain name member).settled (plain name member).inhabited]
  exact (plain name member).readable

/--
A well-formed proposition over plain names is read back from its display, whatever word
a name is; so two such propositions are never displayed alike.
-/
theorem read_display_of_plain
    (valid : statement.check = .ok ())
    (plain : ∀ name ∈ statement.proposition.names, Name.Plain name) :
    (∃ again, read statement.proposition.display = .ok again ∧
      again.proposition = statement.proposition) ∧
    ∀ other : Statement, other.check = .ok () →
      (∀ name ∈ other.proposition.names, Name.Plain name) →
        other.proposition.display = statement.proposition.display →
          other.proposition = statement.proposition := by
  refine ⟨exists_read_display valid plain, fun other otherValid otherPlain same => ?_⟩
  obtain ⟨again, accepted, proposition⟩ := exists_read_display valid plain
  obtain ⟨otherAgain, otherAccepted, otherProposition⟩ := exists_read_display otherValid otherPlain
  rw [same, accepted] at otherAccepted
  cases otherAccepted
  rw [← otherProposition, proposition]

/-- Names may be keywords, in one word or among several. -/
theorem read_display_of_plain_keywords :
    ∃ statement : Statement,
      statement.proposition.display = "All NOT's are not \"ARE ALL\"" ∧
        ∃ again, read statement.proposition.display = .ok again ∧
          again.proposition = statement.proposition := by
  let statement : Statement :=
    .ofProposition ⟨⟨"NOT", false, some .universal⟩, ⟨"ARE ALL", true, none⟩⟩
  have plain : ∀ name ∈ statement.proposition.names, Name.Plain name := by decide +kernel
  exact ⟨statement, by decide +kernel, (read_display_of_plain rfl plain).1⟩

end Statement

end Syllogistic
