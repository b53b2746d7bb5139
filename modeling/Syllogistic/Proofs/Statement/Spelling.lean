import Mathlib.Logic.Relation
import Syllogistic.Proofs.Name
import Syllogistic.Proofs.Statement.Faults
import Syllogistic.Proofs.Text.LowerCase

/-!
# Spellings of a clause

Two texts are spellings of one clause when they differ in the case of ASCII letters and in
blanks at the ends or next to other blanks outside quotes.  Their tokens differ at most in
case, keywords are the same in any case, and a name is put into upper case anyway.  So both
are read as the same proposition, or both have a fault of the same kind.
-/

namespace Syllogistic

open Text

/-! ## Spellings -/

/-- One change to the spelling of a text, in a letter or in a blank. -/
inductive Text.Retouch : List Char → List Char → Prop
  /-- A character, in quotes or not, becomes one that differs at most in ASCII case. -/
  | recased {left right : List Char} {c d : Char}
      (same : c.toLower = d.toLower) :
      Retouch (left ++ c :: right) (left ++ d :: right)
  /-- A blank comes before the text. -/
  | leading {text : List Char} {blank : Char}
      (blanks : isBlank blank = true) :
      Retouch text (blank :: text)
  /-- A blank comes after the text. -/
  | trailing {text : List Char} {blank : Char}
      (blanks : isBlank blank = true) :
      Retouch text (text ++ [blank])
  /-- A blank comes before a blank outside quotes. -/
  | widenedBefore {left right : List Char} {blank added : Char}
      (blanks : isBlank blank = true)
      (closed : leavesQuoteOpen left = false)
      (addedBlanks : isBlank added = true) :
      Retouch (left ++ blank :: right) (left ++ added :: blank :: right)
  /-- A blank comes behind a blank outside quotes. -/
  | widenedBehind {left right : List Char} {blank added : Char}
      (blanks : isBlank blank = true)
      (closed : leavesQuoteOpen left = false)
      (addedBlanks : isBlank added = true) :
      Retouch (left ++ blank :: right) (left ++ blank :: added :: right)

/-- Texts that any number of changes, made or undone, turn into one another. -/
def Text.SameSpelling : List Char → List Char → Prop :=
  Relation.EqvGen Retouch

/-- Any letters may change their case at once. -/
theorem Text.sameSpelling_of_lower {first second : List Char} (same : lower first = lower second) :
    SameSpelling first second := by
  suffices recase : ∀ before, SameSpelling (before ++ first) (before ++ second) from recase []
  induction first generalizing second with
  | nil =>
      rw [lower_eq_nil_iff.1 same.symm]
      exact fun before => .refl _
  | cons c rest ih =>
      cases second with
      | nil => cases same
      | cons d others =>
          rw [lower_cons, lower_cons, List.cons.injEq] at same
          intro before
          refine .trans _ _ _ (.rel _ _ (.recased same.1)) ?_
          rw [List.append_cons before d rest, List.append_cons before d others]
          exact ih same.2 (before ++ [d])

/-! ## Names -/

namespace Name

@[simp] theorem isApostrophe_toLower (c : Char) : isApostrophe c.toLower = isApostrophe c :=
  apply_toLower (by decide +kernel) c

theorem unquote_lower (text : List Char) : unquote (lower text) = lower (unquote text) := by
  cases text with
  | nil => rfl
  | cons first rest =>
      have last : (lower rest).getLast? = some quoteMark ↔ rest.getLast? = some quoteMark := by
        simp [lower, List.getLast?_map]
      simp only [lower_cons, unquote, toLower_eq_quoteMark_iff, last]
      split
      · exact List.map_dropLast.symm
      · rfl

theorem dropPossessive_lower (text : List Char) :
    dropPossessive (lower text) = lower (dropPossessive text) := by
  have letter (c : Char) : (c.toLower == 's' || c.toLower == 'S') = (c == 's' || c == 'S') :=
    apply_toLower (f := fun c => c == 's' || c == 'S') (by decide +kernel) c
  unfold dropPossessive
  rw [reverse_lower]
  rcases text.reverse with _ | ⟨ending, _ | ⟨mark, stem⟩⟩
  · rfl
  · rfl
  · simp only [lower_cons, letter, isApostrophe_toLower]
    split
    · exact reverse_lower stem
    · rfl

/-- Names that differ at most in case have the same canonical form. -/
theorem canonicalChars_lower (text : List Char) :
    canonicalChars (lower text) = canonicalChars text := by
  unfold canonicalChars
  rw [trim_lower, unquote_lower, dropPossessive_lower, ← joinWords_upper, upper_lower,
    joinWords_upper]

end Name

/-! ## Tokens -/

namespace Token

variable {token : Token} {text first second : List Char}

/-- The token with its ASCII letters in lower case. -/
def lowered (token : Token) : Token :=
  ⟨String.ofList (lower token.text.toList)⟩

@[simp] theorem isWord_lowered (token : Token) (word : String) :
    token.lowered.isWord word = token.isWord word := by
  have quoted : (lower token.text.toList).contains quoteMark =
      token.text.toList.contains quoteMark := by
    simp [lower]
  unfold isWord isQuoted sameWord lowered
  rw [String.toList_ofList, quoted, ← lower, lower_lower]
  rfl

@[simp] theorem isCopula_lowered (token : Token) : token.lowered.isCopula = token.isCopula := by
  simp [isCopula]

@[simp] theorem isNegation_lowered (token : Token) :
    token.lowered.isNegation = token.isNegation := by
  simp [isNegation]

@[simp] theorem isReserved_lowered (token : Token) :
    token.lowered.isReserved = token.isReserved := by
  simp [isReserved]

@[simp] theorem canonical_lowered (token : Token) :
    Name.canonical token.lowered.text = Name.canonical token.text := by
  rw [← String.toList_inj, Name.toList_canonical, Name.toList_canonical, lowered,
    String.toList_ofList, Name.canonicalChars_lower]

/-- The tokens of a text in lower case are its tokens in lower case. -/
theorem split_lower (text : List Char) : split (lower text) = (split text).map lowered := by
  unfold split cutOutsideQuotes
  rw [cutFrom_lower isBlank_toLower, List.filter_map, List.map_map, List.map_map]
  simp [Function.comp_def, lowered]

/-- The tokens of a text in lower case, provided that it closes its quotes. -/
def lowerTokens? (text : List Char) : Option (List Token) :=
  if leavesQuoteOpen text then none else some ((split text).map lowered)

@[simp] theorem lowered_lowered (token : Token) : token.lowered.lowered = token.lowered := by
  simp [lowered]

theorem lowerTokens?_lower (text : List Char) : lowerTokens? (lower text) = lowerTokens? text := by
  unfold lowerTokens?
  rw [leavesQuoteOpen_lower, split_lower, List.map_map]
  simp [Function.comp_def]

theorem lowerTokens?_congr
    (quotes : leavesQuoteOpen first = leavesQuoteOpen second)
    (tokens : leavesQuoteOpen second = false → split first = split second) :
    lowerTokens? first = lowerTokens? second := by
  unfold lowerTokens?
  rw [quotes]
  split
  · rfl
  · rename_i closed
    rw [tokens (Bool.eq_false_iff.2 closed)]

/-- A change of spelling keeps the tokens, their case apart. -/
theorem lowerTokens?_of_retouch (retouch : Retouch first second) :
    lowerTokens? first = lowerTokens? second := by
  cases retouch with
  | @recased left right c d same =>
      rw [← lowerTokens?_lower, ← lowerTokens?_lower (left ++ d :: right)]
      simp [same]
  | leading blanks =>
      apply lowerTokens?_congr
      · exact (leavesQuoteOpen_cons_blank blanks first).symm
      · exact fun _ => (split_cons_blank blanks first).symm
  | @trailing _ blank blanks =>
      have quotes : leavesQuoteOpen (first ++ [blank]) = leavesQuoteOpen first := by
        rw [leavesQuoteOpen_append, leavesQuoteOpen_cons_blank blanks, leavesQuoteOpen_nil,
          Bool.xor_false]
      apply lowerTokens?_congr quotes.symm
      intro closed
      rw [split_append_blank blanks (quotes.symm.trans closed), split_nil, List.append_nil]
  | @widenedBefore left right blank added blanks closed addedBlanks =>
      apply lowerTokens?_congr
      · rw [leavesQuoteOpen_append, leavesQuoteOpen_append, leavesQuoteOpen_cons_blank addedBlanks]
      · intro _
        rw [split_append_blank blanks closed, split_append_blank addedBlanks closed,
          split_cons_blank blanks]
  | @widenedBehind left right blank added blanks closed addedBlanks =>
      apply lowerTokens?_congr
      · rw [leavesQuoteOpen_append, leavesQuoteOpen_append, leavesQuoteOpen_cons_blank blanks,
          leavesQuoteOpen_cons_blank blanks, leavesQuoteOpen_cons_blank addedBlanks]
      · intro _
        rw [split_append_blank blanks closed, split_append_blank blanks closed,
          split_cons_blank addedBlanks]

theorem lowerTokens?_of_sameSpelling (same : SameSpelling first second) :
    lowerTokens? first = lowerTokens? second := by
  induction same with
  | rel _ _ retouch => exact lowerTokens?_of_retouch retouch
  | refl => rfl
  | symm _ _ _ ih => exact ih.symm
  | trans _ _ _ _ _ ihLeft ihRight => exact ihLeft.trans ihRight

end Token

/-! ## Results alike -/

/-- The kind of a fault, which is the fault without the text that it quotes. -/
def GrammarFault.kind : GrammarFault → GrammarFault
  | nothingToRead => nothingToRead
  | unclosedQuote _ => unclosedQuote ""
  | noCopula _ => noCopula ""
  | noName _ => noName ""
  | extraWord _ => extraWord ""
  | reservedWord _ => reservedWord ""
  | unquantifiedSubject _ => unquantifiedSubject ""
  | quantifiedPredicate _ => quantifiedPredicate ""
  | negatedSubject _ => negatedSubject ""
  | sameName _ => sameName ""
  | severalWords _ => severalWords ""

/-- Two steps both lead to related values, or both fail with a fault of one kind. -/
inductive Alike {Value : Type} (related : Value → Value → Prop) :
    Except GrammarFault Value → Except GrammarFault Value → Prop
  | ok {value other : Value}
      (values : related value other) :
      Alike related (.ok value) (.ok other)
  | error {fault other : GrammarFault}
      (kinds : fault.kind = other.kind) :
      Alike related (.error fault) (.error other)

/-- Steps that are alike stay so when what they lead to is alike. -/
theorem Alike.bind
    {Value Result : Type}
    {related : Value → Value → Prop}
    {later : Result → Result → Prop}
    {first second : Except GrammarFault Value}
    {next following : Value → Except GrammarFault Result}
    (alike : Alike related first second)
    (onward : ∀ value other, related value other → Alike later (next value) (following other)) :
    Alike later (first >>= next) (second >>= following) := by
  cases alike with
  | ok values => exact onward _ _ values
  | error kinds => exact .error kinds

/-! ## Reading -/

namespace Token

variable {token other : Token} {tokens others : List Token}

/-- The same token in any case is a keyword in both or names the same set in both. -/
theorem name_alike (same : token.lowered = other.lowered) : Alike Eq token.name other.name := by
  have reserved : token.isReserved = other.isReserved := by
    rw [← isReserved_lowered, same, isReserved_lowered]
  have canonical : Name.canonical token.text = Name.canonical other.text := by
    rw [← canonical_lowered, same, canonical_lowered]
  unfold name
  rw [reserved, canonical]
  split
  · exact .error rfl
  · exact .ok rfl

theorem takeWhile_lowered (tokens : List Token) :
    (tokens.map lowered).takeWhile (!·.isCopula) =
      (tokens.takeWhile (!·.isCopula)).map lowered := by
  rw [List.takeWhile_map]
  simp [Function.comp_def]

theorem dropWhile_lowered (tokens : List Token) :
    (tokens.map lowered).dropWhile (!·.isCopula) =
      (tokens.dropWhile (!·.isCopula)).map lowered := by
  rw [List.dropWhile_map]
  simp [Function.comp_def]

end Token

namespace Term

variable {side others : List Token}

theorem takeNegation_lowered (side : List Token) :
    takeNegation (side.map Token.lowered) =
      (takeNegation side).map id (List.map Token.lowered) := by
  cases side with
  | nil => rfl
  | cons token rest =>
      rw [List.map_cons, takeNegation, takeNegation, Token.isNegation_lowered]
      split <;> rfl

theorem takeQuantifier_lowered (side : List Token) :
    takeQuantifier (side.map Token.lowered) =
      (takeQuantifier side).map id (List.map Token.lowered) := by
  cases side with
  | nil => rfl
  | cons token rest =>
      rw [List.map_cons, takeQuantifier, takeQuantifier, Token.isWord_lowered,
        Token.isWord_lowered]
      split
      · rfl
      · split <;> rfl

/-- The same side in any case is read as the same term, or it has a fault of the same kind. -/
theorem ofTokens_alike
    (same : side.map Token.lowered = others.map Token.lowered)
    (clause another : String) :
    Alike Eq (ofTokens clause side) (ofTokens another others) := by
  have negations := congrArg takeNegation same
  rw [takeNegation_lowered, takeNegation_lowered, Prod.ext_iff] at negations
  obtain ⟨negated, unnegated⟩ := negations
  have quantifiers := congrArg takeQuantifier unnegated
  rw [Prod.map_snd, Prod.map_snd, takeQuantifier_lowered, takeQuantifier_lowered,
    Prod.ext_iff] at quantifiers
  obtain ⟨quantifier, category⟩ := quantifiers
  simp only [Prod.map_fst, Prod.map_snd, id_eq] at negated quantifier category
  unfold ofTokens
  dsimp only
  rw [negated, quantifier]
  generalize (takeQuantifier (takeNegation side).2).2 = left at category ⊢
  generalize (takeQuantifier (takeNegation others).2).2 = right at category ⊢
  cases left with
  | nil =>
      rw [List.map_eq_nil_iff.1 category.symm]
      exact .error rfl
  | cons token rest =>
      obtain ⟨other, more, rfl, head, tail⟩ := List.map_eq_cons_iff.1 category.symm
      cases rest with
      | nil =>
          rw [List.map_eq_nil_iff.1 tail]
          refine (Token.name_alike head.symm).bind ?_
          rintro name _ rfl
          split
          · exact .error rfl
          · exact .ok rfl
      | cons extra after =>
          obtain ⟨second, last, rfl, _, _⟩ := List.map_eq_cons_iff.1 tail
          exact .error rfl

end Term

namespace Statement

variable {first second : String}

/-- Two statements of one proposition. -/
def SameProposition (statement other : Statement) : Prop :=
  statement.proposition = other.proposition

/-- The same tokens in any case make the same proposition, or they have a fault of one kind. -/
theorem ofTokens_alike
    {tokens others : List Token}
    (same : tokens.map Token.lowered = others.map Token.lowered)
    (first second : String) :
    Alike SameProposition (ofTokens first tokens) (ofTokens second others) := by
  have before := congrArg (List.takeWhile (!·.isCopula)) same
  have behind := congrArg (List.dropWhile (!·.isCopula)) same
  rw [Token.takeWhile_lowered, Token.takeWhile_lowered] at before
  rw [Token.dropWhile_lowered, Token.dropWhile_lowered] at behind
  have empty : tokens = [] ↔ others = [] := by
    rw [← List.map_eq_nil_iff, same, List.map_eq_nil_iff]
  unfold ofTokens
  by_cases none : others = []
  · rw [if_pos (empty.2 none), if_pos none]
    exact .error rfl
  rw [if_neg (mt empty.1 none), if_neg none]
  generalize tokens.dropWhile (!·.isCopula) = left at behind ⊢
  generalize others.dropWhile (!·.isCopula) = right at behind ⊢
  cases left with
  | nil =>
      rw [List.map_eq_nil_iff.1 behind.symm]
      exact .error rfl
  | cons copula after =>
      obtain ⟨other, rest, rfl, _, afterwards⟩ := List.map_eq_cons_iff.1 behind.symm
      refine (Term.ofTokens_alike before first second).bind ?_
      rintro subject _ rfl
      refine (Term.ofTokens_alike afterwards.symm first second).bind ?_
      rintro predicate _ rfl
      exact .ok rfl

/-- The fault of a proposition is of the same kind under any text. -/
theorem map_kind_fault? (proposition : Proposition) (text other : String) :
    (proposition.fault? text).map GrammarFault.kind =
      (proposition.fault? other).map GrammarFault.kind := by
  unfold Proposition.fault?
  repeat' split
  all_goals rfl

/-- Statements of one proposition both pass the check, or they fail it for the same reason. -/
theorem check_alike
    {statement other : Statement}
    (same : SameProposition statement other) :
    Alike Eq statement.check other.check := by
  have kinds := map_kind_fault? other.proposition statement.text other.text
  unfold check
  rw [same]
  cases left : other.proposition.fault? statement.text with
  | none =>
      rw [left, Option.map_none, eq_comm, Option.map_eq_none_iff] at kinds
      rw [kinds]
      exact .ok rfl
  | some fault =>
      rw [left, Option.map_some, eq_comm, Option.map_eq_some_iff] at kinds
      obtain ⟨another, right, kind⟩ := kinds
      rw [right]
      exact .error kind.symm

/-- A clause in another spelling is cut into the same tokens, their case apart. -/
theorem scan_alike (same : SameSpelling first.toList second.toList) :
    Alike (fun tokens others => tokens.map Token.lowered = others.map Token.lowered)
      (Token.scan first) (Token.scan second) := by
  have tokens := Token.lowerTokens?_of_sameSpelling same
  unfold Token.lowerTokens? at tokens
  unfold Token.scan
  split at tokens
  · rename_i left
    split at tokens
    · rename_i right
      rw [if_pos left, if_pos right]
      exact .error rfl
    · cases tokens
  · rename_i left
    split at tokens
    · cases tokens
    · rename_i right
      rw [if_neg left, if_neg right]
      exact .ok (Option.some.inj tokens)

/-- A clause in another spelling makes the same proposition, or it has a fault of one kind. -/
theorem read_alike (same : SameSpelling first.toList second.toList) :
    Alike SameProposition (read first) (read second) := by
  refine (scan_alike same).bind fun tokens others lowered => ?_
  refine (ofTokens_alike lowered first second).bind fun statement other proposition => ?_
  exact (check_alike proposition).bind fun _ _ _ => .ok proposition

/--
Of two clauses that differ in the ASCII case of letters, and in blanks at the ends or next
to other blanks outside quotes, both are read and make the same proposition, or neither is
read and their faults are of one kind.
-/
theorem read_ignores_case_and_spacing
    {first second : String}
    (same : SameSpelling first.toList second.toList) :
    (∃ statement other, read first = .ok statement ∧ read second = .ok other ∧
      statement.proposition = other.proposition) ∨
    ∃ fault other, read first = .error fault ∧ read second = .error other ∧
      fault.kind = other.kind := by
  have alike := read_alike same
  generalize read first = left at alike ⊢
  generalize read second = right at alike ⊢
  cases alike with
  | ok values => exact .inl ⟨_, _, rfl, rfl, values⟩
  | error kinds => exact .inr ⟨_, _, rfl, rfl, kinds⟩

/-- Letters in quotes may change their case, and blanks outside them may be more or fewer. -/
theorem read_ignores_case_and_spacing_of_quoted_name :
    let first := "Some \"a  is\" are not b's"
    let second := "\u3000sOME \t\"A  Is\" ARE nOt B'S\n"
    let proposition : Proposition := ⟨⟨"A IS", false, some .particular⟩, ⟨"B", true, none⟩⟩
    SameSpelling first.toList second.toList ∧
      ∃ statement other, read first = .ok statement ∧ read second = .ok other ∧
        statement.proposition = proposition ∧ other.proposition = proposition := by
  intro first second proposition
  let rest := "\"A  Is\" ARE nOt B'S".toList
  have recased : SameSpelling first.toList ("sOME".toList ++ ' ' :: rest) :=
    sameSpelling_of_lower (by decide +kernel)
  have widened : Retouch ("sOME".toList ++ ' ' :: rest) ("sOME".toList ++ ' ' :: '\t' :: rest) :=
    .widenedBehind (by decide) (by decide +kernel) (by decide)
  have led : Retouch _ ('\u3000' :: ("sOME".toList ++ ' ' :: '\t' :: rest)) :=
    .leading (by decide)
  have trailed : Retouch _ (('\u3000' :: ("sOME".toList ++ ' ' :: '\t' :: rest)) ++ ['\n']) :=
    .trailing (by decide)
  have whole : second.toList = ('\u3000' :: ("sOME".toList ++ ' ' :: '\t' :: rest)) ++ ['\n'] := by
    decide +kernel
  have same : SameSpelling first.toList second.toList := by
    rw [whole]
    exact .trans _ _ _ recased (.trans _ _ _ (.rel _ _ widened)
      (.trans _ _ _ (.rel _ _ led) (.rel _ _ trailed)))
  have said : read first = .ok ⟨proposition, some first⟩ := by decide +kernel
  refine ⟨same, ?_⟩
  rcases read_ignores_case_and_spacing same with
    ⟨statement, other, isRead, alsoRead, equal⟩ | ⟨fault, _, refused, _⟩
  · cases said.symm.trans isRead
    exact ⟨_, other, isRead, alsoRead, rfl, equal.symm⟩
  · rw [said] at refused
    cases refused

end Statement

end Syllogistic
