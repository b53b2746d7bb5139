import Mathlib.Algebra.Ring.Parity
import Syllogistic.Proofs.Statement.Grammar
import Syllogistic.Proofs.Token

/-!
# What is wrong with a clause

A clause that is not read has one fault that is reported, however many it has.  An open
quote comes before all others, then the want of any token and the want of a copula.  The
first copula divides the clause: the fault of the left side comes before that of the right
side, and only when both name a set is the proposition that they make looked at.
-/

namespace Syllogistic

open Text

/-! ## Tokens -/

namespace Token

variable {token : Token} {clause : String} {fault : GrammarFault}

/-- The keyword of a quantifier. -/
def isQuantifier (token : Token) : Bool :=
  token.isWord "some" || token.isWord "all"

theorem name_eq_error_iff :
    token.name = .error fault ↔
      token.isReserved = true ∧ fault = .reservedWord token.text := by
  unfold Token.name
  cases token.isReserved <;> simp [eq_comm]

theorem scan_eq_error_iff :
    scan clause = .error fault ↔
      Odd (clause.toList.count quoteMark) ∧ fault = .unclosedQuote (trimmed clause) := by
  unfold scan leavesQuoteOpen
  rw [Nat.odd_iff]
  split
  · rename_i odd
    rw [beq_iff_eq] at odd
    simp [odd, eq_comm]
  · rename_i even
    rw [beq_iff_eq] at even
    simp [even]

/-- A text has no token just when it is all blank. -/
theorem split_eq_nil_iff {text : List Char} : split text = [] ↔ isAllBlank text = true := by
  unfold isAllBlank
  rw [List.all_eq_true]
  constructor
  · intro none
    have dry : ink text = [] := Classical.not_not.1 (mt split_ne_nil (not_not_intro none))
    simpa [ink, List.filter_eq_nil_iff] using dry
  · exact split_of_blanks

end Token

/-! ## Sides of a clause -/

namespace Term

/-- The tokens after the first one, if the first is of the kind. -/
def afterOptional (kind : Token → Bool) : List Token → List Token
  | [] => []
  | token :: rest => if kind token then rest else token :: rest

/-- The tokens of a side where its name should be, after a negation and a quantifier. -/
def namePart (side : List Token) : List Token :=
  afterOptional Token.isQuantifier (afterOptional Token.isNegation side)

/-- One token is left for the name, it is no keyword, and the name that it gives is not empty. -/
def Readable (side : List Token) : Prop :=
  ∃ token, namePart side = [token] ∧ token.isReserved = false ∧ Name.canonical token.text ≠ ""

/-- Why a side cannot be read, the first fault before all others. -/
inductive Fails (clause : String) (side : List Token) : GrammarFault → Prop
  /-- No token is left for the name. -/
  | missing
      (left : namePart side = []) :
      Fails clause side (.noName (trimmed clause))
  /-- A token follows the one in the place of the name, whatever either of them is. -/
  | extra {first second : Token} {rest : List Token}
      (left : namePart side = first :: second :: rest) :
      Fails clause side (.extraWord second.text)
  /-- The only token left is a keyword. -/
  | reserved {token : Token}
      (left : namePart side = [token])
      (keyword : token.isReserved = true) :
      Fails clause side (.reservedWord token.text)
  /-- The only token left gives an empty name. -/
  | nameless {token : Token}
      (left : namePart side = [token])
      (unreserved : token.isReserved = false)
      (empty : Name.canonical token.text = "") :
      Fails clause side (.noName (trimmed clause))

variable {clause : String} {side : List Token} {fault : GrammarFault}

theorem takeNegation_snd (side : List Token) :
    (takeNegation side).2 = afterOptional Token.isNegation side := by
  cases side with
  | nil => rfl
  | cons token rest =>
      rw [takeNegation, afterOptional]
      split <;> rfl

theorem takeQuantifier_snd (side : List Token) :
    (takeQuantifier side).2 = afterOptional Token.isQuantifier side := by
  cases side with
  | nil => rfl
  | cons token rest =>
      rw [takeQuantifier, afterOptional, Token.isQuantifier]
      cases token.isWord "some" <;> cases token.isWord "all" <;> rfl

/-- The reader looks for the name where the side has it. -/
theorem takeQuantifier_takeNegation (side : List Token) :
    (takeQuantifier (takeNegation side).2).2 = namePart side := by
  rw [takeQuantifier_snd, takeNegation_snd, namePart]

/-- A side is refused for just the fault that comes first. -/
theorem ofTokens_eq_error_iff : ofTokens clause side = .error fault ↔ Fails clause side fault := by
  unfold ofTokens
  dsimp only
  rw [takeQuantifier_takeNegation]
  constructor
  · intro refused
    split at refused
    · rename_i left
      cases refused
      exact .missing left
    · rename_i first second rest left
      cases refused
      exact .extra left
    · rename_i token left
      rcases bind_eq_error_iff.1 refused with unnamed | ⟨name, named, empty⟩
      · obtain ⟨keyword, rfl⟩ := Token.name_eq_error_iff.1 unnamed
        exact .reserved left keyword
      · obtain ⟨unreserved, rfl⟩ := Token.name_eq_ok_iff.1 named
        split at empty
        · rename_i blank
          cases empty
          exact .nameless left unreserved blank
        · cases empty
  · intro fails
    cases fails with
    | missing left => rw [left]
    | extra left => rw [left]
    | @reserved token left keyword =>
        rw [left]
        dsimp only
        rw [bind_eq_error_iff, Token.name_eq_error_iff]
        exact .inl ⟨keyword, rfl⟩
    | @nameless token left unreserved empty =>
        rw [left]
        dsimp only
        rw [bind_eq_error_iff]
        refine .inr ⟨"", Token.name_eq_ok_iff.2 ⟨unreserved, empty⟩, ?_⟩
        rw [if_pos rfl]

/-- A side can be read when it is written as a term. -/
theorem readable_iff_exists_written : Readable side ↔ ∃ term, Written side term := by
  constructor
  · rintro ⟨token, left, unreserved, inhabited⟩
    rw [← takeQuantifier_takeNegation] at left
    have names : token.Names (Name.canonical token.text) := ⟨unreserved, rfl, inhabited⟩
    have quantified := (@quantified_iff _ ⟨_, false, _⟩).2 ⟨token, left, names, rfl, rfl⟩
    exact ⟨_, written_iff.2 ⟨_, quantified, rfl⟩⟩
  · rintro ⟨term, written⟩
    obtain ⟨affirmed, quantified, rfl⟩ := written_iff.1 written
    obtain ⟨token, left, names, _⟩ := quantified_iff.1 quantified
    rw [takeQuantifier_takeNegation] at left
    exact ⟨token, left, names.unreserved, names.canonical ▸ names.inhabited⟩

/-- A side that can be read has no fault. -/
theorem Readable.not_fails (readable : Readable side) : ¬ Fails clause side fault := by
  obtain ⟨term, written⟩ := readable_iff_exists_written.1 readable
  rw [← ofTokens_eq_error_iff, ofTokens_eq_ok_iff.2 written]
  intro absurdity
  cases absurdity

/-- A side is written as one term only. -/
theorem Written.unique
    {term other : Term}
    (written : Written side term)
    (alsoWritten : Written side other) :
    term = other := by
  rw [← @ofTokens_eq_ok_iff ""] at written alsoWritten
  rw [written] at alsoWritten
  exact Except.ok.inj alsoWritten

/-- A side that cannot be read has a fault, and only one. -/
theorem exists_fails_iff (unreadable : ¬ Readable side) (clause : String) :
    ∃ fault, ∀ other, Fails clause side other ↔ other = fault := by
  cases read : ofTokens clause side with
  | ok term =>
      exact absurd (readable_iff_exists_written.2 ⟨term, ofTokens_eq_ok_iff.1 read⟩) unreadable
  | error fault =>
      refine ⟨fault, fun other => ?_⟩
      rw [← ofTokens_eq_error_iff, read, Except.error.injEq, eq_comm]

end Term

/-! ## Propositions -/

/-- Why a proposition is not well formed, the first fault before all others. -/
inductive Proposition.Fails (text : String) (proposition : Proposition) : GrammarFault → Prop
  | unquantified
      (bare : proposition.subject.quantifier = none) :
      Fails text proposition (.unquantifiedSubject text)
  | quantified
      (opened : proposition.subject.quantifier ≠ none)
      (quantifies : proposition.predicate.quantifier ≠ none) :
      Fails text proposition (.quantifiedPredicate text)
  | negated
      (opened : proposition.subject.quantifier ≠ none)
      (bare : proposition.predicate.quantifier = none)
      (denied : proposition.subject.negated = true) :
      Fails text proposition (.negatedSubject text)
  | reflexive
      (opened : proposition.subject.quantifier ≠ none)
      (bare : proposition.predicate.quantifier = none)
      (affirmed : proposition.subject.negated = false)
      (same : proposition.subject.name = proposition.predicate.name) :
      Fails text proposition (.sameName proposition.subject.name)

theorem Proposition.fault?_eq_some_iff
    {text : String}
    {proposition : Proposition}
    {fault : GrammarFault} :
    proposition.fault? text = some fault ↔ proposition.Fails text fault := by
  constructor
  · intro found
    unfold fault? at found
    split at found
    · rename_i bare
      cases found
      exact .unquantified bare
    · rename_i opened
      split at found
      · rename_i quantifies
        cases found
        exact .quantified opened quantifies
      · rename_i unquantified
        have bare := Classical.not_not.1 unquantified
        split at found
        · rename_i denied
          cases found
          exact .negated opened bare denied
        · rename_i affirmed
          split at found
          · rename_i same
            cases found
            exact .reflexive opened bare (Bool.eq_false_iff.2 affirmed) same
          · contradiction
  · intro fails
    unfold fault?
    cases fails with
    | unquantified bare => rw [if_pos bare]
    | quantified opened quantifies => rw [if_neg opened, if_pos quantifies]
    | negated opened bare denied =>
        rw [if_neg opened, if_neg (not_not_intro bare), if_pos denied]
    | reflexive opened bare affirmed same =>
        rw [if_neg opened, if_neg (not_not_intro bare), affirmed, if_neg Bool.false_ne_true,
          if_pos same]

namespace Statement

variable {clause : String} {tokens before after : List Token} {statement : Statement}
  {fault : GrammarFault}

theorem check_eq_error_iff :
    statement.check = .error fault ↔ statement.proposition.Fails statement.text fault := by
  rw [← Proposition.fault?_eq_some_iff, check]
  cases statement.proposition.fault? statement.text <;> simp

/-! ## Clauses -/

/-- Why a clause is refused, the first fault before all others. -/
inductive Refuses (clause : String) : GrammarFault → Prop
  /-- A quote is left open. -/
  | unclosed
      (opened : Odd (clause.toList.count quoteMark)) :
      Refuses clause (.unclosedQuote (trimmed clause))
  /-- There is no token. -/
  | blank
      (closed : Even (clause.toList.count quoteMark))
      (blank : isAllBlank clause.toList = true) :
      Refuses clause .nothingToRead
  /-- There is no copula. -/
  | unjoined
      (closed : Even (clause.toList.count quoteMark))
      (spoken : isAllBlank clause.toList = false)
      (unjoined : ∀ token ∈ Token.split clause.toList, token.isCopula = false) :
      Refuses clause (.noCopula (trimmed clause))
  /-- The left side cannot be read. -/
  | subject {before after : List Token} {fault : GrammarFault}
      (closed : Even (clause.toList.count quoteMark))
      (divided : Divided before after (Token.split clause.toList))
      (fails : Term.Fails clause before fault) :
      Refuses clause fault
  /-- The left side can be read, and the right side cannot. -/
  | predicate {before after : List Token} {fault : GrammarFault}
      (closed : Even (clause.toList.count quoteMark))
      (divided : Divided before after (Token.split clause.toList))
      (readable : Term.Readable before)
      (fails : Term.Fails clause after fault) :
      Refuses clause fault
  /-- Both sides can be read, and what they make is not well formed. -/
  | proposition {before after : List Token} {subject predicate : Term} {fault : GrammarFault}
      (closed : Even (clause.toList.count quoteMark))
      (divided : Divided before after (Token.split clause.toList))
      (subjectWritten : Term.Written before subject)
      (predicateWritten : Term.Written after predicate)
      (fails : Proposition.Fails (trimmed clause) ⟨subject, predicate⟩ fault) :
      Refuses clause fault

/-- The tokens of a divided clause have the fault of a side that cannot be read. -/
theorem ofTokens_eq_error_iff_of_divided (divided : Divided before after tokens) :
    ofTokens clause tokens = .error fault ↔
      Term.Fails clause before fault ∨ Term.Readable before ∧ Term.Fails clause after fault := by
  rw [ofTokens_of_divided divided, bind_eq_error_iff, Term.ofTokens_eq_error_iff,
    Term.readable_iff_exists_written]
  simp only [bind_eq_error_iff, Term.ofTokens_eq_error_iff, Term.ofTokens_eq_ok_iff, reduceCtorEq,
    and_false, exists_false, or_false, exists_and_right]

theorem read_of_open (opened : Odd (clause.toList.count quoteMark)) :
    read clause = .error (.unclosedQuote (trimmed clause)) := by
  rw [read, Token.scan_eq_error_iff.2 ⟨opened, rfl⟩]
  rfl

theorem read_of_blank
    (closed : Even (clause.toList.count quoteMark))
    (blank : isAllBlank clause.toList = true) :
    read clause = .error .nothingToRead := by
  rw [read, scan_eq_ok_iff.2 ⟨closed, Token.split_eq_nil_iff.2 blank⟩]
  rfl

theorem read_of_unjoined
    (closed : Even (clause.toList.count quoteMark))
    (spoken : isAllBlank clause.toList = false)
    (unjoined : ∀ token ∈ Token.split clause.toList, token.isCopula = false) :
    read clause = .error (.noCopula (trimmed clause)) := by
  have inhabited : Token.split clause.toList ≠ [] :=
    mt Token.split_eq_nil_iff.1 (Bool.eq_false_iff.1 spoken)
  rw [read, scan_eq_ok_iff.2 ⟨closed, rfl⟩]
  change ofTokens clause _ >>= _ = _
  rw [ofTokens_of_unjoined inhabited unjoined]
  rfl

/-- Of a divided clause the left side is looked at first, then the right, then the whole. -/
theorem read_eq_error_iff_of_divided
    (closed : Even (clause.toList.count quoteMark))
    (divided : Divided before after (Token.split clause.toList)) :
    read clause = .error fault ↔
      Term.Fails clause before fault ∨
      Term.Readable before ∧ Term.Fails clause after fault ∨
      ∃ subject predicate, Term.Written before subject ∧ Term.Written after predicate ∧
        Proposition.Fails (trimmed clause) ⟨subject, predicate⟩ fault := by
  rw [read, scan_eq_ok_iff.2 ⟨closed, rfl⟩]
  change ofTokens clause _ >>= _ = _ ↔ _
  simp only [bind_eq_error_iff, check_eq_error_iff, ofTokens_eq_error_iff_of_divided divided,
    ofTokens_eq_ok_iff_of_divided divided, reduceCtorEq, and_false, exists_false, or_false,
    or_assoc]
  refine or_congr_right (or_congr_right ⟨?_, ?_⟩)
  · rintro ⟨statement, ⟨subject, predicate, source⟩, fails⟩
    rw [text, source] at fails
    exact ⟨_, _, subject, predicate, fails⟩
  · rintro ⟨subject, predicate, subjectWritten, predicateWritten, fails⟩
    exact ⟨⟨⟨subject, predicate⟩, some (trimmed clause)⟩,
      ⟨subjectWritten, predicateWritten, rfl⟩, fails⟩

/-- A clause is refused for just the fault that comes first. -/
theorem read_eq_error_iff : read clause = .error fault ↔ Refuses clause fault := by
  constructor
  · intro refused
    rcases Nat.even_or_odd (clause.toList.count quoteMark) with closed | opened
    · cases blank : isAllBlank clause.toList with
      | true =>
          rw [read_of_blank closed blank] at refused
          cases refused
          exact .blank closed blank
      | false =>
          rcases unjoined_or_divided (Token.split clause.toList) with
            unjoined | ⟨before, after, divided⟩
          · rw [read_of_unjoined closed blank unjoined] at refused
            cases refused
            exact .unjoined closed blank unjoined
          · rcases (read_eq_error_iff_of_divided closed divided).1 refused with
              left | ⟨readable, right⟩ | ⟨subject, predicate, leftWritten, rightWritten, fails⟩
            · exact .subject closed divided left
            · exact .predicate closed divided readable right
            · exact .proposition closed divided leftWritten rightWritten fails
    · rw [read_of_open opened] at refused
      cases refused
      exact .unclosed opened
  · intro refuses
    cases refuses with
    | unclosed opened => exact read_of_open opened
    | blank closed blank => exact read_of_blank closed blank
    | unjoined closed spoken unjoined => exact read_of_unjoined closed spoken unjoined
    | subject closed divided fails =>
        exact (read_eq_error_iff_of_divided closed divided).2 (.inl fails)
    | predicate closed divided readable fails =>
        exact (read_eq_error_iff_of_divided closed divided).2 (.inr (.inl ⟨readable, fails⟩))
    | proposition closed divided subjectWritten predicateWritten fails =>
        exact (read_eq_error_iff_of_divided closed divided).2
          (.inr (.inr ⟨_, _, subjectWritten, predicateWritten, fails⟩))

/-- An open quote is the fault of a clause just when its quotes are odd in number. -/
theorem exists_read_eq_unclosedQuote_iff :
    (∃ text, read clause = .error (.unclosedQuote text)) ↔
      Odd (clause.toList.count quoteMark) := by
  constructor
  · rintro ⟨text, refused⟩
    cases read_eq_error_iff.1 refused with
    | unclosed opened => exact opened
    | subject _ _ fails => cases fails
    | predicate _ _ _ fails => cases fails
    | proposition _ _ _ _ fails => cases fails
  · exact fun opened => ⟨_, read_of_open opened⟩

theorem read_eq_nothingToRead_iff :
    read clause = .error .nothingToRead ↔
      Even (clause.toList.count quoteMark) ∧ isAllBlank clause.toList = true := by
  constructor
  · intro refused
    cases read_eq_error_iff.1 refused with
    | blank closed blank => exact ⟨closed, blank⟩
    | subject _ _ fails => cases fails
    | predicate _ _ _ fails => cases fails
    | proposition _ _ _ _ fails => cases fails
  · rintro ⟨closed, blank⟩
    exact read_of_blank closed blank

theorem exists_read_eq_noCopula_iff :
    (∃ text, read clause = .error (.noCopula text)) ↔
      Even (clause.toList.count quoteMark) ∧ isAllBlank clause.toList = false ∧
        ∀ token ∈ Token.split clause.toList, token.isCopula = false := by
  constructor
  · rintro ⟨text, refused⟩
    cases read_eq_error_iff.1 refused with
    | unjoined closed spoken unjoined => exact ⟨closed, spoken, unjoined⟩
    | subject _ _ fails => cases fails
    | predicate _ _ _ fails => cases fails
    | proposition _ _ _ _ fails => cases fails
  · rintro ⟨closed, spoken, unjoined⟩
    exact ⟨_, read_of_unjoined closed spoken unjoined⟩

/-- A clause never has too many words for a name. -/
theorem read_ne_severalWords (clause line : String) :
    read clause ≠ .error (.severalWords line) := by
  intro refused
  cases read_eq_error_iff.1 refused with
  | subject _ _ fails => cases fails
  | predicate _ _ _ fails => cases fails
  | proposition _ _ _ _ fails => cases fails

/--
Of several faults of a clause the first in this order is reported.  An odd number of
quotes leaves one open; otherwise a clause of blanks has nothing to read; otherwise no token
is a copula.  Otherwise the first copula divides the clause.  If the left side cannot be
read, its fault is reported; otherwise, if the right side cannot be read, the fault of that;
otherwise the first fault of the proposition that the two sides make, if it has any.  That a
clause has several words for a name is never reported.
-/
theorem read_reports_first_fault (clause : String) :
    ((∃ text, read clause = .error (.unclosedQuote text)) ↔
      Odd (clause.toList.count quoteMark)) ∧
    (Even (clause.toList.count quoteMark) →
      (read clause = .error .nothingToRead ↔ isAllBlank clause.toList = true)) ∧
    (Even (clause.toList.count quoteMark) → isAllBlank clause.toList = false →
      ((∃ text, read clause = .error (.noCopula text)) ↔
        ∀ token ∈ Token.split clause.toList, token.isCopula = false)) ∧
    ((∃ token ∈ Token.split clause.toList, token.isCopula = true) →
      ∃ before after, Divided before after (Token.split clause.toList)) ∧
    (∀ before after, Even (clause.toList.count quoteMark) →
      Divided before after (Token.split clause.toList) →
      (¬ Term.Readable before →
        ∃ fault, read clause = .error fault ∧
          ∀ other, Term.Fails clause before other ↔ other = fault) ∧
      (Term.Readable before → ¬ Term.Readable after →
        ∃ fault, read clause = .error fault ∧
          ∀ other, Term.Fails clause after other ↔ other = fault) ∧
      (Term.Readable before → Term.Readable after →
        ∃ subject predicate, Term.Written before subject ∧ Term.Written after predicate ∧
          ∀ fault, read clause = .error fault ↔
            Proposition.Fails (trimmed clause) ⟨subject, predicate⟩ fault)) ∧
    ∀ line, read clause ≠ .error (.severalWords line) := by
  refine ⟨exists_read_eq_unclosedQuote_iff, fun even => ?_, fun even spoken => ?_, ?_,
    fun before after even divided => ?_, ?_⟩
  · rw [read_eq_nothingToRead_iff]
    exact and_iff_right even
  · rw [exists_read_eq_noCopula_iff, and_iff_right even, and_iff_right spoken]
  · rintro ⟨copula, member, joins⟩
    refine (unjoined_or_divided _).resolve_left fun unjoined => ?_
    rw [unjoined copula member] at joins
    contradiction
  · have refuses {fault : GrammarFault} :=
      @read_eq_error_iff_of_divided clause before after fault even divided
    refine ⟨fun unreadable => ?_, fun left unreadable => ?_, fun left right => ?_⟩
    · obtain ⟨fault, only⟩ := Term.exists_fails_iff unreadable clause
      exact ⟨fault, refuses.2 (.inl ((only fault).2 rfl)), only⟩
    · obtain ⟨fault, only⟩ := Term.exists_fails_iff unreadable clause
      exact ⟨fault, refuses.2 (.inr (.inl ⟨left, (only fault).2 rfl⟩)), only⟩
    · obtain ⟨subject, subjectWritten⟩ := Term.readable_iff_exists_written.1 left
      obtain ⟨predicate, predicateWritten⟩ := Term.readable_iff_exists_written.1 right
      refine ⟨subject, predicate, subjectWritten, predicateWritten, fun fault => ?_⟩
      rw [refuses, or_iff_right left.not_fails, or_iff_right fun fails => right.not_fails fails.2]
      constructor
      · rintro ⟨other, another, otherWritten, anotherWritten, fails⟩
        rwa [subjectWritten.unique otherWritten, predicateWritten.unique anotherWritten]
      · exact fun fails => ⟨subject, predicate, subjectWritten, predicateWritten, fails⟩
  · exact read_ne_severalWords clause

/--
A keyword in the place of the subject's name comes before whatever is wrong on the right of
the first copula.
-/
theorem read_reports_first_fault_of_keyword :
    let clause := "some NOT is are all \"\""
    Even (clause.toList.count quoteMark) ∧
      Divided [⟨"some"⟩, ⟨"NOT"⟩] [⟨"are"⟩, ⟨"all"⟩, ⟨"\"\""⟩] (Token.split clause.toList) ∧
      ¬ Term.Readable [⟨"some"⟩, ⟨"NOT"⟩] ∧ ¬ Term.Readable [⟨"are"⟩, ⟨"all"⟩, ⟨"\"\""⟩] ∧
      read clause = .error (.reservedWord "NOT") := by
  intro clause
  have closed : Even (clause.toList.count quoteMark) := by decide +kernel
  have divided : Divided [⟨"some"⟩, ⟨"NOT"⟩] [⟨"are"⟩, ⟨"all"⟩, ⟨"\"\""⟩]
      (Token.split clause.toList) := by
    have tokens : Token.split clause.toList =
        [⟨"some"⟩, ⟨"NOT"⟩] ++ ⟨"is"⟩ :: [⟨"are"⟩, ⟨"all"⟩, ⟨"\"\""⟩] := by
      decide +kernel
    rw [tokens]
    exact .mk (by decide +kernel) (by decide +kernel)
  have left : Term.Fails clause [⟨"some"⟩, ⟨"NOT"⟩] (.reservedWord "NOT") :=
    @Term.Fails.reserved _ _ ⟨"NOT"⟩ (by decide +kernel) (by decide +kernel)
  have right : Term.Fails clause [⟨"are"⟩, ⟨"all"⟩, ⟨"\"\""⟩] (.extraWord "all") :=
    @Term.Fails.extra _ _ ⟨"are"⟩ ⟨"all"⟩ [⟨"\"\""⟩] (by decide +kernel)
  have unreadable : ¬ Term.Readable [⟨"some"⟩, ⟨"NOT"⟩] := fun readable => readable.not_fails left
  have divides := (read_reports_first_fault clause).2.2.2.2.1 _ _ closed divided
  obtain ⟨fault, refused, only⟩ := divides.1 unreadable
  rw [← (only _).1 left] at refused
  exact ⟨closed, divided, unreadable, fun readable => readable.not_fails right, refused⟩

end Statement
end Syllogistic
