import Mathlib.Algebra.Group.Nat.Even
import Mathlib.Data.List.TakeWhile
import Syllogistic.Statement.Reader

/-!
# The grammar of clauses

The reader takes a clause apart at its first copula and lets either side begin with a
negation and a quantifier, so that it can say what is wrong with them.  All that it
accepts in the end are the two orders of tokens of the grammar, with a quantifier
before the subject and at most a negation before the predicate.
-/

namespace Syllogistic

open Text

/-- A step that may fail leads to a result when it succeeds and the next one leads there. -/
theorem bind_eq_ok_iff
    {Fault Value Result : Type}
    {step : Except Fault Value}
    {next : Value → Except Fault Result}
    {result : Result} :
    (step >>= next) = .ok result ↔ ∃ value, step = .ok value ∧ next value = .ok result := by
  cases step with
  | error fault => simp [bind, Except.bind]
  | ok value => simp [bind, Except.bind]

/-- A step leads to a fault when it fails or when what it leads to does. -/
theorem bind_eq_error_iff
    {Fault Value Result : Type}
    {step : Except Fault Value}
    {next : Value → Except Fault Result}
    {fault : Fault} :
    (step >>= next) = .error fault ↔
      step = .error fault ∨ ∃ value, step = .ok value ∧ next value = .error fault := by
  cases step with
  | error other => simp [bind, Except.bind]
  | ok value => simp [bind, Except.bind]

/-! ## Tokens -/

namespace Token

/-- The token is no keyword, and the name that it gives is not blank. -/
structure Names (token : Token) (name : String) : Prop where
  unreserved : token.isReserved = false
  canonical : Name.canonical token.text = name
  inhabited : name ≠ ""

theorem name_eq_ok_iff {token : Token} {name : String} :
    token.name = .ok name ↔
      token.isReserved = false ∧ Name.canonical token.text = name := by
  unfold Token.name
  cases token.isReserved <;> simp

/-- No token is two different words. -/
theorem isWord_eq_false
    {token : Token}
    {first second : String}
    (isFirst : token.isWord first = true)
    (different : first.toList.map Char.toLower ≠ second.toList.map Char.toLower) :
    token.isWord second = false := by
  unfold isWord sameWord at *
  rw [Bool.and_eq_true, beq_iff_eq] at isFirst
  rw [isFirst.2, beq_eq_false_iff_ne.2 different, Bool.and_false]

/-- Words that differ at most in case are the same for a token. -/
theorem isWord_congr
    {first second : String}
    (same : first.toList.map Char.toLower = second.toList.map Char.toLower)
    (token : Token) :
    token.isWord first = token.isWord second := by
  unfold isWord sameWord
  rw [same]

/-- The keyword of a quantifier is its word in any case. -/
theorem isWord_word (token : Token) (quantifier : Quantifier) :
    token.isWord quantifier.word =
      match quantifier with
      | .particular => token.isWord "some"
      | .universal => token.isWord "all" := by
  cases quantifier with
  | particular => exact isWord_congr (by decide) token
  | universal => exact isWord_congr (by decide) token

theorem isReserved_eq_false_iff {token : Token} :
    token.isReserved = false ↔
      token.isCopula = false ∧ token.isNegation = false ∧
        ∀ quantifier : Quantifier, token.isWord quantifier.word = false := by
  unfold isReserved
  simp only [Bool.or_eq_false_iff, isWord_word, and_assoc]
  refine and_congr_right fun _ => and_congr_right fun _ => ?_
  constructor
  · rintro ⟨notSome, notAll⟩ (_ | _)
    · exact notSome
    · exact notAll
  · intro noQuantifier
    exact ⟨noQuantifier .particular, noQuantifier .universal⟩

/-- A quantifier neither joins nor negates. -/
theorem isCopula_eq_false_of_quantifies
    {token : Token}
    {quantifier : Quantifier}
    (quantifies : token.isWord quantifier.word = true) :
    token.isCopula = false ∧ token.isNegation = false := by
  unfold isCopula isNegation
  rw [Bool.or_eq_false_iff]
  cases quantifier <;>
    exact ⟨⟨isWord_eq_false quantifies (by decide), isWord_eq_false quantifies (by decide)⟩,
      isWord_eq_false quantifies (by decide)⟩

/-- A negation does not join. -/
theorem isCopula_eq_false_of_negates
    {token : Token}
    (negates : token.isNegation = true) :
    token.isCopula = false := by
  unfold isCopula
  rw [Bool.or_eq_false_iff]
  exact ⟨isWord_eq_false negates (by decide), isWord_eq_false negates (by decide)⟩

end Token

/-! ## Sides of a clause -/

namespace Term

/-- A name, perhaps after a quantifier. -/
inductive Quantified : List Token → Term → Prop
  | bare {token : Token} {name : String}
      (names : token.Names name) :
      Quantified [token] ⟨name, false, none⟩
  | quantified {opening token : Token} {quantifier : Quantifier} {name : String}
      (quantifies : opening.isWord quantifier.word = true)
      (names : token.Names name) :
      Quantified [opening, token] ⟨name, false, some quantifier⟩

/-- A name, perhaps after a quantifier, perhaps after a negation before both. -/
inductive Written : List Token → Term → Prop
  | affirmed {side : List Token} {term : Term}
      (quantified : Quantified side term) :
      Written side term
  | negated {negation : Token} {side : List Token} {term : Term}
      (negates : negation.isNegation = true)
      (quantified : Quantified side term) :
      Written (negation :: side) term.negate

variable {clause : String} {side : List Token} {term : Term}

/-- A side begins with a negation, or it is left as it is. -/
theorem takeNegation_cases (side : List Token) :
    (∃ negation rest, side = negation :: rest ∧ negation.isNegation = true ∧
      takeNegation side = (true, rest)) ∨
    takeNegation side = (false, side) := by
  cases side with
  | nil => exact Or.inr rfl
  | cons token rest =>
      cases negates : token.isNegation with
      | true => exact Or.inl ⟨token, rest, rfl, negates, by simp [takeNegation, negates]⟩
      | false => exact Or.inr (by simp [takeNegation, negates])

/-- A side begins with a quantifier, or it is left as it is. -/
theorem takeQuantifier_cases (side : List Token) :
    (∃ opening quantifier rest, side = opening :: rest ∧
      opening.isWord (Quantifier.word quantifier) = true ∧
        takeQuantifier side = (some quantifier, rest)) ∨
    takeQuantifier side = (none, side) := by
  cases side with
  | nil => exact Or.inr rfl
  | cons token rest =>
      cases isSome : token.isWord "some" with
      | true =>
          refine Or.inl ⟨token, .particular, rest, rfl, ?_, by simp [takeQuantifier, isSome]⟩
          rwa [Token.isWord_word]
      | false =>
          cases isAll : token.isWord "all" with
          | true =>
              refine Or.inl ⟨token, .universal, rest, rfl, ?_, ?_⟩
              · rwa [Token.isWord_word]
              · simp [takeQuantifier, isSome, isAll]
          | false => exact Or.inr (by simp [takeQuantifier, isSome, isAll])

/-- A quantifier in front is taken. -/
theorem takeQuantifier_cons
    {opening : Token}
    {quantifier : Quantifier}
    (quantifies : opening.isWord quantifier.word = true)
    (rest : List Token) :
    takeQuantifier (opening :: rest) = (some quantifier, rest) := by
  rw [Token.isWord_word] at quantifies
  cases quantifier with
  | particular => simp [takeQuantifier, quantifies]
  | universal =>
      have notSome : opening.isWord "some" = false :=
        Token.isWord_eq_false quantifies (by decide)
      simp [takeQuantifier, quantifies, notSome]

/-- A side holds a name after a quantifier or none when one token is left to name a set. -/
theorem quantified_iff :
    Quantified side term ↔
      ∃ token, (takeQuantifier side).2 = [token] ∧ token.Names term.name ∧
        term.negated = false ∧ term.quantifier = (takeQuantifier side).1 := by
  constructor
  · intro quantified
    cases quantified with
    | @bare token _ names =>
        have keyword := (Token.isReserved_eq_false_iff.1 names.unreserved).2.2
        rcases takeQuantifier_cases [token] with ⟨_, quantifier, _, same, quantifies, _⟩ | none
        · cases same
          rw [keyword quantifier] at quantifies
          contradiction
        · rw [none]
          exact ⟨token, rfl, names, rfl, rfl⟩
    | @quantified opening token _ _ quantifies names =>
        rw [takeQuantifier_cons quantifies]
        exact ⟨token, rfl, names, rfl, rfl⟩
  · rintro ⟨token, left, names, affirmed, quantifier⟩
    obtain ⟨name, negated, _⟩ := term
    cases affirmed
    rcases takeQuantifier_cases side with ⟨opening, kind, rest, rfl, quantifies, taken⟩ | none
    · rw [taken] at left quantifier
      cases left
      cases quantifier
      exact .quantified quantifies names
    · rw [none] at left quantifier
      cases left
      cases quantifier
      exact .bare names

/-- What begins with no negation is a name after a quantifier or none. -/
theorem Quantified.takeNegation_eq (quantified : Quantified side term) :
    takeNegation side = (false, side) := by
  rcases takeNegation_cases side with ⟨negation, rest, rfl, negates, _⟩ | same
  · cases quantified with
    | bare names =>
        have affirms := (Token.isReserved_eq_false_iff.1 names.unreserved).2.1
        rw [negates] at affirms
        contradiction
    | quantified quantifies =>
        have affirms := (Token.isCopula_eq_false_of_quantifies quantifies).2
        rw [negates] at affirms
        contradiction
  · exact same

/-- Only what is taken from the front decides whether a written term is negated. -/
theorem written_iff :
    Written side term ↔
      ∃ affirmed, Quantified (takeNegation side).2 affirmed ∧
        term = { affirmed with negated := (takeNegation side).1 } := by
  constructor
  · intro written
    cases written with
    | affirmed quantified =>
        obtain ⟨_, _, _, affirmed, _⟩ := quantified_iff.1 quantified
        rw [quantified.takeNegation_eq]
        exact ⟨term, quantified, affirmed ▸ rfl⟩
    | @negated negation rest affirmative negates quantified =>
        obtain ⟨_, _, _, affirmed, _⟩ := quantified_iff.1 quantified
        have taken : takeNegation (negation :: rest) = (true, rest) := by
          simp [takeNegation, negates]
        rw [taken]
        exact ⟨affirmative, quantified, by simp [negate, affirmed]⟩
  · rintro ⟨affirmative, quantified, rfl⟩
    obtain ⟨_, _, _, affirmed, _⟩ := quantified_iff.1 quantified
    rcases takeNegation_cases side with ⟨negation, rest, rfl, negates, taken⟩ | same
    · rw [taken] at quantified ⊢
      have written := Written.negated negates quantified
      unfold negate at written
      rwa [affirmed] at written
    · rw [same] at quantified ⊢
      have written := Written.affirmed quantified
      rwa [← affirmed]

/-- A term is read from just those tokens that it is written with. -/
theorem ofTokens_eq_ok_iff : ofTokens clause side = .ok term ↔ Written side term := by
  rw [written_iff]
  unfold ofTokens
  constructor
  · intro read
    dsimp only at read
    split at read
    · contradiction
    · contradiction
    · rename_i token left
      obtain ⟨name, named, accepted⟩ := bind_eq_ok_iff.1 read
      obtain ⟨unreserved, canonical⟩ := Token.name_eq_ok_iff.1 named
      split at accepted
      · contradiction
      · rename_i inhabited
        cases accepted
        refine ⟨⟨name, false, _⟩, quantified_iff.2 ⟨token, left, ?_, rfl, rfl⟩, rfl⟩
        exact ⟨unreserved, canonical, inhabited⟩
  · rintro ⟨affirmative, quantified, rfl⟩
    obtain ⟨token, left, names, _, quantifier⟩ := quantified_iff.1 quantified
    simp only [left]
    rw [bind_eq_ok_iff]
    refine ⟨affirmative.name, Token.name_eq_ok_iff.2 ⟨names.unreserved, names.canonical⟩, ?_⟩
    rw [if_neg names.inhabited, ← quantifier]

/-- No token before or in a name is a copula. -/
theorem Quantified.isCopula_eq_false
    (quantified : Quantified side term)
    {token : Token}
    (member : token ∈ side) :
    token.isCopula = false := by
  cases quantified with
  | bare names =>
      rw [List.mem_singleton.1 member]
      exact (Token.isReserved_eq_false_iff.1 names.unreserved).1
  | quantified quantifies names =>
      rcases List.mem_cons.1 member with rfl | last
      · exact (Token.isCopula_eq_false_of_quantifies quantifies).1
      · rw [List.mem_singleton.1 last]
        exact (Token.isReserved_eq_false_iff.1 names.unreserved).1

/-- No token of a written term is a copula. -/
theorem Written.isCopula_eq_false
    (written : Written side term)
    {token : Token}
    (member : token ∈ side) :
    token.isCopula = false := by
  cases written with
  | affirmed quantified => exact quantified.isCopula_eq_false member
  | negated negates quantified =>
      rcases List.mem_cons.1 member with rfl | later
      · exact Token.isCopula_eq_false_of_negates negates
      · exact quantified.isCopula_eq_false later

end Term

/-! ## Clauses -/

/-- The two orders of tokens in a clause, with the proposition that each makes. -/
inductive Clause : List Token → Proposition → Prop
  /-- Some or all of the first set are in the second. -/
  | affirmed {opening first copula second : Token} {quantifier : Quantifier}
      {subject predicate : String}
      (quantifies : opening.isWord quantifier.word = true)
      (namesSubject : first.Names subject)
      (joins : copula.isCopula = true)
      (namesPredicate : second.Names predicate)
      (different : subject ≠ predicate) :
      Clause [opening, first, copula, second]
        ⟨⟨subject, false, some quantifier⟩, ⟨predicate, false, none⟩⟩
  /-- Some or all of the first set are not in the second. -/
  | denied {opening first copula negation second : Token} {quantifier : Quantifier}
      {subject predicate : String}
      (quantifies : opening.isWord quantifier.word = true)
      (namesSubject : first.Names subject)
      (joins : copula.isCopula = true)
      (negates : negation.isNegation = true)
      (namesPredicate : second.Names predicate)
      (different : subject ≠ predicate) :
      Clause [opening, first, copula, negation, second]
        ⟨⟨subject, false, some quantifier⟩, ⟨predicate, true, none⟩⟩

/-- A copula joins the sides of a clause. -/
theorem Clause.any_isCopula
    {tokens : List Token}
    {proposition : Proposition}
    (clause : Clause tokens proposition) :
    tokens.any Token.isCopula = true := by
  rw [List.any_eq_true]
  cases clause with
  | affirmed _ _ joins => exact ⟨_, by simp, joins⟩
  | denied _ _ joins => exact ⟨_, by simp, joins⟩

namespace Statement

variable {clause : String} {tokens before after : List Token} {statement : Statement}

/-- The tokens are divided by their first copula. -/
inductive Divided (before after : List Token) : List Token → Prop
  | mk {copula : Token}
      (unjoined : ∀ token ∈ before, token.isCopula = false)
      (joins : copula.isCopula = true) :
      Divided before after (before ++ copula :: after)

/-- Tokens without a copula are not divided, and all others are. -/
theorem unjoined_or_divided (tokens : List Token) :
    (∀ token ∈ tokens, token.isCopula = false) ∨ ∃ before after, Divided before after tokens := by
  cases divided : tokens.dropWhile (!·.isCopula) with
  | nil => exact .inl (by simpa [List.dropWhile_eq_nil_iff] using divided)
  | cons copula after =>
      have joins := List.head?_dropWhile_not (fun token => !token.isCopula) tokens
      have whole := @List.takeWhile_append_dropWhile _ (fun token => !token.isCopula) tokens
      rw [divided] at joins whole
      rw [← whole]
      refine .inr ⟨_, after, .mk (fun token member => ?_) (by simpa using joins)⟩
      simpa using List.mem_takeWhile_imp member

theorem ofTokens_of_unjoined
    (inhabited : tokens ≠ [])
    (unjoined : ∀ token ∈ tokens, token.isCopula = false) :
    ofTokens clause tokens = .error (.noCopula (trimmed clause)) := by
  have none : tokens.dropWhile (!·.isCopula) = [] := by
    simpa [List.dropWhile_eq_nil_iff] using unjoined
  rw [ofTokens, if_neg inhabited, none]

/-- The sides of a clause are read one after the other. -/
theorem ofTokens_of_divided (divided : Divided before after tokens) :
    ofTokens clause tokens = (do
      let subject ← Term.ofTokens clause before
      let predicate ← Term.ofTokens clause after
      .ok ⟨⟨subject, predicate⟩, some (trimmed clause)⟩) := by
  obtain ⟨unjoined, joins⟩ := divided
  have passed : ∀ token ∈ before, (!token.isCopula) = true := by simpa using unjoined
  rw [ofTokens, if_neg (by simp), List.dropWhile_append_of_pos passed,
    List.takeWhile_append_of_pos passed]
  simp [joins]

/-- A divided clause is read as the statement that its sides make. -/
theorem ofTokens_eq_ok_iff_of_divided (divided : Divided before after tokens) :
    ofTokens clause tokens = .ok statement ↔
      Term.Written before statement.proposition.subject ∧
        Term.Written after statement.proposition.predicate ∧
          statement.source = some (trimmed clause) := by
  obtain ⟨⟨subject, predicate⟩, source⟩ := statement
  rw [ofTokens_of_divided divided]
  simp only [bind_eq_ok_iff, Term.ofTokens_eq_ok_iff, Except.ok.injEq, mk.injEq,
    Proposition.mk.injEq]
  constructor
  · rintro ⟨_, subjectWritten, _, predicateWritten, ⟨rfl, rfl⟩, rfl⟩
    exact ⟨subjectWritten, predicateWritten, rfl⟩
  · rintro ⟨subjectWritten, predicateWritten, rfl⟩
    exact ⟨_, subjectWritten, _, predicateWritten, ⟨rfl, rfl⟩, rfl⟩

/-- Tokens are read as a statement when they are two written terms around a copula. -/
theorem ofTokens_eq_ok_iff :
    ofTokens clause tokens = .ok statement ↔
      (∃ before copula after,
        tokens = before ++ copula :: after ∧ copula.isCopula = true ∧
          Term.Written before statement.proposition.subject ∧
            Term.Written after statement.proposition.predicate) ∧
      statement.source = some (trimmed clause) := by
  constructor
  · intro read
    rcases unjoined_or_divided tokens with unjoined | ⟨before, after, divided⟩
    · by_cases empty : tokens = []
      · rw [ofTokens, if_pos empty] at read
        contradiction
      · rw [ofTokens_of_unjoined empty unjoined] at read
        contradiction
    · obtain ⟨subject, predicate, source⟩ := (ofTokens_eq_ok_iff_of_divided divided).1 read
      obtain ⟨_, joins⟩ := divided
      exact ⟨⟨before, _, after, rfl, joins, subject, predicate⟩, source⟩
  · rintro ⟨⟨before, copula, after, rfl, joins, subject, predicate⟩, source⟩
    -- No token of a written side is a copula, so this one is the first.
    have divided : Divided before after (before ++ copula :: after) :=
      .mk (fun _ => subject.isCopula_eq_false) joins
    exact (ofTokens_eq_ok_iff_of_divided divided).2 ⟨subject, predicate, source⟩

/-- Two written terms around a copula are a clause when they make a well-formed proposition. -/
theorem clause_iff {proposition : Proposition} :
    Clause tokens proposition ↔
      (∃ before copula after,
        tokens = before ++ copula :: after ∧ copula.isCopula = true ∧
          Term.Written before proposition.subject ∧
            Term.Written after proposition.predicate) ∧
      proposition.WellFormed := by
  constructor
  · intro clause
    cases clause with
    | affirmed quantifies namesSubject joins namesPredicate different =>
        refine ⟨⟨_, _, _, rfl, joins, .affirmed (.quantified quantifies namesSubject),
          .affirmed (.bare namesPredicate)⟩, ?_⟩
        exact ⟨Option.some_ne_none _, rfl, rfl, different⟩
    | denied quantifies namesSubject joins negates namesPredicate different =>
        refine ⟨⟨_, _, _, rfl, joins, .affirmed (.quantified quantifies namesSubject),
          .negated negates (.bare namesPredicate)⟩, ?_⟩
        exact ⟨Option.some_ne_none _, rfl, rfl, different⟩
  · rintro ⟨⟨before, copula, after, rfl, joins, subject, predicate⟩, wellFormed⟩
    obtain ⟨subjectTerm, predicateTerm⟩ := proposition
    obtain ⟨quantified, unquantified, affirmed, different⟩ := wellFormed
    dsimp only at subject predicate quantified unquantified affirmed different
    cases subject with
    | negated _ subject =>
        cases subject <;> contradiction
    | affirmed subject =>
        cases subject with
        | bare => contradiction
        | quantified quantifies namesSubject =>
            cases predicate with
            | affirmed predicate =>
                cases predicate with
                | bare namesPredicate =>
                    exact .affirmed quantifies namesSubject joins namesPredicate different
                | quantified => contradiction
            | negated negates predicate =>
                cases predicate with
                | bare namesPredicate =>
                    exact .denied quantifies namesSubject joins negates namesPredicate different
                | quantified => contradiction

theorem scan_eq_ok_iff :
    Token.scan clause = .ok tokens ↔
      Even (clause.toList.count quoteMark) ∧ Token.split clause.toList = tokens := by
  unfold Token.scan leavesQuoteOpen
  rw [Nat.even_iff]
  split
  · rename_i odd
    rw [beq_iff_eq] at odd
    simp [odd]
  · rename_i even
    rw [beq_iff_eq, Nat.mod_two_not_eq_one] at even
    simp [even]

/-- What is read is a clause of the grammar, kept with its text. -/
theorem read_eq_ok_iff :
    read clause = .ok statement ↔
      Even (clause.toList.count quoteMark) ∧
        Clause (Token.split clause.toList) statement.proposition ∧
          statement.source = some (trimmed clause) := by
  unfold read
  simp only [bind_eq_ok_iff, scan_eq_ok_iff, ofTokens_eq_ok_iff, clause_iff]
  constructor
  · rintro ⟨tokens, ⟨closed, rfl⟩, other, ⟨written, source⟩, _, checked, accepted⟩
    cases accepted
    exact ⟨closed, ⟨written, check_eq_ok_iff.1 checked⟩, source⟩
  · rintro ⟨closed, ⟨written, wellFormed⟩, source⟩
    exact ⟨_, ⟨closed, rfl⟩, statement, ⟨written, source⟩, (),
      check_eq_ok_iff.2 wellFormed, rfl⟩

theorem text_of_read (said : read clause = .ok statement) : statement.text = trimmed clause := by
  obtain ⟨_, _, source⟩ := read_eq_ok_iff.1 said
  rw [text, source, Option.getD_some]

/--
A clause is read exactly when its quotes are closed and its tokens are those of a
clause of the grammar.  The statement then makes the proposition of that clause, and
its text is the clause without the blanks around it.
-/
theorem read_accepts_grammar (clause : String) (statement : Statement) :
    (read clause = .ok statement ↔
      Even (clause.toList.count quoteMark) ∧
        ∃ proposition, Clause (Token.split clause.toList) proposition ∧
          statement = ⟨proposition, some (trimmed clause)⟩) ∧
    (read clause = .ok statement → statement.text = trimmed clause) := by
  rw [read_eq_ok_iff]
  refine ⟨and_congr_right fun _ => ?_, ?_⟩
  · constructor
    · rintro ⟨written, source⟩
      exact ⟨statement.proposition, written, source ▸ rfl⟩
    · rintro ⟨proposition, written, rfl⟩
      exact ⟨written, rfl⟩
  · rintro ⟨_, _, source⟩
    unfold text
    rw [source, Option.getD_some]

/-- Keywords are read in any case, and in quotes they name sets. -/
example : (read "SOME \"all\" Are nOt b's").toOption.map Statement.proposition =
    some ⟨⟨"ALL", false, some .particular⟩, ⟨"B", true, none⟩⟩ := by
  decide +kernel

end Statement
end Syllogistic
