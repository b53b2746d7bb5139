import Syllogistic.Proofs.Model.Declaration
import Syllogistic.Proofs.Model.Transcript
import Syllogistic.Proofs.Statement.Faults

/-!
# What a line says

The tokens of a line decide what it is read as.  Without tokens it says nothing, with a
copula among them it is a statement or a faulty one, a single token is to give a name, and
more tokens than one say nothing that can be read.  A line is taken as a statement just
where the clause by itself is one, and it has the same fault where it has a copula.
-/

namespace Syllogistic
namespace Premise

open Text

variable {line : String}

/-- What a line is read as, by its quotes and its tokens. -/
inductive Means (line : String) : Except GrammarFault (Option Premise) → Prop
  /-- A quote is left open. -/
  | unclosed
      (opened : Odd (line.toList.count quoteMark)) :
      Means line (.error (.unclosedQuote (trimmed line)))
  /-- With a copula the line is a statement, or it is refused as one. -/
  | joined {result : Except GrammarFault (Option Premise)}
      (joins : ∃ token ∈ Token.split line.toList, token.isCopula = true)
      (said : (Statement.read line).map (fun statement => some (.statement statement)) = result) :
      Means line result
  /-- There is no token. -/
  | blank
      (blank : isAllBlank line.toList = true) :
      Means line (.ok none)
  /-- The only token is a keyword. -/
  | keyword {token : Token}
      (closed : Even (line.toList.count quoteMark))
      (alone : Token.split line.toList = [token])
      (unjoined : token.isCopula = false)
      (reserved : token.isReserved = true) :
      Means line (.error (.reservedWord token.text))
  /-- The only token gives an empty name. -/
  | nameless {token : Token}
      (closed : Even (line.toList.count quoteMark))
      (alone : Token.split line.toList = [token])
      (unreserved : token.isReserved = false)
      (empty : Name.canonical token.text = "") :
      Means line (.error .nothingToRead)
  /-- The only token gives a name. -/
  | named {token : Token} {name : String}
      (closed : Even (line.toList.count quoteMark))
      (alone : Token.split line.toList = [token])
      (names : token.Names name) :
      Means line (.ok (some (.name name)))
  /-- There are several tokens and no copula. -/
  | several
      (closed : Even (line.toList.count quoteMark))
      (more : 2 ≤ (Token.split line.toList).length)
      (unjoined : ∀ token ∈ Token.split line.toList, token.isCopula = false) :
      Means line (.error (.severalWords (trimmed line)))

/-- A line with a copula is read as the clause by itself is. -/
theorem read_of_joined (joins : ∃ token ∈ Token.split line.toList, token.isCopula = true) :
    read line = (Statement.read line).map fun statement => some (.statement statement) := by
  rcases Nat.even_or_odd (line.toList.count quoteMark) with closed | opened
  · rw [read, Statement.scan_eq_ok_iff.2 ⟨closed, rfl⟩]
    change (if (Token.split line.toList).any Token.isCopula = true then _ else _) = _
    rw [if_pos (List.any_eq_true.2 joins)]
    cases Statement.read line <;> rfl
  · rw [read, Token.scan_eq_error_iff.2 ⟨opened, rfl⟩, Statement.read_of_open opened]
    rfl

/-- A line is read as what it means. -/
theorem means_read (line : String) : Means line (read line) := by
  by_cases joins : ∃ token ∈ Token.split line.toList, token.isCopula = true
  · exact .joined joins (read_of_joined joins).symm
  have unjoined : ∀ token ∈ Token.split line.toList, token.isCopula = false := by
    simpa using joins
  rcases Nat.even_or_odd (line.toList.count quoteMark) with closed | opened
  · rw [read, Statement.scan_eq_ok_iff.2 ⟨closed, rfl⟩]
    change Means line (if (Token.split line.toList).any Token.isCopula = true then _ else _)
    rw [if_neg (mt List.any_eq_true.1 joins)]
    cases tokens : Token.split line.toList with
    | nil => exact .blank (Token.split_eq_nil_iff.1 tokens)
    | cons token rest =>
        cases rest with
        | cons second others => exact .several closed (by simp [tokens]) unjoined
        | nil =>
            dsimp only
            cases reserved : token.isReserved with
            | true =>
                rw [Token.name_eq_error_iff.2 ⟨reserved, rfl⟩]
                exact .keyword closed tokens (unjoined token (by simp [tokens])) reserved
            | false =>
                rw [Token.name_eq_ok_iff.2 ⟨reserved, rfl⟩]
                simp only [bind, Except.bind]
                split
                · rename_i empty
                  exact .nameless closed tokens reserved empty
                · rename_i inhabited
                  exact .named closed tokens ⟨reserved, rfl, inhabited⟩
  · rw [read, Token.scan_eq_error_iff.2 ⟨opened, rfl⟩]
    exact .unclosed opened

/-- A line says nothing just when it is all blank. -/
theorem read_eq_none_iff : read line = .ok none ↔ isAllBlank line.toList = true := by
  constructor
  · intro silent
    have means := means_read line
    generalize read line = result at means silent
    cases means with
    | blank blank => exact blank
    | joined _ said =>
        rw [silent] at said
        cases read : Statement.read line <;> simp [read, Except.map] at said
    | _ => cases silent
  · intro blank
    have closed := leavesQuoteOpen_of_blanks (List.all_eq_true.1 blank)
    rw [read, Statement.scan_eq_ok_iff.2
      ⟨leavesQuoteOpen_eq_false_iff.1 closed, Token.split_eq_nil_iff.2 blank⟩]
    rfl

/-- With a copula a line has the faults of the clause by itself. -/
theorem read_eq_error_iff_of_joined
    {fault : GrammarFault}
    (joins : ∃ token ∈ Token.split line.toList, token.isCopula = true) :
    read line = .error fault ↔ Statement.read line = .error fault := by
  rw [read_of_joined joins]
  cases Statement.read line <;> simp [Except.map]

/-- That a copula is missing is the fault of a clause, and never of a line. -/
theorem read_ne_noCopula (line text : String) : read line ≠ .error (.noCopula text) := by
  intro refused
  have means := means_read line
  generalize same : read line = result at means refused
  cases means with
  | joined joins _ =>
      subst refused
      rw [read_eq_error_iff_of_joined joins] at same
      obtain ⟨_, _, unjoined⟩ := Statement.exists_read_eq_noCopula_iff.1 ⟨text, same⟩
      obtain ⟨token, member, copula⟩ := joins
      rw [unjoined token member] at copula
      contradiction
  | _ => cases refused

/-- A line has too many words just when it has several tokens and no copula. -/
theorem exists_read_eq_severalWords_iff :
    (∃ text, read line = .error (.severalWords text)) ↔
      Even (line.toList.count quoteMark) ∧ 2 ≤ (Token.split line.toList).length ∧
        ∀ token ∈ Token.split line.toList, token.isCopula = false := by
  constructor
  · rintro ⟨text, refused⟩
    have means := means_read line
    generalize same : read line = result at means refused
    cases means with
    | several closed more unjoined => exact ⟨closed, more, unjoined⟩
    | joined joins _ =>
        subst refused
        rw [read_eq_error_iff_of_joined joins] at same
        exact absurd same (Statement.read_ne_severalWords line text)
    | _ => cases refused
  · rintro ⟨closed, more, unjoined⟩
    refine ⟨trimmed line, ?_⟩
    have means := means_read line
    generalize read line = result at means ⊢
    cases means with
    | several => rfl
    | unclosed opened => exact absurd closed (Nat.not_even_iff_odd.2 opened)
    | joined joins _ =>
        obtain ⟨token, member, copula⟩ := joins
        rw [unjoined token member] at copula
        contradiction
    | blank blank => simp [Token.split_eq_nil_iff.2 blank] at more
    | keyword _ alone => simp [alone] at more
    | nameless _ alone => simp [alone] at more
    | named _ alone => simp [alone] at more

/-- Lines are added as if a line were not there just when it is all blank. -/
theorem forall_addLines_cons_iff (model : Model) (number : Nat) :
    (∀ rest, model.addLines ((number, line) :: rest) = model.addLines rest) ↔
      isAllBlank line.toList = true := by
  constructor
  · intro skipped
    rw [← Bool.not_eq_false]
    intro spoken
    -- A line that is not skipped is counted or refused, even where no other line follows.
    have counted := congrArg Outcome.result (skipped [])
    cases added : (model.addLine line).result <;>
      simp [Model.addLines, spoken, added, Except.map] at counted
  · intro blank rest
    rw [Model.addLines, if_pos blank]

/--
A line is read as nothing just when it is all blank, and just then a model adds the lines
after it as if it were not there.  It is a statement just when the clause by itself is read
as that statement.  It declares a name just when its quotes are closed, its only token is
no keyword, and the canonical form of that token is the name and is not empty.  With a
copula among its tokens it has the faults of the clause by itself.  It is never refused for
the want of a copula, and for too many words just when its quotes are closed and it has two
tokens or more, none of them a copula.
-/
theorem read_classifies_line (line : String) :
    (read line = .ok none ↔ isAllBlank line.toList = true) ∧
    (∀ (model : Model) number,
      (∀ rest, model.addLines ((number, line) :: rest) = model.addLines rest) ↔
        isAllBlank line.toList = true) ∧
    (∀ statement, read line = .ok (some (.statement statement)) ↔
      Statement.read line = .ok statement) ∧
    (∀ name, read line = .ok (some (.name name)) ↔
      Even (line.toList.count quoteMark) ∧ ∃ token,
        Token.split line.toList = [token] ∧ token.isReserved = false ∧
          Name.canonical token.text = name ∧ name ≠ "") ∧
    ((∃ token ∈ Token.split line.toList, token.isCopula = true) →
      ∀ fault, read line = .error fault ↔ Statement.read line = .error fault) ∧
    (∀ text, read line ≠ .error (.noCopula text)) ∧
    ((∃ text, read line = .error (.severalWords text)) ↔
      Even (line.toList.count quoteMark) ∧ 2 ≤ (Token.split line.toList).length ∧
        ∀ token ∈ Token.split line.toList, token.isCopula = false) := by
  refine ⟨read_eq_none_iff, forall_addLines_cons_iff, fun statement => read_eq_statement_iff,
    fun name => ?_, fun joins fault => read_eq_error_iff_of_joined joins, read_ne_noCopula line,
    exists_read_eq_severalWords_iff⟩
  rw [read_eq_name_iff]
  constructor
  · rintro ⟨token, scanned, unreserved, canonical, inhabited⟩
    obtain ⟨closed, alone⟩ := Statement.scan_eq_ok_iff.1 scanned
    exact ⟨closed, token, alone, unreserved, canonical, inhabited⟩
  · rintro ⟨closed, token, alone, unreserved, canonical, inhabited⟩
    exact ⟨token, Statement.scan_eq_ok_iff.2 ⟨closed, alone⟩, unreserved, canonical, inhabited⟩

/-- A copula in quotes is a name, and the one outside them makes the line a statement. -/
theorem read_classifies_line_of_quoted_copula :
    let line := "\"is\" ARE some \"a are\""
    (∃ token ∈ Token.split line.toList, token.isCopula = true) ∧
      Statement.read line = .error (.unquantifiedSubject line) ∧
      read line = .error (.unquantifiedSubject line) := by
  intro line
  have joins : ∃ token ∈ Token.split line.toList, token.isCopula = true :=
    List.any_eq_true.1 (by decide +kernel)
  have refused : Statement.read line = .error (.unquantifiedSubject line) := by decide +kernel
  obtain ⟨_, _, _, _, faults, _⟩ := read_classifies_line line
  exact ⟨joins, refused, (faults joins _).2 refused⟩

/-- A copula in quotes does not join, and several words are no name. -/
example : (read "\"is\" \"a are\"", read "\"a are\"") =
    (.error (.severalWords "\"is\" \"a are\""), .ok (some (.name "A ARE"))) := by
  decide +kernel

end Premise
end Syllogistic
