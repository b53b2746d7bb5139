import Syllogistic.Proofs.Model.Reading
import Syllogistic.Proofs.Model.Rearrangement
import Syllogistic.Proofs.Statement.Grammar
import Syllogistic.Proofs.Token

/-!
# Premises written down and read again

The statements of a model are written down as their texts, one to a line.  The text of a
statement that was read is a stretch of some line without the blanks around it: it has no
separator outside quotes, it closes all its quotes, and it has the tokens of that line.
So a model that takes in what another has written down states the same, in the same order.
-/

namespace Syllogistic

open Text

namespace Statement

variable {clause : String} {statement : Statement}

/-- The text of a statement that was read is read as the statement. -/
theorem read_text (said : read clause = .ok statement) : read statement.text = .ok statement := by
  have text := text_of_read said
  rw [read_eq_ok_iff] at said ⊢
  obtain ⟨closed, written, source⟩ := said
  have quotes : (trim clause.toList).count quoteMark = clause.toList.count quoteMark := by
    rw [← count_quote_ink, ink_trim, count_quote_ink]
  rw [text, trimmed, String.toList_ofList]
  refine ⟨?_, ?_, ?_⟩
  · rwa [quotes]
  · rwa [Token.split_trim (leavesQuoteOpen_eq_false_iff.2 closed)]
  · rw [source, trimmed, trimmed, String.toList_ofList, trim_trim]

/-- The text of a statement makes a line by itself, and that line is read as the statement. -/
structure StandsAlone (separators : List Char) (statement : Statement) : Prop where
  whole : cutOutsideQuotes separators.contains statement.text.toList = [statement.text.toList]
  said : read statement.text = .ok statement

/-- A statement stands alone if it is read from a line that does. -/
theorem standsAlone_of_read
    {separators : List Char}
    (whole : cutOutsideQuotes separators.contains clause.toList = [clause.toList])
    (said : read clause = .ok statement) :
    statement.StandsAlone separators := by
  refine ⟨?_, read_text said⟩
  rw [text_of_read said, trimmed, String.toList_ofList]
  obtain ⟨before, behind, same, blanks, _⟩ := exists_append_trim clause.toList
  rw [same] at whole
  exact cutOutsideQuotes_of_stretch (leavesQuoteOpen_of_blanks blanks) whole

variable {separators : List Char}

theorem StandsAlone.closed (alone : statement.StandsAlone separators) :
    leavesQuoteOpen statement.text.toList = false :=
  leavesQuoteOpen_eq_false_iff.2 (read_eq_ok_iff.1 alone.said).1

theorem StandsAlone.inhabited (alone : statement.StandsAlone separators) :
    isAllBlank statement.text.toList = false := by
  rw [← Bool.not_eq_true]
  intro blank
  have written := (read_eq_ok_iff.1 alone.said).2.1
  rw [Token.split_of_blanks (List.all_eq_true.1 blank)] at written
  contradiction

end Statement

namespace Premise

variable {line : String} {statement : Statement} {separators : List Char}

/-- A line is a statement when it is read as one. -/
theorem read_eq_statement_iff :
    read line = .ok (some (.statement statement)) ↔ Statement.read line = .ok statement := by
  unfold read
  rw [bind_eq_ok_iff]
  constructor
  · rintro ⟨tokens, scanned, said⟩
    split at said
    · obtain ⟨other, isRead, accepted⟩ := bind_eq_ok_iff.1 said
      cases accepted
      exact isRead
    · split at said
      · cases said
      · obtain ⟨name, _, declared⟩ := bind_eq_ok_iff.1 said
        split at declared
        · cases declared
        · cases declared
      · cases said
  · intro isRead
    obtain ⟨closed, written, _⟩ := Statement.read_eq_ok_iff.1 isRead
    refine ⟨_, Statement.scan_eq_ok_iff.2 ⟨closed, rfl⟩, ?_⟩
    rw [if_pos written.any_isCopula, isRead]
    rfl

/-- No line of a block has a separator outside quotes. -/
theorem whole_of_mem_spokenLines
    {block : String}
    (member : line ∈ spokenLines separators block) :
    cutOutsideQuotes separators.contains line.toList = [line.toList] := by
  rw [spokenLines_eq] at member
  obtain ⟨piece, kept, rfl⟩ := List.mem_map.1 (List.mem_filter.1 member).1
  rw [String.toList_ofList]
  exact cutOutsideQuotes_of_mem kept

/-- Closed texts of one line each, none of them blank, are the lines of what they make. -/
theorem spokenLines_intercalate
    {texts : List String}
    (newline : '\n' ∈ separators)
    (closed : ∀ text ∈ texts, leavesQuoteOpen text.toList = false)
    (whole : ∀ text ∈ texts, cutOutsideQuotes separators.contains text.toList = [text.toList])
    (inhabited : ∀ text ∈ texts, isAllBlank text.toList = false) :
    spokenLines separators ("\n".intercalate texts) = texts := by
  by_cases empty : texts = []
  · rw [empty]
    rfl
  · have stops : separators.contains '\n' = true := List.contains_iff_mem.2 newline
    have pieces := cutOutsideQuotes_intercalate stops (by decide)
      (mt List.map_eq_nil_iff.1 empty) (List.forall_mem_map.2 closed) (List.forall_mem_map.2 whole)
    have feed : "\n".toList = ['\n'] := rfl
    rw [spokenLines_eq, String.toList_intercalate, feed, pieces, List.map_map,
      List.filter_eq_self.2]
    · simp
    · simpa using inhabited

end Premise

namespace Model

variable {model after : Model} {line : String} {lines : List String} {statement : Statement}
  {statements : List Statement}

/-- The texts of the statements, one to a line. -/
def transcript (model : Model) : String :=
  "\n".intercalate (model.statements.map Statement.text)

/-- A line that is read as a statement adds it. -/
theorem addLine_of_read (said : Statement.read line = .ok statement) (model : Model) :
    (model.addLine line).result = (model.add statement).result.map (fun _ => ()) ∧
      (model.addLine line).model = (model.add statement).model := by
  unfold addLine
  rw [Premise.read_eq_statement_iff.2 said]
  exact ⟨rfl, rfl⟩

/-- A line adds no statement but the one that it is read as. -/
theorem mem_statements_addLine (member : statement ∈ (model.addLine line).model.statements) :
    statement ∈ model.statements ∨ Statement.read line = .ok statement := by
  unfold addLine at member
  split at member
  · exact .inl member
  · exact .inl member
  · rename_i name _
    rw [← model.statements_declare name]
    exact .inl member
  · rename_i other said
    rw [Premise.read_eq_statement_iff] at said
    rcases mem_statements_add member with old | rfl
    · exact .inl old
    · exact .inr said

/-- Accepted lines add no statements but those that they are read as. -/
theorem Takes.mem_statements
    (takes : model.Takes lines after)
    (member : statement ∈ after.statements) :
    statement ∈ model.statements ∨ ∃ line ∈ lines, Statement.read line = .ok statement := by
  induction takes with
  | nil => exact .inl member
  | @cons model after line rest accepted others inductionHypothesis =>
      rcases inductionHypothesis member with earlier | ⟨later, among, said⟩
      · rcases mem_statements_addLine earlier with old | said
        · exact .inl old
        · exact .inr ⟨line, List.mem_cons_self, said⟩
      · exact .inr ⟨later, List.mem_cons_of_mem line among, said⟩

/-- Whether all lines are accepted or not, each new statement is read from one of them. -/
theorem Reads.mem_statements
    {result : Except Error Nat}
    (reads : model.Reads lines result after)
    (member : statement ∈ after.statements) :
    statement ∈ model.statements ∨ ∃ line ∈ lines, Statement.read line = .ok statement := by
  cases reads with
  | taken takes => exact takes.mem_statements member
  | stopped stops =>
      obtain ⟨taken, last, rest, rfl, takes, _⟩ := stops
      refine (takes.mem_statements member).imp_right ?_
      rintro ⟨line, among, said⟩
      exact ⟨line, List.mem_append_left _ among, said⟩

/-- The texts of statements are accepted as lines where the statements are taken in. -/
theorem takes_of_addsAll
    (adds : model.AddsAll statements)
    (said : ∀ statement ∈ statements, Statement.read statement.text = .ok statement) :
    model.Takes (statements.map Statement.text) (model.run (statements.map .add)) := by
  induction statements generalizing model with
  | nil => exact .nil
  | cons statement rest inductionHypothesis =>
      obtain ⟨⟨fresh, taken⟩, others⟩ := adds
      rw [List.forall_mem_cons] at said
      obtain ⟨result, after⟩ := addLine_of_read said.1 model
      apply Takes.cons
      · rw [result, taken]
        rfl
      · rw [after]
        exact inductionHypothesis others said.2

/-- Statements of different propositions that are taken in come after the others in order. -/
theorem statements_run_of_addsAll
    (adds : model.AddsAll statements)
    (distinct : (model.statements ++ statements).Pairwise fun earlier later =>
      earlier.proposition ≠ later.proposition) :
    (model.run (statements.map .add)).statements = model.statements ++ statements := by
  induction statements generalizing model with
  | nil => exact (List.append_nil _).symm
  | cons statement rest inductionHypothesis =>
      obtain ⟨⟨fresh, taken⟩, others⟩ := adds
      rw [List.append_cons] at distinct ⊢
      have new : model.hasProposition statement.proposition = false := by
        rw [← Bool.not_eq_true, hasProposition_iff]
        rintro ⟨earlier, old, same⟩
        have differ := (List.pairwise_append.1 (List.pairwise_append.1 distinct).1).2.2
        exact differ earlier old statement List.mem_cons_self same
      have after : (model.add statement).model.statements = model.statements ++ [statement] := by
        rcases add_cases model statement with ⟨error, refused⟩ | ⟨accepts, wellFormed⟩
        · rw [refused] at taken
          contradiction
        · rw [(add_of_accepts accepts wellFormed).2]
          simp [new]
      rw [← after] at distinct ⊢
      exact inductionHypothesis others distinct

/-- A model without premises takes in the statements of any coherent model. -/
theorem addsAll_of_coherent (coherent : model.Coherent) (config : Config) :
    (empty config).AddsAll model.statements := by
  rw [addsAll_iff ⟨[], rfl⟩ (Nat.zero_le _)]
  refine ⟨List.forall_mem_map.2 coherent.wellFormed, ?_⟩
  apply Nat.le_trans (Ascending.size_le_of_subset fun name member => ?_) coherent.few
  rcases Ascending.mem_insertAll.1 member with added | old
  · rw [List.flatMap_map, List.mem_flatMap] at added
    obtain ⟨statement, stated, mentioned⟩ := added
    exact coherent.named statement stated name mentioned
  · exact absurd old (Ascending.not_mem_empty name)

/--
Where a newline separates lines, a model that reads the transcript of what another model
of its configuration has read from a block accepts all of it.  It counts the statements of
the other model, and it has the same statements with the same texts in the same order.
-/
theorem read_transcript
    {config : Config}
    (newline : '\n' ∈ config.separators)
    (block : String) :
    let model := ((empty config).read block).model
    let again := (empty config).read model.transcript
    again.result = .ok model.statements.length ∧
      again.model.statements = model.statements := by
  intro model again
  have alone : ∀ statement ∈ model.statements, statement.StandsAlone config.separators := by
    intro statement member
    rcases ((empty config).reads block).mem_statements member with old | ⟨line, among, said⟩
    · exact absurd old List.not_mem_nil
    · exact Statement.standsAlone_of_read (Premise.whole_of_mem_spokenLines among) said
  have coherent : model.Coherent := coherent_run config [.read block]
  have adds := addsAll_of_coherent coherent config
  have takes := takes_of_addsAll adds fun statement member => (alone statement member).said
  have reads := (empty config).reads model.transcript
  have spoken : Premise.spokenLines (empty config).config.separators model.transcript =
      model.statements.map Statement.text := by
    apply Premise.spokenLines_intercalate newline
    · exact List.forall_mem_map.2 fun statement member => (alone statement member).closed
    · exact List.forall_mem_map.2 fun statement member => (alone statement member).whole
    · exact List.forall_mem_map.2 fun statement member => (alone statement member).inhabited
  rw [spoken] at reads
  obtain ⟨counted, after⟩ := reads.unique (.taken takes)
  rw [List.length_map] at counted
  refine ⟨counted, ?_⟩
  unfold again
  rw [after]
  exact statements_run_of_addsAll adds coherent.distinct

/-- Quoted names keep their newlines and bars, and what is said twice is written once. -/
theorem read_transcript_of_quoted_separators :
    let config := { Config.default with separators := ['\n', '|'] }
    let block := " some \"b\n|b\"  are a | c |\nAll c are not \"B |B\"\nSOME \"b |b\" is a"
    let model := ((empty config).read block).model
    let again := (empty config).read model.transcript
    '\n' ∈ config.separators ∧
      model.transcript = "some \"b\n|b\"  are a\nAll c are not \"B |B\"" ∧
      model.statements.length = 2 ∧
      again.result = .ok model.statements.length ∧
        again.model.statements = model.statements := by
  intro config block
  have written := @read_transcript config (by decide) block
  exact ⟨by decide, by decide +kernel, by decide +kernel, written⟩

end Model
end Syllogistic
