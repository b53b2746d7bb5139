import Syllogistic.Proofs.Model.Refusal
import Syllogistic.Proofs.Text.Cut

/-!
# Reading blocks one after the other

What lines come to depends on the lines that are not blank and on nothing else of their
block, and they may be read in two goes.  A block falls into lines at its separators
outside quotes; so two blocks with a separator between them are read as one is read after
the other, provided that the first closes its quotes.
-/

namespace Syllogistic

open Text

namespace Premise

theorem spokenLines_eq (separators : List Char) (block : String) :
    spokenLines separators block =
      ((cutOutsideQuotes separators.contains block.toList).map String.ofList).filter
        (!isAllBlank ·.toList) := by
  rw [spokenLines, map_snd_lines]

/-- The lines of two closed blocks around a separator are those of the block that they make. -/
theorem spokenLines_append_separator
    {separators : List Char}
    {separator : Char}
    {first : String}
    (separates : separator ∈ separators)
    (unquoted : separator ≠ quoteMark)
    (closed : leavesQuoteOpen first.toList = false)
    (second : String) :
    spokenLines separators (first ++ String.singleton separator ++ second) =
      spokenLines separators first ++ spokenLines separators second := by
  have stops : separators.contains separator = true := List.contains_iff_mem.2 separates
  simp only [spokenLines_eq, String.toList_append, String.toList_singleton, List.append_assoc,
    List.singleton_append]
  rw [cutOutsideQuotes_append_stop stops unquoted closed, List.map_append, List.filter_append]

end Premise

namespace Model

variable {model middle after : Model} {line : String} {lines first second : List String}
  {result : Except Error Nat} {error : Error}

/-- The first line is refused and ends the reading, or it is accepted and the others are read. -/
theorem Reads.of_cons (reads : model.Reads (line :: lines) result after) :
    (∃ error, (model.addLine line).result = .error error ∧ result = .error error ∧
        after = model) ∨
      (model.addLine line).result = .ok () ∧
        ∃ others, (model.addLine line).model.Reads lines others after ∧
          result = others.map (· + 1) := by
  cases reads with
  | taken takes =>
      cases takes with
      | cons accepted others => exact .inr ⟨accepted, _, .taken others, rfl⟩
  | stopped stops =>
      obtain ⟨taken, last, rest, same, takes, refused⟩ := stops
      cases takes with
      | nil =>
          cases same
          exact .inl ⟨_, refused, rfl, rfl⟩
      | cons accepted others =>
          cases same
          exact .inr ⟨accepted, _, .stopped ⟨_, last, rest, rfl, others, refused⟩, rfl⟩

/-- Without lines nothing is read. -/
theorem Reads.of_nil (reads : model.Reads [] result after) : result = .ok 0 ∧ after = model := by
  cases reads with
  | taken takes =>
      cases takes
      exact ⟨rfl, rfl⟩
  | stopped stops =>
      obtain ⟨taken, last, rest, same, _⟩ := stops
      simp at same

/-- Lines come to one thing only. -/
theorem Reads.unique
    {otherResult : Except Error Nat}
    {otherAfter : Model}
    (reads : model.Reads lines result after)
    (alsoReads : model.Reads lines otherResult otherAfter) :
    result = otherResult ∧ after = otherAfter := by
  induction lines generalizing model result otherResult with
  | nil =>
      obtain ⟨rfl, rfl⟩ := reads.of_nil
      obtain ⟨rfl, rfl⟩ := alsoReads.of_nil
      exact ⟨rfl, rfl⟩
  | cons line rest inductionHypothesis =>
      rcases reads.of_cons with ⟨error, refused, rfl, rfl⟩ | ⟨accepted, others, read, rfl⟩
      · rcases alsoReads.of_cons with ⟨same, alsoRefused, rfl, rfl⟩ | ⟨accepted, _⟩
        · rw [refused] at alsoRefused
          cases alsoRefused
          exact ⟨rfl, rfl⟩
        · rw [refused] at accepted
          contradiction
      · rcases alsoReads.of_cons with ⟨_, refused, _⟩ | ⟨_, alsoOthers, alsoRead, rfl⟩
        · rw [accepted] at refused
          contradiction
        · obtain ⟨rfl, same⟩ := inductionHypothesis read alsoRead
          exact ⟨rfl, same⟩

theorem Takes.append
    (earlier : model.Takes first middle)
    (later : middle.Takes second after) :
    model.Takes (first ++ second) after := by
  induction earlier with
  | nil => exact later
  | cons accepted _ inductionHypothesis => exact .cons accepted (inductionHypothesis later)

/-- After lines that are accepted others come to what they come to by themselves. -/
theorem Takes.append_reads
    (earlier : model.Takes first middle)
    (later : middle.Reads second result after) :
    model.Reads (first ++ second) (result.map (first.length + ·)) after := by
  cases later with
  | taken takes =>
      change model.Reads _ (.ok (first.length + second.length)) _
      rw [← List.length_append]
      exact .taken (earlier.append takes)
  | stopped stops =>
      obtain ⟨taken, last, rest, rfl, takes, refused⟩ := stops
      exact .stopped ⟨first ++ taken, last, rest, by simp, earlier.append takes, refused⟩

/-- After a line that is refused no others are read. -/
theorem Stops.append
    (stops : model.Stops first error after)
    (second : List String) :
    model.Stops (first ++ second) error after := by
  obtain ⟨taken, last, rest, rfl, takes, refused⟩ := stops
  exact ⟨taken, last, rest ++ second, by simp, takes, refused⟩

/--
A block made of two blocks with a separator between them, of which the first closes its
quotes, is read as the two are read one after the other.  If the first is accepted, the
model afterwards is the one that the second leaves, and the counts add up or the error is
that of the second.  If the first is refused, its error and its model stay.
-/
theorem read_append_separator
    {first second : String}
    {separator : Char}
    (separates : separator ∈ model.config.separators)
    (unquoted : separator ≠ quoteMark)
    (closed : Even (first.toList.count quoteMark)) :
    let block := first ++ String.singleton separator ++ second
    (∀ count, (model.read first).result = .ok count →
      (model.read block).result =
          ((model.read first).model.read second).result.map (count + ·) ∧
        (model.read block).model = ((model.read first).model.read second).model) ∧
    ∀ error, (model.read first).result = .error error →
      (model.read block).result = .error error ∧
        (model.read block).model = (model.read first).model := by
  intro block
  have whole := model.reads block
  rw [Premise.spokenLines_append_separator separates unquoted
    (leavesQuoteOpen_eq_false_iff.2 closed)] at whole
  constructor
  · intro count accepted
    have earlier := model.reads first
    have later := (model.read first).model.reads second
    rw [accepted] at earlier
    rw [show (model.read first).model.config = model.config from
      config_perform model (.read first)] at later
    cases earlier with
    | taken takes => exact whole.unique (takes.append_reads later)
  · intro error refused
    exact whole.unique (.stopped ((stops_of_read refused).append _))

/-- A fourth name in the second block is refused after all lines of the first are added. -/
theorem read_append_separator_of_fourth_name :
    let model := empty Config.default
    let first := "Some \"red;things\" are wet\ndry"
    let second := "All \"red;things\" are dry; ;cold;All wet are dry"
    ∃ error, (model.read first).result = .ok 2 ∧
      ((model.read first).model.read second).result = .error error ∧
        (model.read (first ++ String.singleton ';' ++ second)).result = .error error ∧
          (model.read (first ++ String.singleton ';' ++ second)).model =
            ((model.read first).model.read second).model ∧
          (model.read (first ++ String.singleton ';' ++ second)).model.statements.length = 2 := by
  intro model first second
  have counted : (model.read first).result.toOption = some 2 := by decide +kernel
  have unanswered : ((model.read first).model.read second).result.toOption = none := by
    decide +kernel
  have stated : (model.read (first ++ String.singleton ';' ++ second)).model.statements.length =
      2 := by
    decide +kernel
  have joined := @read_append_separator model first second ';' (by decide) (by decide) (by decide)
  cases accepted : (model.read first).result with
  | error error =>
      rw [accepted] at counted
      cases counted
  | ok count =>
      rw [accepted] at counted
      cases counted
      obtain ⟨same, leaves⟩ := joined.1 2 accepted
      cases refused : ((model.read first).model.read second).result with
      | ok count =>
          rw [refused] at unanswered
          cases unanswered
      | error error =>
          rw [refused] at same
          exact ⟨error, rfl, rfl, same, leaves, stated⟩

end Model
end Syllogistic
