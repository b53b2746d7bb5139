import Syllogistic.Proofs.Model.Run
import Syllogistic.Proofs.Name
import Syllogistic.Proofs.Statement.Grammar

/-!
# Declared names

A line of one token declares the name that the token gives to a set in a statement.  The
model brings the declared name into canonical form once more, and so may add another name:
it keeps just those names that neither stand in quotes nor end in a possessive.
-/

namespace Syllogistic

namespace Premise

variable {line name : String}

/-- A line declares a name when its only token gives the name. -/
theorem read_eq_name_iff :
    read line = .ok (some (.name name)) ↔
      ∃ token, Token.scan line = .ok [token] ∧ token.Names name := by
  unfold read
  rw [bind_eq_ok_iff]
  constructor
  · rintro ⟨tokens, scanned, said⟩
    split at said
    · obtain ⟨statement, _, absurdity⟩ := bind_eq_ok_iff.1 said
      cases absurdity
    · split at said
      · cases said
      · rename_i token unjoined
        obtain ⟨given, named, accepted⟩ := bind_eq_ok_iff.1 said
        obtain ⟨unreserved, canonical⟩ := Token.name_eq_ok_iff.1 named
        split at accepted
        · contradiction
        · rename_i inhabited
          cases accepted
          exact ⟨token, scanned, unreserved, canonical, inhabited⟩
      · cases said
  · rintro ⟨token, scanned, names⟩
    have joinsNot := (Token.isReserved_eq_false_iff.1 names.unreserved).1
    refine ⟨[token], scanned, ?_⟩
    rw [if_neg (by simp [joinsNot])]
    dsimp only
    rw [bind_eq_ok_iff]
    refine ⟨name, Token.name_eq_ok_iff.2 ⟨names.unreserved, names.canonical⟩, ?_⟩
    rw [if_neg names.inhabited]

/-- A declared name is in canonical form. -/
theorem settled_of_declares (declares : read line = .ok (some (.name name))) :
    Name.Settled name.toList := by
  obtain ⟨token, _, names⟩ := read_eq_name_iff.1 declares
  rw [← names.canonical]
  exact Name.settled_canonical _

end Premise

namespace Model

variable {model : Model} {line name : String}

/-- A line that declares a name and is accepted adds the canonical form of that name. -/
theorem names_addLine_of_declares
    (declares : Premise.read line = .ok (some (.name name)))
    (accepted : (model.addLine line).result = .ok ()) :
    (model.addLine line).model.names = model.names.insertAll [Name.canonical name] := by
  unfold addLine at accepted ⊢
  rw [declares] at accepted ⊢
  change (model.declare name).result.map (fun _ => ()) = .ok () at accepted
  change (model.declare name).model.names = _
  rcases declare_cases model name with ⟨error, refused⟩ | ⟨accepts, named⟩
  · rw [refused] at accepted
    contradiction
  · rw [(declare_of_accepts accepts named).2]

/--
When a line that declares a name is accepted, the canonical form of the name is added and
nothing else.  As a predicate, and as a subject after a quantifier, the token of the line
is read as the declared name.  The declared name itself is then in the model, and nothing
but it is new, just where it neither stands in quotes nor ends in a possessive, or where
the model had both it and its canonical form before.
-/
theorem addLine_keeps_declared_name_iff
    (declares : Premise.read line = .ok (some (.name name)))
    (accepted : (model.addLine line).result = .ok ()) :
    let after := (model.addLine line).model
    (∃ token, Token.scan line = .ok [token] ∧ ∀ clause,
      Term.ofTokens clause [token] = .ok ⟨name, false, none⟩ ∧
        ∀ (opening : Token) (quantifier : Quantifier), opening.isWord quantifier.word = true →
          Term.ofTokens clause [opening, token] = .ok ⟨name, false, some quantifier⟩) ∧
    (∀ other, other ∈ after.names ↔ other = Name.canonical name ∨ other ∈ model.names) ∧
    ((name ∈ after.names ∧ ∀ other ∈ after.names, other ∈ model.names ∨ other = name) ↔
      (¬ Name.Enclosed name.toList ∧ ¬ Name.EndsInPossessive name.toList) ∨
        name ∈ model.names ∧ Name.canonical name ∈ model.names) := by
  intro after
  have grown : ∀ other, other ∈ after.names ↔
      other = Name.canonical name ∨ other ∈ model.names := by
    intro other
    unfold after
    rw [names_addLine_of_declares declares accepted, Ascending.mem_insertAll,
      List.mem_singleton]
  have again := Name.canonical_eq_self_iff (Premise.settled_of_declares declares)
  obtain ⟨token, scanned, names⟩ := Premise.read_eq_name_iff.1 declares
  refine ⟨⟨token, scanned, fun clause => ⟨?_, fun opening quantifier quantifies => ?_⟩⟩,
    grown, ?_⟩
  · exact Term.ofTokens_eq_ok_iff.2 (.affirmed (.bare names))
  · exact Term.ofTokens_eq_ok_iff.2 (.affirmed (.quantified quantifies names))
  · rw [← again]
    simp only [grown]
    constructor
    · rintro ⟨kept, only⟩
      by_cases same : Name.canonical name = name
      · exact .inl same
      · rcases only (Name.canonical name) (.inl rfl) with old | other
        · exact .inr ⟨kept.resolve_left fun equal => same equal.symm, old⟩
        · exact absurd other same
    · rintro (same | ⟨held, canonical⟩)
      · rw [same]
        exact ⟨.inl rfl, fun other new => new.symm⟩
      · refine ⟨.inr held, fun other new => .inl ?_⟩
        rcases new with rfl | old
        · exact canonical
        · exact old

/-- A quoted name of several words is kept, without the possessive inside its quotes. -/
theorem addLine_keeps_declared_name_of_several_words :
    let model := empty Config.default
    let line := " \"red   apples's\""
    (model.addLine line).result = .ok () ∧
      "RED APPLES" ∈ (model.addLine line).model.names ∧
        ∀ other ∈ (model.addLine line).model.names, other = "RED APPLES" := by
  intro model line
  have declares : Premise.read line = .ok (some (.name "RED APPLES")) := by decide +kernel
  have accepted : (model.addLine line).result = .ok () := by decide +kernel
  obtain ⟨kept, only⟩ := (addLine_keeps_declared_name_iff declares accepted).2.2.2
    (.inl ⟨by decide +kernel, by decide +kernel⟩)
  refine ⟨accepted, kept, fun other member => (only other member).resolve_left ?_⟩
  exact Ascending.not_mem_empty other

/--
A name that still ends in a possessive is lost: the line declares the name that its token
has in a statement, and the model adds another.
-/
theorem addLine_loses_declared_name :
    let model := empty Config.default
    let after := (model.addLine "a's's").model
    Premise.read "a's's" = .ok (some (.name "A'S")) ∧
      (model.addLine "a's's").result = .ok () ∧
      (Statement.read "All a's's are b").toOption.map (·.proposition.subject.name) =
        some "A'S" ∧
      "A'S" ∉ after.names ∧ after.names.toList = ["A"] := by
  intro model after
  exact ⟨by decide +kernel, by decide +kernel, by decide +kernel, by decide +kernel,
    by decide +kernel⟩

end Model
end Syllogistic
