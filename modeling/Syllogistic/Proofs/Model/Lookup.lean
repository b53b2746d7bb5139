import Syllogistic.Proofs.Model.Transcript
import Syllogistic.Proofs.Statement.Display

/-!
# Names looked up

A name is looked up as the text of a name: it is brought into canonical form once more.
All names of a model are settled, so a name is its own canonical form, and found, unless it
stands in quotes or ends in a possessive.  An empty name is there only if a statement about
it was added.
-/

namespace Syllogistic

/-- The terms for the sets of written names, negated or not. -/
inductive Term.Composed : Term → Prop
  | bare (text : String) : Composed (Term.bare text)
  | quantified (quantifier : Quantifier) (text : String) :
      Composed (Term.quantified quantifier text)
  | negate {term : Term} (composed : Composed term) : Composed term.negate

/-- The name of such a term is in canonical form. -/
theorem Term.Composed.settled {term : Term} (composed : term.Composed) :
    Name.Settled term.name.toList := by
  induction composed with
  | bare text => exact Name.settled_canonical text
  | quantified _ text => exact Name.settled_canonical text
  | negate _ ih => exact ih

namespace Model

variable {model : Model} {name : String} {config : Config} {operations : List Operation}

/-! ## Where names come from -/

/-- The name is in canonical form, and if it is empty, a statement about it is added. -/
structure Origin (operations : List Operation) (name : String) : Prop where
  settled : Name.Settled name.toList
  added : name = "" →
    ∃ statement, .add statement ∈ operations ∧ name ∈ statement.proposition.names

/-- A canonical form that is not empty may come from anywhere. -/
theorem Origin.of_inhabited
    (settled : Name.Settled name.toList)
    (inhabited : name ≠ "") :
    Origin operations name :=
  ⟨settled, fun empty => absurd empty inhabited⟩

/-- A declaration adds the canonical form of a text, and never the empty name. -/
theorem origin_of_mem_declare
    (origins : ∀ other ∈ model.names, Origin operations other)
    (text : String)
    (member : name ∈ (model.declare text).model.names) :
    Origin operations name := by
  rcases declare_cases model text with ⟨error, refused⟩ | ⟨accepts, named⟩
  · rw [refused] at member
    exact origins name member
  · rw [(declare_of_accepts accepts named).2, Ascending.mem_insertAll,
      List.mem_singleton] at member
    rcases member with rfl | old
    · exact .of_inhabited (Name.settled_canonical text) named
    · exact origins name old

theorem origin_of_mem_add
    (origins : ∀ other ∈ model.names, Origin operations other)
    {statement : Statement}
    (mentioned : ∀ other ∈ statement.proposition.names, Origin operations other)
    (member : name ∈ (model.add statement).model.names) :
    Origin operations name := by
  rcases add_cases model statement with ⟨error, refused⟩ | ⟨accepts, wellFormed⟩
  · rw [refused] at member
    exact origins name member
  · rw [(add_of_accepts accepts wellFormed).2, Ascending.mem_insertAll] at member
    exact member.elim (mentioned name) (origins name)

/-- The names that a line mentions in a statement are canonical forms, and not empty. -/
theorem origin_of_said
    {line : String}
    {statement : Statement}
    (said : Premise.read line = .ok (some (.statement statement)))
    (mentioned : name ∈ statement.proposition.names) :
    Origin operations name := by
  have isRead := Premise.read_eq_statement_iff.1 said
  obtain ⟨inhabited, settled, _⟩ := Statement.settled_of_read isRead mentioned
  exact .of_inhabited settled inhabited

/-- Every name that a run leads to has an origin in it. -/
theorem origin_of_mem_run
    (composed : ∀ statement, .add statement ∈ operations →
      statement.proposition.subject.Composed ∧ statement.proposition.predicate.Composed) :
    ∀ name ∈ ((empty config).run operations).names, Origin operations name := by
  apply @run_preserves_of_permitted (fun reached => ∀ name ∈ reached.names, Origin operations name)
    (fun statement => ∀ name ∈ statement.proposition.names, Origin operations name)
  · exact fun _ text origins name => origin_of_mem_declare origins text
  · exact fun _ statement mentioned origins name => origin_of_mem_add origins mentioned
  · exact fun _ _ said name => origin_of_said said
  · intro statement added name mentioned
    refine ⟨?_, fun _ => ⟨statement, added, mentioned⟩⟩
    obtain ⟨subject, predicate⟩ := composed statement added
    simp only [Proposition.names, List.mem_cons, List.not_mem_nil, or_false] at mentioned
    rcases mentioned with rfl | rfl
    · exact subject.settled
    · exact predicate.settled
  · intro _ reached origins
    rw [reached.build_keeps.2.1]
    exact origins
  · exact fun name member => absurd member (Ascending.not_mem_empty name)

/-! ## Looking a name up -/

/-- The name is not empty, it is found, and a gathering model declares it without any change. -/
structure Finds (model : Model) (name : String) : Prop where
  inhabited : name ≠ ""
  held : model.hasName name = true
  declared : ∀ refused, model.stage = .gathering refused →
    model.declare name = ⟨.ok false, model, []⟩

/-- A name is found when the model has its canonical form, and that is not empty. -/
theorem finds_of_canonical
    (few : model.names.size ≤ Diagram.most)
    (inhabited : name ≠ "")
    (named : Name.canonical name ≠ "")
    (held : Name.canonical name ∈ model.names) :
    model.Finds name := by
  refine ⟨inhabited, decide_eq_true held, fun refused stage => ?_⟩
  have same : model.names.insertAll [Name.canonical name] = model.names :=
    Ascending.insertAll_eq_self (by simpa using held)
  have room : model.crowding? [Name.canonical name] = none :=
    crowding?_eq_none_iff.2 (same.symm ▸ few)
  unfold declare
  simp only [stage, if_neg named, room, if_pos held]

/--
After operations whose statements are composed of terms for written names, all names of the
model are found just when none of them is empty and each neither stands in quotes nor ends
in a possessive, unless the model has its canonical form besides.  A name that is not empty,
does not stand in quotes and does not end in a possessive is found whatever the others are.
The empty name is in the model only if a statement about it was added.
-/
theorem finds_names_iff
    {config : Config}
    {operations : List Operation}
    (composed : ∀ statement, .add statement ∈ operations →
      statement.proposition.subject.Composed ∧ statement.proposition.predicate.Composed) :
    let model := (empty config).run operations
    ((∀ name ∈ model.names, model.Finds name) ↔
      ∀ name ∈ model.names, name ≠ "" ∧
        (¬ Name.Enclosed name.toList ∧ ¬ Name.EndsInPossessive name.toList ∨
          Name.canonical name ∈ model.names)) ∧
    (∀ name ∈ model.names, name ≠ "" → ¬ Name.Enclosed name.toList →
      ¬ Name.EndsInPossessive name.toList → model.Finds name) ∧
    ("" ∈ model.names → ∃ statement, .add statement ∈ operations ∧
      "" ∈ statement.proposition.names) := by
  intro model
  have origins : ∀ name ∈ model.names, Origin operations name := origin_of_mem_run composed
  have few : model.names.size ≤ Diagram.most := (coherent_run config operations).few
  refine ⟨⟨fun finds name member => ?_, fun plain name member => ?_⟩, ?_, ?_⟩
  · exact ⟨(finds name member).inhabited, .inr (of_decide_eq_true (finds name member).held)⟩
  · obtain ⟨inhabited, found⟩ := plain name member
    have held : Name.canonical name ∈ model.names := by
      rcases found with bare | held
      · rwa [(Name.canonical_eq_self_iff (origins name member).settled).2 bare]
      · exact held
    exact finds_of_canonical few inhabited (plain _ held).1 held
  · intro name member inhabited unquoted bare
    have same := (Name.canonical_eq_self_iff (origins name member).settled).2 ⟨unquoted, bare⟩
    exact finds_of_canonical few inhabited (by rwa [same]) (by rwa [same])
  · exact fun member => (origins "" member).added rfl

/-- Declared, read from a line or added as a term, plain names are found. -/
theorem finds_names_of_several_words :
    let statement := Statement.ofProposition
      ⟨.quantified .universal " \"red  apples\" ", (Term.bare "b’S").negate⟩
    let operations : List Operation := [.declare "b", .line "SOME c's are \"b\"", .add statement]
    let model := (empty Config.default).run operations
    (∀ other, .add other ∈ operations →
        other.proposition.subject.Composed ∧ other.proposition.predicate.Composed) ∧
      model.names.toList = ["B", "C", "RED APPLES"] ∧ ∀ name ∈ model.names, model.Finds name := by
  intro statement operations model
  have composed : ∀ other, .add other ∈ operations →
      other.proposition.subject.Composed ∧ other.proposition.predicate.Composed := by
    intro other added
    simp only [operations, List.mem_cons, Operation.add.injEq, List.not_mem_nil, reduceCtorEq,
      false_or, or_false] at added
    rw [added]
    exact ⟨.quantified _ _, .negate (.bare _)⟩
  have names : model.names.toList = ["B", "C", "RED APPLES"] := by decide +kernel
  have plain : ∀ name ∈ model.names.toList, name ≠ "" ∧
      (¬ Name.Enclosed name.toList ∧ ¬ Name.EndsInPossessive name.toList ∨
        Name.canonical name ∈ model.names) := by
    rw [names]
    decide +kernel
  exact ⟨composed, names, (finds_names_iff composed).1.2 plain⟩

/--
A name that still ends in a possessive is not found, and declaring it adds another; and a
statement about the empty name is added, which no declaration accepts.
-/
theorem finds_names_fails :
    let possessive := (empty Config.default).run [.line "All a's's are b"]
    let statement := Statement.ofProposition ⟨.quantified .universal "", .bare "b"⟩
    let nameless := (empty Config.default).run [.add statement]
    ("A'S" ∈ possessive.names ∧ possessive.hasName "A'S" = false ∧
      (possessive.declare "A'S").result = .ok true) ∧
    ("" ∈ nameless.names ∧
      (nameless.declare "").result = .error (.grammar .nothingToRead)) := by
  intro possessive statement nameless
  exact ⟨⟨by decide +kernel, by decide +kernel, by decide +kernel⟩, by decide +kernel,
    by decide +kernel⟩

end Model
end Syllogistic
