import Mathlib.Data.List.Nodup
import Syllogistic.Proofs.Model.Extension
import Syllogistic.Proofs.Model.Representation

/-!
# Premises about sets of other names

Nothing that decides a verdict looks into a name: names are only compared, and their order
only places the circles.  So when every name in some premises is changed for another, no two
names for the same one, the changed premises are taken in and built as the others are.  A
conclusion and the changed conclusion then have the same verdict, and the regions marked for
them are inside the circles of the same sets.
-/

namespace Syllogistic

/-- The image of a set under a map that keeps its elements apart is as large as the set. -/
theorem Ascending.size_eq_of_image
    {α β : Type}
    [LT α] [StrictOrder α] [LT β] [StrictOrder β]
    {map : α → β}
    {left : Ascending α}
    {right : Ascending β}
    (apart : ∀ a ∈ left, ∀ b ∈ left, map a = map b → a = b)
    (image : ∀ b, b ∈ right ↔ ∃ a ∈ left, map a = b) :
    right.size = left.size := by
  have distinct : (left.toList.map map).Nodup := List.Nodup.map_on apart left.nodup_toList
  have same : right.toList.Perm (left.toList.map map) := by
    rw [List.perm_ext_iff_of_nodup right.nodup_toList distinct]
    intro b
    rw [List.mem_map]
    exact image b
  simpa [size] using same.length_eq

section Propositions

variable {rename : String → String} {proposition other : Proposition}

theorem Proposition.names_rename (rename : String → String) (proposition : Proposition) :
    (proposition.rename rename).names = proposition.names.map rename := rfl

/-- Propositions are told apart when their names are. -/
theorem Proposition.eq_of_rename_eq
    (apart : ∀ name ∈ proposition.names, ∀ own ∈ other.names, rename name = rename own → name = own)
    (equal : proposition.rename rename = other.rename rename) :
    proposition = other := by
  obtain ⟨⟨subject, _, _⟩, ⟨predicate, _, _⟩⟩ := proposition
  obtain ⟨⟨otherSubject, _, _⟩, ⟨otherPredicate, _, _⟩⟩ := other
  simp only [Proposition.rename, Term.rename, Proposition.mk.injEq, Term.mk.injEq] at equal
  obtain ⟨⟨subjects, negated, quantified⟩, ⟨predicates, alsoNegated, alsoQuantified⟩⟩ := equal
  obtain rfl : subject = otherSubject :=
    apart _ (by simp [names]) _ (by simp [names]) subjects
  obtain rfl : predicate = otherPredicate :=
    apart _ (by simp [names]) _ (by simp [names]) predicates
  simp only [negated, quantified, alsoNegated, alsoQuantified]

/-- A proposition is well formed about other names when it is about its own. -/
theorem Proposition.wellFormed_rename_iff
    (apart : ∀ name ∈ proposition.names, ∀ own ∈ proposition.names,
      rename name = rename own → name = own) :
    (proposition.rename rename).WellFormed ↔ proposition.WellFormed := by
  have differ : rename proposition.subject.name ≠ rename proposition.predicate.name ↔
      proposition.subject.name ≠ proposition.predicate.name :=
    not_congr ⟨apart _ (by simp [names]) _ (by simp [names]), congrArg rename⟩
  constructor
  · rintro ⟨quantified, unquantified, affirmed, different⟩
    exact ⟨quantified, unquantified, affirmed, differ.1 different⟩
  · rintro ⟨quantified, unquantified, affirmed, different⟩
    exact ⟨quantified, unquantified, affirmed, differ.2 different⟩

end Propositions

namespace Model

open Diagram

/--
The second of two gathering models states what the first does, about the names that those of
the first are changed for, and has no other names.  The names changed are all in a list.
-/
structure IsRenamed (rename : String → String) (listed : List String) (left right : Model) :
    Prop where
  leftGathers : ∃ refused, left.stage = .gathering refused
  rightGathers : ∃ refused, right.stage = .gathering refused
  config : left.config = right.config
  listed : ∀ name ∈ left.names, name ∈ listed
  names : ∀ name, name ∈ right.names ↔ ∃ own ∈ left.names, rename own = name
  statements : right.statements.map Statement.proposition =
    left.statements.map fun statement => statement.proposition.rename rename

namespace IsRenamed

variable {rename : String → String} {listed : List String} {left right : Model}

section Addition

variable {added : List String}

/-- When more names are added to both models, the new ones are still those changed. -/
theorem mem_insertAll_iff
    (isRenamed : IsRenamed rename listed left right)
    (added : List String)
    (name : String) :
    name ∈ right.names.insertAll (added.map rename) ↔
      ∃ own ∈ left.names.insertAll added, rename own = name := by
  simp only [Ascending.mem_insertAll, List.mem_map, isRenamed.names, or_and_right, exists_or]

theorem listed_insertAll
    (isRenamed : IsRenamed rename listed left right)
    (within : ∀ name ∈ added, name ∈ listed) :
    ∀ name ∈ left.names.insertAll added, name ∈ listed := by
  intro name member
  rcases Ascending.mem_insertAll.1 member with new | old
  · exact within name new
  · exact isRenamed.listed name old

/-- Both models have room for some names and for the changed names, or neither has. -/
theorem accepts_iff
    (isRenamed : IsRenamed rename listed left right)
    (apart : ∀ name ∈ listed, ∀ own ∈ listed, rename name = rename own → name = own)
    (within : ∀ name ∈ added, name ∈ listed) :
    right.Accepts (added.map rename) ↔ left.Accepts added := by
  have all := isRenamed.listed_insertAll within
  have sizes : (right.names.insertAll (added.map rename)).size =
      (left.names.insertAll added).size :=
    Ascending.size_eq_of_image
      (fun name member own ownMember => apart name (all name member) own (all own ownMember))
      (isRenamed.mem_insertAll_iff added)
  unfold Accepts
  rw [sizes]
  exact and_congr_left fun _ => ⟨fun _ => isRenamed.leftGathers, fun _ => isRenamed.rightGathers⟩

/-- A proposition is among the premises when the changed one is among the changed premises. -/
theorem hasProposition_eq
    {proposition : Proposition}
    (isRenamed : IsRenamed rename listed left right)
    (coherent : left.Coherent)
    (apart : ∀ name ∈ listed, ∀ own ∈ listed, rename name = rename own → name = own)
    (within : ∀ name ∈ proposition.names, name ∈ listed) :
    right.hasProposition (proposition.rename rename) = left.hasProposition proposition := by
  have stated : right.hasProposition (proposition.rename rename) = true ↔
      proposition.rename rename ∈ left.statements.map fun held =>
        held.proposition.rename rename := by
    rw [hasProposition_iff, ← isRenamed.statements, List.mem_map]
  rw [Bool.eq_iff_iff, stated, hasProposition_iff, List.mem_map]
  constructor
  · rintro ⟨held, member, equal⟩
    refine ⟨held, member, Proposition.eq_of_rename_eq (fun name mentioned own owned => ?_) equal⟩
    have known := isRenamed.listed name (coherent.named held member name mentioned)
    exact apart name known own (within own owned)
  · rintro ⟨held, member, rfl⟩
    exact ⟨held, member, rfl⟩

variable {statement other : Statement}

/-- A statement and the changed statement are both taken in, or both refused. -/
theorem add
    (isRenamed : IsRenamed rename listed left right)
    (coherent : left.Coherent)
    (apart : ∀ name ∈ listed, ∀ own ∈ listed, rename name = rename own → name = own)
    (within : ∀ name ∈ statement.proposition.names, name ∈ listed)
    (renamed : other.proposition = statement.proposition.rename rename) :
    IsRenamed rename listed (left.add statement).model (right.add other).model := by
  have together : right.Accepts other.proposition.names ∧ other.proposition.WellFormed ↔
      left.Accepts statement.proposition.names ∧ statement.proposition.WellFormed := by
    rw [renamed, Proposition.names_rename, isRenamed.accepts_iff apart within,
      Proposition.wellFormed_rename_iff fun name member own ownMember =>
        apart name (within name member) own (within own ownMember)]
  by_cases taken : left.Accepts statement.proposition.names ∧ statement.proposition.WellFormed
  · have alsoTaken := together.2 taken
    have held := isRenamed.hasProposition_eq coherent apart within
    rw [← renamed] at held
    rw [(add_of_accepts taken.1 taken.2).2, (add_of_accepts alsoTaken.1 alsoTaken.2).2]
    constructor
    · exact isRenamed.leftGathers
    · exact isRenamed.rightGathers
    · exact isRenamed.config
    · exact isRenamed.listed_insertAll within
    · rw [renamed]
      exact isRenamed.mem_insertAll_iff statement.proposition.names
    · dsimp only
      rw [held]
      split
      · exact isRenamed.statements
      · rw [List.map_append, List.map_append, isRenamed.statements, List.map_singleton,
          List.map_singleton, renamed]
  · obtain ⟨_, refused⟩ := (add_cases left statement).resolve_right taken
    obtain ⟨_, alsoRefused⟩ := (add_cases right other).resolve_right (mt together.1 taken)
    rw [refused, alsoRefused]
    exact isRenamed

end Addition

/-- Statements and the changed statements are taken in or refused alike, one by one. -/
theorem run
    {first second : List Statement}
    (isRenamed : IsRenamed rename listed left right)
    (coherent : left.Coherent)
    (apart : ∀ name ∈ listed, ∀ own ∈ listed, rename name = rename own → name = own)
    (within : ∀ statement ∈ first, ∀ name ∈ statement.proposition.names, name ∈ listed)
    (renamed : second.map Statement.proposition =
      first.map fun statement => statement.proposition.rename rename) :
    IsRenamed rename listed (left.run (first.map .add)) (right.run (second.map .add)) := by
  induction first generalizing left right second with
  | nil =>
      obtain rfl : second = [] := List.map_eq_nil_iff.1 renamed
      exact isRenamed
  | cons statement rest inductionHypothesis =>
      rw [List.map_cons, List.map_eq_cons_iff] at renamed
      obtain ⟨other, others, rfl, equal, renamed⟩ := renamed
      rw [List.forall_mem_cons] at within
      change IsRenamed rename listed ((left.add statement).model.run _)
        ((right.add other).model.run _)
      exact inductionHypothesis (isRenamed.add coherent apart within.1 equal)
        (coherent.add statement) within.2 renamed

theorem statesRenamed (isRenamed : IsRenamed rename listed left right) :
    Statement.StatesRenamed rename left.statements right.statements := by
  have statements := isRenamed.statements
  constructor
  · intro statement member
    apply List.mem_map.1
    rw [statements]
    exact List.mem_map_of_mem member
  · intro other member
    have stated : other.proposition ∈ right.statements.map Statement.proposition :=
      List.mem_map_of_mem member
    rw [statements] at stated
    obtain ⟨statement, held, equal⟩ := List.mem_map.1 stated
    exact ⟨statement, held, equal.symm⟩

/-- A model with other names extends the model, and has no further names. -/
theorem toExtends
    (isRenamed : IsRenamed rename listed left right)
    (apart : ∀ name ∈ listed, ∀ own ∈ listed, rename name = rename own → name = own) :
    left.Extends rename right where
  innerGathers := isRenamed.leftGathers
  outerGathers := isRenamed.rightGathers
  config := isRenamed.config
  mapped name member := (isRenamed.names _).2 ⟨name, member, rfl⟩
  apart name member own ownMember :=
    apart name (isRenamed.listed name member) own (isRenamed.listed own ownMember)
  states := isRenamed.statesRenamed

/-- Premises and the changed premises are built together. -/
theorem build_eq_ok_iff
    (isRenamed : IsRenamed rename listed left right)
    (leftCoherent : left.Coherent)
    (rightCoherent : right.Coherent)
    (apart : ∀ name ∈ listed, ∀ own ∈ listed, rename name = rename own → name = own) :
    left.build.result = .ok () ↔ right.build.result = .ok () := by
  have extension := isRenamed.toExtends apart
  by_cases enough : Diagram.fewest ≤ left.names.size
  · exact (extension.exists_corresponds_of_build leftCoherent rightCoherent enough).1
  · have sizes := Ascending.size_eq_of_image extension.apart isRenamed.names
    rw [Nat.not_le] at enough
    exact iff_of_false (build_ne_ok_of_few enough) (build_ne_ok_of_few (sizes ▸ enough))

/-- After the builds a conclusion and the changed conclusion are answered alike. -/
theorem answersAlike_of_build
    {statement other : Statement}
    (isRenamed : IsRenamed rename listed left right)
    (leftCoherent : left.Coherent)
    (rightCoherent : right.Coherent)
    (apart : ∀ name ∈ listed, ∀ own ∈ listed, rename name = rename own → name = own)
    (named : ∀ name ∈ statement.proposition.names, name ∈ left.names)
    (renamed : other.proposition = statement.proposition.rename rename) :
    AnswersAlike rename left.build.model right.build.model statement other := by
  have extension := isRenamed.toExtends apart
  by_cases quantified : statement.quantifier = none
  · -- Without a quantifier there is no verdict, built or not.
    have alsoNamed : ∀ name ∈ other.proposition.names, name ∈ right.names := by
      rw [renamed, Proposition.names_rename, List.forall_mem_map]
      exact fun name mentioned => extension.mapped name (named name mentioned)
    rw [← left.build_keeps.2.1] at named
    rw [← right.build_keeps.2.1] at alsoNamed
    obtain ⟨error, refuses⟩ := leftCoherent.build.exists_error_of_unquantified named quantified
    obtain ⟨otherError, alsoRefuses⟩ := rightCoherent.build.exists_error_of_unquantified alsoNamed
      ((Statement.quantifier_eq_of_rename renamed).trans quantified)
    exact .refused error otherError refuses alsoRefuses
  by_cases enough : Diagram.fewest ≤ left.names.size
  · exact extension.answersAlike_of_build leftCoherent rightCoherent enough named quantified renamed
  · have fails := build_ne_ok_of_few (Nat.not_le.1 enough)
    have alsoFails := mt (isRenamed.build_eq_ok_iff leftCoherent rightCoherent apart).2 fails
    rw [ne_eq, build_eq_ok_iff_isBuilt (isBuilt_of_gathering isRenamed.leftGathers),
      Bool.not_eq_true] at fails
    rw [build_eq_ok_iff_isBuilt (isBuilt_of_gathering isRenamed.rightGathers),
      Bool.not_eq_true] at alsoFails
    exact .refused _ _ (evaluate_of_not_built fails _) (evaluate_of_not_built alsoFails _)

end IsRenamed

/-- Where all names of the second model are changed ones, no circle is left out. -/
theorem AnswersAlike.refused_or_renamed
    {rename : String → String}
    {left right : Model}
    {statement other : Statement}
    (alike : AnswersAlike rename left right statement other)
    (leftCoherent : left.Coherent)
    (rightCoherent : right.Coherent)
    (onto : ∀ name ∈ right.names, ∃ own ∈ left.names, rename own = name) :
    (∃ error otherError, left.evaluate statement = .error error ∧
        right.evaluate other = .error otherError) ∨
      ∃ inner outer verdict marked otherMarked,
        left.diagram? = some inner ∧ right.diagram? = some outer ∧
          left.evaluate statement = .ok ⟨statement, verdict, marked⟩ ∧
            right.evaluate other = .ok ⟨other, verdict, otherMarked⟩ ∧
              (∀ region ∈ marked, ∃ image ∈ otherMarked,
                Renames rename inner outer region image) ∧
              ∀ image ∈ otherMarked, ∃ region ∈ marked,
                Renames rename inner outer region image := by
  cases alike with
  | refused error otherError refuses alsoRefuses =>
      exact Or.inl ⟨error, otherError, refuses, alsoRefuses⟩
  | judged inner outer verdict marked otherMarked drawn alsoDrawn judges alsoJudges sides =>
      rw [← (leftCoherent.fits.drawn inner drawn).1,
        ← (rightCoherent.fits.drawn outer alsoDrawn).1] at onto
      refine Or.inr ⟨inner, outer, verdict, marked, otherMarked, drawn, alsoDrawn, judges,
        alsoJudges, fun region member => ?_, fun image member => ?_⟩
      · obtain ⟨image, restricts⟩ := sides.widened region member
        exact ⟨image, (sides.mem_iff region image restricts).1 member, restricts.renames onto⟩
      · obtain ⟨region, inMarked, restricts⟩ := sides.mem_wide_iff.1 member
        exact ⟨region, inMarked, restricts.renames onto⟩

/--
When the names in some statements are changed, different names for different ones, a model
given the changed statements has the changed names and is built exactly when a model given
the statements is.  A conclusion about names of the model and the changed conclusion are then
both refused, or they have the same verdict; and the regions marked for the one are inside
the circles of the same sets as the regions marked for the other.
-/
theorem renamed_premises_answer_alike
    (config : Config)
    {rename : String → String}
    {first second : List Statement}
    (renamed : second.map Statement.proposition =
      first.map fun statement => statement.proposition.rename rename)
    (apart : ∀ name ∈ first.flatMap fun statement => statement.proposition.names,
      ∀ own ∈ first.flatMap fun statement => statement.proposition.names,
        rename name = rename own → name = own) :
    let left := (empty config).run (first.map .add)
    let right := (empty config).run (second.map .add)
    (∀ name, name ∈ right.names ↔ ∃ own ∈ left.names, rename own = name) ∧
      (left.build.result = .ok () ↔ right.build.result = .ok ()) ∧
        ∀ statement other : Statement,
          (∀ name ∈ statement.proposition.names, name ∈ left.names) →
            other.proposition = statement.proposition.rename rename →
              (∃ error otherError, left.build.model.evaluate statement = .error error ∧
                  right.build.model.evaluate other = .error otherError) ∨
                ∃ inner outer verdict marked otherMarked,
                  left.build.model.diagram? = some inner ∧
                    right.build.model.diagram? = some outer ∧
                      left.build.model.evaluate statement = .ok ⟨statement, verdict, marked⟩ ∧
                        right.build.model.evaluate other = .ok ⟨other, verdict, otherMarked⟩ ∧
                          (∀ region ∈ marked, ∃ image ∈ otherMarked,
                            Renames rename inner outer region image) ∧
                          ∀ image ∈ otherMarked, ∃ region ∈ marked,
                            Renames rename inner outer region image := by
  intro left right
  have start : IsRenamed rename (first.flatMap fun statement => statement.proposition.names)
      (empty config) (empty config) := by
    refine ⟨⟨[], rfl⟩, ⟨[], rfl⟩, rfl, fun _ member => absurd member List.not_mem_nil,
      fun name => ?_, rfl⟩
    exact iff_of_false List.not_mem_nil fun ⟨_, member, _⟩ => List.not_mem_nil member
  have isRenamed := start.run (Coherent.empty config) apart
    (fun statement stated _ mentioned => List.mem_flatMap.2 ⟨statement, stated, mentioned⟩) renamed
  have leftCoherent : left.Coherent := coherent_run config _
  have rightCoherent : right.Coherent := coherent_run config _
  refine ⟨isRenamed.names, isRenamed.build_eq_ok_iff leftCoherent rightCoherent apart,
    fun statement other named changed => ?_⟩
  have alike := isRenamed.answersAlike_of_build leftCoherent rightCoherent apart named changed
  apply alike.refused_or_renamed leftCoherent.build rightCoherent.build
  rw [left.build_keeps.2.1, right.build_keeps.2.1]
  exact fun name => (isRenamed.names name).1

/-- Names that are run together from others, in another order, change no answer. -/
theorem renamed_premises_answer_alike_of_joined_names :
    let rename : String → String := fun name =>
      if name = "A" then "BA" else if name = "B" then "A" else "B"
    let every : Statement := .ofProposition (.categorical .universal "A" false "B")
    let none : Statement := .ofProposition (.categorical .universal "B" true "C")
    let conclusion : Statement := .ofProposition (.categorical .universal "A" true "C")
    let otherEvery : Statement := .ofProposition (.categorical .universal "BA" false "A")
    let otherNone : Statement := .ofProposition (.categorical .universal "A" true "B")
    let otherConclusion : Statement := .ofProposition (.categorical .universal "BA" true "B")
    let left := ((empty Config.default).run ([every, none].map .add)).build
    let right := ((empty Config.default).run ([otherEvery, otherNone].map .add)).build
    left.result = .ok () ∧ right.result = .ok () ∧
      ∃ inner outer marked otherMarked,
        left.model.diagram? = some inner ∧ right.model.diagram? = some outer ∧
          left.model.evaluate conclusion = .ok ⟨conclusion, .holds, marked⟩ ∧
            right.model.evaluate otherConclusion = .ok ⟨otherConclusion, .holds, otherMarked⟩ ∧
              marked ≠ [] ∧ ∀ region ∈ marked, ∃ image ∈ otherMarked,
                Renames rename inner outer region image := by
  intro rename every none conclusion otherEvery otherNone otherConclusion left right
  obtain ⟨_, together, alike⟩ := @renamed_premises_answer_alike Config.default rename
    [every, none] [otherEvery, otherNone] (by decide) (by decide)
  have builds : left.result = .ok () :=
    (build_eq_ok_iff_isBuilt (by decide +kernel)).2 (by decide +kernel)
  have answered : (left.model.evaluate conclusion).toOption.map
      (fun answer => (answer.verdict, answer.marked.isEmpty)) = some (.holds, false) := by
    decide +kernel
  refine ⟨builds, together.1 builds, ?_⟩
  rcases alike conclusion otherConclusion (by decide) (by decide) with ⟨error, _, refuses, _⟩ |
    ⟨inner, outer, verdict, marked, otherMarked, drawn, alsoDrawn, judges, alsoJudges, images, _⟩
  · change left.model.evaluate conclusion = _ at refuses
    rw [refuses] at answered
    exact absurd answered.symm (Option.some_ne_none _)
  · change left.model.evaluate conclusion = _ at judges
    rw [judges] at answered
    simp only [Except.toOption, Option.map_some, Option.some.injEq, Prod.mk.injEq,
      List.isEmpty_eq_false_iff] at answered
    obtain ⟨rfl, inhabited⟩ := answered
    exact ⟨inner, outer, marked, otherMarked, drawn, alsoDrawn, judges, alsoJudges, inhabited,
      images⟩

end Model
end Syllogistic
