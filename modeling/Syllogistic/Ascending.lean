import Syllogistic.Order

/-!
# Ascending lists

A finite set of names is kept as the strictly ascending list of its elements, so
two such sets are equal exactly when they have the same elements.
-/

namespace Syllogistic

variable {α : Type} [LT α]

/-- A finite set, kept as the strictly ascending list of its elements. -/
structure Ascending (α : Type) [LT α] where
  /-- The elements from the least to the greatest. -/
  toList : List α
  /-- Every element is smaller than those after it. -/
  ascending : toList.Pairwise (· < ·)

namespace Ascending

@[ext] theorem ext {left right : Ascending α} (equal : left.toList = right.toList) :
    left = right := by
  cases left
  cases right
  simp_all

instance [DecidableEq α] : DecidableEq (Ascending α) := fun left right =>
  decidable_of_iff (left.toList = right.toList) ⟨ext, fun equal => equal ▸ rfl⟩

instance : Membership α (Ascending α) := ⟨fun set a => a ∈ set.toList⟩

theorem mem_def {set : Ascending α} {a : α} : a ∈ set ↔ a ∈ set.toList := Iff.rfl

instance [DecidableEq α] (a : α) (set : Ascending α) : Decidable (a ∈ set) :=
  inferInstanceAs (Decidable (a ∈ set.toList))

/-- The set without elements. -/
def empty : Ascending α := ⟨[], List.Pairwise.nil⟩

theorem not_mem_empty (a : α) : a ∉ (empty : Ascending α) := List.not_mem_nil

instance : Inhabited (Ascending α) := ⟨empty⟩

/-- The number of elements. -/
def size (set : Ascending α) : Nat := set.toList.length

/-- A set is determined by its elements. -/
theorem ext_mem [StrictOrder α] {left right : Ascending α}
    (agree : ∀ a, a ∈ left ↔ a ∈ right) : left = right := by
  obtain ⟨leftElements, leftOrdered⟩ := left
  obtain ⟨rightElements, rightOrdered⟩ := right
  apply ext
  simp only [mem_def] at agree ⊢
  induction leftElements generalizing rightElements with
  | nil =>
      cases rightElements with
      | nil => rfl
      | cons b others => simpa using agree b
  | cons a rest ih =>
      have leftLater := List.pairwise_cons.1 leftOrdered
      cases rightElements with
      | nil => simpa using agree a
      | cons b others =>
          have rightLater := List.pairwise_cons.1 rightOrdered
          have same : a = b := by
            apply Classical.byContradiction
            intro different
            have bFirst : b < a := by
              rcases List.mem_cons.1 ((agree a).1 List.mem_cons_self) with equal | member
              · exact absurd equal different
              · exact rightLater.1 a member
            have aFirst : a < b := by
              rcases List.mem_cons.1 ((agree b).2 List.mem_cons_self) with equal | member
              · exact absurd equal.symm different
              · exact leftLater.1 b member
            exact StrictOrder.not_lt_of_lt aFirst bFirst
          subst same
          have tails : rest = others := by
            apply ih leftLater.2 others rightLater.2
            intro c
            have whole := agree c
            simp only [List.mem_cons] at whole
            constructor
            · intro member
              rcases whole.1 (.inr member) with equal | found
              · subst equal
                exact absurd (leftLater.1 c member) (StrictOrder.lt_irrefl c)
              · exact found
            · intro member
              rcases whole.2 (.inr member) with equal | found
              · subst equal
                exact absurd (rightLater.1 c member) (StrictOrder.lt_irrefl c)
              · exact found
          rw [tails]

variable [DecidableEq α] [DecidableLT α]

/-- Puts an element in its place in an ascending list that lacks it. -/
def place (a : α) : List α → List α
  | [] => [a]
  | b :: rest =>
      if a < b then a :: b :: rest
      else if a = b then b :: rest
      else b :: place a rest

@[simp] theorem mem_place {a b : α} {elements : List α} :
    b ∈ place a elements ↔ b = a ∨ b ∈ elements := by
  induction elements with
  | nil => simp [place]
  | cons c rest ih =>
      rw [place]
      split
      · simp
      · split
        · subst c
          simp
        · simp only [List.mem_cons, ih]
          grind

variable [StrictOrder α]

theorem pairwise_place (a : α) {elements : List α} (ordered : elements.Pairwise (· < ·)) :
    (place a elements).Pairwise (· < ·) := by
  induction elements with
  | nil => simp [place]
  | cons b rest ih =>
      rw [List.pairwise_cons] at ordered
      rw [place]
      split
      · rename_i less
        rw [List.pairwise_cons, List.pairwise_cons]
        refine ⟨fun c member => ?_, ordered⟩
        rcases List.mem_cons.1 member with rfl | later
        · exact less
        · exact StrictOrder.lt_trans less (ordered.1 c later)
      · split
        · exact List.pairwise_cons.2 ordered
        · rename_i notLess different
          rw [List.pairwise_cons]
          refine ⟨fun c member => ?_, ih ordered.2⟩
          rcases mem_place.1 member with rfl | later
          · exact StrictOrder.lt_of_not_lt notLess different
          · exact ordered.1 c later

/-- The set with one more element. -/
def insert (a : α) (set : Ascending α) : Ascending α :=
  ⟨place a set.toList, pairwise_place a set.ascending⟩

@[simp] theorem mem_insert {a b : α} {set : Ascending α} :
    b ∈ set.insert a ↔ b = a ∨ b ∈ set := by
  simp [insert, mem_def]

/-- The set with all elements of a list added, one after the other. -/
def insertAll (elements : List α) (set : Ascending α) : Ascending α :=
  elements.foldl (fun grown a => grown.insert a) set

@[simp] theorem mem_insertAll {elements : List α} {set : Ascending α} {b : α} :
    b ∈ set.insertAll elements ↔ b ∈ elements ∨ b ∈ set := by
  induction elements generalizing set with
  | nil => simp [insertAll]
  | cons a rest ih =>
      have step : set.insertAll (a :: rest) = (set.insert a).insertAll rest := rfl
      rw [step, ih, mem_insert, List.mem_cons]
      grind

/-- The set of the elements of a list. -/
def ofList (elements : List α) : Ascending α :=
  empty.insertAll elements

@[simp] theorem mem_ofList {elements : List α} {a : α} :
    a ∈ ofList elements ↔ a ∈ elements := by
  simp [ofList, mem_insertAll, not_mem_empty]

end Ascending
end Syllogistic
