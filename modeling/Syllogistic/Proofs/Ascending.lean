import Syllogistic.Ascending

/-!
# Growing sets

A set grows by the elements that it lacks, in whatever order they are added, and a
set that contains another has at least as many elements.
-/

namespace Syllogistic
namespace Ascending

variable {α : Type} [LT α] [StrictOrder α]

theorem nodup_toList (set : Ascending α) : set.toList.Nodup := by
  apply set.ascending.imp
  intro left right less equal
  rw [equal] at less
  exact StrictOrder.lt_irrefl right less

/-- A set has no more elements than a list of them all. -/
theorem size_le_length
    {set : Ascending α}
    {elements : List α}
    (listed : ∀ a ∈ set, a ∈ elements) :
    set.size ≤ elements.length :=
  set.nodup_toList.length_le_of_subset listed

/-- A subset has no more elements than the set. -/
theorem size_le_of_subset
    {left right : Ascending α}
    (subset : ∀ a, a ∈ left → a ∈ right) :
    left.size ≤ right.size :=
  size_le_length fun a => subset a

variable [DecidableEq α] [DecidableLT α]

/-- A set does not grow by what it holds. -/
theorem insertAll_eq_self
    {elements : List α}
    {set : Ascending α}
    (held : ∀ a ∈ elements, a ∈ set) :
    set.insertAll elements = set := by
  apply ext_mem
  intro a
  rw [mem_insertAll]
  constructor
  · rintro (added | old)
    · exact held a added
    · exact old
  · exact Or.inr

theorem insertAll_insertAll (first second : List α) (set : Ascending α) :
    (set.insertAll first).insertAll second = set.insertAll (first ++ second) := by
  unfold insertAll
  rw [List.foldl_append]

/-- A set grows by one part of a list no more than by the whole. -/
theorem size_insertAll_le
    {part whole : List α}
    (subset : ∀ a ∈ part, a ∈ whole)
    (set : Ascending α) :
    (set.insertAll part).size ≤ (set.insertAll whole).size := by
  apply size_le_of_subset
  intro a
  rw [mem_insertAll, mem_insertAll]
  rintro (added | old)
  · exact Or.inl (subset a added)
  · exact Or.inr old

/-- A set never shrinks by what is added. -/
theorem size_le_size_insertAll
    (elements : List α)
    (set : Ascending α) :
    set.size ≤ (set.insertAll elements).size :=
  size_le_of_subset fun _ member => mem_insertAll.2 (Or.inr member)

end Ascending
end Syllogistic
