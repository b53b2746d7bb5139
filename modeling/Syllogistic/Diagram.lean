import Syllogistic.Ascending
import Syllogistic.Error
import Syllogistic.Region
import Syllogistic.Table

/-!
# Diagrams

A diagram has a circle for each of two or three names, at positions in the order
of the names.  Its regions come in their order, each with an identifier made of
the names of its circles and a label that shows its positions.
-/

namespace Syllogistic

/-- The circles of two or three sets, in the order of their names. -/
structure Diagram where
  /-- The names of the sets. -/
  names : Ascending String
  two_le_size : 2 ≤ names.size
  size_le_three : names.size ≤ 3

namespace Diagram

/-- The fewest sets that a diagram is drawn for. -/
def fewest : Nat := 2

/-- The most sets that a diagram is drawn for. -/
def most : Nat := 3

/-- The diagram over a set of names, unless there are too few or too many. -/
def ofAscending (names : Ascending String) : Except SizeFault Diagram :=
  if few : names.size < fewest then .error (.tooFew names.size)
  else if many : most < names.size then .error (.tooMany names.toList)
  else .ok ⟨names, Nat.le_of_not_lt few, Nat.le_of_not_lt many⟩

/-- The diagram over the names of a list, in any order and with repetitions. -/
def ofNames (names : List String) : Except SizeFault Diagram :=
  ofAscending (.ofList names)

/-- The position of the circle of a name. -/
def position? (diagram : Diagram) (name : String) : Option Nat :=
  diagram.names.toList.idxOf? name

/--
The bits of the non-empty sets of `count` positions from `first` on, in the
order of regions: those with the first position come before those without it.
-/
def cells (first : Nat) : Nat → List Nat
  | 0 => []
  | count + 1 =>
      2 ^ first :: (cells (first + 1) count).map (2 ^ first + ·) ++ cells (first + 1) count

/-- Every region of the diagram, in order. -/
def regions (diagram : Diagram) : List Region :=
  (cells 0 diagram.names.size).filterMap Region.ofBits?

/-- The regions inside the circle at a position. -/
def regionsAt (diagram : Diagram) (position : Nat) : List Region :=
  diagram.regions.filter (·.contains position)

/-- The regions inside the circle of a name; there are none if the name has no circle. -/
def circle (diagram : Diagram) (name : String) : List Region :=
  ((diagram.position? name).map diagram.regionsAt).getD []

/-- The names of the circles around a region, written one after the other. -/
def identifier (diagram : Diagram) (region : Region) : String :=
  String.join (region.members.filterMap (diagram.names.toList[·]?))

/-- A digit for each circle, one if the region lies inside it and zero if not. -/
def label (diagram : Diagram) (region : Region) : String :=
  String.ofList <| (List.range diagram.names.size).map fun position =>
    if region.contains position then '1' else '0'

/-- The labels of the regions under their identifiers. -/
def labels (diagram : Diagram) : Table String String :=
  .ofList (diagram.regions.map fun region => (diagram.identifier region, diagram.label region))

/-- The number of regions. -/
def size (diagram : Diagram) : Nat :=
  diagram.regions.length

/-- A diagram without circles, which `ofNames` never draws. -/
def isEmpty (diagram : Diagram) : Bool :=
  diagram.names.toList.isEmpty

/-- A diagram has two or three circles. -/
theorem size_names (diagram : Diagram) : diagram.names.size = 2 ∨ diagram.names.size = 3 := by
  have := diagram.two_le_size
  have := diagram.size_le_three
  omega

/-- Every diagram has a circle. -/
@[simp] theorem isEmpty_eq_false (diagram : Diagram) : diagram.isEmpty = false := by
  have circles := diagram.two_le_size
  rw [isEmpty, List.isEmpty_eq_false_iff, ne_eq, ← List.length_eq_zero_iff]
  exact fun none => by simp [Ascending.size, none] at circles

/-- Two circles make three regions. -/
theorem size_of_two {diagram : Diagram} (two : diagram.names.size = 2) : diagram.size = 3 := by
  rw [size, regions, two]
  decide

/-- Three circles make seven regions. -/
theorem size_of_three {diagram : Diagram} (three : diagram.names.size = 3) :
    diagram.size = 7 := by
  rw [size, regions, three]
  decide

/-- The regions come in ascending order. -/
theorem pairwise_regions (diagram : Diagram) : diagram.regions.Pairwise (· < ·) := by
  rcases diagram.size_names with two | three
  · rw [regions, two]
    decide
  · rw [regions, three]
    decide

end Diagram
end Syllogistic
