import Mathlib.Data.List.Nodup
import Syllogistic.Proofs.Diagram.Regions
import Syllogistic.Proofs.Table

/-!
# Identifiers and labels of regions

The label of a region shows which circles it lies in, so no two regions share one.  The
identifier only runs their names together.  Two regions may then be written alike: over
names such as `A`, `AB` and `B` the region inside `A` and `B` has the identifier of the one
inside `AB`.  Over two names this happens just when one of them is empty, and over three
there are three more ways.
-/

namespace Syllogistic
namespace Diagram

section Joins

variable {α : Type} {first second third : List α}

/-- Of two texts and their join no two are equal unless the first text is empty. -/
theorem nodup_joins_of_two (different : first ≠ second) (inhabited : second ≠ []) :
    [first, first ++ second, second].Nodup ↔ first ≠ [] := by
  simp [different, inhabited]

/-- Of the joins of three texts in order no two are equal but in one of four cases. -/
theorem nodup_joins_of_three
    (different : first ≠ second ∧ first ≠ third ∧ second ≠ third)
    (inhabited : second ≠ [] ∧ third ≠ [])
    (least : first ≠ second ++ third) :
    [first, first ++ second, first ++ second ++ third, first ++ third, second,
        second ++ third, third].Nodup ↔
      first ≠ [] ∧ first ++ second ≠ third ∧ first ++ third ≠ second ∧
        first ++ second ≠ second ++ third := by
  have secondLength := List.length_pos_iff.2 inhabited.1
  have thirdLength := List.length_pos_iff.2 inhabited.2
  have longerThanSecond : first ++ (second ++ third) ≠ second := fun same => by
    have lengths := congrArg List.length same
    simp only [List.length_append] at lengths
    omega
  have longerThanThird : first ++ (second ++ third) ≠ third := fun same => by
    have lengths := congrArg List.length same
    simp only [List.length_append] at lengths
    omega
  -- All other pairs differ, or are equal just when the first text is empty.
  have pairs : [first, first ++ second, first ++ second ++ third, first ++ third, second,
      second ++ third, third].Nodup ↔
        (first ≠ [] ∧ first ++ second ≠ second ++ third ∧ first ++ second ≠ third) ∧
          first ≠ [] ∧ first ++ third ≠ second ∧ first ≠ [] := by
    simp [different, inhabited, least, longerThanSecond, longerThanThird]
  rw [pairs]
  constructor
  · rintro ⟨⟨named, overlap, asThird⟩, _, asSecond, _⟩
    exact ⟨named, asThird, asSecond, overlap⟩
  · rintro ⟨named, asThird, asSecond, overlap⟩
    exact ⟨⟨named, overlap, asThird⟩, named, asSecond, named⟩

end Joins

/-- A longer text is not smaller than its beginning. -/
theorem not_append_lt (text suffix : String) : ¬ text ++ suffix < text := by
  rw [String.lt_iff, String.toList_append]
  exact List.IsPrefix.le (List.prefix_append _ _)

theorem ne_empty_of_lt {smaller name : String} (less : smaller < name) : name ≠ "" := by
  rintro rfl
  have least := not_append_lt "" smaller
  rw [String.empty_append] at least
  exact least less

/--
No two choices among two or three names in order are written alike when their names are
run together.
-/
def Legible : List String → Prop
  | [first, _] => first ≠ ""
  | [first, second, third] =>
      first ≠ "" ∧ first ++ second ≠ third ∧ first ++ third ≠ second ∧
        first ++ second ≠ second ++ third
  | _ => True

variable {diagram : Diagram} {first second third : String}

/-- The identifiers of the regions are made from the positions of their circles. -/
theorem map_identifier (diagram : Diagram) :
    diagram.regions.map diagram.identifier =
      (diagram.regions.map Region.members).map fun positions =>
        String.join (positions.filterMap (diagram.names.toList[·]?)) := by
  rw [List.map_map]
  rfl

theorem map_identifier_of_two (names : diagram.names.toList = [first, second]) :
    diagram.regions.map diagram.identifier = [first, first ++ second, second] := by
  have size : diagram.names.size = 2 := congrArg List.length names
  have members : diagram.regions.map Region.members = [[0], [0, 1], [1]] := by
    rw [regions, size]
    decide
  rw [map_identifier, members, names]
  simp [String.join]

theorem map_identifier_of_three (names : diagram.names.toList = [first, second, third]) :
    diagram.regions.map diagram.identifier =
      [first, first ++ second, first ++ second ++ third, first ++ third, second,
        second ++ third, third] := by
  have size : diagram.names.size = 3 := congrArg List.length names
  have members : diagram.regions.map Region.members =
      [[0], [0, 1], [0, 1, 2], [0, 2], [1], [1, 2], [2]] := by
    rw [regions, size]
    decide
  rw [map_identifier, members, names]
  simp [String.join]

/-- No two regions have the same identifier just when the names of the diagram are legible. -/
theorem nodup_identifiers_iff :
    (diagram.regions.map diagram.identifier).Nodup ↔ Legible diagram.names.toList := by
  have ordered := diagram.names.ascending
  rcases diagram.size_names with two | three
  · obtain ⟨first, second, names⟩ := List.length_eq_two.1 two
    rw [names] at ordered
    have less : first < second := by simpa using ordered
    rw [map_identifier_of_two names, names,
      ← List.nodup_map_iff (fun _ _ => String.toList_inj.1)]
    simp only [List.map_cons, List.map_nil, String.toList_append]
    rw [nodup_joins_of_two]
    · simp [Legible]
    · rw [ne_eq, String.toList_inj]
      exact fun same => StrictOrder.lt_irrefl second (same ▸ less)
    · rw [ne_eq, String.toList_eq_nil_iff]
      exact ne_empty_of_lt less
  · obtain ⟨first, second, third, names⟩ := List.length_eq_three.1 three
    rw [names] at ordered
    obtain ⟨⟨lower, outer⟩, upper⟩ : (first < second ∧ first < third) ∧ second < third := by
      simpa using ordered
    have differ {left right : String} (less : left < right) : left.toList ≠ right.toList := by
      rw [ne_eq, String.toList_inj]
      exact fun same => StrictOrder.lt_irrefl right (same ▸ less)
    rw [map_identifier_of_three names, names,
      ← List.nodup_map_iff (fun _ _ => String.toList_inj.1)]
    simp only [List.map_cons, List.map_nil, String.toList_append]
    rw [nodup_joins_of_three ⟨differ lower, differ outer, differ upper⟩]
    · simp only [Legible, ne_eq, ← String.toList_inj, String.toList_append, String.toList_empty]
    · rw [ne_eq, String.toList_eq_nil_iff, ne_eq, String.toList_eq_nil_iff]
      exact ⟨ne_empty_of_lt lower, ne_empty_of_lt upper⟩
    · rw [← String.toList_append, ne_eq, String.toList_inj]
      rintro rfl
      exact not_append_lt second third lower

/-- A region of a diagram is determined by its label. -/
theorem label_injOn
    {left right : Region}
    (leftDrawn : left ∈ diagram.regions)
    (rightDrawn : right ∈ diagram.regions)
    (same : diagram.label left = diagram.label right) :
    left = right := by
  unfold label at same
  have digits := String.ofList_injective same
  rw [List.map_inj_left] at digits
  apply Region.ext_contains
  intro position
  by_cases within : position < diagram.names.size
  · have digit := digits position (List.mem_range.2 within)
    generalize left.contains position = inLeft at digit
    generalize right.contains position = inRight at digit
    revert inLeft inRight
    decide
  · have outside {region : Region} (drawn : region ∈ diagram.regions) :
        region.contains position = false := by
      rw [← Bool.not_eq_true]
      exact fun inside => within (mem_regions.1 drawn position inside)
    rw [outside leftDrawn, outside rightDrawn]

/-- There is a region for every choice of circles but the empty one. -/
theorem size_add_one (diagram : Diagram) :
    diagram.size + 1 = Nat.pow 2 diagram.names.size := by
  rcases diagram.size_names with two | three
  · rw [size_of_two two, two]
  · rw [size_of_three three, three]

/-! ## The table of labels -/

/-- Where no two regions are written alike, every region has its own label in the table. -/
theorem get?_labels
    {region : Region}
    (distinct : (diagram.regions.map diagram.identifier).Nodup)
    (drawn : region ∈ diagram.regions) :
    diagram.labels.get? (diagram.identifier region) = some (diagram.label region) := by
  apply Table.get?_ofList_of_mem
  · rwa [List.map_map]
  · exact List.mem_map_of_mem drawn

theorem size_labels (distinct : (diagram.regions.map diagram.identifier).Nodup) :
    diagram.labels.size = diagram.size := by
  unfold labels
  rw [Table.size_ofList, List.length_map, size]
  rwa [List.map_map]

/-- Where every region has its own label in the table, no two regions are written alike. -/
theorem nodup_identifiers_of_get?_labels
    (labelled : ∀ region ∈ diagram.regions,
      diagram.labels.get? (diagram.identifier region) = some (diagram.label region)) :
    (diagram.regions.map diagram.identifier).Nodup := by
  apply List.Nodup.map_on _ diagram.nodup_regions
  intro left leftDrawn right rightDrawn same
  have leftLabel := labelled left leftDrawn
  rw [same, labelled right rightDrawn] at leftLabel
  exact label_injOn leftDrawn rightDrawn (Option.some.inj leftLabel).symm

end Diagram
end Syllogistic
