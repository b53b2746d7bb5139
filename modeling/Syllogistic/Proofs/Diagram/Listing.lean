import Syllogistic.Proofs.Diagram.Identifiers

/-!
# Regions listed by their identifiers

Regions are ordered by the positions of their circles, and the table of labels is kept in
the order of the identifiers.  Where all names have the same number of characters, and more
than none, the two orders are one.  A region that lies in further circles has a longer
identifier that begins alike; and of two different names neither begins the other, so the
first circle in which two regions differ decides about all that follows.
-/

namespace Syllogistic

section Joins

variable {α : Type} [LT α]

/-- The order of two different pieces of one length does not depend on what follows them. -/
theorem append_lt_append_of_lt
    {first second : List α}
    (alike : first.length = second.length)
    (less : first < second)
    (left right : List α) :
    first ++ left < second ++ right := by
  induction first generalizing second with
  | nil =>
      rw [List.eq_nil_of_length_eq_zero alike.symm] at less
      exact absurd less (List.not_lt_nil _)
  | cons c rest inductionHypothesis =>
      cases second with
      | nil => exact absurd less (List.not_lt_nil _)
      | cons d others =>
          rw [List.cons_append, List.cons_append, List.cons_lt_cons_iff]
          rcases List.cons_lt_cons_iff.1 less with earlier | ⟨same, later⟩
          · exact .inl earlier
          · exact .inr ⟨same, inductionHypothesis (Nat.succ.inj alike) later⟩

/-- Lists of pieces of one length, none of them empty, are ordered as their joins are. -/
theorem flatten_lt_flatten
    {length : Nat}
    {left right : List (List α)}
    (positive : 0 < length)
    (leftAlike : ∀ piece ∈ left, piece.length = length)
    (rightAlike : ∀ piece ∈ right, piece.length = length)
    (less : left < right) :
    left.flatten < right.flatten := by
  induction left generalizing right with
  | nil =>
      cases right with
      | nil => exact absurd less (List.not_lt_nil _)
      | cons piece others =>
          have inhabited : 0 < piece.length := by
            rwa [rightAlike piece List.mem_cons_self]
          obtain ⟨c, rest, rfl⟩ := List.exists_cons_of_length_pos inhabited
          exact List.nil_lt_cons _ _
  | cons piece rest inductionHypothesis =>
      cases right with
      | nil => exact absurd less (List.not_lt_nil _)
      | cons other others =>
          rw [List.forall_mem_cons] at leftAlike rightAlike
          rw [List.flatten_cons, List.flatten_cons]
          rcases List.cons_lt_cons_iff.1 less with earlier | ⟨rfl, later⟩
          · exact append_lt_append_of_lt (leftAlike.1.trans rightAlike.1.symm) earlier _ _
          · exact List.append_left_lt (inductionHypothesis leftAlike.2 rightAlike.2 later)

end Joins

/-- Lists of positions are ordered as the lists of what stands there in an ascending list. -/
theorem Ascending.filterMap_lt_filterMap
    {α : Type}
    [LT α]
    {set : Ascending α}
    {left right : List Nat}
    (leftWithin : ∀ position ∈ left, position < set.size)
    (rightWithin : ∀ position ∈ right, position < set.size)
    (less : left < right) :
    left.filterMap (set.toList[·]?) < right.filterMap (set.toList[·]?) := by
  induction left generalizing right with
  | nil =>
      cases right with
      | nil => exact absurd less (List.not_lt_nil _)
      | cons position others =>
          rw [List.forall_mem_cons] at rightWithin
          rw [List.filterMap_cons_some (List.getElem?_eq_getElem rightWithin.1)]
          exact List.nil_lt_cons _ _
  | cons position rest inductionHypothesis =>
      cases right with
      | nil => exact absurd less (List.not_lt_nil _)
      | cons other others =>
          rw [List.forall_mem_cons] at leftWithin rightWithin
          rw [List.filterMap_cons_some (List.getElem?_eq_getElem leftWithin.1),
            List.filterMap_cons_some (List.getElem?_eq_getElem rightWithin.1),
            List.cons_lt_cons_iff]
          rcases List.cons_lt_cons_iff.1 less with earlier | ⟨rfl, later⟩
          · exact .inl (List.pairwise_iff_getElem.1 set.ascending _ _ _ _ earlier)
          · exact .inr ⟨rfl, inductionHypothesis leftWithin.2 rightWithin.2 later⟩

namespace Diagram

variable {diagram : Diagram} {left right : Region} {length : Nat}

/-- Regions are ordered as the lists of the names around them. -/
theorem namesAround_lt
    (leftDrawn : left ∈ diagram.regions)
    (rightDrawn : right ∈ diagram.regions)
    (less : left < right) :
    diagram.namesAround left < diagram.namesAround right := by
  apply Ascending.filterMap_lt_filterMap _ _ less
  · exact fun position member => mem_regions.1 leftDrawn position (Region.mem_members.1 member)
  · exact fun position member => mem_regions.1 rightDrawn position (Region.mem_members.1 member)

/-- The identifier of a region is the join of the names around it. -/
theorem toList_identifier (diagram : Diagram) (region : Region) :
    (diagram.identifier region).toList =
      ((diagram.namesAround region).map String.toList).flatten :=
  String.toList_join

/-- Where all names have one length, the identifier of a later region comes later. -/
theorem identifier_lt
    (positive : 0 < length)
    (alike : ∀ name ∈ diagram.names, name.length = length)
    (leftDrawn : left ∈ diagram.regions)
    (rightDrawn : right ∈ diagram.regions)
    (less : left < right) :
    diagram.identifier left < diagram.identifier right := by
  have pieces {region : Region} (drawn : region ∈ diagram.regions) :
      ∀ piece ∈ (diagram.namesAround region).map String.toList, piece.length = length := by
    rw [List.forall_mem_map]
    intro name around
    rw [String.length_toList]
    exact alike name (mem_names_of_mem_circle ((mem_namesAround_iff drawn).1 around))
  rw [String.lt_iff, toList_identifier, toList_identifier]
  apply flatten_lt_flatten positive (pieces leftDrawn) (pieces rightDrawn)
  exact List.map_lt (fun _ _ => String.lt_iff.1) (namesAround_lt leftDrawn rightDrawn less)

/--
Where all names of a diagram have the same number of characters, and more than none, its
regions are ordered as their identifiers.  No two of them have the same identifier, there
is a label for every choice of circles but the empty one, and the table of labels lists the
regions in their order.
-/
theorem identifiers_ascend
    {diagram : Diagram}
    {length : Nat}
    (positive : 0 < length)
    (alike : ∀ name ∈ diagram.names, name.length = length) :
    (∀ left ∈ diagram.regions, ∀ right ∈ diagram.regions,
        left < right ↔ diagram.identifier left < diagram.identifier right) ∧
      (diagram.regions.map diagram.identifier).Nodup ∧
      diagram.labels.size + 1 = Nat.pow 2 diagram.names.size ∧
      diagram.labels.entries =
        diagram.regions.map fun region => (diagram.identifier region, diagram.label region) := by
  have ascends : ∀ left ∈ diagram.regions, ∀ right ∈ diagram.regions,
      left < right → diagram.identifier left < diagram.identifier right :=
    fun _ leftDrawn _ rightDrawn => identifier_lt positive alike leftDrawn rightDrawn
  have ordered : (diagram.regions.map diagram.identifier).Pairwise (· < ·) :=
    List.pairwise_map.2 (diagram.pairwise_regions.imp_of_mem fun {left right} =>
      fun leftDrawn rightDrawn => ascends left leftDrawn right rightDrawn)
  have distinct : (diagram.regions.map diagram.identifier).Nodup := by
    apply ordered.imp
    rintro left right less rfl
    exact StrictOrder.lt_irrefl left less
  refine ⟨fun left leftDrawn right rightDrawn => ⟨ascends left leftDrawn right rightDrawn, ?_⟩,
    distinct, ?_, ?_⟩
  · intro less
    apply Classical.byContradiction
    intro notLess
    have greater : right < left := by
      apply StrictOrder.lt_of_not_lt notLess
      rintro rfl
      exact StrictOrder.lt_irrefl _ less
    exact StrictOrder.not_lt_of_lt less (ascends right rightDrawn left leftDrawn greater)
  · rw [size_labels distinct, size_add_one]
  · apply Table.entries_ofList
    rwa [List.pairwise_map, ← List.pairwise_map (f := diagram.identifier)]

/-- Names of two letters each, though all of them share letters, list the labels in order. -/
theorem identifiers_ascend_of_two_letters :
    let diagram : Diagram := ⟨.ofList ["BÄ", "AB", "BA"], by decide +kernel, by decide +kernel⟩
    0 < 2 ∧ (∀ name ∈ diagram.names, name.length = 2) ∧
      diagram.labels.entries =
        [("AB", "100"), ("ABBA", "110"), ("ABBABÄ", "111"), ("ABBÄ", "101"), ("BA", "010"),
          ("BABÄ", "011"), ("BÄ", "001")] := by
  intro diagram
  have names : diagram.names.toList = ["AB", "BA", "BÄ"] := by decide +kernel
  have alike : ∀ name ∈ diagram.names.toList, name.length = 2 := by
    rw [names]
    decide +kernel
  obtain ⟨_, _, _, entries⟩ := @identifiers_ascend diagram 2 Nat.two_pos alike
  refine ⟨Nat.two_pos, alike, entries.trans ?_⟩
  decide +kernel

end Diagram
end Syllogistic
