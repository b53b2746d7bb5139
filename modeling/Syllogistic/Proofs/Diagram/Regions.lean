import Syllogistic.Diagram

/-!
# The regions of a diagram

The regions of a diagram are the non-empty sets of its circles: a region belongs
to the diagram when every circle around it does, and every non-empty choice of
circles is met by a region.  A name has a circle at one position at most.
-/

namespace Syllogistic
namespace Region

/-- The positions below a bound that satisfy a predicate are the bits of a number. -/
theorem exists_testBit_iff
    (inside : Nat → Prop)
    (count : Nat) :
    ∃ bits : Nat, ∀ position,
      bits.testBit position = true ↔ position < count ∧ inside position := by
  induction count with
  | zero => exact ⟨0, fun position => by simp⟩
  | succ count inductionHypothesis =>
      obtain ⟨bits, spec⟩ := inductionHypothesis
      by_cases last : inside count
      · refine ⟨bits ||| 2 ^ count, fun position => ?_⟩
        rw [Nat.testBit_or, Nat.testBit_two_pow, Bool.or_eq_true, spec,
          decide_eq_true_eq]
        constructor
        · rintro (⟨below, member⟩ | equal)
          · exact ⟨Nat.lt_succ_of_lt below, member⟩
          · exact ⟨by omega, equal ▸ last⟩
        · rintro ⟨below, member⟩
          by_cases equal : count = position
          · exact Or.inr equal
          · exact Or.inl ⟨by omega, member⟩
      · refine ⟨bits, fun position => ?_⟩
        rw [spec]
        constructor
        · rintro ⟨below, member⟩
          exact ⟨Nat.lt_succ_of_lt below, member⟩
        · rintro ⟨below, member⟩
          have different : position ≠ count := fun equal => last (equal ▸ member)
          exact ⟨by omega, member⟩

/-- Every non-empty set of positions below eight is the set of circles around a region. -/
theorem exists_contains_iff
    {inside : Nat → Prop}
    (bounded : ∀ position, inside position → position < 8)
    (inhabited : ∃ position, inside position) :
    ∃ region : Region, ∀ position,
      region.contains position = true ↔ inside position := by
  obtain ⟨bits, spec⟩ := exists_testBit_iff inside 8
  have positive : 0 < bits := by
    obtain ⟨position, member⟩ := inhabited
    apply Nat.pos_of_ne_zero
    intro zero
    have set : bits.testBit position = true :=
      (spec position).2 ⟨bounded position member, member⟩
    rw [zero, Nat.zero_testBit] at set
    contradiction
  have below : bits < 2 ^ 8 := by
    apply Nat.lt_pow_two_of_testBit
    intro position beyond
    rw [← Bool.not_eq_true, spec]
    rintro ⟨within, _⟩
    omega
  refine ⟨⟨bits, positive, below⟩, fun position => ?_⟩
  refine (spec position).trans ⟨fun member => member.2, fun member => ?_⟩
  exact ⟨bounded position member, member⟩

@[simp] theorem ofBits?_eq_some_iff {bits : Nat} {region : Region} :
    ofBits? bits = some region ↔ region.bits = bits := by
  unfold ofBits?
  constructor
  · intro equal
    split at equal
    · cases equal
      rfl
    · contradiction
  · rintro rfl
    exact dif_pos ⟨region.bits_pos, region.bits_lt⟩

end Region

namespace Diagram

variable {diagram : Diagram} {region : Region} {name : String} {position : Nat}

/-- The bits of the regions of two or three circles are the numbers with as many digits. -/
theorem mem_cells_iff
    {count bits : Nat}
    (circles : count = 2 ∨ count = 3)
    (positive : 0 < bits) :
    bits ∈ cells 0 count ↔ ∀ position, bits.testBit position = true → position < count := by
  have bounded : bits < 2 ^ count ↔
      ∀ position, bits.testBit position = true → position < count := by
    constructor
    · intro below position set
      apply Nat.lt_of_not_le
      intro beyond
      have powers := Nat.pow_le_pow_right Nat.two_pos beyond
      have clear := Nat.testBit_lt_two_pow (Nat.lt_of_lt_of_le below powers)
      rw [clear] at set
      contradiction
    · intro within
      apply Nat.lt_pow_two_of_testBit
      intro position beyond
      rw [← Bool.not_eq_true]
      intro set
      exact absurd (within position set) (Nat.not_lt.2 beyond)
  rw [← bounded]
  rcases circles with rfl | rfl
  · rw [show cells 0 2 = [1, 3, 2] from rfl]
    simp only [List.mem_cons, List.not_mem_nil, or_false]
    omega
  · rw [show cells 0 3 = [1, 3, 7, 5, 2, 6, 4] from rfl]
    simp only [List.mem_cons, List.not_mem_nil, or_false]
    omega

/-- The regions of a diagram are those inside none but its circles. -/
theorem mem_regions :
    region ∈ diagram.regions ↔
      ∀ position, region.contains position = true →
        position < diagram.names.size := by
  unfold regions
  rw [List.mem_filterMap]
  simp only [Region.ofBits?_eq_some_iff, exists_eq_right']
  exact mem_cells_iff diagram.size_names region.bits_pos

/-- No region is listed twice. -/
theorem nodup_regions (diagram : Diagram) : diagram.regions.Nodup := by
  apply diagram.pairwise_regions.imp
  intro left right less equal
  rw [equal] at less
  exact StrictOrder.lt_irrefl right less

@[simp] theorem mem_regionsAt :
    region ∈ diagram.regionsAt position ↔
      region ∈ diagram.regions ∧ region.contains position = true := by
  unfold regionsAt
  rw [List.mem_filter]

/-- The circle of a name stands at the place of the name. -/
theorem position?_eq_some_iff :
    diagram.position? name = some position ↔
      diagram.names.toList[position]? = some name := by
  unfold position?
  rw [List.idxOf?_eq_some_iff, List.getElem?_eq_some_iff]
  constructor
  · rintro ⟨within, equal, _⟩
    exact ⟨within, equal⟩
  · rintro ⟨within, equal⟩
    refine ⟨within, equal, fun earlier before same => ?_⟩
    have less := List.pairwise_iff_getElem.1 diagram.names.ascending
      earlier position (Nat.lt_trans before within) within before
    rw [same, equal] at less
    exact StrictOrder.lt_irrefl name less

theorem position_lt_size (found : diagram.position? name = some position) :
    position < diagram.names.size := by
  rw [position?_eq_some_iff, List.getElem?_eq_some_iff] at found
  exact found.1

/-- The names of a diagram are those with a circle. -/
theorem exists_position?_iff :
    (∃ position, diagram.position? name = some position) ↔ name ∈ diagram.names := by
  simp only [position?_eq_some_iff]
  exact List.mem_iff_getElem?.symm

theorem mem_circle_iff (found : diagram.position? name = some position) :
    region ∈ diagram.circle name ↔
      region ∈ diagram.regions ∧ region.contains position = true := by
  unfold circle
  rw [found, Option.map_some, Option.getD_some, mem_regionsAt]

/-- Only a name with a circle has regions inside it. -/
theorem exists_position?_of_mem_circle (inside : region ∈ diagram.circle name) :
    ∃ position, diagram.position? name = some position := by
  cases found : diagram.position? name with
  | none =>
      unfold circle at inside
      simp [found] at inside
  | some position => exact ⟨position, rfl⟩

theorem mem_names_of_mem_circle (inside : region ∈ diagram.circle name) :
    name ∈ diagram.names :=
  exists_position?_iff.1 (exists_position?_of_mem_circle inside)

theorem circle_subset_regions (diagram : Diagram) (name : String) :
    diagram.circle name ⊆ diagram.regions := by
  intro region member
  obtain ⟨position, found⟩ := exists_position?_of_mem_circle member
  exact ((mem_circle_iff found).1 member).1

/-- Some region of a diagram is inside the circles of just the chosen names. -/
theorem exists_mem_circle_iff
    {inside : String → Prop}
    (named : name ∈ diagram.names)
    (chosen : inside name) :
    ∃ region ∈ diagram.regions, ∀ other ∈ diagram.names,
      region ∈ diagram.circle other ↔ inside other := by
  have few := diagram.size_le_three
  obtain ⟨place, placed⟩ := exists_position?_iff.2 named
  obtain ⟨region, contains⟩ := @Region.exists_contains_iff
    (fun position => ∃ other, diagram.position? other = some position ∧ inside other)
    (fun position ⟨_, found, _⟩ => by have := position_lt_size found; omega)
    ⟨place, name, placed, chosen⟩
  have drawn : region ∈ diagram.regions := by
    rw [mem_regions]
    intro position within
    obtain ⟨_, found, _⟩ := (contains position).1 within
    exact position_lt_size found
  refine ⟨region, drawn, fun other otherNamed => ?_⟩
  obtain ⟨position, found⟩ := exists_position?_iff.2 otherNamed
  rw [mem_circle_iff found, and_iff_right drawn, contains]
  constructor
  · rintro ⟨same, alsoFound, member⟩
    rw [position?_eq_some_iff] at found alsoFound
    rw [found] at alsoFound
    cases alsoFound
    exact member
  · exact fun member => ⟨other, found, member⟩

/-- Every region of a diagram is inside some circle. -/
theorem exists_mem_circle (drawn : region ∈ diagram.regions) :
    ∃ name ∈ diagram.names, region ∈ diagram.circle name := by
  obtain ⟨position, inside⟩ := Nat.exists_testBit_of_ne_zero (Nat.ne_of_gt region.bits_pos)
  have within := mem_regions.1 drawn position inside
  have found := position?_eq_some_iff.2 (List.getElem?_eq_getElem within)
  exact ⟨_, exists_position?_iff.1 ⟨position, found⟩, (mem_circle_iff found).2 ⟨drawn, inside⟩⟩

/-- A region of a diagram is determined by the names of the circles around it. -/
theorem eq_of_mem_circle_iff
    {left right : Region}
    (leftDrawn : left ∈ diagram.regions)
    (rightDrawn : right ∈ diagram.regions)
    (circles : ∀ name ∈ diagram.names, left ∈ diagram.circle name ↔ right ∈ diagram.circle name) :
    left = right := by
  apply Region.ext_contains
  intro position
  by_cases within : position < diagram.names.size
  · have found := position?_eq_some_iff.2 (List.getElem?_eq_getElem within)
    have agree := circles _ (exists_position?_iff.1 ⟨position, found⟩)
    rw [mem_circle_iff found, mem_circle_iff found] at agree
    simpa [leftDrawn, rightDrawn] using agree
  · have outside : ∀ region ∈ diagram.regions, region.contains position = false := by
      intro region drawn
      rw [← Bool.not_eq_true]
      exact fun inside => within (mem_regions.1 drawn position inside)
    rw [outside left leftDrawn, outside right rightDrawn]

/-- The names of the circles around a region, in the order of their positions. -/
def namesAround (diagram : Diagram) (region : Region) : List String :=
  region.members.filterMap (diagram.names.toList[·]?)

/-- A region is inside the circles of the names around it and of no others. -/
theorem mem_namesAround_iff (drawn : region ∈ diagram.regions) :
    name ∈ diagram.namesAround region ↔ region ∈ diagram.circle name := by
  unfold namesAround
  rw [List.mem_filterMap]
  simp only [Region.mem_members, ← position?_eq_some_iff]
  constructor
  · rintro ⟨position, inside, found⟩
    exact (mem_circle_iff found).2 ⟨drawn, inside⟩
  · intro member
    obtain ⟨position, found⟩ := exists_position?_of_mem_circle member
    exact ⟨position, ((mem_circle_iff found).1 member).2, found⟩

/-- A diagram has a circle for just the names that it is drawn for. -/
theorem names_of_ofAscending
    {names : Ascending String}
    (drawn : ofAscending names = .ok diagram) :
    diagram.names = names := by
  unfold ofAscending at drawn
  split at drawn
  · contradiction
  · split at drawn
    · contradiction
    · cases drawn
      rfl

/-- A diagram is drawn for two or three names. -/
theorem exists_ofAscending
    {names : Ascending String}
    (enough : fewest ≤ names.size)
    (few : names.size ≤ most) :
    ∃ diagram, ofAscending names = .ok diagram := by
  unfold ofAscending
  rw [dif_neg (Nat.not_lt.2 enough), dif_neg (Nat.not_lt.2 few)]
  exact ⟨_, rfl⟩

end Diagram
end Syllogistic
