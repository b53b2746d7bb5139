import Syllogistic.Order

/-!
# Regions

A region is a cell of a diagram: the individuals inside certain circles and
outside all others.  It is kept as the set of the positions of its circles, in
the bits of a number.  The outside of every circle is no region, so at least one
bit is set.
-/

namespace Syllogistic

/-- A non-empty set of circles, given by the bits of a number below 256. -/
structure Region where
  /-- Bit `p` is set when the region lies inside the circle at position `p`. -/
  bits : Nat
  bits_pos : 0 < bits
  bits_lt : bits < 256
deriving DecidableEq, Repr

namespace Region

/-- The region with the given bits, if they are the bits of a region. -/
def ofBits? (bits : Nat) : Option Region :=
  if bounds : 0 < bits ∧ bits < 256 then some ⟨bits, bounds.1, bounds.2⟩ else none

/-- The region lies inside the circle at a position. -/
def contains (region : Region) (position : Nat) : Bool :=
  region.bits.testBit position

/-- The positions of the circles around the region, in ascending order. -/
def members (region : Region) : List Nat :=
  (List.range 8).filter region.contains

/-- No region lies inside a circle at position eight or beyond. -/
theorem contains_eq_false (region : Region) {position : Nat} (beyond : 8 ≤ position) :
    region.contains position = false := by
  have powers : 2 ^ 8 ≤ 2 ^ position := Nat.pow_le_pow_right Nat.two_pos beyond
  exact Nat.testBit_lt_two_pow (Nat.lt_of_lt_of_le region.bits_lt powers)

@[simp] theorem mem_members {region : Region} {position : Nat} :
    position ∈ region.members ↔ region.contains position = true := by
  rw [members, List.mem_filter, List.mem_range, and_iff_right_iff_imp]
  intro inside
  by_cases within : position < 8
  · exact within
  · rw [region.contains_eq_false (Nat.le_of_not_lt within)] at inside
    contradiction

/-- A region is determined by the circles around it. -/
theorem ext_contains {left right : Region}
    (agree : ∀ position, left.contains position = right.contains position) :
    left = right := by
  have equal : left.bits = right.bits := Nat.eq_of_testBit_eq agree
  cases left
  cases right
  simp_all

theorem members_injective {left right : Region} (equal : left.members = right.members) :
    left = right := by
  apply ext_contains
  intro position
  rw [Bool.eq_iff_iff, ← mem_members, ← mem_members, equal]

/-- Regions are ordered by their positions, as words are in a dictionary. -/
instance : LT Region := ⟨fun left right => left.members < right.members⟩

theorem lt_def {left right : Region} : left < right ↔ left.members < right.members := Iff.rfl

instance : DecidableLT Region := fun left right =>
  inferInstanceAs (Decidable (left.members < right.members))

instance : StrictOrder Region where
  lt_trans first second := StrictOrder.lt_trans (α := List Nat) first second
  lt_irrefl region := StrictOrder.lt_irrefl region.members
  lt_of_not_lt notLess different :=
    StrictOrder.lt_of_not_lt (α := List Nat) notLess fun equal =>
      different (members_injective equal)

/-- Some regions in their order. -/
def sorted (regions : List Region) : List Region :=
  regions.mergeSort fun left right => !decide (right < left)

end Region
end Syllogistic
