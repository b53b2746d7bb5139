import Syllogistic.Order

/-!
# Tables with ascending keys

A finite table is kept as the list of its entries in ascending order of their
keys.  The order of the entries is thus a matter of the keys alone, and a table
is determined by what it holds under each key.
-/

namespace Syllogistic

/-- A finite table, kept as its entries in ascending order of their keys. -/
structure Table (Key Value : Type) [LT Key] where
  /-- The keys with their values, from the least key to the greatest. -/
  entries : List (Key × Value)
  /-- Every key is smaller than those after it. -/
  ascending : entries.Pairwise fun left right => left.1 < right.1

namespace Table

variable {Key Value : Type} [LT Key]

theorem eq_of_entries {left right : Table Key Value} (equal : left.entries = right.entries) :
    left = right := by
  cases left
  cases right
  simp_all

instance [DecidableEq Key] [DecidableEq Value] : DecidableEq (Table Key Value) :=
  fun left right =>
    decidable_of_iff (left.entries = right.entries)
      ⟨eq_of_entries, fun equal => equal ▸ rfl⟩

/-- The table without entries. -/
def empty : Table Key Value := ⟨[], List.Pairwise.nil⟩

instance : Inhabited (Table Key Value) := ⟨empty⟩

/-- The keys in ascending order. -/
def keys (table : Table Key Value) : List Key :=
  table.entries.map (·.1)

/-- The number of entries. -/
def size (table : Table Key Value) : Nat :=
  table.entries.length

variable [DecidableEq Key]

/-- The value under a key. -/
def get? (table : Table Key Value) (key : Key) : Option Value :=
  (table.entries.find? (·.1 = key)).map (·.2)

/-- The table has an entry under the key. -/
def contains (table : Table Key Value) (key : Key) : Bool :=
  (table.get? key).isSome

/-- A key smaller than all keys of a list of entries is not found in it. -/
theorem find?_eq_none_of_lt [StrictOrder Key] {key : Key}
    {entries : List (Key × Value)} (smaller : ∀ entry ∈ entries, key < entry.1) :
    entries.find? (·.1 = key) = none := by
  rw [List.find?_eq_none]
  intro entry member equal
  have equal : entry.1 = key := by simpa using equal
  have less := smaller entry member
  rw [equal] at less
  exact StrictOrder.lt_irrefl key less

variable [DecidableLT Key]

/-- Changes the value under one key of an ascending list of entries. -/
def change (key : Key) (alter : Option Value → Value) :
    List (Key × Value) → List (Key × Value)
  | [] => [(key, alter none)]
  | (other, value) :: rest =>
      if key < other then (key, alter none) :: (other, value) :: rest
      else if key = other then (other, alter (some value)) :: rest
      else (other, value) :: change key alter rest

theorem fst_of_mem_change {key : Key} {alter : Option Value → Value}
    {entries : List (Key × Value)} {entry : Key × Value}
    (member : entry ∈ change key alter entries) :
    entry.1 = key ∨ ∃ old ∈ entries, old.1 = entry.1 := by
  induction entries with
  | nil =>
      rw [change, List.mem_singleton] at member
      exact .inl (member ▸ rfl)
  | cons first rest ih =>
      obtain ⟨other, value⟩ := first
      rw [change] at member
      split at member
      · rcases List.mem_cons.1 member with rfl | old
        · exact .inl rfl
        · exact .inr ⟨entry, old, rfl⟩
      · split at member
        · rename_i equal
          rcases List.mem_cons.1 member with rfl | old
          · exact .inl equal.symm
          · exact .inr ⟨entry, List.mem_cons_of_mem _ old, rfl⟩
        · rcases List.mem_cons.1 member with rfl | later
          · exact .inr ⟨(other, value), by simp, rfl⟩
          · rcases ih later with equal | ⟨old, oldMember, equal⟩
            · exact .inl equal
            · exact .inr ⟨old, List.mem_cons_of_mem _ oldMember, equal⟩

variable [StrictOrder Key]

theorem pairwise_change (key : Key) (alter : Option Value → Value)
    {entries : List (Key × Value)}
    (ordered : entries.Pairwise fun left right => left.1 < right.1) :
    (change key alter entries).Pairwise fun left right => left.1 < right.1 := by
  induction entries with
  | nil => simp [change]
  | cons first rest ih =>
      obtain ⟨other, value⟩ := first
      rw [List.pairwise_cons] at ordered
      rw [change]
      split
      · rename_i less
        rw [List.pairwise_cons, List.pairwise_cons]
        refine ⟨fun entry member => ?_, ordered⟩
        rcases List.mem_cons.1 member with rfl | later
        · exact less
        · exact StrictOrder.lt_trans less (ordered.1 entry later)
      · split
        · exact List.pairwise_cons.2 ordered
        · rename_i notLess different
          rw [List.pairwise_cons]
          refine ⟨fun entry member => ?_, ih ordered.2⟩
          rcases fst_of_mem_change member with equal | ⟨old, oldMember, equal⟩
          · rw [equal]
            exact StrictOrder.lt_of_not_lt notLess different
          · rw [← equal]
            exact ordered.1 old oldMember

/-- Changes the value under one key; the old value is absent where there is no entry. -/
def update (table : Table Key Value) (key : Key) (alter : Option Value → Value) :
    Table Key Value :=
  ⟨change key alter table.entries, pairwise_change key alter table.ascending⟩

/-- Under the changed key stands the altered value. -/
@[simp] theorem get?_update_self (table : Table Key Value)
    (key : Key) (alter : Option Value → Value) :
    (table.update key alter).get? key = some (alter (table.get? key)) := by
  obtain ⟨entries, ordered⟩ := table
  simp only [get?, update]
  induction entries with
  | nil => simp [change]
  | cons first rest ih =>
      obtain ⟨other, value⟩ := first
      have later := List.pairwise_cons.1 ordered
      rw [change]
      split
      · rename_i less
        have absent : ((other, value) :: rest).find? (·.1 = key) = none :=
          find?_eq_none_of_lt fun entry member => by
            rcases List.mem_cons.1 member with rfl | after
            · exact less
            · exact StrictOrder.lt_trans less (later.1 entry after)
        simp [absent]
      · split
        · rename_i equal
          simp [equal]
        · rename_i different
          have differs : other ≠ key := fun equal => different equal.symm
          simpa [differs] using ih later.2

/-- Under every other key stands what stood there. -/
theorem get?_update_of_ne {table : Table Key Value} {key other : Key}
    {alter : Option Value → Value} (different : other ≠ key) :
    (table.update key alter).get? other = table.get? other := by
  obtain ⟨entries, ordered⟩ := table
  simp only [get?, update]
  induction entries with
  | nil => simp [change, different.symm]
  | cons first rest ih =>
      obtain ⟨held, value⟩ := first
      have later := List.pairwise_cons.1 ordered
      rw [change]
      split
      · simp [different.symm]
      · split
        · rename_i equal
          subst equal
          simp [different.symm]
        · by_cases found : held = other
          · simp [found]
          · simpa [found] using ih later.2

/-- A table is determined by what stands under each key. -/
theorem ext_get? {left right : Table Key Value}
    (agree : ∀ key, left.get? key = right.get? key) : left = right := by
  obtain ⟨leftEntries, leftOrdered⟩ := left
  obtain ⟨rightEntries, rightOrdered⟩ := right
  apply eq_of_entries
  simp only [get?] at agree ⊢
  induction leftEntries generalizing rightEntries with
  | nil =>
      cases rightEntries with
      | nil => rfl
      | cons first rest => simpa using agree first.1
  | cons first rest ih =>
      obtain ⟨key, value⟩ := first
      have leftLater := List.pairwise_cons.1 leftOrdered
      cases rightEntries with
      | nil => simpa using agree key
      | cons other others =>
          obtain ⟨otherKey, otherValue⟩ := other
          have rightLater := List.pairwise_cons.1 rightOrdered
          have same : key = otherKey := by
            apply Classical.byContradiction
            intro different
            by_cases less : key < otherKey
            · have absent : ((otherKey, otherValue) :: others).find? (·.1 = key) = none :=
                find?_eq_none_of_lt fun entry member => by
                  rcases List.mem_cons.1 member with rfl | after
                  · exact less
                  · exact StrictOrder.lt_trans less (rightLater.1 entry after)
              have found := agree key
              rw [absent] at found
              simp at found
            · have greater := StrictOrder.lt_of_not_lt less different
              have absent : ((key, value) :: rest).find? (·.1 = otherKey) = none :=
                find?_eq_none_of_lt fun entry member => by
                  rcases List.mem_cons.1 member with rfl | after
                  · exact greater
                  · exact StrictOrder.lt_trans greater (leftLater.1 entry after)
              have found := agree otherKey
              rw [absent] at found
              simp at found
          subst same
          have values : value = otherValue := by simpa using agree key
          subst values
          have tails : rest = others := by
            apply ih leftLater.2 others rightLater.2
            intro asked
            by_cases found : key = asked
            · subst found
              rw [find?_eq_none_of_lt leftLater.1, find?_eq_none_of_lt rightLater.1]
            · simpa [found] using agree asked
          rw [tails]

/-- Puts a value under a key, in place of any value that is there. -/
def insert (table : Table Key Value) (key : Key) (value : Value) : Table Key Value :=
  table.update key fun _ => value

/-- Adds an item at the end of the list under a key. -/
def record {Item : Type} (table : Table Key (List Item)) (key : Key) (item : Item) :
    Table Key (List Item) :=
  table.update key fun items => items.getD [] ++ [item]

/-- The table of the pairs of a list; of two values under one key the later one stays. -/
def ofList (pairs : List (Key × Value)) : Table Key Value :=
  pairs.foldl (fun table pair => table.insert pair.1 pair.2) empty

end Table
end Syllogistic
