import Syllogistic.Proofs.Ascending
import Syllogistic.Table

/-!
# What stands in a table

The entries of a table are what is found under its keys.  A table of lists is
filled by adding items one by one, so a list stands under a key only once an item
was added there, and then it holds just the items added under that key.  A table of the
pairs of a list has all of them when no two have the same key.
-/

namespace Syllogistic
namespace Table

variable {Key Value Item : Type} [LT Key] [DecidableEq Key]

/-- The entries of a table are the keys with what is found under them. -/
theorem mem_entries_iff
    [StrictOrder Key]
    {table : Table Key Value}
    {key : Key}
    {value : Value} :
    (key, value) ∈ table.entries ↔ table.get? key = some value := by
  obtain ⟨entries, ordered⟩ := table
  simp only [get?]
  induction entries with
  | nil => simp
  | cons first rest inductionHypothesis =>
      obtain ⟨other, held⟩ := first
      have later := List.pairwise_cons.1 ordered
      rw [List.mem_cons]
      by_cases equal : other = key
      · subst equal
        have absent : (other, value) ∉ rest := fun member =>
          StrictOrder.lt_irrefl other (later.1 (other, value) member)
        simp [absent, eq_comm]
      · have differs : key ≠ other := fun same => equal same.symm
        simpa [equal, differs] using inductionHypothesis later.2

/-- The keys of a table are those under which something is found. -/
theorem mem_keys_iff
    [StrictOrder Key]
    {table : Table Key Value}
    {key : Key} :
    key ∈ table.keys ↔ table.contains key = true := by
  unfold keys contains
  rw [List.mem_map, Option.isSome_iff_exists]
  constructor
  · rintro ⟨⟨held, value⟩, member, rfl⟩
    exact ⟨value, mem_entries_iff.1 member⟩
  · rintro ⟨value, found⟩
    exact ⟨(key, value), mem_entries_iff.2 found, rfl⟩

/-- The keys of a table, as a set. -/
def keySet (table : Table Key Value) : Ascending Key :=
  ⟨table.keys, List.pairwise_map.2 table.ascending⟩

/-- Tables that have entries under the same keys have the same list of keys. -/
theorem keys_eq_of_contains
    [StrictOrder Key]
    {left right : Table Key Value}
    (agree : ∀ key, left.contains key = right.contains key) :
    left.keys = right.keys := by
  suffices same : left.keySet = right.keySet from congrArg Ascending.toList same
  apply Ascending.ext_mem
  intro key
  exact mem_keys_iff.trans ((Bool.eq_iff_iff.1 (agree key)).trans mem_keys_iff.symm)

/-- What stands under a key to which some items were added, one by one. -/
def filed (items : List Item) : Option (List Item) :=
  if items.isEmpty then none else some items

@[simp] theorem filed_nil : filed ([] : List Item) = none := rfl

@[simp] theorem getD_filed (items : List Item) : (filed items).getD [] = items := by
  cases items <;> rfl

theorem filed_append_singleton (items : List Item) (item : Item) :
    filed (items ++ [item]) = some (items ++ [item]) := by
  unfold filed
  rw [if_neg]
  simp

@[simp] theorem isSome_filed (items : List Item) :
    (filed items).isSome = !items.isEmpty := by
  cases items <;> rfl

theorem filed_eq_some_iff {items held : List Item} :
    filed items = some held ↔ items = held ∧ held ≠ [] := by
  cases items with
  | nil =>
      rw [filed_nil]
      constructor
      · intro absurdity
        contradiction
      · rintro ⟨equal, inhabited⟩
        exact absurd equal.symm inhabited
  | cons item rest =>
      constructor
      · intro equal
        cases equal
        exact ⟨rfl, List.cons_ne_nil item rest⟩
      · rintro ⟨rfl, _⟩
        rfl

variable [DecidableLT Key] [StrictOrder Key]

/-- Adding an item under one key adds it at the end of the list there and nowhere else. -/
theorem get?_record
    {table : Table Key (List Item)}
    {key other : Key}
    {items : List Item}
    (found : table.get? other = filed items)
    (item : Item) :
    (table.record key item).get? other =
      filed (items ++ if other = key then [item] else []) := by
  unfold record
  by_cases equal : other = key
  · subst equal
    rw [get?_update_self, found, getD_filed, if_pos rfl, filed_append_singleton]
  · rw [get?_update_of_ne equal, found, if_neg equal, List.append_nil]

/-- Adding one item under each of several keys adds it once under each of them. -/
theorem get?_foldl_record
    {keys : List Key}
    (distinct : keys.Nodup)
    {table : Table Key (List Item)}
    {other : Key}
    {items : List Item}
    (found : table.get? other = filed items)
    (item : Item) :
    (keys.foldl (fun filled key => filled.record key item) table).get? other =
      filed (items ++ if other ∈ keys then [item] else []) := by
  induction keys generalizing table items with
  | nil =>
      rw [List.foldl_nil, found, if_neg List.not_mem_nil, List.append_nil]
  | cons key rest inductionHypothesis =>
      rw [List.nodup_cons] at distinct
      rw [List.foldl_cons,
        inductionHypothesis distinct.2 (get?_record found item), List.append_assoc]
      congr 2
      by_cases equal : other = key
      · subst equal
        simp [distinct.1]
      · simp [equal]

/-! ## The table of a list of pairs -/

section OfList

variable {pairs : List (Key × Value)} {key : Key} {value : Value}

/-- A key that no pair has is looked up in what was there before the pairs. -/
theorem get?_foldl_insert_of_not_mem
    (absent : key ∉ pairs.map Prod.fst)
    (table : Table Key Value) :
    (pairs.foldl (fun table pair => table.insert pair.1 pair.2) table).get? key =
      table.get? key := by
  induction pairs generalizing table with
  | nil => rfl
  | cons pair rest inductionHypothesis =>
      rw [List.map_cons, List.mem_cons, not_or] at absent
      rw [List.foldl_cons, inductionHypothesis absent.2, insert, get?_update_of_ne absent.1]

/-- Where no two pairs have the same key, every pair is found. -/
theorem get?_ofList_of_mem
    (distinct : (pairs.map Prod.fst).Nodup)
    (member : (key, value) ∈ pairs) :
    (ofList pairs).get? key = some value := by
  suffices run : ∀ table : Table Key Value,
      (pairs.foldl (fun table pair => table.insert pair.1 pair.2) table).get? key =
        some value from run empty
  induction pairs with
  | nil => exact absurd member List.not_mem_nil
  | cons pair rest inductionHypothesis =>
      intro table
      rw [List.map_cons, List.nodup_cons] at distinct
      rw [List.foldl_cons]
      rcases List.mem_cons.1 member with rfl | later
      · rw [get?_foldl_insert_of_not_mem distinct.1, insert, get?_update_self]
      · exact inductionHypothesis distinct.2 later _

/-- Whatever is found in the table of some pairs is one of them. -/
theorem mem_of_get?_ofList (found : (ofList pairs).get? key = some value) :
    (key, value) ∈ pairs := by
  suffices run : ∀ table : Table Key Value,
      (pairs.foldl (fun table pair => table.insert pair.1 pair.2) table).get? key =
        some value → (key, value) ∈ pairs ∨ table.get? key = some value by
    refine (run empty found).resolve_right fun absurdity => ?_
    cases absurdity
  clear found
  induction pairs with
  | nil => exact fun _ held => .inr held
  | cons pair rest inductionHypothesis =>
      intro table found
      rw [List.foldl_cons] at found
      rcases inductionHypothesis _ found with later | held
      · exact .inl (List.mem_cons_of_mem pair later)
      · by_cases same : key = pair.1
        · subst same
          rw [insert, get?_update_self] at held
          cases held
          exact .inl List.mem_cons_self
        · rw [insert, get?_update_of_ne same] at held
          exact .inr held

/-- The table has the keys of the pairs and no others. -/
theorem contains_ofList_iff : (ofList pairs).contains key = true ↔ key ∈ pairs.map Prod.fst := by
  suffices run : ∀ table : Table Key Value,
      (pairs.foldl (fun table pair => table.insert pair.1 pair.2) table).contains key = true ↔
        key ∈ pairs.map Prod.fst ∨ table.contains key = true by
    rw [ofList, run]
    exact or_iff_left Bool.false_ne_true
  induction pairs with
  | nil => simp
  | cons pair rest inductionHypothesis =>
      intro table
      rw [List.foldl_cons, inductionHypothesis, List.map_cons, List.mem_cons, contains, insert]
      by_cases same : key = pair.1
      · rw [same, get?_update_self]
        simp
      · rw [get?_update_of_ne same, ← contains]
        simp [same]

/-- Where no two pairs have the same key, there are as many entries as pairs. -/
theorem size_ofList (distinct : (pairs.map Prod.fst).Nodup) :
    (ofList pairs).size = pairs.length := by
  have nodup : (ofList pairs).keys.Nodup := (ofList pairs).keySet.nodup_toList
  have same : (ofList pairs).keys.Perm (pairs.map Prod.fst) := by
    rw [List.perm_ext_iff_of_nodup nodup distinct]
    intro key
    rw [mem_keys_iff, contains_ofList_iff]
  simpa [keys, size] using same.length_eq

/-- Pairs whose keys ascend are the entries of their table. -/
theorem entries_ofList (ordered : pairs.Pairwise fun left right => left.1 < right.1) :
    (ofList pairs).entries = pairs := by
  let listed : Table Key Value := ⟨pairs, ordered⟩
  have distinct : (pairs.map Prod.fst).Nodup := listed.keySet.nodup_toList
  suffices same : ofList pairs = listed from congrArg entries same
  apply ext_get?
  intro key
  by_cases named : key ∈ pairs.map Prod.fst
  · obtain ⟨⟨_, value⟩, member, rfl⟩ := List.mem_map.1 named
    exact (get?_ofList_of_mem distinct member).trans
      ((@mem_entries_iff _ _ _ _ _ listed _ _).1 member).symm
  · have absent : (ofList pairs).contains key = false := by
      rwa [← Bool.not_eq_true, contains_ofList_iff]
    have alsoAbsent : listed.contains key = false := by
      rwa [← Bool.not_eq_true, ← mem_keys_iff]
    rw [contains, Option.isSome_eq_false_iff, Option.isNone_iff_eq_none] at absent alsoAbsent
    rw [absent, alsoAbsent]

end OfList

end Table
end Syllogistic
