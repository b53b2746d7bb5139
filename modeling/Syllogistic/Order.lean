/-!
# Strict linear orders

Names, regions and groups of regions each have a strict linear order.  Sets and
tables that are kept in order need no more of their elements than its three laws.
-/

namespace Syllogistic

/-- An order in which, of two different elements, exactly one is smaller than the other. -/
class StrictOrder (α : Type) [LT α] : Prop where
  lt_trans : ∀ {a b c : α}, a < b → b < c → a < c
  lt_irrefl : ∀ a : α, ¬ a < a
  lt_of_not_lt : ∀ {a b : α}, ¬ a < b → a ≠ b → b < a

namespace StrictOrder

variable {α : Type} [LT α] [StrictOrder α]

/-- Of two elements at most one is smaller than the other. -/
theorem not_lt_of_lt {a b : α} (less : a < b) : ¬ b < a :=
  fun greater => lt_irrefl a (lt_trans less greater)

/-- Elements of which neither is smaller are equal. -/
theorem eq_of_not_lt {a b : α} (notLess : ¬ a < b) (notGreater : ¬ b < a) :
    a = b :=
  Classical.byContradiction fun different => notGreater (lt_of_not_lt notLess different)

instance : StrictOrder Nat where
  lt_trans := Nat.lt_trans
  lt_irrefl := Nat.lt_irrefl
  lt_of_not_lt notLess different :=
    Nat.lt_of_le_of_ne (Nat.le_of_not_lt notLess) different.symm

/-- Texts are ordered by the code points of their characters, as words in a dictionary. -/
instance : StrictOrder String where
  lt_trans := String.lt_trans
  lt_irrefl := String.lt_irrefl
  lt_of_not_lt notLess different :=
    Classical.byContradiction fun notGreater =>
      different (String.le_antisymm (String.not_lt.1 notGreater) (String.not_lt.1 notLess))

/-- Lists are ordered as words in a dictionary. -/
instance : StrictOrder (List α) where
  lt_trans := by
    have : Trans (fun a b : α => a < b) (fun a b : α => a < b) (fun a b : α => a < b) :=
      ⟨lt_trans⟩
    intro _ _ _ first second
    exact List.lt_trans first second
  lt_irrefl := by
    have : Std.Irrefl (fun a b : α => a < b) := ⟨lt_irrefl⟩
    exact List.lt_irrefl
  lt_of_not_lt := by
    have : Std.Trichotomous (fun a b : α => a < b) :=
      ⟨fun _ _ notLess notGreater => eq_of_not_lt notLess notGreater⟩
    intro left right notLess different
    exact Classical.byContradiction fun notGreater =>
      different (List.le_antisymm (List.not_lt.1 notGreater) (List.not_lt.1 notLess))

end StrictOrder
end Syllogistic
