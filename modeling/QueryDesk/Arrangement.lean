/-!
# Arrangements

An order of all values of a type, to put lists into that order.
-/

namespace QueryDesk

structure Arrangement (α : Type) where
  le : α → α → Bool
  total : ∀ a b, (le a b || le b a) = true
  trans : ∀ a b c, le a b = true → le b c = true → le a c = true
  antisymm : ∀ a b, le a b = true → le b a = true → a = b

namespace Arrangement

/-- The items in the order of their keys. -/
def arrange {α β : Type} (o : Arrangement β) (key : α → β) (xs : List α) : List α :=
  xs.mergeSort fun a b => o.le (key a) (key b)

/-- The order the other way round. -/
def reverse {α : Type} (o : Arrangement α) : Arrangement α where
  le a b := o.le b a
  total a b := o.total b a
  trans a b c hab hbc := o.trans c b a hbc hab
  antisymm a b hab hba := o.antisymm a b hba hab

def alphabetical : Arrangement String where
  le a b := a ≤ b
  total a b := by simpa using String.le_total a b
  trans a b c hab hbc := decide_eq_true (String.le_trans (of_decide_eq_true hab) (of_decide_eq_true hbc))
  antisymm a b hab hba := String.le_antisymm (of_decide_eq_true hab) (of_decide_eq_true hba)

end Arrangement

end QueryDesk
