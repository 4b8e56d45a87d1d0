/-!
# Bounds

Inclusive bounds, either of which may be absent. A value lies inside unless it
is below the lower bound or above the upper one, so a value that compares with
nothing lies inside every range.
-/
namespace Targeting

structure Bounds (α : Type) where
  low : Option α := none
  high : Option α := none
deriving DecidableEq, Repr

abbrev IntRange := Bounds Int

abbrev FloatRange := Bounds Float

namespace Bounds

variable {α : Type}

def exactly (value : α) : Bounds α := ⟨some value, some value⟩

def isOpen (b : Bounds α) : Bool := b.low.isNone && b.high.isNone

variable [LT α] [DecidableLT α]

def contains (b : Bounds α) (value : α) : Bool :=
  !b.low.any (fun low => value < low) && !b.high.any (fun high => high < value)

theorem contains_iff (b : Bounds α) (value : α) :
    b.contains value = true ↔
      (∀ low, b.low = some low → ¬ value < low) ∧ (∀ high, b.high = some high → ¬ high < value) := by
  cases lowCase : b.low <;> cases highCase : b.high <;> simp [contains, lowCase, highCase]

end Bounds

end Targeting
