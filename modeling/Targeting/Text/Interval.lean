/-!
# Tables of code points

A character property is stored as a list of closed intervals of code points.
-/
namespace Targeting.Text

/-- Closed intervals `(first, last)` of code points. -/
abbrev Intervals := List (Nat × Nat)

def Intervals.holds (table : Intervals) (c : Char) : Bool :=
  table.any fun interval => interval.1 ≤ c.toNat && c.toNat ≤ interval.2

theorem Intervals.holds_iff (table : Intervals) (c : Char) :
    table.holds c = true ↔ ∃ interval ∈ table, interval.1 ≤ c.toNat ∧ c.toNat ≤ interval.2 := by
  simp [Intervals.holds]

end Targeting.Text
