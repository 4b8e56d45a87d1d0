import Mathlib.Data.Prod.Lex

/-!
# The order of floating-point numbers

Comparison of floating-point numbers is the order of their ranks, which are
linearly ordered; only a number that is none compares with nothing.

## Main result

`lt_or_lt_of_lt`: a number lies above the lesser of two others or below the
greater one.
-/
namespace Targeting.Number

open Float.Model UnpackedFloat

/-- The place among all numbers: first by sign and infinity, then by exponent and mantissa, which run
backwards below zero. -/
def rank : UnpackedFloat → ℤ ×ₗ ℤ ×ₗ ℤ
  | .infinity .negative => toLex (-2, toLex (0, 0))
  | .finite .negative mantissa exponent _ => toLex (-1, toLex (-exponent, -mantissa))
  | .zero _ | .notANumber => toLex (0, toLex (0, 0))
  | .finite .positive mantissa exponent _ => toLex (1, toLex (exponent, mantissa))
  | .infinity .positive => toLex (2, toLex (0, 0))

theorem then_eq_lt_iff (e f : ℤ) (m n : ℕ) :
    ((compare e f).then (compare m n)) = .lt ↔ e < f ∨ e = f ∧ m < n := by
  rw [Ordering.then_eq_lt, compare_lt_iff_lt, compare_eq_iff_eq, compare_lt_iff_lt]

theorem then_eq_gt_iff (e f : ℤ) (m n : ℕ) :
    ((compare e f).then (compare m n)) = .gt ↔ f < e ∨ e = f ∧ n < m := by
  rw [Ordering.then_eq_gt, compare_gt_iff_gt, compare_eq_iff_eq, compare_gt_iff_gt]

theorem isNaN_notANumber : isNaN .notANumber = true := rfl

theorem isNaN_infinity (s : Sign) : isNaN (.infinity s) = false := rfl

theorem isNaN_zero (s : Sign) : isNaN (.zero s) = false := rfl

theorem isNaN_finite (s : Sign) (m : ℕ) (e : ℤ) (h : 0 < m) : isNaN (.finite s m e h) = false := rfl

theorem compare_eq_lt_iff (a b : UnpackedFloat) :
    a.compare b = some .lt ↔ a.isNaN = false ∧ b.isNaN = false ∧ rank a < rank b := by
  have signs : compare Sign.negative Sign.positive = .lt := rfl
  -- Where the signs agree, exponents and mantissas decide; anywhere else the sign does.
  rcases a with ⟨_ | _⟩ | _ | ⟨_ | _⟩ | ⟨_ | _, m, e, _⟩ <;>
    rcases b with ⟨_ | _⟩ | _ | ⟨_ | _⟩ | ⟨_ | _, n, f, _⟩ <;>
    dsimp only [UnpackedFloat.compare, rank, isNaN_notANumber, isNaN_infinity, isNaN_zero,
      isNaN_finite] <;>
    simp [Prod.Lex.toLex_lt_toLex, then_eq_lt_iff, then_eq_gt_iff, signs]

theorem lt_iff (a b : Float) :
    a < b ↔ a.isNaN = false ∧ b.isNaN = false ∧ rank a.toModel.unpack < rank b.toModel.unpack :=
  (decide_eq_true_iff.trans beq_iff_eq).trans (compare_eq_lt_iff a.toModel.unpack b.toModel.unpack)

/-- If one number is below another, every number is above the first or below the second. -/
theorem lt_or_lt_of_lt {low high value : Float} (number : value.isNaN = false) (below : low < high) :
    low < value ∨ value < high := by
  simp only [lt_iff, number, true_and] at below ⊢
  obtain ⟨left, right, ranks⟩ := below
  rcases lt_or_ge (rank low.toModel.unpack) (rank value.toModel.unpack) with above | atMost
  · exact Or.inl ⟨left, above⟩
  · exact Or.inr ⟨right, lt_of_le_of_lt atMost ranks⟩

theorem lt_asymm {a b : Float} (below : a < b) : ¬ b < a := by
  simp only [lt_iff] at below ⊢
  rintro ⟨-, -, above⟩
  exact below.2.2.asymm above

theorem lt_trans {a b c : Float} (first : a < b) (second : b < c) : a < c := by
  simp only [lt_iff] at first second ⊢
  exact ⟨first.1, second.2.1, first.2.2.trans second.2.2⟩

/-- What is below a value is below every number that is not itself below that value. -/
theorem lt_of_lt_of_not_lt {a b number : Float} (isNumber : number.isNaN = false) (below : a < b)
    (atLeast : ¬ number < b) : a < number :=
  (lt_or_lt_of_lt isNumber below).resolve_right atLeast

end Targeting.Number
