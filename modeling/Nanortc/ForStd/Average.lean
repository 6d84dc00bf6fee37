import Mathlib

/-!
# Weighted averages of natural numbers

`blend a n x y` is the average of `x` and `y` with weights `a` and `n - a`, rounded down. It stays
between its two values.
-/

namespace Nanortc.ForStd

/-- The average of `x` with weight `a` of `n` and `y` with the rest, rounded down. -/
def blend (a n x y : Nat) : Nat := (a * x + (n - a) * y) / n

section

variable {a n x y : Nat} (ha : a ≤ n)
include ha

theorem weighted_le {hi : Nat} (hx : x ≤ hi) (hy : y ≤ hi) : a * x + (n - a) * y ≤ n * hi := by
  calc a * x + (n - a) * y ≤ a * hi + (n - a) * hi :=
        Nat.add_le_add (Nat.mul_le_mul_left a hx) (Nat.mul_le_mul_left (n - a) hy)
    _ = n * hi := by rw [← Nat.add_mul, Nat.add_sub_cancel' ha]

theorem le_weighted {lo : Nat} (hx : lo ≤ x) (hy : lo ≤ y) : n * lo ≤ a * x + (n - a) * y := by
  calc n * lo = a * lo + (n - a) * lo := by rw [← Nat.add_mul, Nat.add_sub_cancel' ha]
    _ ≤ a * x + (n - a) * y :=
        Nat.add_le_add (Nat.mul_le_mul_left a hx) (Nat.mul_le_mul_left (n - a) hy)

theorem blend_le {hi : Nat} (hx : x ≤ hi) (hy : y ≤ hi) : blend a n x y ≤ hi :=
  Nat.div_le_of_le_mul (weighted_le ha hx hy)

theorem le_blend (hn : 0 < n) {lo : Nat} (hx : lo ≤ x) (hy : lo ≤ y) : lo ≤ blend a n x y := by
  rw [blend, Nat.le_div_iff_mul_le hn, Nat.mul_comm]
  exact le_weighted ha hx hy

end

end Nanortc.ForStd
