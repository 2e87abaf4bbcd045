import Mathlib.Algebra.Order.Field.Rat
import Mathlib.Tactic.NormNum.Basic
import Mathlib.Tactic.Positivity.Basic

/-!
# Rounding down, but not to nothing

A stretch of `x` ticks, `f` of them in a second, is converted to a unit of which a second has `u`.
The quotient is rounded down, and may be truncated further; where a request for nothing would mean
something else, a result of zero is raised to one.

Rounding down alone never asks for more than there is. With the minimum this holds of a longer
stretch `r`, from which `x` was taken, exactly if `r` has room for one unit.

## Main results

* `Rounding.raised_mul_le_iff` — over the integers
* `Rounding.raised_div_le_div_iff` — the same for the durations
-/

namespace Rounding

variable {x r u f n : ℤ}

theorem raised_mul_le_iff (hx : x ≤ r) (hu : 0 < u) (hf : 0 < f)
    (hn : n * f ≤ x * u) : max n 1 * f ≤ r * u ↔ f ≤ r * u := by
  rcases Int.lt_or_le n 1 with hzero | hone
  · rw [max_eq_right (Int.le_of_lt hzero), Int.one_mul]
  · have hroom : n * f ≤ r * u := Int.le_trans hn (Int.mul_le_mul_of_nonneg_right hx (by omega))
    have hunit : f ≤ n * f := by
      calc f = 1 * f := (Int.one_mul f).symm
        _ ≤ n * f := Int.mul_le_mul_of_nonneg_right hone (Int.le_of_lt hf)
    rw [max_eq_left hone]
    exact iff_of_true hroom (Int.le_trans hunit hroom)

theorem raised_div_le_div_iff (hx : x ≤ r) (hu : 0 < u) (hf : 0 < f)
    (hn : n * f ≤ x * u) : ((max n 1 : ℤ) : ℚ) / u ≤ (r : ℚ) / f ↔ f ≤ r * u := by
  have hu' : (0 : ℚ) < u := by exact_mod_cast hu
  have hf' : (0 : ℚ) < f := by exact_mod_cast hf
  rw [div_le_div_iff₀ hu' hf']
  exact_mod_cast raised_mul_le_iff hx hu hf hn

end Rounding
