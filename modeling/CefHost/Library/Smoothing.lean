import Mathlib.Data.Nat.Dist

/-!
# Smoothing in whole numbers

A reading is smoothed by averaging it with the value so far, here with the weights `b` and `a`, and
rounding down. Over the reals the distance to a constant reading shrinks by `a / (a + b)` each time.
Rounding makes the two sides differ: from above the value reaches the reading, from below it stalls
as soon as `b` times the distance is less than `a + b`.

## Main definitions

* `Smoothing.smooth` — the smoothed value
* `Smoothing.Towards` — a move that neither goes away from a target nor past it

## Main results

* `Smoothing.towards_smooth` — smoothing moves towards the reading
* `Smoothing.dist_smooth_lt` — and gets nearer, where it does not stall
-/

namespace Smoothing

variable {a b c p q : ℕ}

def smooth (a b c p : ℕ) : ℕ := (a * p + b * c) / (a + b)

/-- From `p` to `q`, on one side of `c`, and not away from it. -/
def Towards (c p q : ℕ) : Prop := (p ≤ c → p ≤ q ∧ q ≤ c) ∧ (c ≤ p → c ≤ q ∧ q ≤ p)

theorem towards_target (c p : ℕ) : Towards c p c := by
  unfold Towards
  omega

theorem Towards.dist_le (h : Towards c p q) : Nat.dist q c ≤ Nat.dist p c := by
  unfold Towards at h
  unfold Nat.dist
  omega

/-- **Smoothing moves towards the reading.** -/
theorem towards_smooth (hb : 0 < b) (c p : ℕ) : Towards c p (smooth a b c p) := by
  have hpos : 0 < a + b := by omega
  have hp : a * p + b * p = p * (a + b) := by rw [← Nat.add_mul, Nat.mul_comm]
  have hc : a * c + b * c = c * (a + b) := by rw [← Nat.add_mul, Nat.mul_comm]
  constructor
  · intro h
    have ha : a * p ≤ a * c := Nat.mul_le_mul_left a h
    have hbc : b * p ≤ b * c := Nat.mul_le_mul_left b h
    constructor
    · rw [smooth, Nat.le_div_iff_mul_le hpos]
      omega
    · refine Nat.div_le_of_le_mul ?_
      rw [Nat.add_mul]
      omega
  · intro h
    have ha : a * c ≤ a * p := Nat.mul_le_mul_left a h
    have hbc : b * c ≤ b * p := Nat.mul_le_mul_left b h
    constructor
    · rw [smooth, Nat.le_div_iff_mul_le hpos]
      omega
    · refine Nat.div_le_of_le_mul ?_
      rw [Nat.add_mul]
      omega

/-- **It gets nearer**, unless the weighted distance is below the sum of the weights. -/
theorem dist_smooth_lt (hb : 0 < b) (h : a + b ≤ b * Nat.dist p c) :
    Nat.dist (smooth a b c p) c < Nat.dist p c := by
  have hpos : 0 < a + b := by omega
  have hp : a * p + b * p = p * (a + b) := by rw [← Nat.add_mul, Nat.mul_comm]
  obtain ⟨hbelow, habove⟩ := towards_smooth hb (a := a) c p
  rcases Nat.lt_or_ge c p with hlt | hge
  · have hdown : smooth a b c p < p := by
      have hbc : b * c < b * p := Nat.mul_lt_mul_of_pos_left hlt hb
      rw [smooth, Nat.div_lt_iff_lt_mul hpos]
      omega
    have hside := habove (Nat.le_of_lt hlt)
    unfold Nat.dist
    omega
  · have hup : p < smooth a b c p := by
      have hdist : b * c = b * p + b * Nat.dist p c := by
        rw [← Nat.mul_add]
        congr 1
        unfold Nat.dist
        omega
      rw [smooth, ← Nat.succ_le_iff, Nat.le_div_iff_mul_le hpos, Nat.succ_mul]
      omega
    have hside := hbelow hge
    unfold Nat.dist
    omega

end Smoothing
