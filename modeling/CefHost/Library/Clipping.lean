import Mathlib.Order.MinMax
import Mathlib.Data.Int.Order.Basic

/-!
# Cutting a span to a frame

The span of the integers from `a` up to `b`, `b` excluded, is cut to the frame from `0` up to `n`
by moving both ends into the frame. The result starts where the span did only if the span does not
start before the frame: whoever goes on to copy the span's content from *its* start has to add the
difference.

## Main definitions

* `Clipping.clip` — a position moved into the frame
* `Clipping.Meets` — the span and the frame have a position in common

## Main results

* `Clipping.mem_clip_iff` — what is left of the span is its part in the frame
* `Clipping.clip_lt_clip_iff` — when something is left
-/

namespace Clipping

variable {a b n p : ℤ}

/-- The position of the frame `0 … n` nearest to `v`. -/
def clip (v n : ℤ) : ℤ := max 0 (min v n)

theorem clip_nonneg (v n : ℤ) : 0 ≤ clip v n := le_max_left 0 _

theorem clip_le (v : ℤ) (h : 0 ≤ n) : clip v n ≤ n := max_le h (min_le_right v n)

/-- A frame without positions. -/
theorem clip_of_nonpos (v : ℤ) (h : n ≤ 0) : clip v n = 0 :=
  max_eq_left ((min_le_right v n).trans h)

theorem clip_of_mem (h0 : 0 ≤ a) (h : a ≤ n) : clip a n = a := by
  rw [clip, min_eq_left h, max_eq_right h0]

/-- The span from `a` to `b` and the frame have a position in common. -/
def Meets (a b n : ℤ) : Prop := a < b ∧ a < n ∧ 0 < b ∧ 0 < n

theorem meets_of_mem (h0 : 0 ≤ p) (hn : p < n) (ha : a ≤ p) (hb : p < b) : Meets a b n :=
  ⟨ha.trans_lt hb, ha.trans_lt hn, h0.trans_lt hb, h0.trans_lt hn⟩

theorem mem_clip_iff : clip a n ≤ p ∧ p < clip b n ↔ (0 ≤ p ∧ p < n) ∧ a ≤ p ∧ p < b := by
  simp only [clip]
  omega

theorem clip_lt_clip_iff : clip a n < clip b n ↔ Meets a b n := by
  simp only [clip, Meets]
  omega

/-- Cutting makes no span longer. -/
theorem clip_sub_clip_le (h : a ≤ b) : clip b n - clip a n ≤ b - a := by
  simp only [clip]
  omega

/-- What is left of a span that meets the frame begins with a position of both. -/
theorem Meets.start (h : Meets a b n) : clip a n < n ∧ a ≤ clip a n ∧ clip a n < b := by
  have hmem := mem_clip_iff.mp ⟨le_refl (clip a n), clip_lt_clip_iff.mpr h⟩
  exact ⟨hmem.1.2, hmem.2⟩

end Clipping
