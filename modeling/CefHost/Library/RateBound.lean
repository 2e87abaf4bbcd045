import Mathlib.Algebra.Order.Group.Int
import Mathlib.Data.List.Basic

/-!
# Rate bounds

Events that happen at integer times, in the order of a list, at a rate of one per `period` with a
burst allowance: event number `j` comes at least `j - i - burst` periods after event number `i`.
How many events a window of time can hold follows from that alone.

A source keeps the bound by knowing from when on its next event may happen (`Ready`). Both
predicates are about positions, so they survive appending, which is how a log grows.

## Main definitions

* `RateBound.Spread` — the bound, between any two events
* `RateBound.Ready` — another event at or after a given time would keep the bound

## Main results

* `RateBound.Spread.append` — the bound survives an event that is ready
* `RateBound.Ready.append` — from when on the event after that is ready
* `RateBound.Spread.window` — a window of `length` holds at most `length / period + burst + 1`
-/

namespace RateBound

variable {period : ℤ} {burst : ℕ} {times : List ℤ}

/-- Event `j` comes at least `j - i - burst` periods after event `i`. -/
def Spread (period : ℤ) (burst : ℕ) (times : List ℤ) : Prop :=
  ∀ (i j : ℕ) (t u : ℤ), i ≤ j → times[i]? = some t → times[j]? = some u →
    t + ((j : ℤ) - i - burst) * period ≤ u

/-- Another event may happen from `start` on. -/
def Ready (period : ℤ) (burst : ℕ) (times : List ℤ) (start : ℤ) : Prop :=
  ∀ (i : ℕ) (t : ℤ), times[i]? = some t → t + ((times.length : ℤ) - i - burst) * period ≤ start

theorem Spread.nil : Spread period burst [] := fun _ _ _ _ _ h => by simp at h

theorem Ready.nil (start : ℤ) : Ready period burst [] start := fun _ _ h => by simp at h

theorem Ready.mono {start start' : ℤ} (h : Ready period burst times start)
    (hle : start ≤ start') : Ready period burst times start' :=
  fun i t ht => Int.le_trans (h i t ht) hle

/-- An event that is ready keeps the bound. -/
theorem Spread.append (hperiod : 0 ≤ period) (h : Spread period burst times) {start t : ℤ}
    (hready : Ready period burst times start) (ht : start ≤ t) :
    Spread period burst (times ++ [t]) := by
  intro i j a b hij ha hb
  rcases Nat.lt_trichotomy j times.length with hj | rfl | hj
  · rw [List.getElem?_append_left (by omega)] at ha
    rw [List.getElem?_append_left hj] at hb
    exact h i j a b hij ha hb
  · rw [List.getElem?_concat_length, Option.some.injEq] at hb
    subst hb
    rcases Nat.lt_or_ge i times.length with hi | hi
    · rw [List.getElem?_append_left hi] at ha
      exact Int.le_trans (hready i a ha) ht
    · -- the new event against itself
      obtain rfl : i = times.length := Nat.le_antisymm hij hi
      rw [List.getElem?_concat_length, Option.some.injEq] at ha
      have hnonneg : 0 ≤ (burst : ℤ) * period := Int.mul_nonneg (Int.natCast_nonneg _) hperiod
      rw [Int.sub_self, Int.zero_sub, Int.neg_mul, ← ha]
      omega
  · rw [List.getElem?_eq_none (by simp; omega)] at hb
    cases hb

/-- After an event that was ready at `start`, the next is ready a period later, and not before
`burst - 1` periods less than the event itself. -/
theorem Ready.append {start start' t : ℤ} (h : Ready period burst times start)
    (hstep : start + period ≤ start') (ht : t + (1 - burst) * period ≤ start') :
    Ready period burst (times ++ [t]) start' := by
  intro i a ha
  rw [List.length_append, List.length_singleton, Int.natCast_add]
  rcases Nat.lt_or_ge i times.length with hi | hi
  · rw [List.getElem?_append_left hi] at ha
    have hold := h i a ha
    have hlater : (times.length : ℤ) + (1 : ℕ) - i - burst = times.length - i - burst + 1 := by
      omega
    rw [hlater, Int.add_mul, Int.one_mul]
    omega
  · obtain rfl : i = times.length := by
      have := (List.getElem?_eq_some_iff.mp ha).1
      simp at this
      omega
    rw [List.getElem?_concat_length, Option.some.injEq] at ha
    have hone : (times.length : ℤ) + (1 : ℕ) - times.length - burst = 1 - burst := by omega
    rw [hone, ← ha]
    exact ht

/-- Dropping the first event keeps the bound. -/
theorem Spread.tail {t : ℤ} (h : Spread period burst (t :: times)) :
    Spread period burst times := by
  intro i j a b hij ha hb
  have := h (i + 1) (j + 1) a b (Nat.succ_le_succ hij) (by simpa using ha) (by simpa using hb)
  rwa [Int.natCast_add, Int.natCast_add, Int.add_sub_add_right] at this

/-- **How many events a window holds.** -/
theorem Spread.window (hperiod : 0 < period) (h : Spread period burst times) (first : ℤ)
    (length : ℕ) :
    ((times.filter fun t => first ≤ t ∧ t ≤ first + length).length : ℤ)
      ≤ length / period + burst + 1 := by
  have hquot : 0 ≤ (length : ℤ) / period :=
    Int.ediv_nonneg (Int.natCast_nonneg _) (Int.le_of_lt hperiod)
  induction times with
  | nil => simp; omega
  | cons t times ih =>
    by_cases hin : first ≤ t ∧ t ≤ first + length
    · -- counted from the first event in the window, those far behind it come too late
      obtain ⟨n, hn⟩ := Int.eq_ofNat_of_zero_le
        (show 0 ≤ (length : ℤ) / period + burst + 1 by omega)
      have hlate : ∀ u ∈ (t :: times).drop n, ¬ (first ≤ u ∧ u ≤ first + length) := by
        intro u hu hwindow
        obtain ⟨k, hk⟩ := List.mem_iff_getElem?.mp hu
        rw [List.getElem?_drop] at hk
        have hspread := h 0 (n + k) t u (Nat.zero_le _) rfl hk
        have hfew : ((n + k : ℕ) : ℤ) - (0 : ℕ) - burst ≤ length / period := by
          rw [Int.le_ediv_iff_mul_le hperiod]
          omega
        omega
      have hnone : ((t :: times).drop n).filter
          (fun u => first ≤ u ∧ u ≤ first + length) = [] := by
        simpa using hlate
      rw [← List.take_append_drop n (t :: times), List.filter_append, hnone, List.append_nil, hn]
      have hle := (List.length_filter_le (fun u => decide (first ≤ u ∧ u ≤ first + length))
        ((t :: times).take n)).trans (List.length_take_le n (t :: times))
      exact Int.ofNat_le.mpr hle
    · rw [List.filter_cons_of_neg (by simpa using hin)]
      exact ih h.tail

end RateBound
