import Mathlib.Data.Nat.Count
import Mathlib.Data.Set.Function
import Mathlib.Order.Interval.Set.Basic

/-!
# Selecting by rank

The rank of a position among those that satisfy a predicate is the number of such positions below
it: `Nat.count p k`. The position of a given rank is found by walking up and counting.

## Main definitions

* `Ranking.search` — the walk, from some position on

## Main results

* `Ranking.search_eq_some` — it finds the position of the rank it is given
* `Ranking.bijOn_of_rank` — selecting by rank is a bijection
-/

namespace Ranking

variable {p : ℕ → Prop} [DecidablePred p]

/-- The position of rank `target` among the next `room` positions from `i` on, below which there are
`seen`. -/
def search (p : ℕ → Prop) [DecidablePred p] (target : ℕ) : (room i seen : ℕ) → Option ℕ
  | 0, _, _ => none
  | room + 1, i, seen =>
    if p i then
      if seen = target then some i else search p target room (i + 1) (seen + 1)
    else search p target room (i + 1) seen

/-- **The walk** that has counted right finds the position, if it is among those to come. -/
theorem search_eq_some {target : ℕ} (room i : ℕ) (hseen : Nat.count p i ≤ target)
    (htarget : target < Nat.count p (i + room)) :
    ∃ k, search p target room i (Nat.count p i) = some k ∧ k < i + room ∧ p k ∧
      Nat.count p k = target := by
  induction room generalizing i with
  | zero => exact absurd htarget (Nat.not_lt.mpr hseen)
  | succ room ih =>
    have hnext : i + (room + 1) = i + 1 + room := by omega
    rw [hnext] at htarget ⊢
    rw [search]
    by_cases hp : p i
    · have hcount : Nat.count p (i + 1) = Nat.count p i + 1 :=
        Nat.count_succ_eq_succ_count_iff.mpr hp
      rw [if_pos hp]
      by_cases hfound : Nat.count p i = target
      · exact ⟨i, if_pos hfound, by omega, hp, hfound⟩
      · rw [if_neg hfound, ← hcount]
        exact ih (i + 1) (by omega) htarget
    · have hcount : Nat.count p (i + 1) = Nat.count p i := Nat.count_succ_eq_count_iff.mpr hp
      rw [if_neg hp, ← hcount]
      exact ih (i + 1) (by omega) htarget

/-- **Selecting by rank** maps the ranks below `n` one to one onto the positions below `n`. -/
theorem bijOn_of_rank {n : ℕ} {select : ℕ → ℕ}
    (h : ∀ t < Nat.count p n, select t < n ∧ p (select t) ∧ Nat.count p (select t) = t) :
    Set.BijOn select (Set.Iio (Nat.count p n)) {k | k < n ∧ p k} := by
  refine ⟨fun t ht => ⟨(h t ht).1, (h t ht).2.1⟩, fun t ht u hu heq => ?_, fun k hk => ?_⟩
  · rw [← (h t ht).2.2, ← (h u hu).2.2, heq]
  · obtain ⟨hlt, hpk⟩ := hk
    have hrank : Nat.count p k < Nat.count p n := Nat.count_strict_mono hpk hlt
    obtain ⟨-, hp, hcount⟩ := h _ hrank
    exact ⟨Nat.count p k, hrank, Nat.count_injective hp hpk hcount⟩

end Ranking
