import Mathlib.Logic.Function.Basic
import Mathlib.Order.Interval.Set.Basic

/-!
# What a write changes

A memory is a function from addresses. What a piece of code does to it is a function between
memories, and its footprint is the set of addresses whose content it changes, in one memory or
another.

The footprint of a copy is the whole block it copies to: wherever a byte is stored, there is a
memory that held another one.

## Main definitions

* `Footprint.footprint` — the addresses a function changes
* `Footprint.copy` — a block of items, stored one after the other

## Main results

* `Footprint.copy_of_outside`, `Footprint.copy_add` — the memory after a copy
* `Footprint.footprint_copy` — the footprint of a copy
-/

namespace Footprint

variable {ι β : Type*}

def footprint (f : (ι → β) → ι → β) : Set ι := {i | ∃ m, f m i ≠ m i}

theorem eq_of_notMem_footprint {f : (ι → β) → ι → β} {i : ι} (h : i ∉ footprint f) (m : ι → β) :
    f m i = m i := by
  by_contra hne
  exact h ⟨m, hne⟩

/-! ### Copies -/

/-- The items of a list, stored from the address `base` on. -/
def copy (base : ℕ) : List β → (ℕ → β) → ℕ → β
  | [], m => m
  | b :: l, m => copy (base + 1) l (Function.update m base b)

theorem copy_of_outside {base i : ℕ} {l : List β} (h : i < base ∨ base + l.length ≤ i)
    (m : ℕ → β) : copy base l m i = m i := by
  induction l generalizing base m with
  | nil => rfl
  | cons b l ih =>
    rw [List.length_cons] at h
    have hne : i ≠ base := by omega
    rw [copy, ih (by omega), Function.update_of_ne hne]

theorem copy_add (base : ℕ) {l : List β} {k : ℕ} (hk : k < l.length) (m : ℕ → β) :
    copy base l m (base + k) = l[k] := by
  induction l generalizing base k m with
  | nil => cases hk
  | cons b l ih =>
    rw [copy]
    cases k with
    | zero => rw [copy_of_outside (by omega)]; simp
    | succ k =>
      have hk' : k < l.length := by simpa using hk
      have hnext : base + (k + 1) = base + 1 + k := by omega
      rw [hnext, ih (base + 1) hk']
      simp

/-- A copy makes one byte of the memory depend on that byte only. -/
theorem copy_congr {base i : ℕ} {l : List β} {m m' : ℕ → β} (h : m i = m' i) :
    copy base l m i = copy base l m' i := by
  induction l generalizing base m m' with
  | nil => exact h
  | cons b l ih =>
    refine ih ?_
    by_cases hi : i = base
    · rw [hi, Function.update_self, Function.update_self]
    · rw [Function.update_of_ne hi, Function.update_of_ne hi, h]

/-- **A copy changes its block**, and nothing else. -/
theorem footprint_copy [Nontrivial β] (base : ℕ) (l : List β) :
    footprint (copy base l) = Set.Ico base (base + l.length) := by
  ext i
  constructor
  · rintro ⟨m, hne⟩
    by_contra hout
    rw [Set.mem_Ico] at hout
    exact hne (copy_of_outside (by omega) m)
  · rintro ⟨hle, hlt⟩
    obtain ⟨k, rfl⟩ := Nat.exists_eq_add_of_le hle
    have hk : k < l.length := by omega
    obtain ⟨other, hother⟩ := exists_ne l[k]
    exact ⟨fun _ => other, by rw [copy_add base hk]; exact hother.symm⟩

/-- A copy that stays in a block is no longer than the block. -/
theorem length_le_of_footprint_copy_subset [Nontrivial β] {base start size : ℕ} {l : List β}
    (h : footprint (copy base l) ⊆ Set.Ico start (start + size)) : l.length ≤ size := by
  rw [footprint_copy] at h
  by_cases hl : l.length = 0
  · omega
  · have hfirst := h (Set.mem_Ico.mpr ⟨le_refl base, by omega⟩)
    have hlast := h (Set.mem_Ico.mpr ⟨(by omega : base ≤ base + (l.length - 1)), by omega⟩)
    rw [Set.mem_Ico] at hfirst hlast
    omega

end Footprint
