import CefHost.Library.Ranking
import Mathlib.Data.Nat.Bitwise

/-!
# Processor affinity

`TryPinCurrentThread` pins a thread to one processor of the process: the one whose bit in the
process's affinity mask has the rank of the thread's index, modulo the number of bits set.
`SelectAffinityMask` counts the bits with one loop over the mask and finds the one it wants with
another.

`ULONG_PTR` has 64 bits. The loops are recursions on the number of bits to go.

## Main definitions

* `selectAffinityMask`, `tryPinCurrentThread` — the source functions
* `SetBit`, `processorCount` — the processors of a mask

## Main results

* `countBits_eq`, `findBit_eq` — what the loops compute
* `select_affinity_mask_ranked` — the bit of the right rank, and each once
* `threads_pinned` — which threads share a processor
-/

namespace CefHost

open Ranking

/-- `static_cast<ULONG_PTR>(1) << i`. -/
def bitAt (i : ℕ) : UInt64 := 1 <<< UInt64.ofNat i

/-- The first loop, at bit `i` with `room` to go. -/
def countBits (processMask : UInt64) : (room i : ℕ) → UInt32 → UInt32
  | 0, _, count => count
  | room + 1, i, count =>
    if processMask &&& bitAt i ≠ 0 then countBits processMask room (i + 1) (count + 1)
    else countBits processMask room (i + 1) count

/-- The second loop, and the `return 0` behind it. -/
def findBit (processMask : UInt64) (target : UInt32) : (room i : ℕ) → UInt32 → UInt64
  | 0, _, _ => 0
  | room + 1, i, seen =>
    let bit := bitAt i
    if processMask &&& bit = 0 then findBit processMask target room (i + 1) seen
    else if seen = target then bit
    else findBit processMask target room (i + 1) (seen + 1)

def selectAffinityMask (processMask : UInt64) (logicalIndex : UInt32) : UInt64 :=
  if processMask = 0 then 0
  else
    let count := countBits processMask 64 0 0
    if count = 0 then 0 else findBit processMask (logicalIndex % count) 64 0 0

/-- The mask given to `SetThreadAffinityMask`, if it is called. `GetProcessAffinityMask` may fail,
and returns 0 for a process in several processor groups. -/
def tryPinCurrentThread (processMask : Option UInt64) (logicalIndex : UInt32) : Option UInt64 :=
  match processMask with
  | none => none
  | some processMask =>
    let mask := selectAffinityMask processMask logicalIndex
    if mask ≠ 0 then some mask else none

/-- Bit `k` is set in the mask. -/
def SetBit (mask : UInt64) (k : ℕ) : Prop := mask.toNat.testBit k = true

instance (mask : UInt64) : DecidablePred (SetBit mask) :=
  fun k => inferInstanceAs (Decidable (mask.toNat.testBit k = true))

/-- The number of bits set. -/
def processorCount (mask : UInt64) : ℕ := Nat.count (SetBit mask) 64

variable {mask : UInt64}

/-! ### Single bits -/

theorem toNat_bitAt {k : ℕ} (hk : k < 64) : (bitAt k).toNat = 2 ^ k := by
  have hshift : (UInt64.ofNat k).toNat % 64 = k := by
    rw [UInt64.toNat_ofNat']
    omega
  have hlt : 2 ^ k < 2 ^ 64 := Nat.pow_lt_pow_right (by decide) hk
  rw [bitAt, UInt64.toNat_shiftLeft, hshift, UInt64.toNat_one, Nat.shiftLeft_eq, Nat.one_mul,
    Nat.mod_eq_of_lt hlt]

/-- The test of the loops. -/
theorem and_bitAt_eq_zero_iff {k : ℕ} (hk : k < 64) : mask &&& bitAt k = 0 ↔ ¬ SetBit mask k := by
  rw [← UInt64.toNat_inj, UInt64.toNat_and, toNat_bitAt hk, Nat.and_two_pow, UInt64.toNat_zero,
    SetBit]
  cases mask.toNat.testBit k <;> simp

theorem and_bitAt_ne_zero_iff {k : ℕ} (hk : k < 64) : mask &&& bitAt k ≠ 0 ↔ SetBit mask k := by
  rw [ne_eq, and_bitAt_eq_zero_iff hk, not_not]

theorem bitAt_ne_zero {k : ℕ} (hk : k < 64) : bitAt k ≠ 0 := by
  intro h
  have hpow := congrArg UInt64.toNat h
  rw [toNat_bitAt hk, UInt64.toNat_zero] at hpow
  exact absurd hpow (Nat.ne_of_gt (Nat.two_pow_pos k))

theorem processorCount_pos (hmask : mask ≠ 0) : 0 < processorCount mask := by
  rw [Nat.pos_iff_ne_zero, processorCount, Nat.count_ne_iff_exists]
  by_contra hnone
  have hzero : mask.toNat = 0 := by
    refine Nat.eq_of_testBit_eq fun k => ?_
    rw [Nat.zero_testBit]
    rcases Nat.lt_or_ge k 64 with hk | hk
    · exact Bool.eq_false_iff.mpr fun hset => hnone ⟨k, hk, hset⟩
    · exact Nat.testBit_lt_two_pow
        (Nat.lt_of_lt_of_le mask.toNat_lt (Nat.pow_le_pow_right (by decide) hk))
  exact hmask (UInt64.toNat_inj.mp hzero)

/-! ### The loops -/

/-- **The first loop** counts the bits set; 64 of them do not wrap. -/
theorem countBits_eq (room : ℕ) {i : ℕ} {count : UInt32} (hroom : i + room = 64)
    (hcount : count.toNat = Nat.count (SetBit mask) i) :
    (countBits mask room i count).toNat = processorCount mask := by
  induction room generalizing i count with
  | zero =>
    obtain rfl : i = 64 := hroom
    exact hcount
  | succ room ih =>
    have hle : Nat.count (SetBit mask) i ≤ i := Nat.count_le _
    have htest : mask &&& bitAt i ≠ 0 ↔ SetBit mask i := and_bitAt_ne_zero_iff (by omega)
    rw [countBits]
    by_cases hset : SetBit mask i
    · rw [if_pos (htest.mpr hset)]
      refine ih (by omega) ?_
      rw [UInt32.toNat_add, hcount, Nat.count_succ, if_pos hset, UInt32.toNat_one]
      omega
    · rw [if_neg (mt htest.mp hset)]
      refine ih (by omega) ?_
      rw [hcount, Nat.count_succ, if_neg hset, Nat.add_zero]

/-- **The second loop** is the search for a rank. -/
theorem findBit_eq (target : UInt32) (room : ℕ) {i : ℕ} {seen : UInt32} (hroom : i + room = 64)
    (hseen : seen.toNat ≤ i) :
    findBit mask target room i seen =
      ((search (SetBit mask) target.toNat room i seen.toNat).map bitAt).getD 0 := by
  induction room generalizing i seen with
  | zero => rfl
  | succ room ih =>
    have htest : mask &&& bitAt i = 0 ↔ ¬ SetBit mask i := and_bitAt_eq_zero_iff (by omega)
    rw [findBit, search]
    by_cases hset : SetBit mask i
    · have hnext : (seen + 1).toNat = seen.toNat + 1 := by
        rw [UInt32.toNat_add, UInt32.toNat_one]
        omega
      rw [if_neg (not_not.mpr hset ∘ htest.mp), if_pos hset]
      by_cases hfound : seen = target
      · rw [if_pos hfound, if_pos (congrArg UInt32.toNat hfound)]
        rfl
      · have hne : seen.toNat ≠ target.toNat := fun h => hfound (UInt32.toNat_inj.mp h)
        rw [if_neg hfound, if_neg hne, ← hnext]
        exact ih (by omega) (by omega)
    · rw [if_pos (htest.mpr hset), if_neg hset]
      exact ih (by omega) (by omega)

/-! ### The selection -/

/-- The position of the bit with rank `t`. -/
def rankedBit (mask : UInt64) (t : ℕ) : ℕ := (search (SetBit mask) t 64 0 0).getD 0

theorem rankedBit_spec {t : ℕ} (ht : t < processorCount mask) :
    search (SetBit mask) t 64 0 0 = some (rankedBit mask t) ∧ rankedBit mask t < 64 ∧
      SetBit mask (rankedBit mask t) ∧ Nat.count (SetBit mask) (rankedBit mask t) = t := by
  have hrank : t < Nat.count (SetBit mask) (0 + 64) := ht
  obtain ⟨k, hk, hlt, hset, hcount⟩ := search_eq_some 64 0 (Nat.zero_le t) hrank
  have hranked : rankedBit mask t = k := congrArg (Option.getD · 0) hk
  rw [hranked]
  exact ⟨hk, by omega, hset, hcount⟩

theorem selectAffinityMask_eq (hmask : mask ≠ 0) (logicalIndex : UInt32) :
    selectAffinityMask mask logicalIndex =
      bitAt (rankedBit mask (logicalIndex.toNat % processorCount mask)) := by
  have hpos := processorCount_pos hmask
  have hcount : (countBits mask 64 0 0).toNat = processorCount mask :=
    countBits_eq 64 rfl (by simp)
  have hne : countBits mask 64 0 0 ≠ 0 := by
    intro h
    rw [h] at hcount
    exact absurd hcount (Nat.ne_of_lt hpos)
  rw [selectAffinityMask, if_neg hmask]
  dsimp only
  have hspec := (rankedBit_spec (Nat.mod_lt logicalIndex.toNat hpos)).1
  rw [if_neg hne, findBit_eq _ 64 rfl (by simp), UInt32.toNat_mod, hcount, UInt32.toNat_zero, hspec]
  rfl

theorem select_eq_of_lt (hmask : mask ≠ 0) {logicalIndex : UInt32}
    (h : logicalIndex.toNat < processorCount mask) :
    selectAffinityMask mask logicalIndex = bitAt (rankedBit mask logicalIndex.toNat) := by
  rw [selectAffinityMask_eq hmask, Nat.mod_eq_of_lt h]

theorem index_bijOn (mask : UInt64) :
    Set.BijOn UInt32.toNat {i | i.toNat < processorCount mask} (Set.Iio (processorCount mask)) := by
  refine ⟨fun _ h => h, fun i _ j _ h => UInt32.toNat_inj.mp h, fun t ht => ?_⟩
  have hle : processorCount mask ≤ 64 := Nat.count_le _
  have hlt : t < processorCount mask := ht
  have htoNat : (UInt32.ofNat t).toNat = t := by
    rw [UInt32.toNat_ofNat']
    omega
  exact ⟨UInt32.ofNat t, by rw [Set.mem_ofPred_eq, htoNat]; exact hlt, htoNat⟩

theorem bitAt_bijOn (mask : UInt64) :
    Set.BijOn bitAt {k | k < 64 ∧ SetBit mask k}
      {b | ∃ k, k < 64 ∧ SetBit mask k ∧ b.toNat = 2 ^ k} := by
  refine ⟨fun k hk => ⟨k, hk.1, hk.2, toNat_bitAt hk.1⟩, fun k hk l hl heq => ?_, ?_⟩
  · have hpow := congrArg UInt64.toNat heq
    rw [toNat_bitAt hk.1, toNat_bitAt hl.1] at hpow
    exact Nat.pow_right_injective (Nat.le_refl 2) hpow
  · rintro b ⟨k, hk, hset, hb⟩
    exact ⟨k, ⟨hk, hset⟩, UInt64.toNat_inj.mp ((toNat_bitAt hk).trans hb.symm)⟩

/-- **The affinity selection.** For every mask with a bit set, and whatever the index, the result is
the one bit of the mask that has as many set bits below it as the index says, modulo the number of
set bits; it is not the 0 behind the loop; and the indices below that number give each bit once. -/
theorem select_affinity_mask_ranked (mask : UInt64) (hmask : mask ≠ 0) :
    (∀ logicalIndex, selectAffinityMask mask logicalIndex ≠ 0 ∧
      ∃ k, k < 64 ∧ SetBit mask k ∧ (selectAffinityMask mask logicalIndex).toNat = 2 ^ k ∧
        Nat.count (SetBit mask) k = logicalIndex.toNat % processorCount mask) ∧
      Set.BijOn (selectAffinityMask mask) {i | i.toNat < processorCount mask}
        {b | ∃ k, k < 64 ∧ SetBit mask k ∧ b.toNat = 2 ^ k} := by
  constructor
  · intro logicalIndex
    obtain ⟨-, hlt, hset, hcount⟩ :=
      rankedBit_spec (Nat.mod_lt logicalIndex.toNat (processorCount_pos hmask))
    rw [selectAffinityMask_eq hmask]
    exact ⟨bitAt_ne_zero hlt, _, hlt, hset, toNat_bitAt hlt, hcount⟩
  · have hranked : Set.BijOn (rankedBit mask) (Set.Iio (processorCount mask))
        {k | k < 64 ∧ SetBit mask k} := bijOn_of_rank fun t ht => (rankedBit_spec ht).2
    have hcomp := ((bitAt_bijOn mask).comp hranked).comp (index_bijOn mask)
    exact hcomp.congr fun i hi => (select_eq_of_lt hmask hi).symm

theorem select_affinity_mask_ranked_sparse :
    (0b10100 : UInt64) ≠ 0 ∧
      (∀ logicalIndex, selectAffinityMask 0b10100 logicalIndex ≠ 0 ∧
        ∃ k, k < 64 ∧ SetBit 0b10100 k ∧ (selectAffinityMask 0b10100 logicalIndex).toNat = 2 ^ k ∧
          Nat.count (SetBit 0b10100) k = logicalIndex.toNat % processorCount 0b10100) ∧
      Set.BijOn (selectAffinityMask 0b10100) {i | i.toNat < processorCount 0b10100}
        {b | ∃ k, k < 64 ∧ SetBit 0b10100 k ∧ b.toNat = 2 ^ k} :=
  ⟨by decide, select_affinity_mask_ranked 0b10100 (by decide)⟩

/-! ### The threads -/

/-- A thread is pinned if the process's mask is known, to one of its processors. -/
theorem tryPinCurrentThread_eq (hmask : mask ≠ 0) (logicalIndex : UInt32) :
    tryPinCurrentThread (some mask) logicalIndex =
      some (bitAt (rankedBit mask (logicalIndex.toNat % processorCount mask))) := by
  have hlt := (rankedBit_spec
    (Nat.mod_lt logicalIndex.toNat (processorCount_pos hmask))).2.1
  rw [tryPinCurrentThread, selectAffinityMask_eq hmask]
  exact if_pos (bitAt_ne_zero hlt)

/-- The indices modulo the number of processors tell the processors apart. -/
theorem bitAt_rankedBit_inj {s t : ℕ} (hs : s < processorCount mask) (ht : t < processorCount mask)
    (h : bitAt (rankedBit mask s) = bitAt (rankedBit mask t)) : s = t := by
  obtain ⟨-, hs64, -, hcounts⟩ := rankedBit_spec hs
  obtain ⟨-, ht64, -, hcountt⟩ := rankedBit_spec ht
  have hpow := congrArg UInt64.toNat h
  rw [toNat_bitAt hs64, toNat_bitAt ht64] at hpow
  have hsame := Nat.pow_right_injective (Nat.le_refl 2) hpow
  rw [← hcounts, ← hcountt, hsame]

/-- **Two threads are pinned to one processor** exactly if their indices agree modulo the number of
processors. -/
theorem pinned_together_iff (hmask : mask ≠ 0) {i j : UInt32} :
    tryPinCurrentThread (some mask) i = tryPinCurrentThread (some mask) j ↔
      i.toNat % processorCount mask = j.toNat % processorCount mask := by
  have hpos := processorCount_pos hmask
  rw [tryPinCurrentThread_eq hmask, tryPinCurrentThread_eq hmask, Option.some.injEq]
  constructor
  · exact bitAt_rankedBit_inj (Nat.mod_lt _ hpos) (Nat.mod_lt _ hpos)
  · intro h
    rw [h]

/-- `InputThreadMain` passes 1 and `ControlThreadMain` 2: they share a processor only if there is
no other. -/
theorem input_control_together_iff (hmask : mask ≠ 0) :
    tryPinCurrentThread (some mask) 1 = tryPinCurrentThread (some mask) 2 ↔
      processorCount mask = 1 := by
  have hpos := processorCount_pos hmask
  rw [pinned_together_iff hmask]
  change 1 % processorCount mask = 2 % processorCount mask ↔ _
  constructor
  · intro h
    by_contra hne
    rw [Nat.mod_eq_of_lt (by omega : 1 < processorCount mask)] at h
    rcases Nat.eq_or_lt_of_le (by omega : 2 ≤ processorCount mask) with heq | hlt
    · rw [← heq] at h
      exact absurd h (by decide)
    · rw [Nat.mod_eq_of_lt hlt] at h
      exact absurd h (by decide)
  · intro h
    rw [h]

/-- **The pinning of threads.** A thread is pinned exactly if the mask of the process is known and
not 0, and then to one processor of the process; two threads get the same one exactly if their
indices agree modulo the number of processors; and the input and the control thread have a processor
each unless there is only one. -/
theorem threads_pinned (processMask : Option UInt64) :
    (∀ i, (tryPinCurrentThread processMask i).isSome ↔
      ∃ mask, processMask = some mask ∧ mask ≠ 0) ∧
    ∀ mask, processMask = some mask → mask ≠ 0 →
      (∀ i, ∃ k b, k < 64 ∧ SetBit mask k ∧ b.toNat = 2 ^ k ∧
        tryPinCurrentThread processMask i = some b) ∧
      (∀ i j, tryPinCurrentThread processMask i = tryPinCurrentThread processMask j ↔
        i.toNat % processorCount mask = j.toNat % processorCount mask) ∧
      (tryPinCurrentThread processMask 1 = tryPinCurrentThread processMask 2 ↔
        processorCount mask = 1) := by
  constructor
  · intro i
    constructor
    · intro hsome
      cases processMask with
      | none => cases hsome
      | some mask =>
        refine ⟨mask, rfl, ?_⟩
        rintro rfl
        cases hsome
    · rintro ⟨mask, rfl, hmask⟩
      rw [tryPinCurrentThread_eq hmask]
      rfl
  · rintro mask rfl hmask
    refine ⟨fun i => ?_, fun i j => pinned_together_iff hmask, input_control_together_iff hmask⟩
    obtain ⟨-, hlt, hset, -⟩ :=
      rankedBit_spec (Nat.mod_lt i.toNat (processorCount_pos hmask))
    exact ⟨_, _, hlt, hset, toNat_bitAt hlt, tryPinCurrentThread_eq hmask i⟩

end CefHost
