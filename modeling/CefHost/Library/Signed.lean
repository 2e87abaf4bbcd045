import Mathlib.Algebra.Group.Int.Defs
import Mathlib.Algebra.Group.Nat.Defs
import Mathlib.Tactic.SplitIfs

/-!
# Signed and unsigned 32-bit numbers

What a cast between `UInt32` and `Int32` does to the value, as integers.

## Main results

* `Signed.toInt_toInt32` — the value of an unsigned number read as signed
* `Signed.pos_toInt32_iff` — the unsigned numbers that are positive when read as signed
* `Signed.toInt_add_iff` — when a sum does not overflow
-/

namespace Signed

theorem toInt_toInt32 (n : UInt32) :
    n.toInt32.toInt = if n.toNat < 2 ^ 31 then (n.toNat : ℤ) else n.toNat - 2 ^ 32 := by
  have h : n.toInt32.toInt = n.toBitVec.toInt := rfl
  rw [h, BitVec.toInt_eq_toNat_cond, UInt32.toNat_toBitVec]
  split_ifs <;> omega

theorem pos_toInt32_iff (n : UInt32) : 0 < n.toInt32 ↔ 0 < n ∧ n < 0x80000000 := by
  have hn := n.toNat_lt
  rw [Int32.lt_iff_toInt_lt, toInt_toInt32, UInt32.lt_iff_toNat_lt, UInt32.lt_iff_toNat_lt]
  change (0 : ℤ) < _ ↔ 0 < n.toNat ∧ n.toNat < 2147483648
  split_ifs <;> omega

/-- A number that is small when read as unsigned is not negative. -/
theorem nonneg_of_toUInt32_lt {v : Int32} (h : v.toUInt32.toNat < 2 ^ 31) : 0 ≤ v.toInt := by
  have hv := toInt_toInt32 v.toUInt32
  rw [if_pos h, Int32.toInt32_toUInt32] at hv
  omega

/-- A signed sum is the sum exactly if that is in range. -/
theorem toInt_add_iff (a b : Int32) : (a + b).toInt = a.toInt + b.toInt ↔
    -2 ^ 31 ≤ a.toInt + b.toInt ∧ a.toInt + b.toInt < 2 ^ 31 := by
  constructor
  · intro h
    rw [← h]
    exact ⟨Int32.le_toInt _, Int32.toInt_lt _⟩
  · rintro ⟨hle, hlt⟩
    rw [Int32.toInt_add]
    exact Int.bmod_eq_of_le (by omega) (by omega)

/-- The difference of two numbers that are not negative does not overflow. -/
theorem toInt_sub_of_nonneg {a b : Int32} (ha : 0 ≤ a.toInt) (hb : 0 ≤ b.toInt) :
    (a - b).toInt = a.toInt - b.toInt := by
  have ha' := a.toInt_lt
  have hb' := b.toInt_lt
  rw [Int32.toInt_sub]
  exact Int.bmod_eq_of_le (by omega) (by omega)

end Signed
