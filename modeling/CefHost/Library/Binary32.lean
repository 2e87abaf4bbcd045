import Mathlib.Data.Rat.Floor

/-!
# Single precision numbers as integers

A binary32 number by its 32 bits, and the conversion to a signed integer of 32 bits that drops the
fraction. A number that does not fit, an infinity and a NaN become the smallest integer, which is
what the x64 instruction for the conversion makes of them.

## Main definitions

* `Binary32.value` — the number, unless it is an infinity or a NaN
* `Binary32.toInt32` — the conversion

## Main results

* `Binary32.toInt32_toInt` — the conversion rounds toward zero
-/

namespace Binary32

variable (bits : UInt32)

def negative : Bool := 2147483648 ≤ bits.toNat

/-- The exponent field. -/
def exponent : ℕ := bits.toNat / 8388608 % 256

/-- The fraction field, below a one unless the number is subnormal. -/
def significand : ℕ := bits.toNat % 8388608 + if exponent bits = 0 then 0 else 8388608

/-- The power of two the significand is multiplied by, counted from `2 ^ -150`. -/
def scale : ℕ := max (exponent bits) 1

/-- Neither an infinity nor a NaN. -/
def IsFinite : Prop := exponent bits ≠ 255

def magnitude : ℚ := significand bits * 2 ^ ((scale bits : ℤ) - 150)

def value : ℚ := if negative bits then -magnitude bits else magnitude bits

/-- The magnitude without its fraction. -/
def integerPart : ℕ := significand bits * 2 ^ (scale bits - 150) / 2 ^ (150 - scale bits)

/-- The conversion. -/
def toInt32 : Int32 :=
  if exponent bits = 255 ∨ 2147483648 ≤ integerPart bits then Int32.minValue
  else Int32.ofInt (if negative bits then -(integerPart bits : ℤ) else integerPart bits)

/-- Rounding toward zero. -/
def towardZero (x : ℚ) : ℤ := if 0 ≤ x then ⌊x⌋ else ⌈x⌉

theorem towardZero_neg (x : ℚ) : towardZero (-x) = -towardZero x := by
  rcases lt_trichotomy x 0 with h | rfl | h
  · rw [towardZero, towardZero, if_pos (by linarith), if_neg (not_le.mpr h), Int.floor_neg]
  · rfl
  · rw [towardZero, towardZero, if_neg (by linarith), if_pos h.le, Int.ceil_neg]

variable {bits}

theorem magnitude_nonneg : 0 ≤ magnitude bits := by
  have hscaled : (0 : ℚ) ≤ 2 ^ ((scale bits : ℤ) - 150) := zpow_nonneg (by decide) _
  exact mul_nonneg (Nat.cast_nonneg _) hscaled

/-- The magnitude as a quotient of natural numbers. -/
theorem magnitude_eq : magnitude bits =
    ((significand bits * 2 ^ (scale bits - 150) : ℕ) : ℚ) / (2 ^ (150 - scale bits) : ℕ) := by
  rw [magnitude]
  rcases Nat.le_total 150 (scale bits) with h | h
  · obtain ⟨k, hk⟩ := Nat.exists_eq_add_of_le h
    rw [hk, Nat.add_sub_cancel_left, Nat.sub_eq_zero_of_le (Nat.le_add_right 150 k)]
    push_cast
    rw [add_sub_cancel_left, zpow_natCast, div_one]
  · obtain ⟨k, hk⟩ := Nat.exists_eq_add_of_le h
    have hscale : (scale bits : ℤ) - 150 = -(k : ℤ) := by omega
    rw [hscale, Nat.sub_eq_zero_of_le h, show 150 - scale bits = k by omega, zpow_neg, zpow_natCast,
      pow_zero, mul_one, div_eq_mul_inv]
    push_cast
    rfl

theorem floor_magnitude : ⌊magnitude bits⌋ = (integerPart bits : ℤ) := by
  rw [magnitude_eq, Rat.floor_natCast_div_natCast, integerPart, Int.natCast_div]

theorem towardZero_value : towardZero (value bits) =
    if negative bits then -(integerPart bits : ℤ) else integerPart bits := by
  have hmagnitude : towardZero (magnitude bits) = integerPart bits := by
    rw [towardZero, if_pos magnitude_nonneg, floor_magnitude]
  rw [value]
  split
  · rw [towardZero_neg, hmagnitude]
  · exact hmagnitude

/-- **The conversion rounds toward zero** what is in range. -/
theorem toInt32_toInt (hfinite : IsFinite bits) (hrange : |value bits| < 2147483648) :
    (toInt32 bits).toInt = towardZero (value bits) := by
  have habs : |value bits| = magnitude bits := by
    rw [value]
    split
    · rw [abs_neg, abs_of_nonneg magnitude_nonneg]
    · exact abs_of_nonneg magnitude_nonneg
  have hlt : integerPart bits < 2147483648 := by
    have hfloor : ⌊magnitude bits⌋ < (2147483648 : ℤ) := by
      rw [Int.floor_lt]
      exact_mod_cast habs ▸ hrange
    rw [floor_magnitude] at hfloor
    exact_mod_cast hfloor
  rw [towardZero_value, toInt32, if_neg (by
    rintro (h | h)
    · exact hfinite h
    · exact Nat.not_le.mpr hlt h)]
  refine Int32.toInt_ofInt_of_le ?_ ?_
  · split <;> omega
  · split <;> omega

/-- 120, -120, three quarters and a NaN. -/
example : [0x42F00000, 0xC2F00000, 0x3F400000, 0x7FC00000].map toInt32
    = [120, -120, 0, Int32.minValue] := by decide

end Binary32
