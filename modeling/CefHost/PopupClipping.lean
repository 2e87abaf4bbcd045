import CefHost.Library.Clipping
import CefHost.Library.Signed
import CefHost.Painter

/-!
# Cutting the popup's rectangle to the frame

A popup paint moves both ends of the popup's rectangle into the frame, in 32-bit arithmetic, and
passes what is left on as unsigned numbers. One axis at a time, this is `Clipping.clip` over the
integers as long as the far end has a 32-bit coordinate.

## Main definitions

* `Content.drawn` — what a region copy leaves
* `Painter.AxisCopied` — where the copy starts and ends on an axis

## Main results

* `Painter.clamp_lt_clamp_iff` — when something is left
* `Painter.clamp_mem` — what is left begins in the rectangle
* `Painter.axisCopied` — it is the part in the frame
-/

namespace CefHost

/-! ### Drawing at a position -/

/-- `src` drawn over `c` at `(x, y)`, as far as `w` and `h` go. -/
def Content.drawn (c : Content) (x y w h : ℕ) (src : Content) : Content := fun px py =>
  if x ≤ px ∧ px < x + w ∧ y ≤ py ∧ py < y + h then src (px - x) (py - y) else c px py

theorem Content.drawn_of_mem {c src : Content} {x y w h px py : ℕ}
    (hx : x ≤ px ∧ px < x + w) (hy : y ≤ py ∧ py < y + h) :
    c.drawn x y w h src px py = src (px - x) (py - y) := if_pos ⟨hx.1, hx.2, hy⟩

/-- Drawing the same again changes nothing. -/
theorem Content.drawn_drawn (c src : Content) (x y w h : ℕ) :
    (c.drawn x y w h src).drawn x y w h src = c.drawn x y w h src := by
  funext px py
  simp only [drawn]
  split <;> rfl

theorem Resource.image_corner (r : Resource) (n : ℕ) :
    (r.image n).content 0 0 = some ⟨r.id, n, 0, 0⟩ :=
  if_pos ⟨UInt32.lt_iff_toNat_lt.mp r.width_pos, UInt32.lt_iff_toNat_lt.mp r.height_pos⟩

/-- The corner of a texture, copied. -/
theorem Texture.copySubresourceRegion_cornerBox (dst : Texture) (x y : UInt32) (src : Image)
    (w h : Int32) :
    (dst.copySubresourceRegion x y src (Painter.cornerBox w h)).content =
      if (Painter.cornerBox w h).fits src dst.toImage x y then
        dst.content.drawn x.toNat y.toNat w.toUInt32.toNat h.toUInt32.toNat src.content
      else dst.content := by
  rw [copySubresourceRegion]
  split
  · funext px py
    have hzero : (Painter.cornerBox w h).left.toNat = 0 ∧
        (Painter.cornerBox w h).top.toNat = 0 := ⟨rfl, rfl⟩
    simp only [hzero.1, hzero.2, Nat.sub_zero, Nat.zero_add]
    rfl
  · rfl

/-! ### Signed coordinates -/

/-- A coordinate that is not negative is passed on as it is. -/
theorem int32_toNat {v : Int32} (h : 0 ≤ v) : (v.toUInt32.toNat : ℤ) = v.toInt := by
  have hv : 0 ≤ v.toInt := by simpa using Int32.le_iff_toInt_le.mp h
  rw [Int32.toNat_toUInt32_of_le h, Int32.toNatClampNeg, Int.toNat_of_nonneg hv]

theorem int32_pos {v : Int32} (h : 0 < v) : 0 < v.toUInt32.toNat ∧ 0 < v.toInt := by
  have hv : 0 < v.toInt := by simpa using Int32.lt_iff_toInt_lt.mp h
  have hle : (0 : Int32) ≤ v := Int32.le_of_lt h
  have hnat := int32_toNat hle
  exact ⟨by omega, hv⟩

namespace Painter

/-! ### One axis -/

theorem clamp_toInt (v : Int32) (size : UInt32) :
    (clamp v size).toInt = Clipping.clip v.toInt size.toInt32.toInt := by
  have hmin : (if v ≤ size.toInt32 then v else size.toInt32).toInt =
      min v.toInt size.toInt32.toInt := by
    split_ifs with h
    · rw [min_eq_left (Int32.le_iff_toInt_le.mp h)]
    · rw [min_eq_right (Int.le_of_lt (not_le.mp fun hle => h (Int32.le_iff_toInt_le.mpr hle)))]
  rw [clamp, Clipping.clip, ← hmin]
  set m := if v ≤ size.toInt32 then v else size.toInt32
  split_ifs with h
  · exact (max_eq_right (Int32.le_iff_toInt_le.mp h)).symm
  · exact (max_eq_left (Int.le_of_lt (not_le.mp fun hle =>
      h (Int32.le_iff_toInt_le.mpr hle)))).symm

/-- A frame size of 2³¹ or more is negative. -/
theorem clamp_of_large (v : Int32) {size : UInt32} (h : ¬ size.toNat < 2 ^ 31) :
    (clamp v size).toInt = 0 := by
  have hsize := size.toNat_lt
  rw [clamp_toInt, Signed.toInt_toInt32, if_neg h]
  exact Clipping.clip_of_nonpos _ (by omega)

theorem clamp_of_small (v : Int32) {size : UInt32} (h : size.toNat < 2 ^ 31) :
    (clamp v size).toInt = Clipping.clip v.toInt size.toNat := by
  rw [clamp_toInt, Signed.toInt_toInt32, if_pos h]

theorem clamp_nonneg (v : Int32) (size : UInt32) : 0 ≤ (clamp v size).toInt := by
  rw [clamp_toInt]
  exact Clipping.clip_nonneg _ _

section Axis

variable {v length : Int32} {size : UInt32}

theorem clamp_lt_clamp_iff (hsum : (v + length).toInt = v.toInt + length.toInt) :
    clamp v size < clamp (v + length) size ↔
      size.toNat < 2 ^ 31 ∧ Clipping.Meets v.toInt (v.toInt + length.toInt) size.toNat := by
  rw [Int32.lt_iff_toInt_lt]
  by_cases h : size.toNat < 2 ^ 31
  · rw [clamp_of_small v h, clamp_of_small _ h, hsum, Clipping.clip_lt_clip_iff]
    exact (and_iff_right h).symm
  · rw [clamp_of_large v h, clamp_of_large _ h]
    exact iff_of_false (Int.lt_irrefl 0) fun hmeets => h hmeets.1

/-- Where something is left, something is copied. -/
theorem clamp_sub_pos {w : Int32} (h : clamp v size < clamp w size) :
    0 < (clamp w size - clamp v size).toUInt32.toNat := by
  have hlt := Int32.lt_iff_toInt_lt.mp h
  refine (int32_pos ?_).1
  rw [Int32.lt_iff_toInt_lt,
    Signed.toInt_sub_of_nonneg (clamp_nonneg w size) (clamp_nonneg v size)]
  change (0 : ℤ) < _
  omega

/-- What is left of a span begins in the span. This holds without a bound on its far end: nothing is
left where that overflows. -/
theorem clamp_mem (hlength : 0 ≤ length.toInt) (h : clamp v size < clamp (v + length) size) :
    v.toInt ≤ (clamp v size).toUInt32.toNat ∧
      ((clamp v size).toUInt32.toNat : ℤ) < v.toInt + length.toInt := by
  have hstart := int32_toNat (v := clamp v size) (Int32.le_iff_toInt_le.mpr (clamp_nonneg v size))
  have hlt := Int32.lt_iff_toInt_lt.mp h
  have hsum : (v + length).toInt = v.toInt + length.toInt := by
    have hv := v.le_toInt
    refine (Signed.toInt_add_iff v length).mpr ⟨by omega, ?_⟩
    by_contra hwrap
    have hsmall : (v + length).toInt ≤ v.toInt := by
      have hv' := v.toInt_lt
      have hlength' := length.toInt_lt
      rw [Int32.toInt_add, Int.bmod_def]
      split <;> omega
    rw [clamp_toInt, clamp_toInt, Clipping.clip, Clipping.clip] at hlt
    omega
  obtain ⟨hsize, hmeets⟩ := (clamp_lt_clamp_iff hsum).mp h
  have hbegin := hmeets.start
  rw [← clamp_of_small v hsize, ← hstart] at hbegin
  exact hbegin.2

/-- What is copied along one axis when something is left: where it starts, and where it ends. -/
structure AxisCopied (v length : Int32) (size : UInt32) : Prop where
  start : ((clamp v size).toUInt32.toNat : ℤ) = Clipping.clip v.toInt size.toNat
  stop : ((clamp v size).toUInt32.toNat +
    (clamp (v + length) size - clamp v size).toUInt32.toNat : ℤ) =
      Clipping.clip (v.toInt + length.toInt) size.toNat

theorem axisCopied (hsum : (v + length).toInt = v.toInt + length.toInt)
    (hsize : size.toNat < 2 ^ 31)
    (hmeets : Clipping.Meets v.toInt (v.toInt + length.toInt) size.toNat) :
    AxisCopied v length size := by
  have hlo := clamp_of_small v hsize
  have hhi := clamp_of_small (v + length) hsize
  rw [hsum] at hhi
  have hlt := Clipping.clip_lt_clip_iff.mpr hmeets
  have hdiff := Signed.toInt_sub_of_nonneg (clamp_nonneg (v + length) size) (clamp_nonneg v size)
  have hstart := int32_toNat (v := clamp v size) (Int32.le_iff_toInt_le.mpr (clamp_nonneg v size))
  have hlen := int32_toNat (v := clamp (v + length) size - clamp v size) (by
    rw [Int32.le_iff_toInt_le, hdiff]
    change (0 : ℤ) ≤ _
    omega)
  exact ⟨by omega, by omega⟩

/-- The copy lies in the frame and is no longer than the rectangle. -/
theorem AxisCopied.fits (h : AxisCopied v length size) (hlength : 0 ≤ length.toInt) :
    (clamp v size).toUInt32.toNat + (clamp (v + length) size - clamp v size).toUInt32.toNat ≤
      size.toNat ∧
    ((clamp (v + length) size - clamp v size).toUInt32.toNat : ℤ) ≤ length.toInt := by
  have hle := Clipping.clip_le (n := size.toNat) (v.toInt + length.toInt) (by omega)
  have hshort := Clipping.clip_sub_clip_le (n := size.toNat)
    (show v.toInt ≤ v.toInt + length.toInt by omega)
  have hstart := h.start
  have hstop := h.stop
  exact ⟨by omega, by omega⟩

/-- A position of the frame and the rectangle is copied. -/
theorem AxisCopied.mem (h : AxisCopied v length size) {p : ℕ} (hp : p < size.toNat)
    (hlo : v.toInt ≤ p) (hhi : (p : ℤ) < v.toInt + length.toInt) :
    (clamp v size).toUInt32.toNat ≤ p ∧ p < (clamp v size).toUInt32.toNat +
      (clamp (v + length) size - clamp v size).toUInt32.toNat := by
  have hmem := Clipping.mem_clip_iff.mpr
    ⟨⟨Int.natCast_nonneg p, Int.ofNat_lt.mpr hp⟩, hlo, hhi⟩
  have hstart := h.start
  have hstop := h.stop
  exact ⟨by omega, by omega⟩

/-- A rectangle that starts in the frame and fits is copied as it is. -/
theorem AxisCopied.whole (h : AxisCopied v length size) (hv : 0 ≤ v.toInt) (hlength : 0 < length)
    (hfits : v.toUInt32.toNat + length.toUInt32.toNat ≤ size.toNat) :
    (clamp v size).toUInt32.toNat = v.toUInt32.toNat ∧
      (clamp (v + length) size - clamp v size).toUInt32.toNat = length.toUInt32.toNat := by
  have hvnat := int32_toNat (Int32.le_iff_toInt_le.mpr hv)
  have hlnat := int32_toNat (Int32.le_of_lt hlength)
  have hstart := h.start
  have hstop := h.stop
  rw [Clipping.clip_of_mem hv (by omega)] at hstart
  rw [Clipping.clip_of_mem (by omega) (by omega)] at hstop
  exact ⟨by omega, by omega⟩

end Axis

end Painter

end CefHost
