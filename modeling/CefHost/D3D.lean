import CefHost.Library.GpuTimeline
import Mathlib.Logic.Function.Basic

/-!
# What the host uses of Direct3D

Textures, the two copy commands, and the work the host submits to the immediate context.

## Pixels are symbolic

Nothing in the host computes a colour, so a pixel is *where it comes from*: a position of a
resource CEF rendered, as it was during one paint callback (`Texel`). Two pixels are equal exactly
when they were copied from the same place in the same callback.

## Two views of a copy

A copy command acts at once on `Image.content`, which is what the texture holds when everything
submitted so far has executed. Whether it *has* executed is a matter of the command queue: the
same copy is also a `GpuWork` there.

## Main definitions

* `Resource` — a texture CEF owns
* `Texture.copyResource`, `Texture.copySubresourceRegion` — the copies, with the cases in which
  Direct3D does nothing
-/

namespace CefHost

/-- A pixel: position `(x, y)` of a CEF resource, as it was during a paint callback. -/
structure Texel where
  resource : ℕ
  paint : ℕ
  x : ℕ
  y : ℕ
deriving DecidableEq

/-- The pixels of a texture, `none` where nothing has been copied. -/
abbrev Content := ℕ → ℕ → Option Texel

/-- A texture that nothing has been copied into. -/
def Content.blank : Content := fun _ _ => none

/-- What a copy reads: dimensions and pixels. -/
structure Image where
  width : UInt32
  height : UInt32
  content : Content

/-- A texture resource CEF renders into and shares by handle. Direct3D has no empty textures. -/
structure Resource where
  id : ℕ
  width : UInt32
  height : UInt32
  width_pos : 0 < width
  height_pos : 0 < height
deriving DecidableEq

/-- The resource as it is during paint callback number `paint`. -/
def Resource.image (r : Resource) (paint : ℕ) : Image where
  width := r.width
  height := r.height
  content x y := if x < r.width.toNat ∧ y < r.height.toNat then some ⟨r.id, paint, x, y⟩ else none

/-- A texture of the host, with the identity its creation gave it. -/
structure Texture extends Image where
  id : ℕ

namespace Texture

/-- A successful `CreateTexture2D`. -/
def create (id : ℕ) (width height : UInt32) : Texture := ⟨⟨width, height, .blank⟩, id⟩

/-- `CopyResource`, which does nothing unless the dimensions agree. -/
def copyResource (dst : Texture) (src : Image) : Texture :=
  if dst.width = src.width ∧ dst.height = src.height then { dst with content := src.content }
  else dst

end Texture

/-- `D3D11_BOX`, without its depth. -/
structure Box where
  left : UInt32
  top : UInt32
  right : UInt32
  bottom : UInt32

/-- The box lies in the source and its copy at `(x, y)` lies in the destination. -/
def Box.fits (b : Box) (src dst : Image) (x y : UInt32) : Bool :=
  b.left ≤ b.right && b.top ≤ b.bottom && b.right ≤ src.width && b.bottom ≤ src.height &&
    x.toNat + (b.right.toNat - b.left.toNat) ≤ dst.width.toNat &&
    y.toNat + (b.bottom.toNat - b.top.toNat) ≤ dst.height.toNat

/-- `CopySubresourceRegion`, which copies nothing when the source box or the destination lies
outside its texture. -/
def Texture.copySubresourceRegion (dst : Texture) (x y : UInt32) (src : Image) (b : Box) :
    Texture :=
  if b.fits src dst.toImage x y then
    { dst with
      content := fun px py =>
        if x.toNat ≤ px ∧ px < x.toNat + (b.right.toNat - b.left.toNat) ∧
            y.toNat ≤ py ∧ py < y.toNat + (b.bottom.toNat - b.top.toNat) then
          src.content (b.left.toNat + (px - x.toNat)) (b.top.toNat + (py - y.toNat))
        else dst.content px py }
  else dst

namespace Texture

variable {dst : Texture} {src : Image}

@[simp] theorem copyResource_id : (dst.copyResource src).id = dst.id := by
  rw [copyResource]; split <;> rfl

@[simp] theorem copyResource_width : (dst.copyResource src).width = dst.width := by
  rw [copyResource]; split <;> rfl

@[simp] theorem copyResource_height : (dst.copyResource src).height = dst.height := by
  rw [copyResource]; split <;> rfl

theorem copyResource_content (hw : dst.width = src.width) (hh : dst.height = src.height) :
    (dst.copyResource src).content = src.content := by
  rw [copyResource, if_pos ⟨hw, hh⟩]

@[simp] theorem copySubresourceRegion_id {x y : UInt32} {b : Box} :
    (dst.copySubresourceRegion x y src b).id = dst.id := by
  rw [copySubresourceRegion]; split <;> rfl

@[simp] theorem copySubresourceRegion_width {x y : UInt32} {b : Box} :
    (dst.copySubresourceRegion x y src b).width = dst.width := by
  rw [copySubresourceRegion]; split <;> rfl

@[simp] theorem copySubresourceRegion_height {x y : UInt32} {b : Box} :
    (dst.copySubresourceRegion x y src b).height = dst.height := by
  rw [copySubresourceRegion]; split <;> rfl

end Texture

/-- What a copy command reads: a resource of CEF or a texture of the host. -/
inductive CopySource
  | cef (r : Resource)
  | texture (id : ℕ)
deriving DecidableEq

/-- What the host submits to the context besides fence signals. -/
inductive GpuWork
  | copy (dst : ℕ) (src : CopySource)
  | flush
deriving DecidableEq

/-- The work that writes the texture `id`. -/
def GpuWork.Writes (id : ℕ) : GpuWork → Prop
  | .copy dst _ => dst = id
  | .flush => False

/-- The command queue of the immediate context. -/
abbrev GpuQueue := List (GpuTimeline.Command GpuWork)

/-- The Direct3D interfaces the handler holds after `Init`: the device and its context, and what
`QueryInterface` and `CreateFence` gave on top. None of them changes before `Shutdown`. -/
structure D3DInterfaces where
  device : Bool
  context : Bool
  device1 : Bool
  context4 : Bool
  sharedFence : Bool
deriving DecidableEq

/-- All of them. -/
def fullD3D : D3DInterfaces := ⟨true, true, true, true, true⟩

theorem zero_lt_eight : (0 : UInt32) < 8 := by decide

theorem zero_lt_sixteen : (0 : UInt32) < 16 := by decide

/-- A view of 16 × 16. -/
def Resource.smallView : Resource := ⟨1, 16, 16, zero_lt_sixteen, zero_lt_sixteen⟩

/-- A popup of 8 × 8. -/
def Resource.smallPopup : Resource := ⟨2, 8, 8, zero_lt_eight, zero_lt_eight⟩

end CefHost
