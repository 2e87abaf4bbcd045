import CefHost.CurrentPopup

/-!
# Where the popup is copied to

A popup paint cuts the popup's rectangle to the frame and copies to the corner of what is left. A
view paint copies the whole rectangle to where it starts. Both copy from the corner of the private
texture.

So the two agree for a rectangle that starts in the frame. One that starts to the left of the frame
or above it is shown shifted by what has been cut off, since the source box still starts at the
corner; the view paint copies nothing then, as a negative position is a huge one to Direct3D.

## Two 32-bit readings

The positions are converted to unsigned numbers and the frame size to signed ones. A frame of 2³¹
pixels or more is beyond any texture of Direct3D, but nothing here checks it: its size is negative
to the popup paint, which then copies nothing, and a negative position may be inside it for the view
paint. The results do not exclude such frames.

## Main definitions

* `Painter.PopupPlaced` — the pixels of the rectangle show the texture at their offset
* `Painter.KeptByView` — a view paint leaves the popup plane as it is
* `Painter.Placeable` — the rectangle can be copied by both paths

## Main results

* `popup_composed_iff` — in every state reached, for every rectangle, frame and texture
-/

namespace CefHost

namespace Painter

variable {s : Painter} {p : Paint} {src : Resource}

/-! ### The property -/

/-- A pixel of the frame in the popup's rectangle. -/
def InPopup (s : Painter) (px py : ℕ) : Prop :=
  px < s.textures.sharedWidth.toNat ∧ py < s.textures.sharedHeight.toNat ∧
    s.popupRect.toDirty.Contains px py

/-- Each pixel of the popup plane in the rectangle is the pixel of the popup texture at its offset
from the rectangle's corner. -/
def PopupPlaced (s : Painter) : Prop :=
  ∀ px py, s.InPopup px py → ∃ tx t, s.popupTexture = some tx ∧
    tx.content (px - s.popupRect.x.toInt).toNat (py - s.popupRect.y.toInt).toNat = some t ∧
    s.planePixels px py = some t

/-- A view paint of the frame size leaves the popup plane as it is. -/
def KeptByView (s : Painter) : Prop :=
  ∀ q src, q.type = .view → s.source q = some src → src.width = s.textures.sharedWidth →
    src.height = s.textures.sharedHeight → (s.onAcceleratedPaint q).planePixels = s.planePixels

/-- None of the sums and differences of the popup paint overflows. -/
def ArithmeticExact (s : Painter) : Prop :=
  let pr := s.popupRect
  let r := s.clampedPopupRect
  (pr.x + pr.width).toInt = pr.x.toInt + pr.width.toInt ∧
    (pr.y + pr.height).toInt = pr.y.toInt + pr.height.toInt ∧
    r.width.toInt = r.x1.toInt - r.x0.toInt ∧ r.height.toInt = r.y1.toInt - r.y0.toInt

/-- The popup paint composes the popup correctly, whatever the plane holds. -/
def ComposesPopup (s : Painter) (p : Paint) : Prop :=
  s.ArithmeticExact ∧ ∀ c, ((s.withPlane c).onAcceleratedPaint p).PopupPlaced ∧
    ((s.withPlane c).onAcceleratedPaint p).KeptByView

/-! ### What it depends on -/

/-- The popup plane exists at the frame size, and so does the ring. -/
structure PlaneAtFrameSize (s : Painter) : Prop where
  ready : s.textures.alreadyReady s.textures.sharedWidth s.textures.sharedHeight = true
  plane : ∃ d, s.textures.texture .popup = some d ∧ d.width = s.textures.sharedWidth ∧
    d.height = s.textures.sharedHeight

/-- A paint of a visible popup that gets its texture, which is at least as large as the
rectangle. -/
structure PaintsPopup (s : Painter) (p : Paint) (src : Resource) : Prop where
  type : p.type = .popup
  visible : s.popupVisible = true
  source : s.source p = some src
  texture : s.popupTextureReady p src = true
  width : s.popupRect.width.toInt ≤ src.width.toNat
  height : s.popupRect.height.toInt ≤ src.height.toNat

/-- The far corner of the rectangle has 32-bit coordinates. -/
def FarCornerFits (s : Painter) : Prop :=
  let pr := s.popupRect
  (-2 ^ 31 ≤ pr.x.toInt + pr.width.toInt ∧ pr.x.toInt + pr.width.toInt < 2 ^ 31) ∧
    (-2 ^ 31 ≤ pr.y.toInt + pr.height.toInt ∧ pr.y.toInt + pr.height.toInt < 2 ^ 31)

/-- The rectangle starts in the frame, or to its right or below it, and the frame size is a signed
number. -/
def StartsInFrame (s : Painter) : Prop :=
  (0 ≤ s.popupRect.x.toInt ∧ s.textures.sharedWidth.toNat < 2 ^ 31) ∧
    (0 ≤ s.popupRect.y.toInt ∧ s.textures.sharedHeight.toNat < 2 ^ 31)

/-- Some pixel of the frame is in the rectangle. -/
def MeetsFrame (s : Painter) : Prop :=
  let pr := s.popupRect
  Clipping.Meets pr.x.toInt (pr.x.toInt + pr.width.toInt) s.textures.sharedWidth.toNat ∧
    Clipping.Meets pr.y.toInt (pr.y.toInt + pr.height.toInt) s.textures.sharedHeight.toNat

/-- The rectangle fits in the frame, its position read as unsigned. -/
def FitsUnsigned (s : Painter) : Prop :=
  let pr := s.popupRect
  pr.x.toUInt32.toNat + pr.width.toUInt32.toNat ≤ s.textures.sharedWidth.toNat ∧
    pr.y.toUInt32.toNat + pr.height.toUInt32.toNat ≤ s.textures.sharedHeight.toNat

/-- Both paths can copy the rectangle, or neither has anything to copy. -/
def Placeable (s : Painter) : Prop :=
  s.FarCornerFits ∧
    (s.popupRect.width ≤ 0 ∨ s.popupRect.height ≤ 0 ∨ s.StartsInFrame ∨
      (¬ s.MeetsFrame ∧ ¬ s.FitsUnsigned))

/-! ### The popup paint -/

/-- What is left of the rectangle. -/
theorem valid_iff (hvisible : s.popupVisible = true) (hexact : s.ArithmeticExact) :
    s.clampedPopupRect.valid = true ↔
      (s.textures.sharedWidth.toNat < 2 ^ 31 ∧ s.textures.sharedHeight.toNat < 2 ^ 31) ∧
        s.MeetsFrame := by
  obtain ⟨hx, hy, -⟩ := hexact
  rw [Corners.valid, clampedPopupRect, if_pos hvisible, Bool.and_eq_true, decide_eq_true_eq,
    decide_eq_true_eq, clamp_lt_clamp_iff hx, clamp_lt_clamp_iff hy]
  exact and_and_and_comm

/-- The pixels of the popup plane after a popup paint. -/
def popupDrawn (s : Painter) (src : Resource) (c : Content) : Content :=
  let r := s.clampedPopupRect
  if r.valid then
    c.drawn r.x0.toUInt32.toNat r.y0.toUInt32.toNat r.width.toUInt32.toNat r.height.toUInt32.toNat
      (src.image (s.paints + 1)).content
  else c

/-- What is left of the rectangle fits, in the private texture and in the plane. -/
theorem cornerBox_fits (hvisible : s.popupVisible = true) (hexact : s.ArithmeticExact)
    (hvalid : s.clampedPopupRect.valid = true) (image dst : Image)
    (hw : s.popupRect.width.toInt ≤ image.width.toNat)
    (hh : s.popupRect.height.toInt ≤ image.height.toNat)
    (hdw : dst.width = s.textures.sharedWidth) (hdh : dst.height = s.textures.sharedHeight) :
    (cornerBox s.clampedPopupRect.width s.clampedPopupRect.height).fits image dst
      s.clampedPopupRect.x0.toUInt32 s.clampedPopupRect.y0.toUInt32 = true := by
  obtain ⟨⟨hsw, hsh⟩, hmx, hmy⟩ := (valid_iff hvisible hexact).mp hvalid
  have hfx := (axisCopied hexact.1 hsw hmx).fits (by have := hmx.1; omega)
  have hfy := (axisCopied hexact.2.1 hsh hmy).fits (by have := hmy.1; omega)
  simp only [cornerBox, Corners.width, Corners.height, clampedPopupRect, if_pos hvisible,
    Box.fits, Bool.and_eq_true, decide_eq_true_eq, UInt32.le_iff_toNat_le, UInt32.toNat_zero,
    Nat.zero_le, true_and, Nat.sub_zero, hdw, hdh]
  exact ⟨⟨⟨by omega, by omega⟩, hfx.1⟩, hfy.1⟩

/-- What the popup paint leaves for the view paint. -/
structure PopupLeft (s s' : Painter) (src : Resource) : Prop where
  mode : s'.usePopupDedicatedPlane = s.usePopupDedicatedPlane
  visible : s'.popupVisible = s.popupVisible
  rect : s'.popupRect = s.popupRect
  device : s'.d3d = s.d3d
  sharedWidth : s'.textures.sharedWidth = s.textures.sharedWidth
  sharedHeight : s'.textures.sharedHeight = s.textures.sharedHeight
  ready : ∀ width height,
    s'.textures.alreadyReady width height = s.textures.alreadyReady width height
  filled : s'.Filled src (s.paints + 1)
  plane : ∃ d, s'.textures.texture .popup = some d ∧ d.width = s.textures.sharedWidth ∧
    d.height = s.textures.sharedHeight ∧ d.content = s.popupDrawn src s.planePixels

theorem PaintsPopup.refreshed_eq (h : s.PaintsPopup p src)
    (hmode : s.usePopupDedicatedPlane = true) (hexact : s.ArithmeticExact) {d : Texture}
    (hd : s.textures.texture .popup = some d) (hdw : d.width = s.textures.sharedWidth)
    (hdh : d.height = s.textures.sharedHeight) :
    ∃ d', ({ s with paints := s.paints + 1 } : Painter).refreshed src (some d) = some d' ∧
      d'.width = d.width ∧ d'.height = d.height ∧
      d'.content = s.popupDrawn src d.content := by
  have hrefreshed : ({ s with paints := s.paints + 1 } : Painter).refreshed src (some d) =
      if s.popupPlaneReady && (s.popupVisible && s.clampedPopupRect.valid) then
        some (d.copySubresourceRegion s.clampedPopupRect.x0.toUInt32
          s.clampedPopupRect.y0.toUInt32 (src.image (s.paints + 1))
          (cornerBox s.clampedPopupRect.width s.clampedPopupRect.height))
      else some d := rfl
  rw [hrefreshed, popupDrawn]
  cases hvalid : s.clampedPopupRect.valid with
  | false =>
    simp only [Bool.and_false, Bool.false_eq_true, if_false]
    exact ⟨d, rfl, rfl, rfl, rfl⟩
  | true =>
    obtain ⟨-, hmx, hmy⟩ := (valid_iff h.visible hexact).mp hvalid
    have hready : s.popupPlaneReady = true := by
      have hw : 0 < s.textures.sharedWidth := UInt32.lt_iff_toNat_lt.mpr (by
        have := hmx.2.2.2
        simpa using this)
      have hh : 0 < s.textures.sharedHeight := UInt32.lt_iff_toNat_lt.mpr (by
        have := hmy.2.2.2
        simpa using this)
      simp [popupPlaneReady, hmode, hd, hw, hh]
    have hfits := cornerBox_fits h.visible hexact hvalid (src.image (s.paints + 1)) d.toImage
      h.width h.height hdw hdh
    rw [hready, h.visible]
    refine ⟨_, if_pos rfl, Texture.copySubresourceRegion_width,
      Texture.copySubresourceRegion_height, ?_⟩
    rw [Texture.copySubresourceRegion_cornerBox, if_pos hfits]
    exact (if_pos rfl).symm

/-- The popup paint up to the pixels. -/
theorem paintPopup_left (h : s.popupTextureReady p src = true) :
    (s.paintPopup p src).usePopupDedicatedPlane = s.usePopupDedicatedPlane ∧
      (s.paintPopup p src).popupVisible = s.popupVisible ∧
      (s.paintPopup p src).popupRect = s.popupRect ∧ (s.paintPopup p src).d3d = s.d3d ∧
      ∃ n, SameShape { s.textures with nextTexture := n } (s.paintPopup p src).textures := by
  obtain ⟨tx, n, heq, -⟩ := paintPopup_ready h
  rw [heq]
  dsimp only
  split
  · obtain ⟨t, q, hpub, hshape, -⟩ := ((s.withPopup src tx n).copyPopup src).publishPopup_eq p
    rw [hpub, publishPopupPlane_eq]
    exact ⟨rfl, rfl, rfl, rfl, n, hshape⟩
  · exact ⟨rfl, rfl, rfl, rfl, n, .refl _⟩

theorem PaintsPopup.left (h : s.PaintsPopup p src) (hmode : s.usePopupDedicatedPlane = true)
    (hsized : s.PopupSized) (hplane : s.PlaneAtFrameSize) (hexact : s.ArithmeticExact) :
    PopupLeft s (s.onAcceleratedPaint p) src := by
  obtain ⟨d, hd, hdw, hdh⟩ := hplane.plane
  obtain ⟨view, popup, hopened⟩ := s.opened_eq p src
  set e : Painter := { s with
    paints := s.paints + 1, cachedView := view, cachedPopup := popup } with he
  have hready : e.popupTextureReady p src = true := h.texture
  obtain ⟨hfilled, hpixels⟩ := paintPopup_plane (s := e) hsized hready
  obtain ⟨d', hd', hw', hh', hcontent⟩ := h.refreshed_eq hmode hexact hd hdw hdh
  have hplane' : (e.paintPopup p src).textures.texture .popup = some d' := by
    rw [hpixels, ← hd', ← hd]
    rfl
  have hown : s.planePixels = d.content := by rw [planePixels, hd]; rfl
  obtain ⟨hmode', hvisible, hrect, hdevice, n, hshape⟩ := paintPopup_left hready
  rw [onAcceleratedPaint_popup h.source h.type, hopened]
  exact
    { mode := hmode'
      visible := hvisible
      rect := hrect
      device := hdevice
      sharedWidth := hshape.sharedWidth
      sharedHeight := hshape.sharedHeight
      ready := fun width height => by
        simp only [SharedTextures.alreadyReady, hshape.sharedWidth, hshape.sharedHeight,
          hshape.isSome]
        rfl
      filled := hfilled
      plane := ⟨d', hplane', hw'.trans hdw, hh'.trans hdh, by rw [hown]; exact hcontent⟩ }

/-! ### The view paint -/

instance (s : Painter) : Decidable s.FitsUnsigned := inferInstanceAs (Decidable (_ ∧ _))

/-- The view paint copies the rectangle. -/
def CopiesRect (s : Painter) : Prop :=
  0 < s.popupRect.width ∧ 0 < s.popupRect.height ∧ s.FitsUnsigned

instance (s : Painter) : Decidable s.CopiesRect := inferInstanceAs (Decidable (_ ∧ _))

/-- The pixels of the popup plane after a view paint. -/
def viewDrawn (s : Painter) (src : Content) (c : Content) : Content :=
  let pr := s.popupRect
  if s.CopiesRect then
    c.drawn pr.x.toUInt32.toNat pr.y.toUInt32.toNat pr.width.toUInt32.toNat
      pr.height.toUInt32.toNat src
  else c

/-- A box as large as the rectangle fits in the plane as the rectangle does. -/
theorem cornerBox_fits_iff (image dst : Image) (hw : 0 < s.popupRect.width)
    (hh : 0 < s.popupRect.height) (hiw : s.popupRect.width.toInt ≤ image.width.toNat)
    (hih : s.popupRect.height.toInt ≤ image.height.toNat)
    (hdw : dst.width = s.textures.sharedWidth) (hdh : dst.height = s.textures.sharedHeight) :
    (cornerBox s.popupRect.width s.popupRect.height).fits image dst s.popupRect.x.toUInt32
      s.popupRect.y.toUInt32 = true ↔ s.FitsUnsigned := by
  have hwidth := int32_toNat (Int32.le_of_lt hw)
  have hheight := int32_toNat (Int32.le_of_lt hh)
  have hw' : s.popupRect.width.toUInt32.toNat ≤ image.width.toNat := by omega
  have hh' : s.popupRect.height.toUInt32.toNat ≤ image.height.toNat := by omega
  simp only [cornerBox, Box.fits, Bool.and_eq_true, decide_eq_true_eq, UInt32.le_iff_toNat_le,
    UInt32.toNat_zero, Nat.zero_le, true_and, Nat.sub_zero, hdw, hdh, hw', hh']
  rfl

/-- **The view paint** after a popup paint. -/
theorem PopupLeft.view {s' : Painter} (h : PopupLeft s s' src)
    (hmode : s.usePopupDedicatedPlane = true) (hvisible : s.popupVisible = true)
    (hw : s.popupRect.width.toInt ≤ src.width.toNat)
    (hh : s.popupRect.height.toInt ≤ src.height.toNat)
    (hready : s.textures.alreadyReady s.textures.sharedWidth s.textures.sharedHeight = true)
    {q : Paint} {vsrc : Resource} (ht : q.type = .view) (hsrc : s'.source q = some vsrc)
    (hvw : vsrc.width = s.textures.sharedWidth) (hvh : vsrc.height = s.textures.sharedHeight) :
    (s'.onAcceleratedPaint q).planePixels =
      s.viewDrawn (src.image (s.paints + 1)).content s'.planePixels := by
  obtain ⟨d, hd, hdw, hdh, -⟩ := h.plane
  obtain ⟨⟨tx, htx, himage⟩, -, -⟩ := h.filled
  have hready' : s'.textures.alreadyReady vsrc.width vsrc.height = true := by
    rw [h.ready, hvw, hvh]
    exact hready
  have hpixels : (s'.onAcceleratedPaint q).planePixels = planeContent (s'.composited (some d)) := by
    have htextures : s'.texturesReady vsrc.width vsrc.height q.create = true :=
      Bool.or_eq_true_iff.mpr (Or.inl hready')
    have hfor : s'.planeFor vsrc = some d := (if_pos hready').trans hd
    rw [onAcceleratedPaint_plane (h.mode.trans hmode) hsrc ht htextures, hfor]
  have hown : s'.planePixels = d.content := by rw [planePixels, hd]; rfl
  rw [hpixels, hown, composited, htx, h.visible, hvisible, h.rect, viewDrawn]
  simp only [Bool.true_and, Bool.and_eq_true, decide_eq_true_eq, himage]
  by_cases hpos : 0 < s.popupRect.width ∧ 0 < s.popupRect.height
  · have hfits := cornerBox_fits_iff (src.image (s.paints + 1)) d.toImage hpos.1 hpos.2 hw hh hdw
      hdh
    rw [if_pos hpos]
    change ((d.copySubresourceRegion _ _ _ _).content : Content) = _
    rw [Texture.copySubresourceRegion_cornerBox]
    by_cases hfit : s.FitsUnsigned
    · rw [if_pos (hfits.mpr hfit), if_pos ⟨hpos.1, hpos.2, hfit⟩]
    · rw [if_neg fun hcopied => hfit (hfits.mp hcopied), if_neg fun hcopies => hfit hcopies.2.2]
  · rw [if_neg hpos, if_neg fun hcopies => hpos ⟨hcopies.1, hcopies.2.1⟩]
    rfl

/-! ### Both paints, by their pixels -/

theorem PlaneAtFrameSize.withPlane (h : s.PlaneAtFrameSize) (c : Content) :
    (s.withPlane c).PlaneAtFrameSize ∧ (s.withPlane c).planePixels = c := by
  obtain ⟨d, hd, hdw, hdh⟩ := h.plane
  have hd' : (s.withPlane c).textures.texture .popup = some (d.withContent c) := by
    rw [withPlane_popup, hd]
    rfl
  refine ⟨⟨(s.withPlane_alreadyReady c _ _).trans h.ready, _, hd', hdw, hdh⟩, ?_⟩
  rw [planePixels, hd']
  rfl

theorem PaintsPopup.withPlane (h : s.PaintsPopup p src) (c : Content) :
    (s.withPlane c).PaintsPopup p src :=
  ⟨h.type, h.visible, h.source, h.texture, h.width, h.height⟩

/-- A state in which a popup is painted over the plane. -/
structure Composing (s : Painter) (p : Paint) (src : Resource) : Prop where
  mode : s.usePopupDedicatedPlane = true
  sized : s.PopupSized
  plane : s.PlaneAtFrameSize
  paints : s.PaintsPopup p src

/-- The popup paint draws each pixel of the rectangle at its offset. -/
def DrawsInPlace (s : Painter) (src : Resource) (c : Content) : Prop :=
  ∀ px py, s.InPopup px py → ∃ t, (src.image (s.paints + 1)).content
      (px - s.popupRect.x.toInt).toNat (py - s.popupRect.y.toInt).toNat = some t ∧
    s.popupDrawn src c px py = some t

/-- The view paint draws over the popup paint what is there. -/
def DrawsAlike (s : Painter) (src : Resource) (c : Content) : Prop :=
  s.viewDrawn (src.image (s.paints + 1)).content (s.popupDrawn src c) = s.popupDrawn src c

namespace Composing

theorem left (h : s.Composing p src) (hexact : s.ArithmeticExact) (c : Content) :
    PopupLeft (s.withPlane c) ((s.withPlane c).onAcceleratedPaint p) src :=
  (h.paints.withPlane c).left (s := s.withPlane c) h.mode h.sized (h.plane.withPlane c).1 hexact

theorem pixels (h : s.Composing p src) (hexact : s.ArithmeticExact) (c : Content) :
    ((s.withPlane c).onAcceleratedPaint p).planePixels = s.popupDrawn src c := by
  obtain ⟨d, hd, -, -, hcontent⟩ := (h.left hexact c).plane
  rw [(h.plane.withPlane c).2] at hcontent
  rw [planePixels, hd]
  exact hcontent

theorem popupPlaced_iff (h : s.Composing p src) (hexact : s.ArithmeticExact) (c : Content) :
    ((s.withPlane c).onAcceleratedPaint p).PopupPlaced ↔ s.DrawsInPlace src c := by
  have hleft := h.left hexact c
  obtain ⟨⟨tx, htx, himage⟩, -, -⟩ := hleft.filled
  have himage' : tx.content = (src.image (s.paints + 1)).content :=
    congrArg Image.content himage
  have hrect : ((s.withPlane c).onAcceleratedPaint p).popupRect = s.popupRect := hleft.rect
  have hin : ∀ px py, ((s.withPlane c).onAcceleratedPaint p).InPopup px py ↔ s.InPopup px py := by
    intro px py
    rw [InPopup, hleft.sharedWidth, hleft.sharedHeight, hrect]
    exact Iff.rfl
  simp only [PopupPlaced, DrawsInPlace, hin, hrect, htx, h.pixels hexact c, Option.some.injEq]
  constructor
  · intro hplaced px py hmem
    obtain ⟨tx', t, rfl, ht⟩ := hplaced px py hmem
    exact ⟨t, himage' ▸ ht⟩
  · intro hdrawn px py hmem
    obtain ⟨t, ht⟩ := hdrawn px py hmem
    exact ⟨tx, t, rfl, himage'.symm ▸ ht⟩

theorem view (h : s.Composing p src) (hexact : s.ArithmeticExact) (c : Content) {q : Paint}
    {vsrc : Resource} (ht : q.type = .view)
    (hsource : ((s.withPlane c).onAcceleratedPaint p).source q = some vsrc)
    (hw : vsrc.width = s.textures.sharedWidth) (hh : vsrc.height = s.textures.sharedHeight) :
    (((s.withPlane c).onAcceleratedPaint p).onAcceleratedPaint q).planePixels =
      s.viewDrawn (src.image (s.paints + 1)).content (s.popupDrawn src c) := by
  rw [(h.left hexact c).view h.mode h.paints.visible h.paints.width h.paints.height
    (h.plane.withPlane c).1.ready ht hsource hw hh, h.pixels hexact c]
  rfl

theorem keptByView_iff (h : s.Composing p src) (hexact : s.ArithmeticExact) (c : Content) :
    ((s.withPlane c).onAcceleratedPaint p).KeptByView ↔ s.DrawsAlike src c := by
  have hleft := h.left hexact c
  rw [KeptByView, hleft.sharedWidth, hleft.sharedHeight, h.pixels hexact c]
  constructor
  · intro hkept
    by_cases hcopies : s.CopiesRect
    · -- a view paint with a texture of the frame size
      obtain ⟨hw, hh, hfw, hfh⟩ := hcopies
      have hw' := (int32_pos hw).1
      have hh' := (int32_pos hh).1
      have hzero : (0 : UInt32).toNat = 0 := rfl
      let vsrc : Resource := ⟨0, s.textures.sharedWidth, s.textures.sharedHeight,
        UInt32.lt_iff_toNat_lt.mpr (by omega), UInt32.lt_iff_toNat_lt.mpr (by omega)⟩
      let q : Paint := .succeeding .view []
        (((s.withPlane c).onAcceleratedPaint p).cachedView.handle + 1) vsrc
      have hdevice := device_of_source h.paints.source
      have hsource : ((s.withPlane c).onAcceleratedPaint p).source q = some vsrc := by
        have hd3d : ((s.withPlane c).onAcceleratedPaint p).d3d = s.d3d := hleft.device
        simp [source, cacheHit, cache, q, Paint.succeeding, hd3d, hdevice]
      exact (h.view hexact c rfl hsource rfl rfl).symm.trans (hkept q vsrc rfl hsource rfl rfl)
    · rw [DrawsAlike, viewDrawn, if_neg hcopies]
  · intro hdrawn q vsrc ht hsource hvw hvh
    exact (h.view hexact c ht hsource hvw hvh).trans hdrawn

end Composing

/-! ### Where they agree -/

theorem arithmeticExact_iff (hvisible : s.popupVisible = true) :
    s.ArithmeticExact ↔ s.FarCornerFits := by
  rw [ArithmeticExact, FarCornerFits, Signed.toInt_add_iff, Signed.toInt_add_iff]
  constructor
  · rintro ⟨hx, hy, -⟩
    exact ⟨hx, hy⟩
  · rintro ⟨hx, hy⟩
    rw [clampedPopupRect, if_pos hvisible]
    exact ⟨hx, hy, Signed.toInt_sub_of_nonneg (clamp_nonneg _ _) (clamp_nonneg _ _),
      Signed.toInt_sub_of_nonneg (clamp_nonneg _ _) (clamp_nonneg _ _)⟩

theorem InPopup.meets {px py : ℕ} (h : s.InPopup px py) : s.MeetsFrame := by
  obtain ⟨hw, hh, hx, hx', hy, hy'⟩ := h
  exact ⟨Clipping.meets_of_mem (Int.natCast_nonneg px) (by omega) hx hx',
    Clipping.meets_of_mem (Int.natCast_nonneg py) (by omega) hy hy'⟩

/-- The first pixel of a rectangle that meets the frame. -/
theorem MeetsFrame.first (h : s.MeetsFrame) :
    s.InPopup (Clipping.clip s.popupRect.x.toInt s.textures.sharedWidth.toNat).toNat
      (Clipping.clip s.popupRect.y.toInt s.textures.sharedHeight.toNat).toNat := by
  obtain ⟨hx, hy⟩ := h
  have hx0 := Clipping.clip_nonneg s.popupRect.x.toInt s.textures.sharedWidth.toNat
  have hy0 := Clipping.clip_nonneg s.popupRect.y.toInt s.textures.sharedHeight.toNat
  obtain ⟨hxn, hxa, hxb⟩ := hx.start
  obtain ⟨hyn, hya, hyb⟩ := hy.start
  rw [InPopup, DirtyRect.Contains, Int.toNat_of_nonneg hx0, Int.toNat_of_nonneg hy0]
  exact ⟨by omega, by omega, hxa, hxb, hya, hyb⟩

/-- A pixel of the rectangle, drawn by a popup paint. -/
theorem popupDrawn_of_mem (hvisible : s.popupVisible = true) (hexact : s.ArithmeticExact)
    (hvalid : s.clampedPopupRect.valid = true) (c : Content) {px py : ℕ}
    (hmem : s.InPopup px py) :
    s.popupDrawn src c px py = (src.image (s.paints + 1)).content
      (px - Clipping.clip s.popupRect.x.toInt s.textures.sharedWidth.toNat).toNat
      (py - Clipping.clip s.popupRect.y.toInt s.textures.sharedHeight.toNat).toNat := by
  obtain ⟨⟨hsw, hsh⟩, hmx, hmy⟩ := (valid_iff hvisible hexact).mp hvalid
  obtain ⟨hw, hh, hx, hx', hy, hy'⟩ := hmem
  have hax := axisCopied hexact.1 hsw hmx
  have hay := axisCopied hexact.2.1 hsh hmy
  rw [popupDrawn, if_pos hvalid, ← hax.start, ← hay.start]
  simp only [clampedPopupRect, if_pos hvisible, Corners.width, Corners.height]
  rw [Content.drawn_of_mem (hax.mem hw hx hx') (hay.mem hh hy hy'), Int.toNat_sub, Int.toNat_sub]

theorem PaintsPopup.pixel (h : s.PaintsPopup p src) {px py : ℕ} (hmem : s.InPopup px py) (n : ℕ) :
    (src.image n).content (px - s.popupRect.x.toInt).toNat (py - s.popupRect.y.toInt).toNat =
      some ⟨src.id, n, (px - s.popupRect.x.toInt).toNat, (py - s.popupRect.y.toInt).toNat⟩ := by
  obtain ⟨-, -, hx, hx', hy, hy'⟩ := hmem
  have hw := h.width
  have hh := h.height
  simp only [CefRect.toDirty] at hx hx' hy hy'
  exact if_pos ⟨by omega, by omega⟩

/-- A rectangle that starts in the frame is placed right. -/
theorem PaintsPopup.drawsInPlace (h : s.PaintsPopup p src) (hexact : s.ArithmeticExact)
    (hstart : s.StartsInFrame) (c : Content) : s.DrawsInPlace src c := by
  intro px py hmem
  obtain ⟨⟨hx0, hsw⟩, hy0, hsh⟩ := hstart
  have hvalid := (valid_iff h.visible hexact).mpr ⟨⟨hsw, hsh⟩, hmem.meets⟩
  have hpixel := h.pixel hmem (s.paints + 1)
  refine ⟨_, hpixel, ?_⟩
  rw [popupDrawn_of_mem h.visible hexact hvalid c hmem]
  obtain ⟨hw, hh, hx, -, hy, -⟩ := hmem
  simp only [CefRect.toDirty] at hx hy
  rw [Clipping.clip_of_mem hx0 (by omega), Clipping.clip_of_mem hy0 (by omega)]
  exact hpixel

/-- A rectangle that starts in the frame is drawn again where it is. -/
theorem StartsInFrame.drawsAlike (hstart : s.StartsInFrame) (hvisible : s.popupVisible = true)
    (hexact : s.ArithmeticExact) (c : Content) : s.DrawsAlike src c := by
  by_cases hcopies : s.CopiesRect
  · obtain ⟨⟨hx0, hsw⟩, hy0, hsh⟩ := hstart
    obtain ⟨hw, hh, hfw, hfh⟩ := id hcopies
    have hxnat := int32_toNat (Int32.le_iff_toInt_le.mpr hx0)
    have hynat := int32_toNat (Int32.le_iff_toInt_le.mpr hy0)
    have hwnat := int32_toNat (Int32.le_of_lt hw)
    have hhnat := int32_toNat (Int32.le_of_lt hh)
    have hwpos := (int32_pos hw).2
    have hhpos := (int32_pos hh).2
    have hmeets : s.MeetsFrame :=
      ⟨⟨by omega, by omega, by omega, by omega⟩, by omega, by omega, by omega, by omega⟩
    obtain ⟨hx, hwidth⟩ := (axisCopied hexact.1 hsw hmeets.1).whole hx0 hw hfw
    obtain ⟨hy, hheight⟩ := (axisCopied hexact.2.1 hsh hmeets.2).whole hy0 hh hfh
    have hvalid := (valid_iff hvisible hexact).mpr ⟨⟨hsw, hsh⟩, hmeets⟩
    rw [DrawsAlike, viewDrawn, if_pos hcopies, popupDrawn, if_pos hvalid]
    simp only [clampedPopupRect, if_pos hvisible, Corners.width, Corners.height, hx, hy, hwidth,
      hheight]
    exact Content.drawn_drawn ..
  · rw [DrawsAlike, viewDrawn, if_neg hcopies]

/-! ### Where they do not -/

/-- A rectangle that meets the frame is placed right over a blank plane only if it starts there. -/
theorem PaintsPopup.startsInFrame_of_placed (h : s.PaintsPopup p src)
    (hexact : s.ArithmeticExact) (hmeets : s.MeetsFrame) (hplaced : s.DrawsInPlace src .blank) :
    s.StartsInFrame := by
  have hmem := hmeets.first
  obtain ⟨t, hpixel, hdrawn⟩ := hplaced _ _ hmem
  cases hvalid : s.clampedPopupRect.valid with
  | false =>
    rw [popupDrawn, hvalid, if_neg Bool.false_ne_true] at hdrawn
    cases hdrawn
  | true =>
    obtain ⟨⟨hsw, hsh⟩, -⟩ := (valid_iff h.visible hexact).mp hvalid
    have hx0 := Clipping.clip_nonneg s.popupRect.x.toInt s.textures.sharedWidth.toNat
    have hy0 := Clipping.clip_nonneg s.popupRect.y.toInt s.textures.sharedHeight.toNat
    rw [popupDrawn_of_mem h.visible hexact hvalid .blank hmem, Int.toNat_of_nonneg hx0,
      Int.toNat_of_nonneg hy0, Int.sub_self, Int.sub_self] at hdrawn
    rw [h.pixel hmem, Int.toNat_of_nonneg hx0, Int.toNat_of_nonneg hy0] at hpixel
    -- the texel shown is the corner's, so nothing has been cut off
    have heq := Option.some.inj (hpixel.trans (hdrawn.symm.trans (src.image_corner _)))
    injection heq with _ _ hx hy
    exact ⟨⟨by omega, hsw⟩, by omega, hsh⟩

/-- A rectangle that a view paint copies is already in the plane only if it starts in the frame. -/
theorem CopiesRect.startsInFrame_of_kept (hcopies : s.CopiesRect) (hvisible : s.popupVisible = true)
    (hexact : s.ArithmeticExact) (hkept : s.DrawsAlike src .blank) : s.StartsInFrame := by
  obtain ⟨hw, hh, hfw, hfh⟩ := id hcopies
  cases hvalid : s.clampedPopupRect.valid with
  | false =>
    -- the view paint draws over a blank plane
    have hcorner := congrFun (congrFun hkept s.popupRect.x.toUInt32.toNat)
      s.popupRect.y.toUInt32.toNat
    have hwpos := (int32_pos hw).1
    have hhpos := (int32_pos hh).1
    rw [viewDrawn, if_pos hcopies, popupDrawn, hvalid, if_neg Bool.false_ne_true,
      Content.drawn_of_mem ⟨Nat.le_refl _, by omega⟩ ⟨Nat.le_refl _, by omega⟩, Nat.sub_self,
      Nat.sub_self, src.image_corner] at hcorner
    cases hcorner
  | true =>
    obtain ⟨⟨hsw, hsh⟩, -⟩ := (valid_iff hvisible hexact).mp hvalid
    exact ⟨⟨Signed.nonneg_of_toUInt32_lt (by omega), hsw⟩,
      Signed.nonneg_of_toUInt32_lt (by omega), hsh⟩

/-- **Both paths** place the popup exactly if the rectangle is placeable. -/
theorem Composing.composesPopup_iff (h : s.Composing p src) :
    s.ComposesPopup p ↔ s.Placeable := by
  have hvisible := h.paints.visible
  rw [ComposesPopup, Placeable, arithmeticExact_iff hvisible]
  refine and_congr_right fun hfits => ?_
  have hexact := (arithmeticExact_iff hvisible).mpr hfits
  simp only [h.popupPlaced_iff hexact, h.keptByView_iff hexact]
  constructor
  · intro hall
    obtain ⟨hplaced, hkept⟩ := hall .blank
    by_cases hw : s.popupRect.width ≤ 0
    · exact Or.inl hw
    by_cases hh : s.popupRect.height ≤ 0
    · exact Or.inr (Or.inl hh)
    by_cases hstart : s.StartsInFrame
    · exact Or.inr (Or.inr (Or.inl hstart))
    refine Or.inr (Or.inr (Or.inr ⟨fun hmeets => hstart ?_, fun hfit => hstart ?_⟩))
    · exact h.paints.startsInFrame_of_placed hexact hmeets hplaced
    · have hcopies : s.CopiesRect := ⟨Int32.not_le.mp hw, Int32.not_le.mp hh, hfit⟩
      exact hcopies.startsInFrame_of_kept hvisible hexact hkept
  · intro hplaceable c
    -- an empty rectangle, or one that is nowhere, has no pixels and is not copied
    have hnowhere : ¬ s.MeetsFrame → ¬ s.CopiesRect →
        s.DrawsInPlace src c ∧ s.DrawsAlike src c :=
      fun hmeets hcopies => ⟨fun px py hmem => absurd hmem.meets hmeets,
        by rw [DrawsAlike, viewDrawn, if_neg hcopies]⟩
    rcases hplaceable with hw | hh | hstart | ⟨hmeets, hfit⟩
    · have hw' := Int32.le_iff_toInt_le.mp hw
      have hzero : (0 : Int32).toInt = 0 := rfl
      exact hnowhere (fun hmeets => by have := hmeets.1.1; omega)
        fun hcopies => Int32.not_le.mpr hcopies.1 hw
    · have hh' := Int32.le_iff_toInt_le.mp hh
      have hzero : (0 : Int32).toInt = 0 := rfl
      exact hnowhere (fun hmeets => by have := hmeets.2.1; omega)
        fun hcopies => Int32.not_le.mpr hcopies.2.1 hh
    · exact ⟨h.paints.drawsInPlace hexact hstart c, hstart.drawsAlike hvisible hexact c⟩
    · exact hnowhere hmeets fun hcopies => hfit hcopies.2.2

/-! ### In every state reached -/

/-- Any callback keeps track of the size of the private texture. -/
theorem PopupSized.step (h : s.PopupSized) (c : Callback) : (s.step c).PopupSized := by
  have hleft : ∀ {s' : Painter}, TextureLeft s s' → s'.PopupSized := by
    rintro s' ⟨hsame | hnone, hw, hh⟩ tx htx
    · rw [hw, hh]
      exact h tx (hsame.symm.trans htx)
    · cases hnone.symm.trans htx
  by_cases hpaint : ∃ p, c = .paint p
  · obtain ⟨p, rfl⟩ := hpaint
    rcases (onAcceleratedPaint_texture h p).2 with
      ⟨-, src, -, ⟨tx, htx, himage⟩, hw, hh⟩ | ⟨-, hsame⟩
    · intro tx' htx'
      cases htx.symm.trans htx'
      exact ⟨(congrArg Image.width himage).trans hw.symm,
        (congrArg Image.height himage).trans hh.symm⟩
    · exact hleft hsame
  · exact hleft (s.step_left fun p hc => hpaint ⟨p, hc⟩).1

/-- Some run of callbacks leads to the state. -/
def Reached (s : Painter) : Prop :=
  ∃ names d3d width height callbacks,
    s = Runs.run Painter.step (.init names d3d width height) callbacks

theorem Reached.popup (h : s.Reached) : s.usePopupDedicatedPlane = true ∧ s.PopupSized := by
  obtain ⟨names, d3d, width, height, callbacks, rfl⟩ := h
  have hstep : ∀ (s : Painter) (c : Callback), s.usePopupDedicatedPlane = true ∧ s.PopupSized →
      (s.step c).usePopupDedicatedPlane = true ∧ (s.step c).PopupSized :=
    fun s c h => ⟨(s.step_sameSetup c).2.trans h.1, h.2.step c⟩
  exact Runs.invariant hstep ⟨rfl, fun _ htx => by cases htx⟩ callbacks

/-- The sizes of the planes, to be evaluated. -/
theorem planeAtFrameSize_iff : s.PlaneAtFrameSize ↔
    s.textures.alreadyReady s.textures.sharedWidth s.textures.sharedHeight = true ∧
      (s.textures.texture .popup).map (fun d => (d.width, d.height)) =
        some (s.textures.sharedWidth, s.textures.sharedHeight) := by
  rw [Option.map_eq_some_iff]
  simp only [Prod.mk.injEq]
  exact ⟨fun h => ⟨h.ready, h.plane⟩, fun h => ⟨h.1, h.2⟩⟩

instance : Decidable s.PlaneAtFrameSize := decidable_of_iff _ planeAtFrameSize_iff.symm

end Painter

/-- **Popup composition.** In every state reached, a popup paint and the view paint after it compose
the popup correctly exactly if its rectangle is placeable. -/
theorem popup_composed_iff {s : Painter} {p : Paint} {src : Resource} (hs : s.Reached)
    (hplane : s.PlaneAtFrameSize) (hpaints : s.PaintsPopup p src) :
    s.ComposesPopup p ↔ s.Placeable := by
  obtain ⟨hmode, hsized⟩ := hs.popup
  exact Painter.Composing.composesPopup_iff ⟨hmode, hsized, hplane, hpaints⟩

/-- A view of 16 × 16 over which a popup of 8 × 8 is shown. -/
def popupShownAt (x y : Int32) : Painter :=
  Runs.run Painter.step (.init (buildSharedMemoryNames []) fullD3D 16 16)
    [.paint (.succeeding .view [] 1 .smallView), .popupShow true, .popupSize ⟨x, y, 8, 8⟩]

/-- At (4, 4). -/
theorem popup_composed_inside :
    (popupShownAt 4 4).Reached ∧ (popupShownAt 4 4).PlaneAtFrameSize ∧
      (popupShownAt 4 4).PaintsPopup (.succeeding .popup [] 2 .smallPopup) .smallPopup ∧
      ((popupShownAt 4 4).ComposesPopup (.succeeding .popup [] 2 .smallPopup) ↔
        (popupShownAt 4 4).Placeable) := by
  have hs : (popupShownAt 4 4).Reached := ⟨_, _, _, _, _, rfl⟩
  have hplane : (popupShownAt 4 4).PlaneAtFrameSize := by decide +kernel
  have hpaints : (popupShownAt 4 4).PaintsPopup (.succeeding .popup [] 2 .smallPopup)
      .smallPopup := ⟨rfl, rfl, by decide +kernel, by decide +kernel, by decide +kernel,
    by decide +kernel⟩
  exact ⟨hs, hplane, hpaints, popup_composed_iff hs hplane hpaints⟩

/-- At (-4, 0): the corner of the frame shows column 0 of the popup in place of column 4. -/
theorem popup_shifted_left_of_frame :
    (popupShownAt (-4) 0).Reached ∧ (popupShownAt (-4) 0).PlaneAtFrameSize ∧
      (popupShownAt (-4) 0).PaintsPopup (.succeeding .popup [] 2 .smallPopup) .smallPopup ∧
      ¬ ((popupShownAt (-4) 0).onAcceleratedPaint
        (.succeeding .popup [] 2 .smallPopup)).PopupPlaced := by
  refine ⟨⟨_, _, _, _, _, rfl⟩, by decide +kernel, ⟨rfl, rfl, by decide +kernel,
    by decide +kernel, by decide +kernel, by decide +kernel⟩, fun hplaced => ?_⟩
  set s' := (popupShownAt (-4) 0).onAcceleratedPaint (.succeeding .popup [] 2 .smallPopup) with hs'
  have hmem : s'.InPopup 0 0 := by
    rw [hs']
    exact ⟨by decide +kernel, by decide +kernel, by decide +kernel⟩
  have hshown : s'.planePixels 0 0 = some ⟨2, 2, 0, 0⟩ := by rw [hs']; decide +kernel
  have htexel : s'.popupTexture.map (fun tx => tx.content 4 0) = some (some ⟨2, 2, 4, 0⟩) := by
    rw [hs']; decide +kernel
  have hoffset : ((0 : ℕ) - s'.popupRect.x.toInt).toNat = 4 ∧
      ((0 : ℕ) - s'.popupRect.y.toInt).toNat = 0 := by rw [hs']; decide +kernel
  obtain ⟨tx, t, htx, ht, hdrawn⟩ := hplaced 0 0 hmem
  rw [hoffset.1, hoffset.2] at ht
  rw [htx, Option.map_some, ht, ← hdrawn, hshown] at htexel
  cases htexel

end CefHost
