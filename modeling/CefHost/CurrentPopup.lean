import CefHost.Library.Runs
import CefHost.PopupClipping
import CefHost.PopupPlane

/-!
# The current popup

The private texture outlives the popup that painted it, so between the moment a new popup becomes
visible and its first paint a view paint copies the *previous* popup, at the new popup's rectangle.

A paint of the new popup is not enough either. `OnAcceleratedPaint` keeps the texture it opened for
the last popup paint, and takes it again when the handle value comes back: what it then copies is
what the old popup was painted on.

## What was copied since the popup became visible

`PopupRun.since` is what the popup plane would hold had it been blank when the popup became
visible: the code's own step is taken from a painter whose plane holds `since`. A pixel is in
`since` exactly when it was copied after that, and it is then a pixel of the plane as well
(`PopupRun.Inv.below`).

## Main definitions

* `PopupRun` — the painter, and what has happened since the popup became visible
* `PopupRun.ShowsCurrent` — a publish shows nothing but the current popup
* `PopupRun.StaleCopy` — something else is copied into the popup plane

## Main results

* `popup_plane_current` — whole runs of callbacks
-/

namespace CefHost

/-! ### Since the popup became visible -/

/-- `OnPopupShow(true)`. -/
def Callback.showsPopup : Callback → Bool
  | .popupShow visible => visible
  | _ => false

/-- The painter, and what has happened since the most recent `OnPopupShow(true)`. -/
structure PopupRun where
  painter : Painter
  /-- The popup paints since then: their numbers, and the textures their handles denoted. -/
  popupPaints : List (ℕ × ℕ)
  /-- The private texture was last filled by one of them, with what its handle denoted. -/
  filled : Bool
  /-- What has been copied into the popup plane since then. -/
  since : Content

/-- A pixel of the rectangle. -/
def DirtyRect.Contains (r : DirtyRect) (x y : ℕ) : Prop :=
  r.x.toInt ≤ x ∧ (x : ℤ) < r.x.toInt + r.w.toInt ∧ r.y.toInt ≤ y ∧ (y : ℤ) < r.y.toInt + r.h.toInt

instance (r : DirtyRect) (x y : ℕ) : Decidable (r.Contains x y) :=
  inferInstanceAs (Decidable (_ ∧ _))

namespace PopupRun

def init (s : Painter) : PopupRun := ⟨s, [], false, .blank⟩

/-- The popup paints, with this callback's. -/
def paintsWith (r : PopupRun) : Callback → List (ℕ × ℕ)
  | .paint p =>
    if p.type = .popup then (r.painter.paints + 1, p.resource.id) :: r.popupPaints
    else r.popupPaints
  | _ => r.popupPaints

/-- Whether the private texture is filled, with this callback. -/
def filledWith (r : PopupRun) : Callback → Bool
  | .paint p => if r.painter.fillsPopup p then r.painter.getsDenoted p else r.filled
  | _ => r.filled

def step (r : PopupRun) (c : Callback) : PopupRun :=
  if c.showsPopup then ⟨r.painter.step c, [], false, .blank⟩
  else ⟨r.painter.step c, r.paintsWith c, r.filledWith c,
    ((r.painter.withPlane r.since).step c).planePixels⟩

/-- If the step publishes a frame with a visible popup, then the pixels of the popup plane within
its rectangle that have been copied since the popup became visible come from its own paints, and
from the textures CEF handed over with them. -/
def ShowsCurrent (r : PopupRun) (c : Callback) : Prop :=
  let r' := r.step c
  r.painter.nextFrameId < r'.painter.nextFrameId → r'.painter.header.popupVisible = 1 →
    ∀ x y t, r'.painter.header.popupRect.Contains x y → r'.since x y = some t →
      r'.painter.planePixels x y = some t ∧ (t.paint, t.resource) ∈ r'.popupPaints

/-- A view paint copies the private texture although the popup has not filled it yet, or a popup
paint copies a texture from the cache that is not what its handle denotes. -/
def StaleCopy (r : PopupRun) : Callback → Prop
  | .paint p => (r.painter.CopiesPopup p ∧ r.filled = false) ∨
      (r.painter.RefreshesPopup p ∧ r.painter.getsDenoted p = false)
  | _ => False

/-- The private texture is the work of one popup paint, and `filled` says whether of the current
popup; what has been copied since is in the plane, and the current popup's own. -/
structure Inv (r : PopupRun) : Prop where
  mode : r.painter.usePopupDedicatedPlane = true
  counted : ∀ n ∈ r.popupPaints, n.1 ≤ r.painter.paints
  texture : ∀ tx, r.painter.popupTexture = some tx → ∃ src n, r.painter.Filled src n ∧
    n ≤ r.painter.paints ∧ (r.filled = true ↔ (n, src.id) ∈ r.popupPaints)
  below : r.since.Below r.painter.planePixels
  own : ∀ x y t, r.since x y = some t → (t.paint, t.resource) ∈ r.popupPaints

theorem inv_init (names : SharedMemoryNames) (d3d : D3DInterfaces) (width height : UInt32) :
    (init (.init names d3d width height)).Inv where
  mode := rfl
  counted := by simp [init]
  texture _ h := by cases h
  below _ _ _ h := by cases h
  own _ _ _ h := by cases h

variable {r : PopupRun}

theorem Inv.sized (h : r.Inv) : r.painter.PopupSized := by
  intro tx htx
  obtain ⟨src, n, ⟨⟨ux, hux, himage⟩, hw, hh⟩, -⟩ := h.texture tx htx
  cases htx.symm.trans hux
  rw [hw, hh]
  exact ⟨congrArg Image.width himage, congrArg Image.height himage⟩

/-- The pixels of the private texture are all from one paint. -/
theorem Inv.texel (h : r.Inv) {tx : Texture} (htx : r.painter.popupTexture = some tx) {i j : ℕ}
    {t : Texel} (ht : tx.content i j = some t) :
    r.filled = true ↔ (t.paint, t.resource) ∈ r.popupPaints := by
  obtain ⟨src, n, ⟨⟨ux, hux, himage⟩, -, -⟩, -, hiff⟩ := h.texture tx htx
  cases htx.symm.trans hux
  rw [congrArg Image.content himage] at ht
  obtain ⟨hresource, hpaint⟩ := Resource.image_texel ht
  rw [hresource, hpaint]
  exact hiff

theorem step_painter (r : PopupRun) (c : Callback) : (r.step c).painter = r.painter.step c := by
  by_cases hc : c.showsPopup = true
  · rw [step, if_pos hc]
  · rw [step, if_neg hc]

/-- A private texture that is left alone is still filled by the same paint. -/
theorem Inv.left (h : r.Inv) {s' : Painter} (hleft : Painter.TextureLeft r.painter s')
    {tx : Texture} (htx : s'.popupTexture = some tx) : ∃ src n, s'.Filled src n ∧
      n ≤ r.painter.paints ∧ (r.filled = true ↔ (n, src.id) ∈ r.popupPaints) := by
  have hold : r.painter.popupTexture = some tx := by
    rcases hleft.texture with heq | hnone
    · exact heq.symm.trans htx
    · cases hnone.symm.trans htx
  obtain ⟨src, n, ⟨⟨ux, hux, himage⟩, hw, hh⟩, hn, hiff⟩ := h.texture tx hold
  cases hold.symm.trans hux
  exact ⟨src, n, ⟨⟨tx, htx, himage⟩, hleft.width.trans hw, hleft.height.trans hh⟩, hn, hiff⟩

theorem mem_paintsWith (r : PopupRun) (c : Callback) {n : ℕ × ℕ} (hn : n ∈ r.popupPaints) :
    n ∈ r.paintsWith c := by
  cases c with
  | paint p =>
    rw [paintsWith]
    split
    · exact List.mem_cons_of_mem _ hn
    · exact hn
  | _ => exact hn

/-- Of the paint that comes next, only what its handle denotes is the popup's own. -/
theorem Inv.mem_paintsWith_paint (h : r.Inv) {p : Paint} (ht : p.type = .popup) {id : ℕ} :
    (r.painter.paints + 1, id) ∈ r.paintsWith (.paint p) ↔ id = p.resource.id := by
  rw [paintsWith, if_pos ht, List.mem_cons, Prod.mk.injEq, and_iff_right rfl, or_iff_left]
  intro hold
  exact absurd (h.counted _ hold) (Nat.not_succ_le_self _)

/-- What is drawn comes from the current popup's paints, unless it is a stale copy. -/
theorem Inv.source_mem (h : r.Inv) {c : Callback} (hstale : ¬ r.StaleCopy c) {t : Texel}
    (ht : r.painter.Source c t) : (t.paint, t.resource) ∈ r.paintsWith c := by
  cases c with
  | paint p =>
    obtain ⟨hview, hpopup⟩ := not_or.mp hstale
    rcases ht with ⟨hcopies, tx, i, j, htx, hpixel⟩ | ⟨hrefreshes, src, hsrc, hresource, hpaint⟩
    · have hfilled : r.filled = true := by
        by_contra hfilled
        exact hview ⟨hcopies, Bool.eq_false_iff.mpr hfilled⟩
      exact r.mem_paintsWith _ ((h.texel htx hpixel).mp hfilled)
    · have hdenoted : r.painter.getsDenoted p = true := by
        by_contra hdenoted
        exact hpopup ⟨hrefreshes, Bool.eq_false_iff.mpr hdenoted⟩
      rw [hpaint, hresource, h.mem_paintsWith_paint (Painter.type_of_fillsPopup hrefreshes.1)]
      exact (Painter.getsDenoted_iff hsrc).mp hdenoted
  | _ => exact ht.elim

theorem Inv.step_mode (h : r.Inv) (c : Callback) :
    (r.step c).painter.usePopupDedicatedPlane = true := by
  rw [step_painter]
  exact (r.painter.step_sameSetup c).2.trans h.mode

/-- A popup that becomes visible: nothing has been copied yet. -/
theorem Inv.next_shown (h : r.Inv) {c : Callback} (hshow : c.showsPopup = true) :
    (r.step c).Inv := by
  have hmode := h.step_mode c
  have hquiet : ∀ p, c ≠ .paint p := by
    rintro p rfl
    cases hshow
  obtain ⟨hleft, hpaints⟩ := r.painter.step_left hquiet
  rw [step, if_pos hshow] at hmode ⊢
  have hblank : ∀ x y t, Content.blank x y ≠ some t := by simp [Content.blank]
  refine ⟨hmode, by simp, fun tx htx => ?_, fun x y t ht => absurd ht (hblank x y t),
    fun x y t ht => absurd ht (hblank x y t)⟩
  obtain ⟨src, n, hfilled, hn, -⟩ := h.left hleft htx
  exact ⟨src, n, hfilled, hn.trans_eq hpaints.symm, by simp⟩

/-- What has been copied since is still in the plane. -/
theorem Inv.below_step (h : r.Inv) (c : Callback) :
    ((r.painter.withPlane r.since).step c).planePixels.Below (r.painter.step c).planePixels := by
  have hbelow := (r.painter.step_draws h.mode h.sized c).mono r.since r.painter.planePixels h.below
  rwa [Painter.withPlane_self] at hbelow

/-- And it is the current popup's own. -/
theorem Inv.own_step (h : r.Inv) {c : Callback} (hstale : ¬ r.StaleCopy c) {x y : ℕ} {t : Texel}
    (ht : ((r.painter.withPlane r.since).step c).planePixels x y = some t) :
    (t.paint, t.resource) ∈ r.paintsWith c := by
  rcases (r.painter.step_draws h.mode h.sized c).source r.since x y t ht with hold | hnew
  · exact r.mem_paintsWith c (h.own x y t hold)
  · exact h.source_mem hstale hnew

theorem Inv.paintsWith_le (h : r.Inv) (p : Paint) :
    ∀ n ∈ r.paintsWith (.paint p), n.1 ≤ r.painter.paints + 1 := by
  intro n hn
  rw [paintsWith] at hn
  split at hn
  · rcases List.mem_cons.mp hn with rfl | hn
    · exact Nat.le_refl _
    · exact Nat.le_succ_of_le (h.counted n hn)
  · exact Nat.le_succ_of_le (h.counted n hn)

/-- A paint fills the private texture, or leaves it alone. -/
theorem Inv.next_paint (h : r.Inv) {p : Paint} (hstale : ¬ r.StaleCopy (.paint p)) :
    (r.step (.paint p)).Inv := by
  have hmode := h.step_mode (.paint p)
  have hshow : ¬ (Callback.paint p).showsPopup = true := by simp [Callback.showsPopup]
  obtain ⟨hpaints, hfills⟩ := Painter.onAcceleratedPaint_texture h.sized p
  rw [step, if_neg hshow] at hmode ⊢
  refine ⟨hmode, fun n hn => (h.paintsWith_le p n hn).trans_eq hpaints.symm, fun tx htx => ?_,
    h.below_step _, fun _ _ _ => h.own_step hstale⟩
  rcases hfills with ⟨hfills, src, hsrc, hfilled⟩ | ⟨hfills, hleft⟩
  · refine ⟨src, r.painter.paints + 1, hfilled, hpaints.ge, ?_⟩
    rw [filledWith, if_pos hfills, Painter.getsDenoted_iff hsrc,
      h.mem_paintsWith_paint (Painter.type_of_fillsPopup hfills)]
  · obtain ⟨src, n, hfilled, hn, hiff⟩ := h.left hleft htx
    refine ⟨src, n, hfilled, (Nat.le_succ_of_le hn).trans_eq hpaints.symm, ?_⟩
    rw [filledWith, hfills, if_neg Bool.false_ne_true, hiff, paintsWith]
    split
    · rw [List.mem_cons, Prod.mk.injEq, or_iff_right (by omega)]
    · exact Iff.rfl

/-- Any other callback leaves the private texture and the books alone. -/
theorem Inv.next_quiet (h : r.Inv) {c : Callback} (hshow : ¬ c.showsPopup = true)
    (hquiet : ∀ p, c ≠ .paint p) (hstale : ¬ r.StaleCopy c) : (r.step c).Inv := by
  have hmode := h.step_mode c
  obtain ⟨hleft, hpaints⟩ := r.painter.step_left hquiet
  have hsame : r.paintsWith c = r.popupPaints ∧ r.filledWith c = r.filled := by
    cases c with
    | paint p => exact absurd rfl (hquiet p)
    | _ => exact ⟨rfl, rfl⟩
  rw [step, if_neg hshow] at hmode ⊢
  refine ⟨hmode, fun n hn => ?_, fun tx htx => ?_, h.below_step _, fun _ _ _ => h.own_step hstale⟩
  · rw [hsame.1] at hn
    exact (h.counted n hn).trans_eq hpaints.symm
  · obtain ⟨src, n, hfilled, hn, hiff⟩ := h.left hleft htx
    refine ⟨src, n, hfilled, hn.trans_eq hpaints.symm, ?_⟩
    rw [hsame.1, hsame.2]
    exact hiff

/-- **One step** without a stale copy. -/
theorem Inv.next (h : r.Inv) {c : Callback} (hstale : ¬ r.StaleCopy c) : (r.step c).Inv := by
  by_cases hshow : c.showsPopup = true
  · exact h.next_shown hshow
  · by_cases hpaint : ∃ p, c = .paint p
    · obtain ⟨p, rfl⟩ := hpaint
      exact h.next_paint hstale
    · exact h.next_quiet hshow (fun p hc => hpaint ⟨p, hc⟩) hstale

theorem Inv.showsCurrent (h : r.Inv) {c : Callback} (hstale : ¬ r.StaleCopy c) :
    r.ShowsCurrent c :=
  fun _ _ x y t _ ht => ⟨(h.next hstale).below x y t ht, (h.next hstale).own x y t ht⟩

end PopupRun

/-! ### A stale copy shows -/

namespace Painter

variable {s : Painter} {p : Paint}

theorem CopiesPopup.withPlane (h : s.CopiesPopup p) (c : Content) :
    (s.withPlane c).CopiesPopup p := by
  obtain ⟨ht, hvisible, hw, hh, src, tx, plane, hsrc, hready, htx, hplane, hfits⟩ := h
  have hready' : (s.withPlane c).texturesReady src.width src.height p.create = true := by
    rw [texturesReady, withPlane_alreadyReady]
    exact hready
  rw [planeFor] at hplane
  cases hold : s.textures.alreadyReady src.width src.height with
  | true =>
    rw [hold, if_pos rfl] at hplane
    refine ⟨ht, hvisible, hw, hh, src, tx, plane.withContent c, hsrc, hready', htx, ?_, hfits⟩
    rw [planeFor, withPlane_alreadyReady, hold, if_pos rfl, withPlane_popup, hplane]
    rfl
  | false =>
    rw [hold, if_neg Bool.false_ne_true] at hplane
    refine ⟨ht, hvisible, hw, hh, src, tx, plane, hsrc, hready', htx, ?_, hfits⟩
    rw [planeFor, withPlane_alreadyReady, hold, if_neg Bool.false_ne_true]
    exact hplane

/-- The corner of the private texture is copied to the corner of the rectangle. -/
theorem CopiesPopup.corner (hmode : s.usePopupDedicatedPlane = true) (h : s.CopiesPopup p)
    {tx : Texture} (htx : s.popupTexture = some tx) :
    (s.onAcceleratedPaint p).planePixels s.popupRect.x.toUInt32.toNat
      s.popupRect.y.toUInt32.toNat = tx.content 0 0 := by
  obtain ⟨ht, hvisible, hw, hh, src, tx', plane, hsrc, hready, htx', hplane, hfits⟩ := h
  cases htx.symm.trans htx'
  have hplane' : (s.onAcceleratedPaint p).planePixels =
      planeContent (s.composited (some plane)) := by
    rw [onAcceleratedPaint_plane hmode hsrc ht hready, hplane]
  have hw' := (int32_pos hw).1
  have hh' := (int32_pos hh).1
  rw [hplane', composited, htx, hvisible]
  simp only [hw, hh, decide_true, Bool.and_self, if_true, Option.map_some, planeContent,
    Option.getD_some, Texture.copySubresourceRegion, if_pos hfits]
  have hzero : (cornerBox s.popupRect.width s.popupRect.height).left.toNat = 0 ∧
      (cornerBox s.popupRect.width s.popupRect.height).top.toNat = 0 := ⟨rfl, rfl⟩
  have hsize : (cornerBox s.popupRect.width s.popupRect.height).right.toNat =
      s.popupRect.width.toUInt32.toNat ∧
      (cornerBox s.popupRect.width s.popupRect.height).bottom.toNat =
        s.popupRect.height.toUInt32.toNat := ⟨rfl, rfl⟩
  rw [hzero.1, hzero.2, hsize.1, hsize.2, if_pos (by omega), Nat.sub_self, Nat.sub_self]

/-- What the publish says about the popup. -/
theorem CopiesPopup.header (hmode : s.usePopupDedicatedPlane = true) (h : s.CopiesPopup p) :
    s.nextFrameId < (s.onAcceleratedPaint p).nextFrameId ∧
      (s.onAcceleratedPaint p).header.popupVisible = 1 ∧
      (s.onAcceleratedPaint p).header.popupRect = s.popupRect.toDirty := by
  obtain ⟨ht, hvisible, -, -, src, -, -, hsrc, hready, -⟩ := h
  have hpub : s.PublishesView p := publishesView_iff.mpr ⟨ht, src, hsrc, hready⟩
  refine ⟨hpub.2, ?_⟩
  have hlt := hpub.2
  rcases s.onAcceleratedPaint_cases p with ⟨hnot, -⟩ |
    ⟨-, -, src', e, recreated, -, -, hprep, heq⟩ | ⟨-, ht', -⟩
  · rw [(s.onAcceleratedPaint_published p).1, hnot] at hlt
    exact absurd hlt (Nat.lt_irrefl _)
  · obtain ⟨count, rects, -, hheader⟩ := e.publishView_header p src' recreated (s.collectDirty p)
    rw [heq, hheader]
    dsimp only
    rw [hprep.mode, hprep.popupVisible, hprep.popupRect, hmode, hvisible]
    exact ⟨rfl, rfl⟩
  · cases ht.symm.trans ht'

theorem RefreshesPopup.withPlane (h : s.RefreshesPopup p) (c : Content) :
    (s.withPlane c).RefreshesPopup p := by
  obtain ⟨hfills, hready, hvisible, hvalid, src, plane, hsrc, hplane, hfits⟩ := h
  have hplane' : (s.withPlane c).textures.texture .popup = some (plane.withContent c) := by
    rw [withPlane_popup, hplane]
    rfl
  refine ⟨hfills, ?_, hvisible, hvalid, src, plane.withContent c, hsrc, hplane', hfits⟩
  rw [popupPlaneReady, hplane] at hready
  rw [popupPlaneReady, hplane']
  exact hready

/-- The corner of the texture is copied to the corner of what is left of the rectangle. -/
theorem RefreshesPopup.corner (hsize : s.PopupSized) (h : s.RefreshesPopup p) {src : Resource}
    (hsrc : s.source p = some src) :
    (s.onAcceleratedPaint p).planePixels s.clampedPopupRect.x0.toUInt32.toNat
      s.clampedPopupRect.y0.toUInt32.toNat = some ⟨src.id, s.paints + 1, 0, 0⟩ := by
  obtain ⟨hfills, hready, hvisible, hvalid, src', plane, hsrc', hplane, hfits⟩ := h
  cases hsrc.symm.trans hsrc'
  have ht : p.type = .popup := type_of_fillsPopup hfills
  obtain ⟨view, popup, hopened⟩ := s.opened_eq p src
  set e : Painter := { s with
    paints := s.paints + 1, cachedView := view, cachedPopup := popup }
  have htexture : e.popupTextureReady p src = true := (fillsPopup_eq hsrc ht).symm.trans hfills
  have hdrawn : (s.onAcceleratedPaint p).textures.texture .popup =
      some (plane.copySubresourceRegion s.clampedPopupRect.x0.toUInt32
        s.clampedPopupRect.y0.toUInt32 (src.image (s.paints + 1))
        (cornerBox s.clampedPopupRect.width s.clampedPopupRect.height)) := by
    have hcond : (e.popupPlaneReady && (e.popupVisible && e.clampedPopupRect.valid)) = true := by
      rw [Bool.and_eq_true, Bool.and_eq_true]
      exact ⟨hready, hvisible, hvalid⟩
    have hsize' : e.PopupSized := hsize
    have hplane' : e.textures.texture .popup = some plane := hplane
    rw [onAcceleratedPaint_popup hsrc ht, hopened, (paintPopup_plane hsize' htexture).2, hplane',
      refreshed, if_pos hcond]
    rfl
  have hfits' : (cornerBox s.clampedPopupRect.width s.clampedPopupRect.height).fits
      (src.image (s.paints + 1)) plane.toImage s.clampedPopupRect.x0.toUInt32
      s.clampedPopupRect.y0.toUInt32 = true := hfits
  rw [Corners.valid, Bool.and_eq_true, decide_eq_true_eq, decide_eq_true_eq] at hvalid
  have hw : 0 < s.clampedPopupRect.width.toUInt32.toNat := clamp_sub_pos hvalid.1
  have hh : 0 < s.clampedPopupRect.height.toUInt32.toNat := clamp_sub_pos hvalid.2
  rw [planePixels, hdrawn, planeContent, Option.map_some, Option.getD_some,
    Texture.copySubresourceRegion_cornerBox, if_pos hfits',
    Content.drawn_of_mem ⟨Nat.le_refl _, by omega⟩ ⟨Nat.le_refl _, by omega⟩, Nat.sub_self,
    Nat.sub_self, src.image_corner]

/-- That corner is a pixel of the rectangle. -/
theorem RefreshesPopup.contains (h : s.RefreshesPopup p) (hw : 0 ≤ s.popupRect.width)
    (hh : 0 ≤ s.popupRect.height) :
    s.popupRect.toDirty.Contains s.clampedPopupRect.x0.toUInt32.toNat
      s.clampedPopupRect.y0.toUInt32.toNat := by
  obtain ⟨-, -, hvisible, hvalid, -⟩ := h
  rw [Corners.valid, Bool.and_eq_true, decide_eq_true_eq, decide_eq_true_eq] at hvalid
  rw [clampedPopupRect, if_pos hvisible] at hvalid ⊢
  obtain ⟨hx, hx'⟩ := clamp_mem (Int32.le_iff_toInt_le.mp hw) hvalid.1
  obtain ⟨hy, hy'⟩ := clamp_mem (Int32.le_iff_toInt_le.mp hh) hvalid.2
  exact ⟨hx, hx', hy, hy'⟩

/-- What the publish says about the popup. -/
theorem RefreshesPopup.header (h : s.RefreshesPopup p) :
    s.nextFrameId < (s.onAcceleratedPaint p).nextFrameId ∧
      (s.onAcceleratedPaint p).header.popupVisible = 1 ∧
      (s.onAcceleratedPaint p).header.popupRect = s.popupRect.toDirty := by
  obtain ⟨hfills, hready, hvisible, -, src, -, hsrc, -⟩ := h
  have ht : p.type = .popup := type_of_fillsPopup hfills
  have hpub : s.publishes p = true := by
    rw [publishes, hsrc, ht]
    exact Bool.and_eq_true_iff.mpr ⟨(fillsPopup_eq hsrc ht).symm.trans hfills, hready⟩
  rcases s.onAcceleratedPaint_cases p with ⟨hnot, -⟩ | ⟨-, ht', -⟩ |
    ⟨-, -, e, hprep, -, -, heq⟩
  · cases hpub.symm.trans hnot
  · cases ht.symm.trans ht'
  · have hnext := (s.onAcceleratedPaint_published p).1
    obtain ⟨rects, hheader⟩ := e.publishPopupPlane_header p s.clampedPopupRect
    rw [hnext, hpub, heq, hheader]
    dsimp only
    rw [hprep.popupVisible, hprep.popupRect, hvisible]
    exact ⟨Nat.lt_succ_self _, rfl, rfl⟩

end Painter

namespace PopupRun

variable {r : PopupRun}

/-- One pixel that is not the popup's own is enough. -/
theorem not_showsCurrent_of_pixel {c : Callback} {x y : ℕ} {t : Texel}
    (hpub : r.painter.nextFrameId < (r.step c).painter.nextFrameId ∧
      (r.step c).painter.header.popupVisible = 1 ∧
      (r.step c).painter.header.popupRect = r.painter.popupRect.toDirty)
    (hin : r.painter.popupRect.toDirty.Contains x y) (hsince : (r.step c).since x y = some t)
    (hnot : (t.paint, t.resource) ∉ (r.step c).popupPaints) : ¬ r.ShowsCurrent c := by
  obtain ⟨hlt, hvisible, hrect⟩ := hpub
  intro hcurrent
  rw [← hrect] at hin
  exact hnot (hcurrent hlt hvisible x y t hin hsince).2

/-- The pixel that a stale copy of the private texture leaves at the corner. -/
theorem Inv.not_showsCurrent_view (h : r.Inv) {p : Paint} (hcopies : r.painter.CopiesPopup p)
    (hfilled : r.filled = false) (hx : 0 ≤ r.painter.popupRect.x)
    (hy : 0 ≤ r.painter.popupRect.y) : ¬ r.ShowsCurrent (.paint p) := by
  obtain ⟨ht, -, hw, hh, src, tx, plane, -, -, htx, -⟩ := id hcopies
  have hpaints : (r.step (.paint p)).popupPaints = r.popupPaints := by
    have hne : p.type ≠ .popup := by
      rw [ht]
      exact PaintElementType.noConfusion
    change r.paintsWith (.paint p) = _
    rw [paintsWith, if_neg hne]
  obtain ⟨src', n, ⟨⟨ux, hux, himage⟩, -, -⟩, -, -⟩ := h.texture tx htx
  cases htx.symm.trans hux
  have hcorner : tx.content 0 0 = some ⟨src'.id, n, 0, 0⟩ := by
    rw [congrArg Image.content himage, src'.image_corner]
  have hsince : (r.step (.paint p)).since r.painter.popupRect.x.toUInt32.toNat
      r.painter.popupRect.y.toUInt32.toNat = some ⟨src'.id, n, 0, 0⟩ := by
    have hmode : (r.painter.withPlane r.since).usePopupDedicatedPlane = true := h.mode
    have htx' : (r.painter.withPlane r.since).popupTexture = some tx := htx
    rw [← hcorner]
    exact (hcopies.withPlane r.since).corner hmode htx'
  have hin : r.painter.popupRect.toDirty.Contains r.painter.popupRect.x.toUInt32.toNat
      r.painter.popupRect.y.toUInt32.toNat := by
    have hw' := (int32_pos hw).2
    have hh' := (int32_pos hh).2
    rw [DirtyRect.Contains, int32_toNat hx, int32_toNat hy]
    exact ⟨Int.le_refl _, by simp only [CefRect.toDirty]; omega, Int.le_refl _,
      by simp only [CefRect.toDirty]; omega⟩
  refine not_showsCurrent_of_pixel (hcopies.header h.mode) hin hsince fun hmem => ?_
  rw [hpaints] at hmem
  exact absurd ((h.texel htx hcorner).mpr hmem) (by rw [hfilled]; exact Bool.false_ne_true)

/-- And the one that a popup paint leaves which has got another texture. -/
theorem Inv.not_showsCurrent_popup (h : r.Inv) {p : Paint}
    (hrefreshes : r.painter.RefreshesPopup p) (hother : r.painter.getsDenoted p = false)
    (hw : 0 ≤ r.painter.popupRect.width) (hh : 0 ≤ r.painter.popupRect.height) :
    ¬ r.ShowsCurrent (.paint p) := by
  obtain ⟨hfills, -, -, -, src, -, hsrc, -⟩ := id hrefreshes
  have hsince : (r.step (.paint p)).since r.painter.clampedPopupRect.x0.toUInt32.toNat
      r.painter.clampedPopupRect.y0.toUInt32.toNat =
        some ⟨src.id, r.painter.paints + 1, 0, 0⟩ := by
    have hsize : (r.painter.withPlane r.since).PopupSized := h.sized
    have hsrc' : (r.painter.withPlane r.since).source p = some src := hsrc
    exact (hrefreshes.withPlane r.since).corner hsize hsrc'
  refine not_showsCurrent_of_pixel hrefreshes.header (hrefreshes.contains hw hh) hsince
    fun hmem => ?_
  have hdenoted := (h.mem_paintsWith_paint (Painter.type_of_fillsPopup hfills)).mp hmem
  rw [(Painter.getsDenoted_iff hsrc).mpr hdenoted] at hother
  cases hother

end PopupRun

/-- No popup is copied with its corner outside the plane by a view paint, or with a negative size by
a popup paint. The coordinates are converted to unsigned ones, so a negative corner is within a
plane only if that is wider than any texture of Direct3D; and a negative size leaves something of
the rectangle only if its far end overflows. -/
def PopupRun.CornerWithin (r : PopupRun) : Callback → Prop
  | .paint p =>
    (r.painter.CopiesPopup p → 0 ≤ r.painter.popupRect.x ∧ 0 ≤ r.painter.popupRect.y) ∧
      (r.painter.RefreshesPopup p →
        0 ≤ r.painter.popupRect.width ∧ 0 ≤ r.painter.popupRect.height)
  | _ => True

/-- **The first stale copy** is shown. -/
theorem PopupRun.Inv.not_showsCurrent {r : PopupRun} (h : r.Inv) {c : Callback}
    (hwithin : r.CornerWithin c) (hstale : r.StaleCopy c) : ¬ r.ShowsCurrent c := by
  cases c with
  | paint p =>
    rcases hstale with ⟨hcopies, hfilled⟩ | ⟨hrefreshes, hother⟩
    · obtain ⟨hx, hy⟩ := hwithin.1 hcopies
      exact h.not_showsCurrent_view hcopies hfilled hx hy
    · obtain ⟨hw, hh⟩ := hwithin.2 hrefreshes
      exact h.not_showsCurrent_popup hrefreshes hother hw hh
  | _ => exact hstale.elim

/-- **Runs of callbacks**: without stale copies every publish shows only the current popup, and with
one some publish does not. -/
theorem popup_plane_current (names : SharedMemoryNames) (d3d : D3DInterfaces)
    (width height : UInt32) (callbacks : List Callback) :
    let start : PopupRun := .init (.init names d3d width height)
    (Runs.Along PopupRun.step (fun r c => ¬ r.StaleCopy c) start callbacks →
      Runs.Along PopupRun.step PopupRun.ShowsCurrent start callbacks) ∧
    (Runs.Along PopupRun.step PopupRun.CornerWithin start callbacks →
      Runs.Along PopupRun.step PopupRun.ShowsCurrent start callbacks →
        Runs.Along PopupRun.step (fun r c => ¬ r.StaleCopy c) start callbacks) := by
  intro start
  have hstart : start.Inv := PopupRun.inv_init names d3d width height
  constructor
  · exact Runs.along_of_invariant (fun r c h hstale => h.next hstale)
      (fun r c h hstale => h.showsCurrent hstale) hstart
  · intro hwithin hcurrent
    have hfresh : ∀ (r : PopupRun) (c : Callback), r.Inv → r.CornerWithin c ∧ r.ShowsCurrent c →
        ¬ r.StaleCopy c := fun r c h hG hstale => h.not_showsCurrent hG.1 hstale hG.2
    exact Runs.along_of_invariant (fun r c h hG => h.next (hfresh r c h hG)) hfresh hstart
      (Runs.along_and.mpr ⟨hwithin, hcurrent⟩)

/-- A popup is painted at the corner of the view and hidden, the next one is shown at (4, 4), and a
view frame comes before its first paint. -/
def secondPopup : List Callback :=
  [.paint (.succeeding .view [] 1 .smallView),
    .popupShow true, .popupSize ⟨0, 0, 8, 8⟩,
    .paint (.succeeding .popup [] 2 .smallPopup),
    .popupShow false, .popupShow true, .popupSize ⟨4, 4, 8, 8⟩,
    .paint (.succeeding .view [] 1 .smallView)]

/-- The view frame shows the first popup at the place of the second. -/
theorem second_popup_shows_first :
    ¬ Runs.Along PopupRun.step PopupRun.ShowsCurrent
      (.init (.init (buildSharedMemoryNames []) fullD3D 16 16)) secondPopup := by
  rintro ⟨-, -, -, -, -, -, -, hlast, -⟩
  obtain ⟨-, hmem⟩ := hlast (by decide +kernel) (by decide +kernel) 4 4 ⟨2, 2, 0, 0⟩
    (by decide +kernel) (by decide +kernel)
  exact absurd hmem (by decide +kernel)

/-- The second popup is painted, and its texture comes under the handle value of the first one's. -/
def recycledPopupHandle : List Callback :=
  secondPopup.take 7 ++
    [.paint (.succeeding .popup [] 2 ⟨3, 8, 8, zero_lt_eight, zero_lt_eight⟩)]

/-- What it shows is the texture of the first. -/
example : ¬ Runs.Along PopupRun.step PopupRun.ShowsCurrent
    (.init (.init (buildSharedMemoryNames []) fullD3D 16 16)) recycledPopupHandle := by
  rintro ⟨-, -, -, -, -, -, -, hlast, -⟩
  obtain ⟨-, hmem⟩ := hlast (by decide +kernel) (by decide +kernel) 4 4 ⟨2, 3, 0, 0⟩
    (by decide +kernel) (by decide +kernel)
  exact absurd hmem (by decide +kernel)

end CefHost
