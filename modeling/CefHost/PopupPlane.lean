import CefHost.PublishCases

/-!
# The popup plane

A popup paint goes into a private texture and from there into the shared popup plane. A view paint
copies the private texture again when a popup is visible, and makes a new, blank plane when it
recreates the textures.

What a callback adds to the plane does not depend on what the plane holds. So the code's own step
can be taken from a painter with another plane (`Painter.withPlane`), for instance a blank one, to
find out what has been copied since some moment.

## Main definitions

* `Draws` — drawing over a content
* `Painter.CopiesPopup` — the view paint copies the private texture into the popup plane
* `Painter.fillsPopup` — the popup paint fills the private texture
* `Painter.RefreshesPopup` — and copies it into the popup plane
* `Painter.getsDenoted` — the paint gets the texture its handle denotes

## Main results

* `Painter.step_draws` — what a callback adds to the popup plane, and where it comes from
* `Painter.onAcceleratedPaint_texture`, `Painter.step_left` — what becomes of the private texture
-/

namespace CefHost

/-! ### Drawing over a content -/

/-- The pixels of `c` are all there in `c'`. -/
def Content.Below (c c' : Content) : Prop := ∀ x y t, c x y = some t → c' x y = some t

theorem Content.Below.refl (c : Content) : c.Below c := fun _ _ _ h => h

/-- `f` draws over a content, always the same and nothing but pixels in `S`. -/
structure Draws (f : Content → Content) (S : Texel → Prop) : Prop where
  source : ∀ c x y t, f c x y = some t → c x y = some t ∨ S t
  mono : ∀ c c', c.Below c' → (f c).Below (f c')

variable {S : Texel → Prop}

/-- Nothing is drawn. -/
theorem Draws.id : Draws (fun c => c) S := ⟨fun _ _ _ _ h => Or.inl h, fun _ _ h => h⟩

/-- Everything is drawn anew. -/
theorem Draws.const {c : Content} (h : ∀ x y t, c x y = some t → S t) : Draws (fun _ => c) S :=
  ⟨fun _ x y t ht => Or.inr (h x y t ht), fun _ _ _ => Content.Below.refl c⟩

/-- The pixels of a texture that may not be there. -/
def planeContent (plane : Option Texture) : Content := (plane.map (·.content)).getD .blank

/-- A texture with other pixels. -/
def Texture.withContent (tx : Texture) (c : Content) : Texture := { tx with content := c }

theorem draws_keep (plane : Option Texture) :
    Draws (fun c => planeContent (plane.map (·.withContent c))) S := by
  cases plane with
  | none => exact Draws.const (by simp)
  | some tx => exact Draws.id

/-- A region copy that fits draws what its source holds. -/
theorem draws_region (plane : Option Texture) (x y : UInt32) {src : Image} (b : Box)
    (hS : ∀ tx, plane = some tx → b.fits src tx.toImage x y = true →
      ∀ i j t, src.content i j = some t → S t) :
    Draws (fun c => planeContent ((plane.map (·.withContent c)).map
      fun d => d.copySubresourceRegion x y src b)) S := by
  cases plane with
  | none => exact Draws.const (by simp)
  | some tx =>
    by_cases hfits : b.fits src tx.toImage x y = true
    · have hcontent : ∀ c, planeContent (((some tx).map (·.withContent c)).map
          fun d => d.copySubresourceRegion x y src b) = fun px py =>
            if x.toNat ≤ px ∧ px < x.toNat + (b.right.toNat - b.left.toNat) ∧
                y.toNat ≤ py ∧ py < y.toNat + (b.bottom.toNat - b.top.toNat) then
              src.content (b.left.toNat + (px - x.toNat)) (b.top.toNat + (py - y.toNat))
            else c px py := by
        intro c
        have hfits' : b.fits src (tx.withContent c).toImage x y = true := hfits
        simp only [Option.map_some, planeContent, Option.getD_some, Texture.copySubresourceRegion,
          if_pos hfits']
        rfl
      refine ⟨fun c px py t ht => ?_, fun c c' hc px py t ht => ?_⟩
      · rw [hcontent] at ht
        dsimp only at ht
        split at ht
        · exact Or.inr (hS tx rfl hfits _ _ t ht)
        · exact Or.inl ht
      · rw [hcontent] at ht ⊢
        dsimp only at ht ⊢
        split at ht
        · rename_i hin
          rw [if_pos hin]
          exact ht
        · rename_i hout
          rw [if_neg hout]
          exact hc px py t ht
    · have hcontent : ∀ c, planeContent (((some tx).map (·.withContent c)).map
          fun d => d.copySubresourceRegion x y src b) = c := by
        intro c
        have hfits' : ¬ b.fits src (tx.withContent c).toImage x y = true := hfits
        simp only [Option.map_some, planeContent, Option.getD_some, Texture.copySubresourceRegion,
          if_neg hfits']
        rfl
      simp only [hcontent]
      exact Draws.id

/-- The pixels of a texture are all its own, from one paint. -/
theorem Resource.image_texel {src : Resource} {n i j : ℕ} {t : Texel}
    (h : (src.image n).content i j = some t) : t.resource = src.id ∧ t.paint = n := by
  rw [Resource.image] at h
  dsimp only at h
  split at h
  · cases h
    exact ⟨rfl, rfl⟩
  · cases h

namespace Painter

variable {s : Painter} {p : Paint} {src : Resource}

/-! ### View paints -/

/-- The pixels of the popup plane. -/
def planePixels (s : Painter) : Content := planeContent (s.textures.texture .popup)

/-- The painter with other pixels in its popup plane. -/
def withPlane (s : Painter) (c : Content) : Painter :=
  { s with textures := { s.textures with
      texture := Function.update s.textures.texture .popup
        ((s.textures.texture .popup).map (·.withContent c)) } }

theorem withPlane_popup (s : Painter) (c : Content) :
    (s.withPlane c).textures.texture .popup =
      (s.textures.texture .popup).map (·.withContent c) := by
  simp [withPlane]

theorem withPlane_self (s : Painter) : s.withPlane s.planePixels = s := by
  have hplane : (s.textures.texture .popup).map (·.withContent s.planePixels) =
      s.textures.texture .popup := by
    rw [planePixels]
    cases s.textures.texture .popup <;> rfl
  rw [withPlane, hplane, Function.update_eq_self]

theorem withPlane_alreadyReady (s : Painter) (c : Content) (width height : UInt32) :
    (s.withPlane c).textures.alreadyReady width height = s.textures.alreadyReady width height := by
  simp [withPlane, SharedTextures.alreadyReady]

/-- The popup plane of a view paint: the one there is, or a new one. -/
def planeFor (s : Painter) (src : Resource) : Option Texture :=
  if s.textures.alreadyReady src.width src.height then s.textures.texture .popup
  else some (.create s.textures.nextTexture src.width src.height)

/-- The view paint copies the private texture into the popup plane. -/
def CopiesPopup (s : Painter) (p : Paint) : Prop :=
  p.type = .view ∧ s.popupVisible = true ∧ 0 < s.popupRect.width ∧ 0 < s.popupRect.height ∧
    ∃ src tx plane, s.source p = some src ∧
      s.texturesReady src.width src.height p.create = true ∧ s.popupTexture = some tx ∧
      s.planeFor src = some plane ∧
      (cornerBox s.popupRect.width s.popupRect.height).fits tx.toImage plane.toImage
        s.popupRect.x.toUInt32 s.popupRect.y.toUInt32 = true

/-- What a view paint makes of the popup plane. -/
def composited (s : Painter) (plane : Option Texture) : Option Texture :=
  match s.popupTexture with
  | some tx =>
    if s.popupVisible && 0 < s.popupRect.width && 0 < s.popupRect.height then
      plane.map fun d => d.copySubresourceRegion s.popupRect.x.toUInt32 s.popupRect.y.toUInt32
        tx.toImage (cornerBox s.popupRect.width s.popupRect.height)
    else plane
  | none => plane

theorem copied_popup (hmode : s.usePopupDedicatedPlane = true) (src : Resource) :
    (s.copied src).textures.texture .popup = s.composited (s.textures.texture .popup) := by
  have hne : Plane.popup ≠ backPlane s.writeSlot := by simp [backPlane]
  set s1 := s.copyInto (backPlane s.writeSlot) (fun dst => dst.copyResource (src.image s.paints))
    (.cef src) with hs1
  have hplane : s1.textures.texture .popup = s.textures.texture .popup := by
    simp [hs1, copyInto, Function.update_of_ne hne]
  obtain ⟨rect, hclear⟩ := s1.clearLegacyPopup_eq
  have hcopied : s.copied src = compositePopup { s1 with popupClearRect := rect } := by
    rw [← hclear]
    rfl
  rw [hcopied, compositePopup, copyPopupRegion, composited]
  change (match s.popupTexture with
    | some tx => _
    | none => _ : Painter).textures.texture .popup = _
  cases s.popupTexture with
  | none => exact hplane
  | some tx =>
    dsimp only
    rw [show s1.usePopupDedicatedPlane = s.usePopupDedicatedPlane from rfl, hmode, if_pos rfl]
    change (if (s.popupVisible && 0 < s.popupRect.width && 0 < s.popupRect.height) = true then _
      else _ : Painter).textures.texture .popup = _
    split
    · simp only [copyInto, Function.update_self, hplane]
      rfl
    · exact hplane

/-- The number of a new plane does not matter to what it shows. -/
theorem composited_create (s : Painter) (id id' : ℕ) (width height : UInt32) :
    planeContent (s.composited (some (.create id width height))) =
      planeContent (s.composited (some (.create id' width height))) := by
  rw [composited, composited]
  cases s.popupTexture with
  | none => rfl
  | some tx =>
    dsimp only
    split
    · simp only [Option.map_some, planeContent, Option.getD_some, Texture.copySubresourceRegion,
        Texture.create]
      split <;> rfl
    · rfl

/-- The popup plane after a view paint that publishes. -/
theorem paintView_plane (hmode : s.usePopupDedicatedPlane = true)
    (h : s.texturesReady src.width src.height p.create = true) :
    (s.paintView p src).planePixels = planeContent (s.composited (s.planeFor src)) := by
  rcases texturesReady_cases h with hready | ⟨hready, hok⟩
  · rw [paintView_ready hready, publishView_eq, planeFor, if_pos hready]
    exact congrArg planeContent (copied_popup hmode src)
  · have hnew := s.textures.recreate_newborn s.d3d.device src.width src.height p.create
    have hopen := SharedTextures.recreate_complete
      ((recreate_ok s.textures s.d3d.device src.width src.height p.create).trans hok) .popup
    obtain ⟨tx, htx⟩ := Option.isSome_iff_exists.mp hopen.1
    obtain ⟨id, -, -, rfl⟩ := hnew.created .popup tx htx
    rw [paintView_recreated hready hok, publishView_eq, planeFor, hready,
      if_neg Bool.false_ne_true]
    refine Eq.trans ?_ (s.composited_create id _ _ _)
    rw [← htx]
    refine congrArg planeContent ((copied_popup ?_ src).trans ?_)
    · rw [adoptTextures_eq]
      exact hmode
    · rw [adoptTextures_eq]
      rfl

theorem onAcceleratedPaint_plane (hmode : s.usePopupDedicatedPlane = true)
    (hsrc : s.source p = some src) (ht : p.type = .view)
    (h : s.texturesReady src.width src.height p.create = true) :
    (s.onAcceleratedPaint p).planePixels = planeContent (s.composited (s.planeFor src)) := by
  obtain ⟨view, popup, hopened⟩ := s.opened_eq p src
  set e : Painter := { s with
    paints := s.paints + 1, cachedView := view, cachedPopup := popup }
  have hmode' : e.usePopupDedicatedPlane = true := hmode
  have h' : e.texturesReady src.width src.height p.create = true := h
  rw [onAcceleratedPaint_view hsrc ht, hopened, paintView_plane hmode' h']
  rfl

/-- Without the textures there is no popup plane, or a blank one. -/
theorem paintView_plane_failed (h : s.texturesReady src.width src.height p.create = false) :
    (s.paintView p src).planePixels = .blank := by
  have hnew := s.textures.recreate_newborn s.d3d.device src.width src.height p.create
  rw [paintView_failed h, planePixels]
  dsimp only
  cases htx : (s.textures.recreate s.d3d.device src.width src.height p.create).1.texture .popup with
  | none => rfl
  | some tx =>
    obtain ⟨id, -, -, rfl⟩ := hnew.created .popup tx htx
    rfl

/-! ### Popup paints -/

/-- The recorded size of the private texture is its size. -/
def PopupSized (s : Painter) : Prop :=
  ∀ tx, s.popupTexture = some tx → tx.width = s.popupTexWidth ∧ tx.height = s.popupTexHeight

theorem PopupSized.prepared (hsize : s.PopupSized) {tx : Texture}
    (htx : (s.preparePopupTexture p src).1.popupTexture = some tx) :
    tx.width = src.width ∧ tx.height = src.height := by
  rw [preparePopupTexture] at htx
  split at htx
  · split at htx
    · cases htx
      exact ⟨rfl, rfl⟩
    · cases htx
  · rename_i hneed
    have hsame : s.popupTexWidth = src.width ∧ s.popupTexHeight = src.height := by
      simp only [Bool.or_eq_true, bne_iff_ne, ne_eq, not_or, not_not] at hneed
      exact ⟨hneed.1.2, hneed.2⟩
    rw [← hsame.1, ← hsame.2]
    exact hsize tx htx

/-- What a popup paint that has filled its private texture makes of the popup plane. -/
def refreshed (s : Painter) (src : Resource) (plane : Option Texture) : Option Texture :=
  let r := s.clampedPopupRect
  if s.popupPlaneReady && (s.popupVisible && r.valid) then
    plane.map fun d => d.copySubresourceRegion r.x0.toUInt32 r.y0.toUInt32 (src.image s.paints)
      (cornerBox r.width r.height)
  else plane

/-- The private texture is filled by the popup paint number `n`. -/
structure Filled (s : Painter) (src : Resource) (n : ℕ) : Prop where
  texture : ∃ tx, s.popupTexture = some tx ∧ tx.toImage = src.image n
  width : s.popupTexWidth = src.width
  height : s.popupTexHeight = src.height

theorem publishPopup_popup (s : Painter) (p : Paint) {tx : Texture}
    (htx : s.popupTexture = some tx) :
    (s.publishPopup p).textures.texture .popup =
      (let r := s.clampedPopupRect
      if s.popupVisible && r.valid then
        (s.textures.texture .popup).map fun d =>
          d.copySubresourceRegion r.x0.toUInt32 r.y0.toUInt32 tx.toImage
            (cornerBox r.width r.height)
      else s.textures.texture .popup) := by
  rw [publishPopup, publishPopupPlane_eq, copyPopupRegion, htx]
  dsimp only
  split
  · simp only [copyInto, Function.update_self]
  · rfl

/-- The private texture and the popup plane after a popup paint that has filled the former. -/
theorem paintPopup_plane (hsize : s.PopupSized) (h : s.popupTextureReady p src = true) :
    (s.paintPopup p src).Filled src s.paints ∧
      (s.paintPopup p src).textures.texture .popup =
        s.refreshed src (s.textures.texture .popup) := by
  obtain ⟨tx, n, heq, -⟩ := preparePopupTexture_ready h
  have hdims : tx.width = src.width ∧ tx.height = src.height :=
    hsize.prepared (by rw [heq, withPopup])
  have hfilled : (tx.copyResource (src.image s.paints)).toImage = src.image s.paints := by
    have hsame : tx.width = (src.image s.paints).width ∧ tx.height = (src.image s.paints).height :=
      hdims
    rw [Texture.copyResource, if_pos hsame, hdims.1, hdims.2]
    rfl
  rw [paintPopup, heq]
  dsimp only
  rw [if_pos rfl]
  set e := (s.withPopup src tx n).copyPopup src
  have htx : e.popupTexture = some (tx.copyResource (src.image s.paints)) := rfl
  have hplane : e.popupPlaneReady = s.popupPlaneReady := rfl
  rw [hplane, refreshed]
  cases s.popupPlaneReady with
  | false => exact ⟨⟨⟨_, htx, hfilled⟩, rfl, rfl⟩, rfl⟩
  | true =>
    rw [if_pos rfl, e.publishPopup_popup p htx, hfilled, Bool.true_and]
    refine ⟨?_, rfl⟩
    obtain ⟨t, q, hpub, -⟩ := e.publishPopup_eq p
    rw [hpub, publishPopupPlane_eq]
    exact ⟨⟨_, htx, hfilled⟩, rfl, rfl⟩

/-! ### Any callback -/

/-- The popup paint fills the private texture. -/
def fillsPopup (s : Painter) (p : Paint) : Bool :=
  match s.source p with
  | some src => p.type == .popup && s.popupTextureReady p src
  | none => false

theorem fillsPopup_eq (hsrc : s.source p = some src) (ht : p.type = .popup) :
    s.fillsPopup p = s.popupTextureReady p src := by
  simp [fillsPopup, hsrc, ht]

theorem type_of_fillsPopup (h : s.fillsPopup p = true) : p.type = .popup := by
  rw [fillsPopup] at h
  split at h
  · rw [Bool.and_eq_true, beq_iff_eq] at h
    exact h.1
  · cases h

/-- The paint gets the texture its handle denotes. A texture from the cache may be another one. -/
def getsDenoted (s : Painter) (p : Paint) : Bool :=
  match s.source p with
  | some src => src.id == p.resource.id
  | none => false

theorem getsDenoted_iff (hsrc : s.source p = some src) :
    s.getsDenoted p = true ↔ src.id = p.resource.id := by
  simp [getsDenoted, hsrc]

/-- The popup paint copies what it got into the popup plane as well. -/
def RefreshesPopup (s : Painter) (p : Paint) : Prop :=
  s.fillsPopup p = true ∧ s.popupPlaneReady = true ∧ s.popupVisible = true ∧
    s.clampedPopupRect.valid = true ∧
    ∃ src plane, s.source p = some src ∧ s.textures.texture .popup = some plane ∧
      (cornerBox s.clampedPopupRect.width s.clampedPopupRect.height).fits (src.image s.paints)
        plane.toImage s.clampedPopupRect.x0.toUInt32 s.clampedPopupRect.y0.toUInt32 = true

/-- What the callback draws into the popup plane: pixels of the private texture as it is, or of the
texture the popup paint got. -/
def Source (s : Painter) : Callback → Texel → Prop
  | .paint p, t =>
    (s.CopiesPopup p ∧ ∃ tx i j, s.popupTexture = some tx ∧ tx.content i j = some t) ∨
      (s.RefreshesPopup p ∧ ∃ src, s.source p = some src ∧ t.resource = src.id ∧
        t.paint = s.paints + 1)
  | _, _ => False

theorem draws_composited (s : Painter) (plane : Option Texture)
    (hS : ∀ tx d, s.popupTexture = some tx → plane = some d → s.popupVisible = true →
      0 < s.popupRect.width → 0 < s.popupRect.height →
      (cornerBox s.popupRect.width s.popupRect.height).fits tx.toImage d.toImage
        s.popupRect.x.toUInt32 s.popupRect.y.toUInt32 = true →
      ∀ i j t, tx.content i j = some t → S t) :
    Draws (fun c => planeContent (s.composited (plane.map (·.withContent c)))) S := by
  simp only [composited]
  cases htx : s.popupTexture with
  | none => exact draws_keep plane
  | some tx =>
    dsimp only
    split
    · rename_i hcond
      simp only [Bool.and_eq_true, decide_eq_true_eq] at hcond
      exact draws_region plane _ _ _ fun d hd hfits =>
        hS tx d htx hd hcond.1.1 hcond.1.2 hcond.2 hfits
    · exact draws_keep plane

theorem draws_refreshed (s : Painter) (src : Resource) (plane : Option Texture)
    (hS : ∀ d, plane = some d → s.popupPlaneReady = true → s.popupVisible = true →
      s.clampedPopupRect.valid = true →
      (cornerBox s.clampedPopupRect.width s.clampedPopupRect.height).fits (src.image s.paints)
        d.toImage s.clampedPopupRect.x0.toUInt32 s.clampedPopupRect.y0.toUInt32 = true →
      ∀ t : Texel, t.resource = src.id → t.paint = s.paints → S t) :
    Draws (fun c => planeContent (s.refreshed src (plane.map (·.withContent c)))) S := by
  simp only [refreshed]
  split
  · rename_i hcond
    simp only [Bool.and_eq_true] at hcond
    refine draws_region plane _ _ _ fun d hd hfits i j t ht => ?_
    obtain ⟨hresource, hpaint⟩ := Resource.image_texel ht
    exact hS d hd hcond.1 hcond.2.1 hcond.2.2 hfits t hresource hpaint
  · exact draws_keep plane

theorem paintView_draws (hmode : s.usePopupDedicatedPlane = true) (hsrc : s.source p = some src)
    (ht : p.type = .view) :
    Draws (fun c => ((s.withPlane c).onAcceleratedPaint p).planePixels) (s.Source (.paint p)) := by
  choose view popup hopened using fun c => (s.withPlane c).opened_eq p src
  let e : Content → Painter := fun c => { s.withPlane c with
    paints := s.paints + 1, cachedView := view c, cachedPopup := popup c }
  have hpaint : ∀ c, (s.withPlane c).onAcceleratedPaint p = (e c).paintView p src := by
    intro c
    have hsrc' : (s.withPlane c).source p = some src := hsrc
    rw [onAcceleratedPaint_view hsrc' ht, hopened]
    rfl
  have halready : ∀ c, (e c).textures.alreadyReady src.width src.height =
      s.textures.alreadyReady src.width src.height := fun c => s.withPlane_alreadyReady c _ _
  have hready : ∀ c, (e c).texturesReady src.width src.height p.create =
      s.texturesReady src.width src.height p.create := by
    intro c
    rw [texturesReady, halready]
    rfl
  simp only [hpaint]
  cases h : s.texturesReady src.width src.height p.create with
  | false =>
    simp only [fun c => paintView_plane_failed ((hready c).trans h)]
    exact Draws.const (by simp [Content.blank])
  | true =>
    have hcomposited : ∀ c plane, (e c).composited plane = s.composited plane := fun _ _ => rfl
    have hmode' : ∀ c, (e c).usePopupDedicatedPlane = true := fun _ => hmode
    have hdrawn : ∀ tx d, s.popupTexture = some tx → s.planeFor src = some d →
        s.popupVisible = true → 0 < s.popupRect.width → 0 < s.popupRect.height →
        (cornerBox s.popupRect.width s.popupRect.height).fits tx.toImage d.toImage
          s.popupRect.x.toUInt32 s.popupRect.y.toUInt32 = true →
        ∀ i j t, tx.content i j = some t → s.Source (.paint p) t :=
      fun tx d htx hd hvisible hw hh hfits i j t hpixel =>
        Or.inl ⟨⟨ht, hvisible, hw, hh, src, tx, d, hsrc, h, htx, hd, hfits⟩, tx, i, j, htx, hpixel⟩
    have hdraws := s.draws_composited (s.planeFor src) hdrawn
    simp only [fun c => paintView_plane (hmode' c) ((hready c).trans h), hcomposited, planeFor,
      halready]
    cases hold : s.textures.alreadyReady src.width src.height with
    | true =>
      have hplane : ∀ c, (e c).textures.texture .popup =
          (s.textures.texture .popup).map (·.withContent c) := s.withPlane_popup
      rw [planeFor, hold, if_pos rfl] at hdraws
      simpa only [if_true, hplane] using hdraws
    | false =>
      -- the plane is a new one, whatever was in the old one
      rw [planeFor, hold, if_neg Bool.false_ne_true] at hdraws
      have hnew : ∀ c, planeContent (s.composited
          (some (.create (e c).textures.nextTexture src.width src.height))) =
            planeContent (s.composited (some (.create s.textures.nextTexture src.width
              src.height))) := fun c => s.composited_create _ _ _ _
      simp only [Bool.false_eq_true, if_false, hnew]
      refine Draws.const fun x y t hpixel => ?_
      exact (hdraws.source .blank x y t hpixel).resolve_left (by simp [Content.blank])

theorem paintPopup_draws (hsize : s.PopupSized) (hsrc : s.source p = some src)
    (ht : p.type = .popup) :
    Draws (fun c => ((s.withPlane c).onAcceleratedPaint p).planePixels) (s.Source (.paint p)) := by
  choose view popup hopened using fun c => (s.withPlane c).opened_eq p src
  let e : Content → Painter := fun c => { s.withPlane c with
    paints := s.paints + 1, cachedView := view c, cachedPopup := popup c }
  have hpaint : ∀ c, (s.withPlane c).onAcceleratedPaint p = (e c).paintPopup p src := by
    intro c
    have hsrc' : (s.withPlane c).source p = some src := hsrc
    rw [onAcceleratedPaint_popup hsrc' ht, hopened]
    rfl
  have hplane : ∀ c, (e c).textures.texture .popup =
      (s.textures.texture .popup).map (·.withContent c) := s.withPlane_popup
  simp only [hpaint]
  cases h : s.popupTextureReady p src with
  | false =>
    have hfailed : ∀ c, ((e c).paintPopup p src).planePixels =
        planeContent ((s.textures.texture .popup).map (·.withContent c)) := by
      intro c
      have h' : (e c).popupTextureReady p src = false := h
      rw [paintPopup_failed h']
      exact congrArg planeContent (hplane c)
    simp only [hfailed]
    exact draws_keep _
  | true =>
    have hfills : s.fillsPopup p = true := (fillsPopup_eq hsrc ht).trans h
    have hrefreshed : ∀ c, ((e c).paintPopup p src).planePixels =
        planeContent (({ s with paints := s.paints + 1 } : Painter).refreshed src
          ((s.textures.texture .popup).map (·.withContent c))) := by
      intro c
      have h' : (e c).popupTextureReady p src = true := h
      have hready : (e c).popupPlaneReady = s.popupPlaneReady := by
        rw [popupPlaneReady, hplane, Option.isSome_map]
        rfl
      have hsize' : (e c).PopupSized := hsize
      rw [planePixels, (paintPopup_plane hsize' h').2, refreshed, hready, hplane]
      rfl
    simp only [hrefreshed]
    refine draws_refreshed _ src _ fun d hd hready hvisible hvalid hfits t hresource hpaint => ?_
    exact Or.inr ⟨⟨hfills, hready, hvisible, hvalid, src, d, hsrc, hd, hfits⟩, src, hsrc, hresource,
      hpaint⟩

/-- **Any callback** draws over the popup plane, whatever it holds. -/
theorem step_draws (hmode : s.usePopupDedicatedPlane = true) (hsize : s.PopupSized)
    (c : Callback) : Draws (fun d => ((s.withPlane d).step c).planePixels) (s.Source c) := by
  have hkept : ∀ d, ((s.withPlane d).step c).textures.texture .popup =
      (s.withPlane d).textures.texture .popup →
      ((s.withPlane d).step c).planePixels =
        planeContent ((s.textures.texture .popup).map (·.withContent d)) :=
    fun d h => congrArg planeContent (h.trans (s.withPlane_popup d))
  by_cases hpaint : ∃ p, c = .paint p
  · obtain ⟨p, rfl⟩ := hpaint
    cases hsrc : s.source p with
    | none =>
      have hnone : ∀ d, (s.withPlane d).step (.paint p) =
          { s.withPlane d with paints := s.paints + 1 } := fun d => onAcceleratedPaint_none hsrc
      simp only [fun d => hkept d (by rw [hnone])]
      exact draws_keep _
    | some src =>
      cases ht : p.type with
      | view => exact paintView_draws hmode hsrc ht
      | popup => exact paintPopup_draws hsize hsrc ht
  · have hquiet := fun d => (s.withPlane d).step_quiet fun p hc => hpaint ⟨p, hc⟩
    simp only [fun d => hkept d (by rw [(hquiet d).textures])]
    exact draws_keep _

/-! ### The private texture -/

/-- The private texture is left alone, or dropped. -/
structure TextureLeft (s s' : Painter) : Prop where
  texture : s'.popupTexture = s.popupTexture ∨ s'.popupTexture = none
  width : s'.popupTexWidth = s.popupTexWidth
  height : s'.popupTexHeight = s.popupTexHeight

theorem paintView_left (s : Painter) (p : Paint) (src : Resource) :
    TextureLeft s (s.paintView p src) ∧ (s.paintView p src).paints = s.paints := by
  cases h : s.texturesReady src.width src.height p.create with
  | false =>
    rw [paintView_failed h]
    exact ⟨⟨Or.inl rfl, rfl, rfl⟩, rfl⟩
  | true =>
    rcases texturesReady_cases h with hready | ⟨hready, hok⟩
    · obtain ⟨tx, htx⟩ := ready_back hready
      obtain ⟨t, q, rect, heq, -⟩ := copied_eq src htx
      rw [paintView_ready hready, heq, publishView_eq]
      exact ⟨⟨Or.inl rfl, rfl, rfl⟩, rfl⟩
    · obtain ⟨tx, htx⟩ := recreated_back hok
      obtain ⟨t, q, rect, heq, -⟩ := copied_eq (s := s.adoptTextures _ src.width src.height) src htx
      rw [paintView_recreated hready hok, heq, publishView_eq, adoptTextures_eq]
      exact ⟨⟨Or.inl rfl, rfl, rfl⟩, rfl⟩

theorem setLoadState_left (s : Painter) (isMain : Bool) (v : CefLoadState) :
    TextureLeft s (s.setLoadState isMain v) ∧ (s.setLoadState isMain v).paints = s.paints := by
  obtain ⟨header, seen, events, heq⟩ := s.setLoadState_eq isMain v
  rw [heq]
  exact ⟨⟨Or.inl rfl, rfl, rfl⟩, rfl⟩

/-- The callbacks other than paints leave it alone. -/
theorem step_left (s : Painter) {c : Callback} (hc : ∀ p, c ≠ .paint p) :
    TextureLeft s (s.step c) ∧ (s.step c).paints = s.paints := by
  cases c with
  | paint p => exact absurd rfl (hc p)
  | loadStart isMain => exact s.setLoadState_left isMain _
  | loadEnd isMain status => exact s.setLoadState_left isMain _
  | loadError isMain => exact s.setLoadState_left isMain _
  | popupShow visible => cases visible <;> exact ⟨⟨Or.inl rfl, rfl, rfl⟩, rfl⟩
  | _ => exact ⟨⟨Or.inl rfl, rfl, rfl⟩, rfl⟩

/-- What a paint does to the private texture. -/
theorem onAcceleratedPaint_texture (hsize : s.PopupSized) (p : Paint) :
    (s.onAcceleratedPaint p).paints = s.paints + 1 ∧
      ((s.fillsPopup p = true ∧
          ∃ src, s.source p = some src ∧ (s.onAcceleratedPaint p).Filled src (s.paints + 1)) ∨
        (s.fillsPopup p = false ∧ TextureLeft s (s.onAcceleratedPaint p))) := by
  cases hsrc : s.source p with
  | none =>
    rw [onAcceleratedPaint_none hsrc, fillsPopup, hsrc]
    exact ⟨rfl, Or.inr ⟨rfl, Or.inl rfl, rfl, rfl⟩⟩
  | some src =>
    obtain ⟨view, popup, hopened⟩ := s.opened_eq p src
    cases ht : p.type with
    | view =>
      obtain ⟨hleft, hpaints⟩ := (s.opened p src).paintView_left p src
      rw [onAcceleratedPaint_view hsrc ht]
      rw [hopened] at hleft hpaints ⊢
      refine ⟨hpaints, Or.inr ⟨?_, hleft.texture, hleft.width, hleft.height⟩⟩
      simp [fillsPopup, hsrc, ht]
    | popup =>
      rw [onAcceleratedPaint_popup hsrc ht, fillsPopup_eq hsrc ht, hopened]
      set e : Painter := { s with
        paints := s.paints + 1, cachedView := view, cachedPopup := popup }
      cases h : s.popupTextureReady p src with
      | false =>
        have h' : e.popupTextureReady p src = false := h
        rw [paintPopup_failed h']
        exact ⟨rfl, Or.inr ⟨rfl, Or.inr rfl, rfl, rfl⟩⟩
      | true =>
        have h' : e.popupTextureReady p src = true := h
        have hsize' : e.PopupSized := hsize
        refine ⟨?_, Or.inl ⟨rfl, src, rfl, (paintPopup_plane hsize' h').1⟩⟩
        obtain ⟨tx, n, heq, -⟩ := paintPopup_ready h'
        rw [heq]
        dsimp only
        split
        · obtain ⟨t, q, hpub, -⟩ := ((e.withPopup src tx n).copyPopup src).publishPopup_eq p
          rw [hpub, publishPopupPlane_eq]
          rfl
        · rfl

end Painter

end CefHost
