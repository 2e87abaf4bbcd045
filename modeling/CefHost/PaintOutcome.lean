import CefHost.Painter

/-!
# What a paint does, by outcome

The paths through `OnAcceleratedPaint`, each stated once: whether the paint gets its texture,
whether the shared textures are ready for it, what the copies leave alone, and what a publish
leaves behind. The modules about paints use these and do not unfold the functions.

## Main definitions

* `Painter.publishes`, `Painter.PublishesView` — the paint publishes a frame
* `Painter.SameShape` — textures that differ in their pixels only
* `Painter.Quiet` — nothing about the published frame changes

## Main results

* `Painter.onAcceleratedPaint_none`, `_view`, `_popup` — the paths through a paint
* `Painter.ensureSharedTextures_ready`, `_recreated`, `_failed` — those through
  `EnsureSharedTextures`
* `Painter.copyPopupRegion_eq` — the popup copies change pixels and the queue
* `Painter.onAcceleratedPaint_published` — the frame counters move exactly when a paint publishes
* `Painter.step_quiet` — what every callback but a paint leaves alone
-/

namespace CefHost

/-! ### Which paints publish -/

namespace Painter

variable {s : Painter} {p : Paint} {src : Resource}

/-- Every step of a recreation would succeed. -/
def createsAll (create : Plane → CreateOutcome) : Bool :=
  (List.finRange shmFrameSlotCount).all (fun i => (create (.ring i)).ok) && (create .popup).ok

theorem createsAll_iff {create : Plane → CreateOutcome} :
    createsAll create = true ↔ ∀ p, (create p).ok = true := by
  rw [createsAll, Bool.and_eq_true, List.all_eq_true]
  constructor
  · rintro ⟨hring, hpopup⟩ p
    cases p with
    | ring i => exact hring i (List.mem_finRange i)
    | popup => exact hpopup
  · exact fun h => ⟨fun i _ => h (.ring i), h .popup⟩

theorem recreate_ok (t : SharedTextures) (device : Bool) (width height : UInt32)
    (create : Plane → CreateOutcome) :
    (t.recreate device width height create).2 = (device && createsAll create) := by
  rw [Bool.eq_iff_iff, Bool.and_eq_true, createsAll_iff]
  exact SharedTextures.recreate_ok_iff

/-- `EnsureSharedTextures` returns true. -/
def texturesReady (s : Painter) (width height : UInt32) (create : Plane → CreateOutcome) : Bool :=
  s.textures.alreadyReady width height || (s.d3d.device && createsAll create)

/-- A popup paint gets its private texture. -/
def popupTextureReady (s : Painter) (p : Paint) (src : Resource) : Bool :=
  (s.popupTexture.isSome && s.popupTexWidth == src.width && s.popupTexHeight == src.height) ||
    p.createPopupTexture

/-- The paint publishes a frame. -/
def publishes (s : Painter) (p : Paint) : Bool :=
  match s.source p with
  | none => false
  | some src =>
    match p.type with
    | .view => s.texturesReady src.width src.height p.create
    | .popup => s.popupTextureReady p src && s.popupPlaneReady

/-! ### `EnsureSharedTextures`, by outcome -/

variable {width height : UInt32} {create : Plane → CreateOutcome}

theorem ensureSharedTextures_ready (h : s.textures.alreadyReady width height = true) :
    s.ensureSharedTextures width height create = (s, true, false) := by
  rw [ensureSharedTextures, if_pos h]

theorem ensureSharedTextures_recreated (h : s.textures.alreadyReady width height = false)
    (hok : (s.d3d.device && createsAll create) = true) :
    s.ensureSharedTextures width height create =
      (s.adoptTextures (s.textures.recreate s.d3d.device width height create).1 width height,
        true, true) := by
  have hrec := recreate_ok s.textures s.d3d.device width height create
  rw [ensureSharedTextures, if_neg (by rw [h]; exact Bool.false_ne_true)]
  dsimp only
  rw [hrec, if_pos hok]

theorem ensureSharedTextures_failed (h : s.textures.alreadyReady width height = false)
    (hok : (s.d3d.device && createsAll create) = false) :
    s.ensureSharedTextures width height create =
      ({ s with textures := (s.textures.recreate s.d3d.device width height create).1 },
        false, false) := by
  have hrec := recreate_ok s.textures s.d3d.device width height create
  rw [ensureSharedTextures, if_neg (by rw [h]; exact Bool.false_ne_true)]
  dsimp only
  rw [hrec, if_neg (by rw [hok]; exact Bool.false_ne_true)]

/-! ### What a publish and a recreation leave behind -/

/-- The header after a list of stores and the increment of `sequence`. -/
def publishedHeader (h : FrameHeader) (sts : List HeaderStore) : FrameHeader :=
  let h := sts.foldl FrameHeader.apply h
  h.apply (.sequence (h.sequence + 1))

/-- What can be observed meanwhile. -/
def observePublish (w : Writer) (t : SharedTextures) (q : GpuQueue) (h : FrameHeader)
    (sts : List HeaderStore) : List Observation :=
  let h' := sts.foldl FrameHeader.apply h
  observe w t q h sts ++ observe w t q h' [.sequence (h'.sequence + 1)]

theorem publishView_eq (s : Painter) (p : Paint) (src : Resource) (recreated : Bool)
    (collected : List DirtyRect × Bool) :
    s.publishView p src recreated collected =
      (let full := s.forceFull recreated collected.2
      let flushed := s.viewFlush p recreated full
      let dirty := viewDirtyStores full collected.1
      let stores := s.viewStores src (backSlot s.writeSlot) (s.viewFlags recreated collected.2)
        (s.gpuFenceValue p)
      let h := dirty.foldl FrameHeader.apply s.header
      let q := s.gpu ++ (s.signalCommands p ++ flushCommands flushed)
      { s with
        forceFullFrame := false
        warmupFullFrames := if 0 < s.warmupFullFrames then s.warmupFullFrames - 1 else 0
        nextGpuFenceValue := s.nextFenceValue
        gpu := q
        framesSinceFlush := if flushed then 0 else s.framesSinceFlush + 1
        writeSlot := backSlot s.writeSlot
        nextFrameId := s.nextFrameId + 1
        frameEvents := s.frameEvents + 1
        paintsCompleted := s.paintsCompleted + 1
        header := publishedHeader h stores
        seen := s.seen ++ (observe .view s.textures s.gpu s.header dirty ++
          observePublish .view s.textures q h stores) }) := by
  simp only [publishView, finishPublish, bumpSequence, storeAll, publishedHeader, observePublish,
    List.foldl_cons, List.foldl_nil, List.append_assoc]

theorem publishPopupPlane_eq (s : Painter) (p : Paint) (r : Corners) :
    s.publishPopupPlane p r =
      (let stores := s.popupStores r (s.gpuFenceValue p)
      let q := s.gpu ++ (s.signalCommands p ++ flushCommands !s.signaledFence p)
      { s with
        popupClearRect := if s.popupVisible then s.popupClearRect else .empty
        nextGpuFenceValue := s.nextFenceValue
        gpu := q
        nextFrameId := s.nextFrameId + 1
        frameEvents := s.frameEvents + 1
        paintsCompleted := s.paintsCompleted + 1
        header := publishedHeader s.header stores
        seen := s.seen ++ observePublish .popup s.textures q s.header stores }) := by
  simp only [publishPopupPlane, finishPublish, bumpSequence, storeAll, publishedHeader,
    observePublish, List.foldl_cons, List.foldl_nil, List.append_assoc]

/-- The stores of `UpdateSharedResizeHeader` after a recreation. -/
def resizeStores (width height : UInt32) : List HeaderStore :=
  [.protocolMagic shmProtocolMagic, .version shmProtocolVersion,
    .slotCount (UInt32.ofNat shmFrameSlotCount), .width width, .height height, .writeSlot 0,
    .gpuFenceValue 0, .flags (frameFlagFullFrame ||| frameFlagResized), .popupVisible 0,
    .popupRect .zero, .dirtyCount 0]

theorem adoptTextures_eq (s : Painter) (t : SharedTextures) (width height : UInt32) :
    s.adoptTextures t width height =
      { s with
        textures := { t with sharedWidth := width, sharedHeight := height }
        writeSlot := 0
        forceFullFrame := true
        warmupFullFrames := 3
        header := (resizeStores width height).foldl FrameHeader.apply s.header
        seen := s.seen ++ observe .resize { t with sharedWidth := width, sharedHeight := height }
          s.gpu s.header (resizeStores width height) } := by
  simp only [adoptTextures, updateSharedResizeHeader, storeAll, resizeStores]

/-! ### The copies -/

/-- What a copy leaves alone: everything about the textures but their pixels. -/
structure SameShape (t t' : SharedTextures) : Prop where
  names : t'.names = t.names
  handle : t'.handle = t.handle
  sharedWidth : t'.sharedWidth = t.sharedWidth
  sharedHeight : t'.sharedHeight = t.sharedHeight
  nextTexture : t'.nextTexture = t.nextTexture
  texture : ∀ p, (t'.texture p).map (fun tx => (tx.id, tx.width, tx.height)) =
    (t.texture p).map fun tx => (tx.id, tx.width, tx.height)

theorem SameShape.refl (t : SharedTextures) : SameShape t t :=
  ⟨rfl, rfl, rfl, rfl, rfl, fun _ => rfl⟩

theorem SameShape.trans {t t' t'' : SharedTextures} (h : SameShape t t') (h' : SameShape t' t'') :
    SameShape t t'' where
  names := h'.names.trans h.names
  handle := h'.handle.trans h.handle
  sharedWidth := h'.sharedWidth.trans h.sharedWidth
  sharedHeight := h'.sharedHeight.trans h.sharedHeight
  nextTexture := h'.nextTexture.trans h.nextTexture
  texture p := (h'.texture p).trans (h.texture p)

theorem SameShape.symm {t t' : SharedTextures} (h : SameShape t t') : SameShape t' t where
  names := h.names.symm
  handle := h.handle.symm
  sharedWidth := h.sharedWidth.symm
  sharedHeight := h.sharedHeight.symm
  nextTexture := h.nextTexture.symm
  texture p := (h.texture p).symm

theorem SameShape.isSome {t t' : SharedTextures} (h : SameShape t t') (p : Plane) :
    (t'.texture p).isSome = (t.texture p).isSome := by
  have hp := congrArg Option.isSome (h.texture p)
  simpa using hp

/-- The texture a plane had before the copies. -/
theorem SameShape.get {t t' : SharedTextures} (h : SameShape t t') {p : Plane} {tx : Texture}
    (htx : t'.texture p = some tx) : ∃ ux, t.texture p = some ux ∧ ux.id = tx.id ∧
      ux.width = tx.width ∧ ux.height = tx.height := by
  have hp := h.texture p
  rw [htx] at hp
  cases hux : t.texture p with
  | none => rw [hux] at hp; cases hp
  | some ux =>
    rw [hux] at hp
    simp only [Option.map_some, Option.some.injEq, Prod.mk.injEq] at hp
    exact ⟨ux, rfl, hp.1.symm, hp.2.1.symm, hp.2.2.symm⟩

theorem SameShape.open {t t' : SharedTextures} (h : SameShape t t') {p : Plane} (ho : t.Open p) :
    t'.Open p := ho.congr h.names (h.isSome p) (by rw [h.handle])

/-- A copy into a plane keeps the shape of all of them, if it keeps that of the texture. -/
theorem copyInto_sameShape {q : Plane} {f : Texture → Texture} {c : CopySource}
    (hf : ∀ tx, (f tx).id = tx.id ∧ (f tx).width = tx.width ∧ (f tx).height = tx.height) :
    SameShape s.textures (s.copyInto q f c).textures := by
  refine ⟨rfl, rfl, rfl, rfl, rfl, fun r => ?_⟩
  by_cases hr : r = q
  · subst hr
    cases htx : s.textures.texture r with
    | none => simp [copyInto, htx]
    | some tx => simp [copyInto, htx, hf tx]
  · simp [copyInto, Function.update_of_ne hr]

theorem copyPopupRegion_cases (s : Painter) (cond : Bool) (dst : Plane) (x y w h : Int32) :
    s.copyPopupRegion cond dst x y w h = s ∨
      ∃ tx, s.popupTexture = some tx ∧ s.copyPopupRegion cond dst x y w h =
        s.copyInto dst (fun d => d.copySubresourceRegion x.toUInt32 y.toUInt32 tx.toImage
          (cornerBox w h)) (.texture tx.id) := by
  rw [copyPopupRegion]
  split
  · rename_i tx htx
    split
    · exact Or.inr ⟨tx, htx, rfl⟩
    · exact Or.inl rfl
  · exact Or.inl rfl

/-- The popup copies: only pixels of the destination and the command queue change, and the command
is a copy from the private texture. -/
theorem copyPopupRegion_eq (s : Painter) (cond : Bool) (dst : Plane) (x y w h : Int32) :
    ∃ t q, s.copyPopupRegion cond dst x y w h = { s with textures := t, gpu := s.gpu ++ q } ∧
      SameShape s.textures t ∧ (∀ r, r ≠ dst → t.texture r = s.textures.texture r) ∧
      ∀ k ∈ q, ∃ tx ux, s.popupTexture = some tx ∧ s.textures.texture dst = some ux ∧
        k = .work (.copy ux.id (.texture tx.id)) := by
  rcases s.copyPopupRegion_cases cond dst x y w h with heq | ⟨tx, htx, heq⟩
  · exact ⟨s.textures, [], by rw [heq, List.append_nil], .refl _, fun _ _ => rfl, by simp⟩
  · rw [heq]
    refine ⟨_, _, rfl, ?_, fun r hr => Function.update_of_ne hr .., fun k hk => ?_⟩
    · exact copyInto_sameShape (c := .texture tx.id) fun d => ⟨Texture.copySubresourceRegion_id,
        Texture.copySubresourceRegion_width, Texture.copySubresourceRegion_height⟩
    · cases hux : s.textures.texture dst with
      | none => rw [hux] at hk; cases hk
      | some ux =>
        rw [hux] at hk
        obtain rfl : k = .work (.copy ux.id (.texture tx.id)) := by simpa using hk
        exact ⟨tx, ux, htx, rfl, rfl⟩

/-- A popup publish: the copies into the popup plane, and then the header. -/
theorem publishPopup_eq (s : Painter) (p : Paint) :
    ∃ t q, s.publishPopup p =
        ({ s with textures := t, gpu := s.gpu ++ q } : Painter).publishPopupPlane p
          s.clampedPopupRect ∧
      SameShape s.textures t ∧ (∀ r, r ≠ .popup → t.texture r = s.textures.texture r) ∧
      ∀ k ∈ q, ∃ tx ux, s.popupTexture = some tx ∧ s.textures.texture .popup = some ux ∧
        k = .work (.copy ux.id (.texture tx.id)) := by
  obtain ⟨t, q, heq, hshape, hkeep, hq⟩ := s.copyPopupRegion_eq
    (s.popupVisible && s.clampedPopupRect.valid) .popup s.clampedPopupRect.x0 s.clampedPopupRect.y0
    s.clampedPopupRect.width s.clampedPopupRect.height
  refine ⟨t, q, ?_, hshape, hkeep, hq⟩
  rw [publishPopup, heq]

/-! ### The paths through a paint -/

/-- The state in which a paint that got its texture goes on. -/
def opened (s : Painter) (p : Paint) (src : Resource) : Painter :=
  ({ s with paints := s.paints + 1 } : Painter).remember p src

theorem opened_eq (s : Painter) (p : Paint) (src : Resource) :
    ∃ view popup, s.opened p src =
      { s with paints := s.paints + 1, cachedView := view, cachedPopup := popup } := by
  rw [opened, remember]
  split
  · exact ⟨_, s.cachedPopup, rfl⟩
  · exact ⟨s.cachedView, _, rfl⟩

/-- A paint that gets a texture has a device to open it with. -/
theorem device_of_source (h : s.source p = some src) :
    (s.d3d.device1 && s.d3d.context) = true := by
  by_contra hno
  rw [source, if_neg hno] at h
  cases h

theorem onAcceleratedPaint_none (h : s.source p = none) :
    s.onAcceleratedPaint p = { s with paints := s.paints + 1 } := by
  rw [onAcceleratedPaint]
  dsimp only
  rw [show source { s with paints := s.paints + 1 } p = s.source p from rfl, h]

theorem onAcceleratedPaint_view (h : s.source p = some src) (ht : p.type = .view) :
    s.onAcceleratedPaint p = (s.opened p src).paintView p src := by
  rw [onAcceleratedPaint]
  dsimp only
  rw [show source { s with paints := s.paints + 1 } p = s.source p from rfl, h, ht]
  rfl

theorem onAcceleratedPaint_popup (h : s.source p = some src) (ht : p.type = .popup) :
    s.onAcceleratedPaint p = (s.opened p src).paintPopup p src := by
  rw [onAcceleratedPaint]
  dsimp only
  rw [show source { s with paints := s.paints + 1 } p = s.source p from rfl, h, ht]
  rfl

/-- The state in which a view paint publishes, after `EnsureSharedTextures` left it in `s`. -/
def copied (s : Painter) (src : Resource) : Painter :=
  (s.copyInto (backPlane s.writeSlot) (fun dst => dst.copyResource (src.image s.paints))
    (.cef src)).clearLegacyPopup.compositePopup

theorem paintView_failed (h : s.texturesReady src.width src.height p.create = false) :
    s.paintView p src = { s with
      textures := (s.textures.recreate s.d3d.device src.width src.height p.create).1 } := by
  rw [texturesReady, Bool.or_eq_false_iff] at h
  rw [paintView, ensureSharedTextures_failed h.1 h.2]
  rfl

/-- The dirty list depends on the popup's state only. -/
theorem collectDirty_congr {s' : Painter}
    (hmode : s'.usePopupDedicatedPlane = s.usePopupDedicatedPlane)
    (hvisible : s'.popupVisible = s.popupVisible) (hrect : s'.popupRect = s.popupRect)
    (hclear : s'.popupClearRect = s.popupClearRect) : s'.collectDirty p = s.collectDirty p := by
  rw [collectDirty, collectDirty, legacyPopupDirty, legacyPopupDirty, hmode, hvisible, hrect,
    hclear]

theorem paintView_ready (h : s.textures.alreadyReady src.width src.height = true) :
    s.paintView p src = (s.copied src).publishView p src false (s.collectDirty p) := by
  rw [paintView, ensureSharedTextures_ready h]
  rfl

theorem paintView_recreated (h : s.textures.alreadyReady src.width src.height = false)
    (hok : (s.d3d.device && createsAll p.create) = true) :
    s.paintView p src =
      ((s.adoptTextures (s.textures.recreate s.d3d.device src.width src.height p.create).1
        src.width src.height).copied src).publishView p src true (s.collectDirty p) := by
  rw [paintView, ensureSharedTextures_recreated h hok]
  dsimp only
  rw [if_pos rfl, collectDirty_congr (s := s) rfl rfl rfl rfl]
  rfl

theorem preparePopupTexture_failed (h : s.popupTextureReady p src = false) :
    s.preparePopupTexture p src = ({ s with popupTexture := none }, false) := by
  rw [popupTextureReady, Bool.or_eq_false_iff] at h
  rw [preparePopupTexture, h.2]
  split
  · rfl
  · rename_i hsame
    simp_all

/-- The painter with the private texture `tx`, of the size of `src`. -/
def withPopup (s : Painter) (src : Resource) (tx : Texture) (n : ℕ) : Painter :=
  { s with
    popupTexture := some tx
    popupTexWidth := src.width
    popupTexHeight := src.height
    textures := { s.textures with nextTexture := n } }

/-- The private texture is the old one at the right size, or a new one. -/
theorem preparePopupTexture_ready (h : s.popupTextureReady p src = true) :
    ∃ tx n, s.preparePopupTexture p src = (s.withPopup src tx n, true) ∧
      ((s.popupTexture = some tx ∧ n = s.textures.nextTexture) ∨
        (tx = .create s.textures.nextTexture src.width src.height ∧
          n = s.textures.nextTexture + 1)) := by
  by_cases hneed : (s.popupTexture.isNone || s.popupTexWidth != src.width ||
      s.popupTexHeight != src.height) = true
  · have hcreate : p.createPopupTexture = true := by
      rw [popupTextureReady, Bool.or_eq_true] at h
      refine h.resolve_left fun hold => ?_
      simp_all
    refine ⟨_, _, ?_, Or.inr ⟨rfl, rfl⟩⟩
    rw [preparePopupTexture, if_pos hneed, if_pos hcreate, withPopup]
  · obtain ⟨⟨hsome, hw⟩, hh⟩ : (s.popupTexture ≠ none ∧ s.popupTexWidth = src.width) ∧
        s.popupTexHeight = src.height := by simpa using hneed
    obtain ⟨tx, htx⟩ := Option.ne_none_iff_exists'.mp hsome
    refine ⟨tx, s.textures.nextTexture, ?_, Or.inl ⟨htx, rfl⟩⟩
    rw [preparePopupTexture, if_neg hneed, withPopup, ← hw, ← hh, ← htx]

theorem paintPopup_failed (h : s.popupTextureReady p src = false) :
    s.paintPopup p src = { s with popupTexture := none } := by
  rw [paintPopup, preparePopupTexture_failed h]
  rfl

/-- A popup paint that has its private texture: the copy, and the publish if there is a plane. -/
theorem paintPopup_ready (h : s.popupTextureReady p src = true) :
    ∃ tx n, s.paintPopup p src =
        (let s' := (s.withPopup src tx n).copyPopup src
        if s.popupPlaneReady then s'.publishPopup p else s') ∧
      ((s.popupTexture = some tx ∧ n = s.textures.nextTexture) ∨
        (tx = .create s.textures.nextTexture src.width src.height ∧
          n = s.textures.nextTexture + 1)) := by
  obtain ⟨tx, n, heq, hor⟩ := preparePopupTexture_ready h
  refine ⟨tx, n, ?_, hor⟩
  rw [paintPopup, heq]
  rfl

/-! ### The copies of a view paint -/

theorem clearLegacyPopup_eq (s : Painter) :
    ∃ rect, s.clearLegacyPopup = { s with popupClearRect := rect } := by
  rw [clearLegacyPopup]
  split
  · exact ⟨s.popupClearRect, rfl⟩
  · exact ⟨.empty, rfl⟩

/-- The copies of a view paint: CEF's texture into the back slot, then the popup if it is visible.
Pixels of these two places change, and the command queue. -/
theorem copied_eq (src : Resource) {tx : Texture}
    (htx : s.textures.texture (backPlane s.writeSlot) = some tx) :
    ∃ t q rect, s.copied src = { s with
        textures := t
        gpu := s.gpu ++ (.work (.copy tx.id (.cef src)) :: q)
        popupClearRect := rect } ∧
      SameShape s.textures t ∧
      (∀ r, r ≠ backPlane s.writeSlot → r ≠ .popup → t.texture r = s.textures.texture r) ∧
      (s.usePopupDedicatedPlane = true →
        t.texture (backPlane s.writeSlot) = some (tx.copyResource (src.image s.paints))) ∧
      ∀ k ∈ q, ∃ ptx ux r, s.popupTexture = some ptx ∧ s.textures.texture r = some ux ∧
        (r = .popup ∨ r = backPlane s.writeSlot) ∧
        k = .work (.copy ux.id (.texture ptx.id)) := by
  have hne : backPlane s.writeSlot ≠ .popup := by simp [backPlane]
  set s1 := s.copyInto (backPlane s.writeSlot) (fun dst => dst.copyResource (src.image s.paints))
    (.cef src) with hs1
  have hgpu : s1.gpu = s.gpu ++ [.work (.copy tx.id (.cef src))] := by simp [hs1, copyInto, htx]
  have hshape : SameShape s.textures s1.textures := copyInto_sameShape fun dst =>
    ⟨Texture.copyResource_id, Texture.copyResource_width, Texture.copyResource_height⟩
  have hback : s1.textures.texture (backPlane s.writeSlot) =
      some (tx.copyResource (src.image s.paints)) := by simp [hs1, copyInto, htx]
  have hother : ∀ r, r ≠ backPlane s.writeSlot → s1.textures.texture r = s.textures.texture r :=
    fun r hr => Function.update_of_ne hr ..
  obtain ⟨rect, hclear⟩ := s1.clearLegacyPopup_eq
  obtain ⟨t, q, heq, hshape', hkeep, hq⟩ := s1.clearLegacyPopup.copyPopupRegion_eq
    (s.popupVisible && 0 < s.popupRect.width && 0 < s.popupRect.height)
    (if s.usePopupDedicatedPlane then .popup else backPlane s.writeSlot)
    s.popupRect.x s.popupRect.y s.popupRect.width s.popupRect.height
  rw [hclear] at heq hshape' hkeep hq
  refine ⟨t, q, rect, ?_, hshape.trans hshape', fun r hr hr' => ?_, fun hdedicated => ?_,
    fun k hk => ?_⟩
  · have hcopied : s.copied src = s1.clearLegacyPopup.compositePopup := rfl
    rw [hcopied, hclear]
    refine heq.trans ?_
    rw [hgpu, List.append_assoc]
    rfl
  · refine (hkeep r ?_).trans (hother r hr)
    split
    · exact hr'
    · exact hr
  · refine (hkeep _ ?_).trans hback
    rw [hdedicated]
    exact hne
  · obtain ⟨ptx, ux, hptx, hux, rfl⟩ := hq k hk
    obtain ⟨vx, hvx, hid, -, -⟩ := hshape.get hux
    refine ⟨ptx, vx, _, hptx, hvx, ?_, by rw [hid]⟩
    split
    · exact Or.inl rfl
    · exact Or.inr rfl

theorem ready_back (h : s.textures.alreadyReady width height = true) :
    ∃ tx, s.textures.texture (backPlane s.writeSlot) = some tx :=
  Option.isSome_iff_exists.mp ((SharedTextures.alreadyReady_iff.mp h).2.2 _)

theorem recreated_back (hok : (s.d3d.device && createsAll create) = true) :
    ∃ tx, (s.adoptTextures (s.textures.recreate s.d3d.device width height create).1 width
      height).textures.texture (backPlane 0) = some tx := by
  rw [← recreate_ok s.textures _ width height] at hok
  exact Option.isSome_iff_exists.mp (SharedTextures.recreate_complete hok (backPlane 0)).1

/-! ### The queue after a publish -/

theorem publishView_gpu (s : Painter) (p : Paint) (src : Resource) (recreated : Bool)
    (collected : List DirtyRect × Bool) :
    (s.publishView p src recreated collected).gpu = s.gpu ++ (s.signalCommands p ++
      flushCommands (s.viewFlush p recreated (s.forceFull recreated collected.2))) := by
  rw [publishView_eq]

theorem publishPopupPlane_gpu (s : Painter) (p : Paint) (r : Corners) :
    (s.publishPopupPlane p r).gpu =
      s.gpu ++ (s.signalCommands p ++ flushCommands !s.signaledFence p) := by
  rw [publishPopupPlane_eq]

/-- Besides its copies a publish submits at most a signal and a flush. -/
theorem mem_signalCommands_flush {k : GpuTimeline.Command GpuWork} {b : Bool}
    (hk : k ∈ s.signalCommands p ++ flushCommands b) :
    (s.signaledFence p = true ∧ k = .signal s.nextGpuFenceValue) ∨ k = .work .flush := by
  rcases List.mem_append.mp hk with hk | hk
  · rw [signalCommands] at hk
    split at hk
    · rename_i hsig
      exact Or.inl ⟨hsig, List.mem_singleton.mp hk⟩
    · cases hk
  · rw [flushCommands] at hk
    split at hk
    · exact Or.inr (List.mem_singleton.mp hk)
    · cases hk

/-! ### The frame counters -/

theorem texturesReady_cases (h : s.texturesReady width height create = true) :
    s.textures.alreadyReady width height = true ∨
      (s.textures.alreadyReady width height = false ∧
        (s.d3d.device && createsAll create) = true) := by
  rw [texturesReady] at h
  cases hready : s.textures.alreadyReady width height with
  | true => exact Or.inl rfl
  | false => exact Or.inr ⟨rfl, by rwa [hready, Bool.false_or] at h⟩

theorem publishView_counters (s : Painter) (p : Paint) (src : Resource) (recreated : Bool)
    (collected : List DirtyRect × Bool) :
    (s.publishView p src recreated collected).nextFrameId = s.nextFrameId + 1 ∧
      (s.publishView p src recreated collected).paintsCompleted = s.paintsCompleted + 1 := by
  rw [publishView_eq]
  exact ⟨rfl, rfl⟩

theorem paintView_counters (s : Painter) (p : Paint) (src : Resource) :
    (s.paintView p src).nextFrameId =
        s.nextFrameId + (s.texturesReady src.width src.height p.create).toNat ∧
      (s.paintView p src).paintsCompleted =
        s.paintsCompleted + (s.texturesReady src.width src.height p.create).toNat := by
  cases h : s.texturesReady src.width src.height p.create with
  | false => rw [paintView_failed h]; exact ⟨rfl, rfl⟩
  | true =>
    rcases texturesReady_cases h with hready | ⟨hready, hok⟩
    · obtain ⟨tx, htx⟩ := ready_back hready
      obtain ⟨t, q, rect, hcopied, -⟩ := copied_eq src htx
      rw [paintView_ready hready, hcopied]
      exact publishView_counters _ p src false _
    · obtain ⟨tx, htx⟩ := recreated_back hok
      obtain ⟨t, q, rect, hcopied, -⟩ := copied_eq src htx
      rw [paintView_recreated hready hok, hcopied, publishView_eq, adoptTextures_eq]
      exact ⟨rfl, rfl⟩

theorem publishPopup_counters (s : Painter) (p : Paint) :
    (s.publishPopup p).nextFrameId = s.nextFrameId + 1 ∧
      (s.publishPopup p).paintsCompleted = s.paintsCompleted + 1 := by
  obtain ⟨t, q, heq, -⟩ := s.publishPopup_eq p
  rw [heq, publishPopupPlane_eq]
  exact ⟨rfl, rfl⟩

theorem paintPopup_counters (s : Painter) (p : Paint) (src : Resource) :
    (s.paintPopup p src).nextFrameId =
        s.nextFrameId + (s.popupTextureReady p src && s.popupPlaneReady).toNat ∧
      (s.paintPopup p src).paintsCompleted =
        s.paintsCompleted + (s.popupTextureReady p src && s.popupPlaneReady).toNat := by
  cases h : s.popupTextureReady p src with
  | false => rw [paintPopup_failed h]; exact ⟨rfl, rfl⟩
  | true =>
    obtain ⟨tx, n, heq, -⟩ := paintPopup_ready h
    rw [heq, Bool.true_and]
    cases hplane : s.popupPlaneReady with
    | false => exact ⟨rfl, rfl⟩
    | true => exact publishPopup_counters _ p

/-- **Published or not**: `m_nextFrameId` and `m_paintsCompleted` move exactly when the paint
publishes. -/
theorem onAcceleratedPaint_published (s : Painter) (p : Paint) :
    (s.onAcceleratedPaint p).nextFrameId = s.nextFrameId + (s.publishes p).toNat ∧
      (s.onAcceleratedPaint p).paintsCompleted = s.paintsCompleted + (s.publishes p).toNat := by
  cases hsrc : s.source p with
  | none =>
    rw [onAcceleratedPaint_none hsrc, publishes, hsrc]
    exact ⟨rfl, rfl⟩
  | some src =>
    obtain ⟨view, popup, hopened⟩ := s.opened_eq p src
    cases ht : p.type with
    | view =>
      have h := (s.opened p src).paintView_counters p src
      rw [onAcceleratedPaint_view hsrc ht, publishes, hsrc, ht]
      rw [hopened] at h ⊢
      exact h
    | popup =>
      have h := (s.opened p src).paintPopup_counters p src
      rw [onAcceleratedPaint_popup hsrc ht, publishes, hsrc, ht]
      rw [hopened] at h ⊢
      exact h

/-- The callback is a view paint that publishes a frame. -/
def PublishesView (s : Painter) (p : Paint) : Prop :=
  p.type = .view ∧ s.nextFrameId < (s.onAcceleratedPaint p).nextFrameId

instance (s : Painter) (p : Paint) : Decidable (s.PublishesView p) :=
  inferInstanceAs (Decidable (_ ∧ _))

/-- A view paint publishes exactly when it gets its texture and the shared ones are ready. -/
theorem publishesView_iff : s.PublishesView p ↔ p.type = .view ∧
    ∃ src, s.source p = some src ∧ s.texturesReady src.width src.height p.create = true := by
  refine and_congr_right fun ht => ?_
  rw [(s.onAcceleratedPaint_published p).1, publishes, ht]
  cases s.source p with
  | none => simp
  | some src => cases h : s.texturesReady src.width src.height p.create <;> simp [h]

/-! ### The other callbacks -/

/-- Nothing about the published frame changes: what leads from `s` to `s'` publishes none, and of
the header it writes the load state, the cursor and `sequence` at most. -/
structure Quiet (s s' : Painter) : Prop where
  d3d : s'.d3d = s.d3d
  mode : s'.usePopupDedicatedPlane = s.usePopupDedicatedPlane
  textures : s'.textures = s.textures
  popupTexture : s'.popupTexture = s.popupTexture
  writeSlot : s'.writeSlot = s.writeSlot
  nextFrameId : s'.nextFrameId = s.nextFrameId
  nextGpuFenceValue : s'.nextGpuFenceValue = s.nextGpuFenceValue
  paintsCompleted : s'.paintsCompleted = s.paintsCompleted
  gpu : s'.gpu = s.gpu
  header : ∃ load cursor n, s'.header =
    { s.header with loadState := load, cursorType := cursor, sequence := n }
  seen : ∀ o ∈ s'.seen, o ∈ s.seen ∨ o.writer = .load ∨ o.writer = .cursor

/-- A paint that gets no texture. -/
theorem counted_quiet (s : Painter) : Quiet s { s with paints := s.paints + 1 } :=
  ⟨rfl, rfl, rfl, rfl, rfl, rfl, rfl, rfl, rfl, ⟨_, _, _, rfl⟩, fun _ ho => Or.inl ho⟩

theorem opened_quiet (s : Painter) (p : Paint) (src : Resource) : Quiet s (s.opened p src) := by
  obtain ⟨view, popup, heq⟩ := s.opened_eq p src
  rw [heq]
  exact ⟨rfl, rfl, rfl, rfl, rfl, rfl, rfl, rfl, rfl, ⟨_, _, _, rfl⟩, fun _ ho => Or.inl ho⟩

/-- A load callback changes the header and what has been seen of it, and signals. -/
theorem setLoadState_eq (s : Painter) (isMain : Bool) (v : CefLoadState) :
    ∃ header seen events, s.setLoadState isMain v =
      { s with header := header, seen := seen, frameEvents := events } := by
  cases isMain with
  | false => exact ⟨_, _, _, rfl⟩
  | true =>
    simp only [setLoadState, if_true, bumpSequence, storeAll]
    exact ⟨_, _, _, rfl⟩

theorem setLoadState_quiet (s : Painter) (isMain : Bool) (v : CefLoadState) :
    Quiet s (s.setLoadState isMain v) := by
  cases isMain with
  | false =>
    exact ⟨rfl, rfl, rfl, rfl, rfl, rfl, rfl, rfl, rfl, ⟨_, _, _, rfl⟩, fun _ ho => Or.inl ho⟩
  | true =>
    simp only [setLoadState, if_true, bumpSequence, storeAll, List.foldl_cons, List.foldl_nil]
    refine ⟨rfl, rfl, rfl, rfl, rfl, rfl, rfl, rfl, rfl, ⟨_, _, _, rfl⟩, fun o ho => ?_⟩
    simp only [observe, List.mem_append, List.mem_singleton] at ho
    rcases ho with (hold | rfl) | rfl
    · exact Or.inl hold
    · exact Or.inr (Or.inl rfl)
    · exact Or.inr (Or.inl rfl)

/-- **Every callback but a paint** leaves the published frame alone. -/
theorem step_quiet (s : Painter) {c : Callback} (hc : ∀ p, c ≠ .paint p) : Quiet s (s.step c) := by
  cases c with
  | paint p => exact absurd rfl (hc p)
  | loadStart isMain => exact s.setLoadState_quiet isMain _
  | loadEnd isMain status => exact s.setLoadState_quiet isMain _
  | loadError isMain => exact s.setLoadState_quiet isMain _
  | cursorChange type =>
    refine ⟨rfl, rfl, rfl, rfl, rfl, rfl, rfl, rfl, rfl, ⟨_, _, _, rfl⟩, fun o ho => ?_⟩
    rcases List.mem_append.mp ho with hold | hobs
    · exact Or.inl hold
    · cases List.mem_singleton.mp hobs
      exact Or.inr (Or.inr rfl)
  | popupShow visible =>
    cases visible <;>
      exact ⟨rfl, rfl, rfl, rfl, rfl, rfl, rfl, rfl, rfl, ⟨_, _, _, rfl⟩, fun _ ho => Or.inl ho⟩
  | _ => exact ⟨rfl, rfl, rfl, rfl, rfl, rfl, rfl, rfl, rfl, ⟨_, _, _, rfl⟩, fun _ ho => Or.inl ho⟩

/-! ### What no callback changes -/

/-- The interfaces and the popup mode are settled before the first callback. -/
def SameSetup (s s' : Painter) : Prop :=
  s'.d3d = s.d3d ∧ s'.usePopupDedicatedPlane = s.usePopupDedicatedPlane

theorem SameSetup.trans {s s' s'' : Painter} (h : SameSetup s s') (h' : SameSetup s' s'') :
    SameSetup s s'' := ⟨h'.1.trans h.1, h'.2.trans h.2⟩

theorem Quiet.sameSetup {s s' : Painter} (h : Quiet s s') : SameSetup s s' := ⟨h.d3d, h.mode⟩

theorem paintView_sameSetup (s : Painter) (p : Paint) (src : Resource) :
    SameSetup s (s.paintView p src) := by
  cases h : s.texturesReady src.width src.height p.create with
  | false => rw [paintView_failed h]; exact ⟨rfl, rfl⟩
  | true =>
    rcases texturesReady_cases h with hready | ⟨hready, hok⟩
    · obtain ⟨tx, htx⟩ := ready_back hready
      obtain ⟨t, q, rect, hcopied, -⟩ := copied_eq src htx
      rw [paintView_ready hready, hcopied, publishView_eq]
      exact ⟨rfl, rfl⟩
    · obtain ⟨tx, htx⟩ := recreated_back hok
      obtain ⟨t, q, rect, hcopied, -⟩ := copied_eq src htx
      rw [paintView_recreated hready hok, hcopied, publishView_eq, adoptTextures_eq]
      exact ⟨rfl, rfl⟩

theorem publishPopup_sameSetup (s : Painter) (p : Paint) : SameSetup s (s.publishPopup p) := by
  obtain ⟨t, q, heq, -⟩ := s.publishPopup_eq p
  rw [heq, publishPopupPlane_eq]
  exact ⟨rfl, rfl⟩

theorem paintPopup_sameSetup (s : Painter) (p : Paint) (src : Resource) :
    SameSetup s (s.paintPopup p src) := by
  cases h : s.popupTextureReady p src with
  | false => rw [paintPopup_failed h]; exact ⟨rfl, rfl⟩
  | true =>
    obtain ⟨tx, n, heq, -⟩ := paintPopup_ready h
    rw [heq]
    cases hplane : s.popupPlaneReady with
    | false => exact ⟨rfl, rfl⟩
    | true => exact SameSetup.trans ⟨rfl, rfl⟩ (publishPopup_sameSetup _ p)

theorem step_sameSetup (s : Painter) (c : Callback) : SameSetup s (s.step c) := by
  cases c with
  | paint p =>
    change SameSetup s (s.onAcceleratedPaint p)
    cases hsrc : s.source p with
    | none => rw [onAcceleratedPaint_none hsrc]; exact ⟨rfl, rfl⟩
    | some src =>
      obtain ⟨view, popup, hopened⟩ := s.opened_eq p src
      cases ht : p.type with
      | view =>
        rw [onAcceleratedPaint_view hsrc ht, hopened]
        exact SameSetup.trans ⟨rfl, rfl⟩ (paintView_sameSetup _ p src)
      | popup =>
        rw [onAcceleratedPaint_popup hsrc ht, hopened]
        exact SameSetup.trans ⟨rfl, rfl⟩ (paintPopup_sameSetup _ p src)
  | _ => exact Quiet.sameSetup (s.step_quiet fun _ => Callback.noConfusion)

end Painter

end CefHost
