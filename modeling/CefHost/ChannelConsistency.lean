import CefHost.Library.Runs
import CefHost.PublishedHeader

/-!
# What the consumer finds between two callbacks

Once a frame has been published the header names a slot and a size, and a consumer may be woken
at any time: by the next frame, by a popup publish, or by a load event. It then opens the texture
in that slot by name and expects the last view frame in it.

A resize drops the old ring before it is known whether the new one can be built. `Consistent` is
what the consumer relies on, `RebuildSucceeds` that no such resize fails; they turn out to be the
same thing.

## Main results

* `FrameRun.Inv.next` — callbacks that rebuild without failure keep the channel consistent
* `FrameRun.not_consistent_of_failed` — a failed rebuild always breaks it
* `channel_consistent_iff_rebuilds_succeed` — whole runs
* `failed_resize_wrong_size` — a frame, a failed resize, a load event
-/

namespace CefHost

open SharedTextures

/-- The painter, and the pixels of the view frame published last. -/
structure FrameRun where
  painter : Painter
  lastView : Content

namespace FrameRun

def init (s : Painter) : FrameRun := ⟨s, .blank⟩

/-- The pixels of a view frame are those of the texture its paint got. -/
def step (r : FrameRun) (c : Callback) : FrameRun where
  painter := r.painter.step c
  lastView :=
    match c with
    | .paint p =>
      match r.painter.source p with
      | some src =>
        if r.painter.PublishesView p then (src.image (r.painter.paints + 1)).content
        else r.lastView
      | none => r.lastView
    | _ => r.lastView

/-- If a frame has been published, the slot the header names holds a texture that is shared under
its name, has the size the header says, and shows the view frame published last. -/
def Consistent (r : FrameRun) : Prop :=
  0 < r.painter.header.frameId → ∃ plane tx,
    slotPlane r.painter.header.writeSlot = some plane ∧
    r.painter.textures.Open plane ∧
    r.painter.textures.texture plane = some tx ∧
    tx.width = r.painter.header.width ∧ tx.height = r.painter.header.height ∧
    tx.content = r.lastView

/-- After the first frame, a view paint that has to rebuild the textures meets no failure. -/
def RebuildSucceeds (r : FrameRun) : Callback → Prop
  | .paint p => p.type = .view → 0 < r.painter.header.frameId →
      ∀ src, r.painter.source p = some src →
        r.painter.textures.alreadyReady src.width src.height = false →
        (r.painter.d3d.device && Painter.createsAll p.create) = true
  | _ => True

/-! ### The invariant -/

/-- Before the first frame no size is recorded. From then on header, recorded size and textures
agree, the ring is complete, and the current slot shows the last view frame. -/
structure Inv (r : FrameRun) : Prop where
  mode : r.painter.usePopupDedicatedPlane = true
  nextFrameId : 0 < r.painter.nextFrameId
  slot : r.painter.header.writeSlot = r.painter.writeSlot
  slot_lt : r.painter.writeSlot.toNat < shmFrameSlotCount
  unpublished : r.painter.header.frameId = 0 → r.painter.textures.sharedWidth = 0
  size : 0 < r.painter.header.frameId →
    r.painter.header.width = r.painter.textures.sharedWidth ∧
      r.painter.header.height = r.painter.textures.sharedHeight
  ring : 0 < r.painter.header.frameId → ∀ i, r.painter.textures.Open (.ring i)
  created : 0 < r.painter.header.frameId → ∀ p tx, r.painter.textures.texture p = some tx →
    tx.width = r.painter.textures.sharedWidth ∧ tx.height = r.painter.textures.sharedHeight
  shown : 0 < r.painter.header.frameId → ∀ (i : Fin shmFrameSlotCount) tx,
    (i : ℕ) = r.painter.writeSlot.toNat → r.painter.textures.texture (.ring i) = some tx →
    tx.content = r.lastView

theorem inv_init (names : SharedMemoryNames) (d3d : D3DInterfaces) (width height : UInt32) :
    (init (.init names d3d width height)).Inv where
  mode := rfl
  nextFrameId := Nat.one_pos
  slot := rfl
  slot_lt := Nat.zero_lt_succ 2
  unpublished _ := rfl
  size h := absurd h (Nat.lt_irrefl 0)
  ring h := absurd h (Nat.lt_irrefl 0)
  created h := absurd h (Nat.lt_irrefl 0)
  shown h := absurd h (Nat.lt_irrefl 0)

variable {r r' : FrameRun}

theorem Inv.consistent (h : r.Inv) : r.Consistent := by
  intro hpub
  have hslot : slotPlane r.painter.header.writeSlot =
      some (.ring ⟨r.painter.writeSlot.toNat, h.slot_lt⟩) := by
    rw [h.slot]
    exact slotPlane_of_lt h.slot_lt
  have hopen := h.ring hpub ⟨r.painter.writeSlot.toNat, h.slot_lt⟩
  obtain ⟨tx, htx⟩ := Option.isSome_iff_exists.mp hopen.1
  obtain ⟨hw, hh⟩ := h.size hpub
  obtain ⟨htw, hth⟩ := h.created hpub _ tx htx
  exact ⟨_, tx, hslot, hopen, htx, htw.trans hw.symm, hth.trans hh.symm,
    h.shown hpub _ tx rfl htx⟩

/-- What the invariant speaks about is as before. -/
structure Untouched (r r' : FrameRun) : Prop where
  mode : r'.painter.usePopupDedicatedPlane = r.painter.usePopupDedicatedPlane
  nextFrameId : r'.painter.nextFrameId = r.painter.nextFrameId
  writeSlot : r'.painter.writeSlot = r.painter.writeSlot
  headerSlot : r'.painter.header.writeSlot = r.painter.header.writeSlot
  frameId : r'.painter.header.frameId = r.painter.header.frameId
  width : r'.painter.header.width = r.painter.header.width
  height : r'.painter.header.height = r.painter.header.height
  names : r'.painter.textures.names = r.painter.textures.names
  texture : r'.painter.textures.texture = r.painter.textures.texture
  handle : r'.painter.textures.handle = r.painter.textures.handle
  sharedWidth : r'.painter.textures.sharedWidth = r.painter.textures.sharedWidth
  sharedHeight : r'.painter.textures.sharedHeight = r.painter.textures.sharedHeight
  lastView : r'.lastView = r.lastView

theorem Inv.of_untouched (h : r.Inv) (u : Untouched r r') : r'.Inv where
  mode := u.mode.trans h.mode
  nextFrameId := by rw [u.nextFrameId]; exact h.nextFrameId
  slot := by rw [u.headerSlot, u.writeSlot]; exact h.slot
  slot_lt := by rw [u.writeSlot]; exact h.slot_lt
  unpublished hz := by
    rw [u.frameId] at hz
    rw [u.sharedWidth]
    exact h.unpublished hz
  size hpub := by
    rw [u.frameId] at hpub
    rw [u.width, u.height, u.sharedWidth, u.sharedHeight]
    exact h.size hpub
  ring hpub i := by
    rw [u.frameId] at hpub
    exact (h.ring hpub i).congr u.names (by rw [u.texture]) (by rw [u.handle])
  created hpub := by
    rw [u.frameId] at hpub
    rw [u.texture, u.sharedWidth, u.sharedHeight]
    exact h.created hpub
  shown hpub := by
    rw [u.frameId] at hpub
    rw [u.writeSlot, u.texture, u.lastView]
    exact h.shown hpub

theorem Inv.of_quiet (h : r.Inv) {s' : Painter} (hq : Painter.Quiet r.painter s') :
    Inv ⟨s', r.lastView⟩ := by
  obtain ⟨load, cursor, n, hheader⟩ := hq.header
  have htextures := hq.textures
  refine h.of_untouched ⟨hq.mode, hq.nextFrameId, hq.writeSlot, ?_, ?_, ?_, ?_, ?_, ?_, ?_, ?_, ?_,
    rfl⟩ <;> simp only [hheader, htextures]

/-! ### A published view frame -/

/-- The textures are complete at this size. -/
structure Sized (t : SharedTextures) (width height : UInt32) : Prop where
  ring : ∀ i, t.Open (.ring i)
  created : ∀ p tx, t.texture p = some tx → tx.width = width ∧ tx.height = height
  sharedWidth : t.sharedWidth = width
  sharedHeight : t.sharedHeight = height

/-- **A view publish** on complete textures establishes the invariant, whatever held before. -/
theorem inv_publishView {e : Painter} {src : Resource} (hmode : e.usePopupDedicatedPlane = true)
    (hnext : 0 < e.nextFrameId) (hsized : Sized e.textures src.width src.height) (p : Paint)
    (recreated : Bool) (collected : List DirtyRect × Bool) :
    Inv ⟨(e.copied src).publishView p src recreated collected, (src.image e.paints).content⟩ := by
  obtain ⟨tx, htx⟩ := Option.isSome_iff_exists.mp
    (hsized.ring ⟨_, Painter.backSlot_lt e.writeSlot⟩).1
  obtain ⟨htw, hth⟩ := hsized.created _ tx htx
  obtain ⟨t, q, rect, hcopied, hshape, -, hback, -⟩ := Painter.copied_eq src htx
  rw [hcopied, Painter.publishView_eq]
  dsimp only
  rw [Painter.publishedHeader_viewStores]
  have hw : t.sharedWidth = src.width := hshape.sharedWidth.trans hsized.sharedWidth
  have hh : t.sharedHeight = src.height := hshape.sharedHeight.trans hsized.sharedHeight
  refine ⟨hmode, Nat.succ_pos _, rfl, Painter.backSlot_lt _, fun hz => ?_, fun _ => ?_,
    fun _ i => hshape.open (hsized.ring i), fun _ r tx' hr => ?_, fun _ i tx' hi hr => ?_⟩
  · exact absurd hnext (by rw [show e.nextFrameId = 0 from hz]; exact Nat.lt_irrefl 0)
  · exact ⟨hw.symm, hh.symm⟩
  · obtain ⟨ux, hux, -, hwu, hhu⟩ := hshape.get hr
    obtain ⟨h1, h2⟩ := hsized.created r ux hux
    exact ⟨hwu.symm.trans (h1.trans hw.symm), hhu.symm.trans (h2.trans hh.symm)⟩
  · have hplane : Plane.ring i = Painter.backPlane e.writeSlot := congrArg Plane.ring (Fin.ext hi)
    rw [hplane] at hr
    have heq : some tx' = some (tx.copyResource (src.image e.paints)) :=
      (show t.texture _ = some tx' from hr).symm.trans (hback hmode)
    cases heq
    exact Texture.copyResource_content htw hth

/-- A successful recreation leaves complete textures of the requested size. -/
theorem sized_adopt {s : Painter} {width height : UInt32} {create : Plane → CreateOutcome}
    (hok : (s.d3d.device && Painter.createsAll create) = true) :
    Sized (s.adoptTextures (s.textures.recreate s.d3d.device width height create).1 width
      height).textures width height := by
  have hnew := s.textures.recreate_newborn s.d3d.device width height create
  rw [← Painter.recreate_ok s.textures _ width height] at hok
  have hopen := recreate_complete hok
  rw [Painter.adoptTextures_eq]
  refine ⟨fun i => (hopen (.ring i)).congr rfl rfl rfl, fun p tx htx => ?_, rfl, rfl⟩
  obtain ⟨id, -, -, rfl⟩ := hnew.created p tx htx
  exact ⟨rfl, rfl⟩

theorem adopt_frame (s : Painter) (t : SharedTextures) (width height : UInt32) :
    (s.adoptTextures t width height).usePopupDedicatedPlane = s.usePopupDedicatedPlane ∧
      (s.adoptTextures t width height).nextFrameId = s.nextFrameId ∧
      (s.adoptTextures t width height).paints = s.paints := by
  rw [Painter.adoptTextures_eq]
  exact ⟨rfl, rfl, rfl⟩

/-- The textures of a consistent channel that pass the shortcut are complete. -/
theorem Inv.sized (h : r.Inv) {src : Resource}
    (hready : r.painter.textures.alreadyReady src.width src.height = true) :
    Sized r.painter.textures src.width src.height := by
  obtain ⟨hw, hh, -⟩ := alreadyReady_iff.mp hready
  have hpub : 0 < r.painter.header.frameId := by
    refine Nat.pos_of_ne_zero fun hz => ?_
    have hpos := src.width_pos
    rw [← hw, h.unpublished hz] at hpos
    exact absurd hpos (by decide)
  refine ⟨h.ring hpub, fun p tx htx => ?_, hw, hh⟩
  rw [← hw, ← hh]
  exact h.created hpub p tx htx

/-! ### Popup publishes -/

/-- A popup publish repeats the size and the slot, and copies into the popup plane only. -/
theorem Inv.publishPopup (h : r.Inv) (hready : r.painter.popupPlaneReady = true) (p : Paint) :
    Inv ⟨r.painter.publishPopup p, r.lastView⟩ := by
  have hpub : 0 < r.painter.header.frameId := by
    refine Nat.pos_of_ne_zero fun hz => ?_
    simp only [Painter.popupPlaneReady, Bool.and_eq_true, decide_eq_true_eq] at hready
    have hpos := hready.1.2
    rw [h.unpublished hz] at hpos
    exact absurd hpos (by decide)
  obtain ⟨t, q, heq, hshape, hkeep, -⟩ := r.painter.publishPopup_eq p
  rw [heq, Painter.publishPopupPlane_eq]
  dsimp only
  generalize hstores : Painter.publishedHeader _ _ = header
  obtain ⟨count, rects, hheader⟩ := Painter.publishedHeader_popupStores
    { r.painter with textures := t, gpu := r.painter.gpu ++ q } r.painter.header
    r.painter.clampedPopupRect
    (Painter.gpuFenceValue { r.painter with textures := t, gpu := r.painter.gpu ++ q } p)
  rw [hheader] at hstores
  subst hstores
  refine ⟨h.mode, Nat.succ_pos _, rfl, h.slot_lt, fun hz => ?_, fun _ => ⟨rfl, rfl⟩,
    fun _ i => hshape.open (h.ring hpub i), fun _ r' tx hr => ?_, fun _ i tx hi hr => ?_⟩
  · exact absurd h.nextFrameId (by
      rw [show r.painter.nextFrameId = 0 from hz]; exact Nat.lt_irrefl 0)
  · obtain ⟨ux, hux, -, hwu, hhu⟩ := hshape.get hr
    obtain ⟨h1, h2⟩ := h.created hpub r' ux hux
    exact ⟨hwu.symm.trans (h1.trans hshape.sharedWidth.symm),
      hhu.symm.trans (h2.trans hshape.sharedHeight.symm)⟩
  · have hring : t.texture (.ring i) = some tx := hr
    rw [hkeep (.ring i) (by simp)] at hring
    exact h.shown hpub i tx hi hring

theorem Inv.paintPopup (h : r.Inv) (p : Paint) (src : Resource) :
    Inv ⟨r.painter.paintPopup p src, r.lastView⟩ := by
  cases hready : r.painter.popupTextureReady p src with
  | false =>
    rw [Painter.paintPopup_failed hready]
    exact h.of_untouched ⟨rfl, rfl, rfl, rfl, rfl, rfl, rfl, rfl, rfl, rfl, rfl, rfl, rfl⟩
  | true =>
    obtain ⟨tx, n, heq, -⟩ := Painter.paintPopup_ready hready
    rw [heq]
    dsimp only
    have hcopied : Inv ⟨(r.painter.withPopup src tx n).copyPopup src, r.lastView⟩ :=
      h.of_untouched ⟨rfl, rfl, rfl, rfl, rfl, rfl, rfl, rfl, rfl, rfl, rfl, rfl, rfl⟩
    cases hplane : r.painter.popupPlaneReady with
    | false => exact hcopied
    | true => exact hcopied.publishPopup hplane p

/-! ### View paints -/

theorem Inv.paintView_published (h : r.Inv) {p : Paint} {src : Resource}
    (hready : r.painter.texturesReady src.width src.height p.create = true) :
    Inv ⟨r.painter.paintView p src, (src.image r.painter.paints).content⟩ := by
  rcases Painter.texturesReady_cases hready with hready | ⟨hready, hok⟩
  · rw [Painter.paintView_ready hready]
    exact inv_publishView h.mode h.nextFrameId (h.sized hready) p false _
  · obtain ⟨hmode, hnext, hpaints⟩ := adopt_frame r.painter
      (r.painter.textures.recreate r.painter.d3d.device src.width src.height p.create).1
      src.width src.height
    rw [Painter.paintView_recreated hready hok, ← hpaints]
    exact inv_publishView (hmode.trans h.mode) (by rw [hnext]; exact h.nextFrameId)
      (sized_adopt hok) p true _

/-- A failed rebuild before the first frame leaves nothing to be consistent with. -/
theorem Inv.paintView_unpublished (h : r.Inv) {p : Paint} {src : Resource}
    (hfailed : r.painter.texturesReady src.width src.height p.create = false)
    (hz : r.painter.header.frameId = 0) : Inv ⟨r.painter.paintView p src, r.lastView⟩ := by
  have hnot : ¬ 0 < r.painter.header.frameId := by rw [hz]; exact Nat.lt_irrefl 0
  obtain ⟨hw, -⟩ :=
    r.painter.textures.recreate_frame r.painter.d3d.device src.width src.height p.create
  rw [Painter.paintView_failed hfailed]
  refine ⟨h.mode, h.nextFrameId, h.slot, h.slot_lt, fun _ => hw.trans (h.unpublished hz), ?_, ?_,
    ?_, ?_⟩ <;> exact fun hpub => absurd hpub hnot

/-- **A failed rebuild** after the first frame always breaks the channel: whatever texture is in
the slot has the new size, and the header still says the old one. -/
theorem not_consistent_of_failed (h : r.Inv) (p : Paint) (src : Resource) (lastView : Content)
    (hpub : 0 < r.painter.header.frameId)
    (hready : r.painter.textures.alreadyReady src.width src.height = false)
    (hfailed : (r.painter.d3d.device && Painter.createsAll p.create) = false) :
    ¬ Consistent ⟨r.painter.paintView p src, lastView⟩ := by
  have hnew := r.painter.textures.recreate_newborn r.painter.d3d.device src.width src.height
    p.create
  rw [Painter.paintView_failed (by rw [Painter.texturesReady, hready, hfailed]; rfl)]
  intro hcons
  obtain ⟨plane, tx, -, -, htx, hw, hh, -⟩ := hcons hpub
  obtain ⟨id, -, -, rfl⟩ := hnew.created plane tx htx
  -- so the header has the size asked for, and the shortcut would have been taken
  obtain ⟨hsw, hsh⟩ := h.size hpub
  have hall : r.painter.textures.alreadyReady src.width src.height = true :=
    alreadyReady_iff.mpr ⟨hsw.symm.trans hw.symm, hsh.symm.trans hh.symm,
      fun i => (h.ring hpub i).1⟩
  rw [hall] at hready
  cases hready

/-! ### Any callback -/

theorem opened_paints (s : Painter) (p : Paint) (src : Resource) :
    (s.opened p src).paints = s.paints + 1 := by
  obtain ⟨view, popup, heq⟩ := s.opened_eq p src
  rw [heq]

theorem opened_texturesReady (s : Painter) (p : Paint) (src : Resource) :
    (s.opened p src).texturesReady src.width src.height p.create =
      s.texturesReady src.width src.height p.create := by
  obtain ⟨view, popup, heq⟩ := s.opened_eq p src
  rw [heq]
  rfl

/-- The frame published last, after a paint that got the texture `src`. -/
theorem step_paint_lastView {p : Paint} {src : Resource} (hsrc : r.painter.source p = some src) :
    (r.step (.paint p)).lastView =
      if r.painter.PublishesView p then (src.image (r.painter.paints + 1)).content
      else r.lastView := by
  rw [step]
  dsimp only
  rw [hsrc]

theorem Inv.next_paint (h : r.Inv) {p : Paint} (hG : r.RebuildSucceeds (.paint p)) :
    (r.step (.paint p)).Inv := by
  cases hsrc : r.painter.source p with
  | none =>
    have hs : r.step (.paint p) =
        ⟨{ r.painter with paints := r.painter.paints + 1 }, r.lastView⟩ := by
      rw [step]
      dsimp only [Painter.step]
      rw [hsrc, Painter.onAcceleratedPaint_none hsrc]
    rw [hs]
    exact h.of_quiet r.painter.counted_quiet
  | some src =>
    have hopened := h.of_quiet (r.painter.opened_quiet p src)
    have hlast := step_paint_lastView hsrc
    change Inv ⟨r.painter.onAcceleratedPaint p, (r.step (.paint p)).lastView⟩
    cases ht : p.type with
    | popup =>
      have hnot : ¬ r.painter.PublishesView p := fun hpv => by
        rw [Painter.PublishesView, ht] at hpv
        cases hpv.1
      rw [hlast, if_neg hnot, Painter.onAcceleratedPaint_popup hsrc ht]
      exact hopened.paintPopup p src
    | view =>
      rw [hlast, Painter.onAcceleratedPaint_view hsrc ht]
      cases hready : r.painter.texturesReady src.width src.height p.create with
      | true =>
        rw [if_pos (Painter.publishesView_iff.mpr ⟨ht, src, hsrc, hready⟩),
          ← opened_paints r.painter p src]
        exact hopened.paintView_published ((opened_texturesReady _ p src).trans hready)
      | false =>
        have hnot : ¬ r.painter.PublishesView p := by
          rw [Painter.publishesView_iff]
          rintro ⟨-, src', hsrc', hready'⟩
          rw [hsrc] at hsrc'
          cases hsrc'
          rw [hready] at hready'
          cases hready'
        rw [if_neg hnot]
        refine hopened.paintView_unpublished ((opened_texturesReady _ p src).trans hready) ?_
        -- after the first frame the guard rules this failure out
        obtain ⟨view, popup, heq⟩ := r.painter.opened_eq p src
        rw [heq]
        refine Nat.eq_zero_of_not_pos fun hpub => ?_
        rw [Painter.texturesReady, Bool.or_eq_false_iff] at hready
        have hok := hG ht hpub src hsrc hready.1
        rw [hready.2] at hok
        cases hok

theorem Inv.next (h : r.Inv) {c : Callback} (hG : r.RebuildSucceeds c) : (r.step c).Inv := by
  cases c with
  | paint p => exact h.next_paint hG
  | _ => exact Inv.of_quiet h (r.painter.step_quiet fun _ => Callback.noConfusion)

/-- **One callback** from a consistent channel. -/
theorem Inv.consistent_iff (h : r.Inv) (c : Callback) :
    (r.step c).Consistent ↔ r.RebuildSucceeds c := by
  constructor
  · intro hcons
    cases c with
    | paint p =>
      intro ht hpub src hsrc hready
      by_contra hfailed
      rw [Bool.not_eq_true] at hfailed
      obtain ⟨view, popup, heq⟩ := r.painter.opened_eq p src
      refine not_consistent_of_failed (h.of_quiet (r.painter.opened_quiet p src)) p src
        (r.step (.paint p)).lastView (by rw [heq]; exact hpub) (by rw [heq]; exact hready)
        (by rw [heq]; exact hfailed) ?_
      rw [← Painter.onAcceleratedPaint_view hsrc ht]
      exact hcons
    | _ => trivial
  · intro hG
    exact (h.next hG).consistent

end FrameRun

/-- **Runs of callbacks**: the channel is consistent in every state if and only if, once a frame
has been published, no view paint fails to rebuild the shared textures. -/
theorem channel_consistent_iff_rebuilds_succeed (names : SharedMemoryNames) (d3d : D3DInterfaces)
    (width height : UInt32) (callbacks : List Callback) :
    Runs.Always FrameRun.step FrameRun.Consistent (.init (.init names d3d width height)) callbacks ↔
      Runs.Along FrameRun.step FrameRun.RebuildSucceeds (.init (.init names d3d width height))
        callbacks := by
  have hinit := FrameRun.inv_init names d3d width height
  exact Runs.always_iff_along (fun _ _ h _ hG => h.next hG) (fun _ c h _ => h.consistent_iff c)
    hinit hinit.consistent callbacks

/-- A view paint of a square texture whose recreation fails at the popup plane, or not at all. -/
def squarePaint (size : UInt32) (hsize : 0 < size) (popupPlane : Bool) : Paint :=
  { Paint.succeeding .view [] size.toNat ⟨size.toNat, size, size, hsize, hsize⟩ with
    create
      | .ring _ => ⟨true, true, true⟩
      | .popup => ⟨popupPlane, true, true⟩ }

/-- A frame of 8 × 8, a resize to 16 × 16 that fails, and the end of a page load. -/
def failedResize : List Callback :=
  [.paint (squarePaint 8 (by decide) true), .paint (squarePaint 16 (by decide) false),
    .loadEnd true 200]

/-- The load event wakes the consumer over a texture of 16 × 16 under a header of 8 × 8. -/
theorem failed_resize_wrong_size :
    ¬ Runs.Always FrameRun.step FrameRun.Consistent
      (.init (.init (buildSharedMemoryNames []) fullD3D 8 8))
      failedResize := by
  intro h
  set r := Runs.run FrameRun.step
    (.init (.init (buildSharedMemoryNames []) fullD3D 8 8)) failedResize
    with hr
  have hlast : r.Consistent := Runs.always_iff_forall.mp h failedResize List.prefix_rfl
  have hpub : 0 < r.painter.header.frameId := by rw [hr]; decide +kernel
  have hslot : slotPlane r.painter.header.writeSlot = some (.ring ⟨1, by decide⟩) := by
    rw [hr]; decide +kernel
  have htexture : (r.painter.textures.texture (.ring ⟨1, by decide⟩)).map (fun tx => tx.width) =
      some 16 := by rw [hr]; decide +kernel
  have hheader : r.painter.header.width = 8 := by rw [hr]; decide +kernel
  obtain ⟨plane, tx, hplane, -, htx, hwidth, -⟩ := hlast hpub
  rw [hslot] at hplane
  cases hplane
  rw [htx, Option.map_some, hwidth, hheader] at htexture
  cases htexture

end CefHost
