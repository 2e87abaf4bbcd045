import CefHost.PublishedHeader

/-!
# What a paint callback can do

`OnAcceleratedPaint` has three ends: it publishes nothing, it publishes a view frame, or it
publishes a popup frame. Up to the point where it publishes it may have dropped textures, created
new ones, written the resize header and submitted copies; `Prepared` says what is left of the
state then. Results about every publish read what they need off `onAcceleratedPaint_cases`.

## Main definitions

* `Painter.Prepared` — from the start of a callback to the point where it would publish
* `GpuTimeline.Command.IsCopy` — the command is a copy

## Main results

* `Painter.onAcceleratedPaint_cases` — the three ends of a paint callback
-/

namespace CefHost

/-- The command is one of the two kinds of copies. -/
def IsCopy : GpuTimeline.Command GpuWork → Prop
  | .work (.copy _ _) => True
  | _ => False

namespace Painter

variable {s e e' : Painter} {p : Paint} {src : Resource}

/-- The header after `EnsureSharedTextures`, which rewrites it for the new size if it recreated the
textures. -/
def resizedHeader (h : FrameHeader) : Option (UInt32 × UInt32) → FrameHeader
  | none => h
  | some (width, height) => (resizeStores width height).foldl FrameHeader.apply h

/-- From `s` to `e` nothing has been published. Copies may have been submitted, textures may have
come and gone; if they were recreated at a new size, the header says so. -/
structure Prepared (s e : Painter) (resized : Option (UInt32 × UInt32)) : Prop where
  d3d : e.d3d = s.d3d
  mode : e.usePopupDedicatedPlane = s.usePopupDedicatedPlane
  popupVisible : e.popupVisible = s.popupVisible
  popupRect : e.popupRect = s.popupRect
  nextFrameId : e.nextFrameId = s.nextFrameId
  nextGpuFenceValue : e.nextGpuFenceValue = s.nextGpuFenceValue
  frameEvents : e.frameEvents = s.frameEvents
  writeSlot : e.writeSlot = if resized.isSome then 0 else s.writeSlot
  forceFullFrame : e.forceFullFrame = (s.forceFullFrame || resized.isSome)
  warmupFullFrames : e.warmupFullFrames = if resized.isSome then 3 else s.warmupFullFrames
  framesSinceFlush : e.framesSinceFlush = s.framesSinceFlush
  flushIntervalFrames : e.flushIntervalFrames = s.flushIntervalFrames
  header : e.header = resizedHeader s.header resized
  seen : ∃ obs, e.seen = s.seen ++ obs ∧ ∀ o ∈ obs, ∀ n, o.store ≠ .sequence n
  gpu : ∃ q, e.gpu = s.gpu ++ q ∧ ∀ k ∈ q, IsCopy k

namespace Prepared

/-- A change of textures, caches and popup data, and copies. -/
theorem of_eq {view popup : HandleCache} {tx : Option Texture} {w h : UInt32} {n : ℕ}
    {rect : CefRect} {t : SharedTextures} {q : GpuQueue} (hq : ∀ k ∈ q, IsCopy k) :
    Prepared s { s with
      textures := t
      cachedView := view
      cachedPopup := popup
      popupTexture := tx
      popupTexWidth := w
      popupTexHeight := h
      popupClearRect := rect
      gpu := s.gpu ++ q
      paints := n } none :=
  ⟨rfl, rfl, rfl, rfl, rfl, rfl, rfl, rfl, (Bool.or_false _).symm, rfl, rfl, rfl, rfl,
    ⟨[], (List.append_nil _).symm, by simp⟩, ⟨q, rfl, hq⟩⟩

/-- The same without copies. -/
theorem of_eq_nil {view popup : HandleCache} {tx : Option Texture} {w h : UInt32} {n : ℕ}
    {rect : CefRect} {t : SharedTextures} :
    Prepared s { s with
      textures := t
      cachedView := view
      cachedPopup := popup
      popupTexture := tx
      popupTexWidth := w
      popupTexHeight := h
      popupClearRect := rect
      paints := n } none :=
  ⟨rfl, rfl, rfl, rfl, rfl, rfl, rfl, rfl, (Bool.or_false _).symm, rfl, rfl, rfl, rfl,
    ⟨[], (List.append_nil _).symm, by simp⟩, ⟨[], (List.append_nil _).symm, by simp⟩⟩

/-- The textures are recreated at most once on the way. -/
theorem trans {resized resized' : Option (UInt32 × UInt32)} (h : Prepared s e resized)
    (h' : Prepared e e' resized') (hor : resized = none ∨ resized' = none) :
    Prepared s e' (resized <|> resized') := by
  obtain ⟨obs, hobs, hseq⟩ := h.seen
  obtain ⟨obs', hobs', hseq'⟩ := h'.seen
  obtain ⟨q, hq, hcopy⟩ := h.gpu
  obtain ⟨q', hq', hcopy'⟩ := h'.gpu
  refine ⟨h'.d3d.trans h.d3d, h'.mode.trans h.mode, h'.popupVisible.trans h.popupVisible,
    h'.popupRect.trans h.popupRect, h'.nextFrameId.trans h.nextFrameId,
    h'.nextGpuFenceValue.trans h.nextGpuFenceValue, h'.frameEvents.trans h.frameEvents, ?_, ?_, ?_,
    h'.framesSinceFlush.trans h.framesSinceFlush,
    h'.flushIntervalFrames.trans h.flushIntervalFrames, ?_, ⟨obs ++ obs', ?_, ?_⟩,
    ⟨q ++ q', ?_, ?_⟩⟩
  · rw [h'.writeSlot, h.writeSlot]
    rcases hor with rfl | rfl <;> simp
  · rw [h'.forceFullFrame, h.forceFullFrame]
    rcases hor with rfl | rfl <;> simp
  · rw [h'.warmupFullFrames, h.warmupFullFrames]
    rcases hor with rfl | rfl <;> simp
  · rw [h'.header, h.header]
    rcases hor with rfl | rfl
    · simp [resizedHeader]
    · simp [resizedHeader]
  · rw [hobs', hobs, List.append_assoc]
  · intro o ho
    rcases List.mem_append.mp ho with ho | ho
    · exact hseq o ho
    · exact hseq' o ho
  · rw [hq', hq, List.append_assoc]
  · intro k hk
    rcases List.mem_append.mp hk with hk | hk
    · exact hcopy k hk
    · exact hcopy' k hk

end Prepared

/-! ### The parts of a paint -/

theorem opened_prepared (s : Painter) (p : Paint) (src : Resource) :
    Prepared s (s.opened p src) none := by
  obtain ⟨view, popup, heq⟩ := s.opened_eq p src
  rw [heq]
  exact Prepared.of_eq_nil

theorem copied_prepared {src : Resource} {tx : Texture}
    (htx : s.textures.texture (backPlane s.writeSlot) = some tx) :
    Prepared s (s.copied src) none := by
  obtain ⟨t, q, rect, heq, -, -, -, hq⟩ := copied_eq src htx
  rw [heq]
  refine Prepared.of_eq fun k hk => ?_
  rcases List.mem_cons.mp hk with rfl | hk
  · trivial
  · obtain ⟨ptx, ux, r, -, -, -, rfl⟩ := hq k hk
    trivial

theorem adoptTextures_prepared (s : Painter) (t : SharedTextures) (width height : UInt32) :
    Prepared s (s.adoptTextures t width height) (some (width, height)) := by
  rw [adoptTextures_eq]
  refine ⟨rfl, rfl, rfl, rfl, rfl, rfl, rfl, rfl, (Bool.or_true _).symm, rfl, rfl, rfl, rfl,
    ⟨_, rfl, fun o ho n hn => ?_⟩, ⟨[], (List.append_nil _).symm, by simp⟩⟩
  simp [observe, resizeStores] at ho
  rcases ho with rfl | rfl | rfl | rfl | rfl | rfl | rfl | rfl | rfl | rfl | rfl <;> cases hn

theorem copyPopup_prepared (s : Painter) (src : Resource) : Prepared s (s.copyPopup src) none := by
  refine Prepared.of_eq fun k hk => ?_
  cases htx : s.popupTexture with
  | none => rw [htx] at hk; cases hk
  | some tx =>
    rw [htx] at hk
    obtain rfl : k = .work (.copy tx.id (.cef src)) := by simpa using hk
    trivial

/-! ### The three ends -/

theorem paintView_published (h : s.texturesReady src.width src.height p.create = true) :
    ∃ e recreated, recreated = !s.textures.alreadyReady src.width src.height ∧
      Prepared s e (if recreated then some (src.width, src.height) else none) ∧
      s.paintView p src = e.publishView p src recreated (s.collectDirty p) := by
  rcases texturesReady_cases h with hready | ⟨hready, hok⟩
  · obtain ⟨tx, htx⟩ := ready_back hready
    exact ⟨_, false, by rw [hready]; rfl, copied_prepared htx, paintView_ready hready⟩
  · obtain ⟨tx, htx⟩ := recreated_back hok
    refine ⟨_, true, by rw [hready]; rfl, ?_, paintView_recreated hready hok⟩
    exact (s.adoptTextures_prepared _ _ _).trans (copied_prepared htx) (Or.inr rfl)

theorem paintPopup_published (h : s.popupTextureReady p src = true)
    (hplane : s.popupPlaneReady = true) :
    ∃ e, Prepared s e none ∧ e.textures.sharedWidth = s.textures.sharedWidth ∧
      e.textures.sharedHeight = s.textures.sharedHeight ∧
      s.paintPopup p src = e.publishPopupPlane p s.clampedPopupRect := by
  obtain ⟨tx, n, heq, -⟩ := paintPopup_ready h
  rw [heq, if_pos hplane]
  set s' := (s.withPopup src tx n).copyPopup src
  have hcopied : Prepared s s' none :=
    Prepared.of_eq_nil.trans (copyPopup_prepared _ src) (Or.inl rfl)
  obtain ⟨t, q, hpub, hshape, -, hq⟩ := s'.publishPopup_eq p
  refine ⟨_, hcopied.trans (Prepared.of_eq fun k hk => ?_) (Or.inl rfl), hshape.sharedWidth,
    hshape.sharedHeight, hpub⟩
  obtain ⟨ptx, ux, -, -, rfl⟩ := hq k hk
  trivial

theorem paintPopup_unpublished
    (h : (s.popupTextureReady p src && s.popupPlaneReady) = false) :
    Prepared s (s.paintPopup p src) none := by
  cases hready : s.popupTextureReady p src with
  | false =>
    rw [paintPopup_failed hready]
    exact Prepared.of_eq_nil
  | true =>
    rw [hready, Bool.true_and] at h
    obtain ⟨tx, n, heq, -⟩ := paintPopup_ready hready
    rw [heq, h]
    exact Prepared.of_eq_nil.trans (copyPopup_prepared _ src) (Or.inl rfl)

/-- **The ends of a paint callback**: nothing is published, or a view frame is, in a state `e` that
may have been resized, or a popup frame is. -/
theorem onAcceleratedPaint_cases (s : Painter) (p : Paint) :
    (s.publishes p = false ∧ Prepared s (s.onAcceleratedPaint p) none) ∨
    (s.publishes p = true ∧ p.type = .view ∧ ∃ src e recreated, s.source p = some src ∧
      recreated = !s.textures.alreadyReady src.width src.height ∧
      Prepared s e (if recreated then some (src.width, src.height) else none) ∧
      s.onAcceleratedPaint p = e.publishView p src recreated (s.collectDirty p)) ∨
    (s.publishes p = true ∧ p.type = .popup ∧ ∃ e, Prepared s e none ∧
      e.textures.sharedWidth = s.textures.sharedWidth ∧
      e.textures.sharedHeight = s.textures.sharedHeight ∧
      s.onAcceleratedPaint p = e.publishPopupPlane p s.clampedPopupRect) := by
  cases hsrc : s.source p with
  | none =>
    left
    rw [publishes, hsrc, onAcceleratedPaint_none hsrc]
    exact ⟨rfl, Prepared.of_eq_nil⟩
  | some src =>
    have hprep := s.opened_prepared p src
    obtain ⟨view, popup, hopened⟩ := s.opened_eq p src
    rw [publishes, hsrc]
    cases ht : p.type with
    | view =>
      rw [onAcceleratedPaint_view hsrc ht]
      cases hready : s.texturesReady src.width src.height p.create with
      | false =>
        left
        refine ⟨hready, hprep.trans ?_ (Or.inl rfl)⟩
        rw [paintView_failed (by rw [hopened]; exact hready)]
        exact Prepared.of_eq_nil
      | true =>
        right; left
        have hready' : (s.opened p src).texturesReady src.width src.height p.create = true := by
          rw [hopened]
          exact hready
        obtain ⟨e, recreated, hrec, he, heq⟩ := paintView_published hready'
        refine ⟨hready, rfl, src, e, recreated, rfl, ?_, hprep.trans he (Or.inl rfl), ?_⟩
        · rw [hrec, hopened]
        · rw [heq, hopened]
          rfl
    | popup =>
      rw [onAcceleratedPaint_popup hsrc ht]
      cases hready : s.popupTextureReady p src && s.popupPlaneReady with
      | false =>
        left
        refine ⟨hready, hprep.trans (paintPopup_unpublished ?_) (Or.inl rfl)⟩
        rw [hopened]
        exact hready
      | true =>
        right; right
        obtain ⟨htexture, hplane⟩ := Bool.and_eq_true_iff.mp hready
        have htexture' : (s.opened p src).popupTextureReady p src = true := by
          rw [hopened]
          exact htexture
        have hplane' : (s.opened p src).popupPlaneReady = true := by
          rw [hopened]
          exact hplane
        obtain ⟨e, he, hw, hh, heq⟩ := paintPopup_published htexture' hplane'
        refine ⟨hready, rfl, e, hprep.trans he (Or.inl rfl), ?_, ?_, ?_⟩
        · rw [hw, hopened]
        · rw [hh, hopened]
        · rw [heq, hopened]
          rfl

end Painter

end CefHost
