import CefHost.PaintOutcome

/-!
# The header a publish leaves behind

Each list of stores as one record update, and the dirty list a consumer reads back. The order of
the stores matters to a consumer that looks in between, not to the header at the end.

## Main results

* `Painter.publishedHeader_viewStores`, `Painter.publishedHeader_popupStores`,
  `Painter.foldl_resizeStores` — the three writers inside a paint
* `Painter.publishView_header`, `Painter.publishPopupPlane_header` — the header of a publish
* `Painter.dirtyList_viewDirtyStores` — the dirty rectangles survive the round trip
* `Painter.collectDirty_dedicated` — which rectangles are collected
* `Painter.hasFlag_viewFlags_full` — when the frame is flagged as full
-/

namespace CefHost

namespace Painter

variable {s : Painter} {p : Paint} {src : Resource}

/-- What is observed during the stores of a writer is one of them. -/
theorem of_mem_observe {w : Writer} {t : SharedTextures} {q : GpuQueue} {h : FrameHeader}
    {sts : List HeaderStore} {o : Observation} (ho : o ∈ observe w t q h sts) :
    o.writer = w ∧ o.store ∈ sts := by
  induction sts generalizing h with
  | nil => cases ho
  | cons st sts ih =>
    rcases List.mem_cons.mp ho with rfl | ho
    · exact ⟨rfl, List.mem_cons_self⟩
    · exact ⟨(ih ho).1, List.mem_cons_of_mem _ (ih ho).2⟩

theorem publishedHeader_viewStores (s : Painter) (h : FrameHeader) (src : Resource)
    (slot flags : UInt32) (fence : ℕ) :
    publishedHeader h (s.viewStores src slot flags fence) = { h with
      version := shmProtocolVersion
      protocolMagic := shmProtocolMagic
      slotCount := UInt32.ofNat shmFrameSlotCount
      width := src.width
      height := src.height
      writeSlot := slot
      flags := flags
      popupVisible := if s.usePopupDedicatedPlane && s.popupVisible then 1 else 0
      popupRect := s.popupRect.toDirty
      presentId := s.nextFrameId
      gpuFenceValue := fence
      frameId := s.nextFrameId
      sequence := h.sequence + 1 } := rfl

theorem foldl_resizeStores (h : FrameHeader) (width height : UInt32) :
    (resizeStores width height).foldl FrameHeader.apply h = { h with
      protocolMagic := shmProtocolMagic
      version := shmProtocolVersion
      slotCount := UInt32.ofNat shmFrameSlotCount
      width := width
      height := height
      writeSlot := 0
      gpuFenceValue := 0
      flags := frameFlagFullFrame ||| frameFlagResized
      popupVisible := 0
      popupRect := .zero
      dirtyCount := 0 } := rfl

/-- The dirty entries of a popup publish are `count` and `rects`. -/
theorem publishedHeader_popupStores (s : Painter) (h : FrameHeader) (r : Corners) (fence : ℕ) :
    ∃ count rects, publishedHeader h (s.popupStores r fence) = { h with
      version := shmProtocolVersion
      protocolMagic := shmProtocolMagic
      slotCount := UInt32.ofNat shmFrameSlotCount
      width := s.textures.sharedWidth
      height := s.textures.sharedHeight
      writeSlot := s.writeSlot
      flags := frameFlagPopupPlane ||| frameFlagDirtyOnly
      popupVisible := if s.popupVisible then 1 else 0
      popupRect := s.popupRect.toDirty
      presentId := s.nextFrameId
      gpuFenceValue := fence
      frameId := s.nextFrameId
      dirtyCount := count
      dirtyRects := rects
      sequence := h.sequence + 1 } := by
  rw [popupStores]
  by_cases hr : r.valid = true
  · rw [if_pos hr]
    exact ⟨1, _, rfl⟩
  · rw [if_neg hr]
    exact ⟨0, h.dirtyRects, rfl⟩

/-! ### The dirty list -/

/-- The array after `dirty_rects[i + k] = rs[k]` for all `k`. -/
def writeRects (f : Fin maxDirtyRects → DirtyRect) (i : ℕ) (rs : List DirtyRect) :
    Fin maxDirtyRects → DirtyRect :=
  fun j => if i ≤ (j : ℕ) then (rs[(j : ℕ) - i]?).getD (f j) else f j

theorem foldl_dirtyStores (h : FrameHeader) (i : ℕ) (rs : List DirtyRect) :
    (dirtyStores i rs).foldl FrameHeader.apply h =
      { h with dirtyRects := writeRects h.dirtyRects i rs } := by
  induction rs generalizing h i with
  | nil =>
    have hid : writeRects h.dirtyRects i [] = h.dirtyRects := by
      funext j
      simp [writeRects]
    rw [hid]
    rfl
  | cons r rs ih =>
    rw [dirtyStores]
    by_cases hi : i < maxDirtyRects
    · rw [dif_pos hi, List.foldl_cons, ih]
      have hstep : writeRects (Function.update h.dirtyRects ⟨i, hi⟩ r) (i + 1) rs =
          writeRects h.dirtyRects i (r :: rs) := by
        funext j
        rcases Nat.lt_trichotomy (j : ℕ) i with hlt | heq | hgt
        · have hne : j ≠ ⟨i, hi⟩ := fun h => absurd (congrArg Fin.val h) (Nat.ne_of_lt hlt)
          simp only [writeRects, Function.update_of_ne hne]
          rw [if_neg (by omega), if_neg (by omega)]
        · obtain rfl : j = ⟨i, hi⟩ := Fin.ext heq
          simp [writeRects]
        · have hne : j ≠ ⟨i, hi⟩ := fun h => absurd (congrArg Fin.val h) (Nat.ne_of_gt hgt)
          obtain ⟨k, hk⟩ : ∃ k, (j : ℕ) - i = k + 1 := ⟨j - i - 1, by omega⟩
          simp only [writeRects, Function.update_of_ne hne]
          rw [if_pos (by omega), if_pos (by omega), hk, List.getElem?_cons_succ,
            show (j : ℕ) - (i + 1) = k by omega]
      rw [← hstep]
      rfl
    · rw [dif_neg hi]
      have hid : writeRects h.dirtyRects i (r :: rs) = h.dirtyRects := by
        funext j
        rw [writeRects, if_neg (by omega)]
      rw [hid]
      rfl

/-- A store list for the dirty entries changes those only. -/
theorem foldl_viewDirtyStores (h : FrameHeader) (full : Bool) (rects : List DirtyRect) :
    ∃ count dirty, (viewDirtyStores full rects).foldl FrameHeader.apply h =
      { h with dirtyCount := count, dirtyRects := dirty } := by
  rw [viewDirtyStores]
  split
  · exact ⟨0, h.dirtyRects, rfl⟩
  · exact ⟨_, _, by rw [List.foldl_cons, foldl_dirtyStores]; rfl⟩

/-- **The dirty list round trip**: at most `MAX_DIRTY_RECTS` rectangles come back as they are. -/
theorem dirtyList_viewDirtyStores (h : FrameHeader) {rects : List DirtyRect}
    (hlen : rects.length ≤ maxDirtyRects) :
    ((viewDirtyStores false rects).foldl FrameHeader.apply h).dirtyList = rects := by
  have hcount : (UInt8.ofNat rects.length).toNat = rects.length :=
    UInt8.toNat_ofNat_of_lt' (Nat.lt_of_le_of_lt hlen (by decide))
  have hfold : (viewDirtyStores false rects).foldl FrameHeader.apply h =
      { h with
        dirtyCount := UInt8.ofNat rects.length
        dirtyRects := writeRects h.dirtyRects 0 rects } := by
    rw [viewDirtyStores, if_neg Bool.false_ne_true, List.foldl_cons, foldl_dirtyStores]
    rfl
  rw [hfold, FrameHeader.dirtyList]
  refine List.ext_getElem (by simp [hcount, hlen]) fun j h1 h2 => ?_
  rw [List.getElem_take, List.getElem_ofFn]
  simp [writeRects, h2]

/-- **The header of a view publish**, with the dirty entries left open. -/
theorem publishView_header (s : Painter) (p : Paint) (src : Resource) (recreated : Bool)
    (collected : List DirtyRect × Bool) :
    ∃ count rects, (viewDirtyStores (s.forceFull recreated collected.2)
          collected.1).foldl FrameHeader.apply s.header =
        { s.header with dirtyCount := count, dirtyRects := rects } ∧
      (s.publishView p src recreated collected).header = { s.header with
        version := shmProtocolVersion
        protocolMagic := shmProtocolMagic
        slotCount := UInt32.ofNat shmFrameSlotCount
        width := src.width
        height := src.height
        writeSlot := backSlot s.writeSlot
        flags := s.viewFlags recreated collected.2
        popupVisible := if s.usePopupDedicatedPlane && s.popupVisible then 1 else 0
        popupRect := s.popupRect.toDirty
        presentId := s.nextFrameId
        gpuFenceValue := s.gpuFenceValue p
        frameId := s.nextFrameId
        dirtyCount := count
        dirtyRects := rects
        sequence := s.header.sequence + 1 } := by
  obtain ⟨count, rects, heq⟩ := foldl_viewDirtyStores s.header (s.forceFull recreated collected.2)
    collected.1
  refine ⟨count, rects, heq, ?_⟩
  rw [publishView_eq]
  dsimp only
  rw [heq, publishedHeader_viewStores]

/-- **The header of a popup publish**: one dirty rectangle, or none. -/
theorem publishPopupPlane_header (s : Painter) (p : Paint) (r : Corners) :
    ∃ rects, (s.publishPopupPlane p r).header = { s.header with
      version := shmProtocolVersion
      protocolMagic := shmProtocolMagic
      slotCount := UInt32.ofNat shmFrameSlotCount
      width := s.textures.sharedWidth
      height := s.textures.sharedHeight
      writeSlot := s.writeSlot
      flags := frameFlagPopupPlane ||| frameFlagDirtyOnly
      popupVisible := if s.popupVisible then 1 else 0
      popupRect := s.popupRect.toDirty
      presentId := s.nextFrameId
      gpuFenceValue := s.gpuFenceValue p
      frameId := s.nextFrameId
      dirtyCount := if r.valid then 1 else 0
      dirtyRects := rects
      sequence := s.header.sequence + 1 } := by
  rw [publishPopupPlane_eq]
  dsimp only
  rw [popupStores]
  by_cases hr : r.valid = true
  · rw [if_pos hr, if_pos hr]
    exact ⟨_, rfl⟩
  · rw [if_neg hr, if_neg hr]
    exact ⟨s.header.dirtyRects, rfl⟩

/-! ### Collecting -/

theorem foldl_addDirty (rs acc : List DirtyRect) (overflow : Bool)
    (hacc : acc.length ≤ maxDirtyRects) :
    rs.foldl addDirty (acc, overflow) =
      ((acc ++ rs).take maxDirtyRects,
        overflow || decide (maxDirtyRects < acc.length + rs.length)) := by
  induction rs generalizing acc overflow with
  | nil =>
    have hnot : ¬ maxDirtyRects < acc.length := Nat.not_lt.mpr hacc
    simp [List.take_of_length_le hacc, hnot]
  | cons r rs ih =>
    rw [List.foldl_cons, addDirty]
    by_cases hroom : acc.length < maxDirtyRects
    · rw [if_pos hroom, ih (acc ++ [r]) overflow (by simp; omega)]
      simp only [List.append_assoc, List.singleton_append, List.length_append, List.length_cons,
        List.length_nil, Nat.zero_add]
      rw [Nat.add_assoc, Nat.add_comm 1]
    · have hfull : acc.length = maxDirtyRects := by omega
      rw [if_neg hroom, ih acc true hacc, List.take_append_of_le_length (Nat.le_of_eq hfull.symm),
        List.take_append_of_le_length (Nat.le_of_eq hfull.symm)]
      simp [hfull]

/-- With a popup plane of its own the popup adds nothing: the first 16 rectangles of the callback,
and whether there were more. -/
theorem collectDirty_dedicated (h : s.usePopupDedicatedPlane = true) (p : Paint) :
    s.collectDirty p = ((p.dirtyRects.map CefRect.toDirty).take maxDirtyRects,
      decide (maxDirtyRects < p.dirtyRects.length)) := by
  have hnone : s.legacyPopupDirty = [] := by simp [legacyPopupDirty, h]
  rw [collectDirty, hnone, List.append_nil, foldl_addDirty _ _ _ (Nat.zero_le _)]
  simp

/-- The frame is flagged full exactly when it was forced. -/
theorem hasFlag_viewFlags_full (s : Painter) (recreated overflow : Bool) :
    hasFlag (s.viewFlags recreated overflow) frameFlagFullFrame =
      s.forceFull recreated overflow := by
  rw [viewFlags]
  cases s.forceFull recreated overflow <;> cases recreated <;> cases overflow <;>
    cases s.usePopupDedicatedPlane <;> rfl

end Painter

end CefHost
