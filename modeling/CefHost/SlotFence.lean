import CefHost.Library.Runs
import CefHost.PublishedHeader

/-!
# Slot and fence, store by store

The consumer reads `write_slot` and `gpu_fence_value` from a header that is rewritten in place. It
waits until the fence has reached the value and then reads the texture in the slot: that texture
must exist, and no copy into it may still be pending.

`Painter.seen` has an entry for every assignment to the header, so the question is asked after
each of them, with the textures and the command queue of that moment.

## The exception

A view publish stores the new slot some fields before the new fence value. In between a consumer
pairs the new slot with the fence value of the frame before, and that says nothing about the copy
into the new slot. `Observation.SlotWithoutFence` names these states; every other one is coherent.

## Main results

* `FenceInv.publishView`, `FenceInv.publishPopup`, `FenceInv.adopt` — the three writers of a paint
* `slot_fence_coherent` — whole runs of callbacks, while every `Signal` succeeds
* `slot_before_fence` — two view frames, observed between the two stores
-/

namespace CefHost

open GpuTimeline SharedTextures

/-- Waiting for `fence` is enough to read the texture in `slot`. -/
def Readable (t : SharedTextures) (q : GpuQueue) (slot : UInt32) (fence : ℕ) : Prop :=
  ∃ plane tx, slotPlane slot = some plane ∧ t.texture plane = some tx ∧
    WaitCovers q fence (GpuWork.Writes tx.id)

namespace Observation

/-- Once a frame has been published, the slot in the header can be read after waiting for the
fence value in the header. -/
def Coherent (o : Observation) : Prop :=
  0 < o.header.frameId → Readable o.textures o.gpu o.header.writeSlot o.header.gpuFenceValue

/-- The assignment is made during `OnAcceleratedPaint`. -/
def InPaint (o : Observation) : Prop :=
  o.writer = .view ∨ o.writer = .popup ∨ o.writer = .resize

/-- A view publish between its `write_slot` store and its `gpu_fence_value` store. -/
def SlotWithoutFence (o : Observation) : Prop :=
  o.writer = .view ∧
    match o.store with
    | .writeSlot _ => True
    | .flags _ => True
    | .popupVisible _ => True
    | .popupRect _ => True
    | .presentId _ => True
    | _ => False

end Observation

namespace Painter

/-! ### What a list of stores shows -/

theorem apply_writeSlot (h : FrameHeader) (st : HeaderStore) :
    (h.apply st).writeSlot = h.writeSlot ∨ st = .writeSlot (h.apply st).writeSlot := by
  cases st <;> first | exact Or.inl rfl | exact Or.inr rfl

theorem apply_gpuFenceValue (h : FrameHeader) (st : HeaderStore) :
    (h.apply st).gpuFenceValue = h.gpuFenceValue ∨
      st = .gpuFenceValue (h.apply st).gpuFenceValue := by
  cases st <;> first | exact Or.inl rfl | exact Or.inr rfl

theorem observe_append (w : Writer) (t : SharedTextures) (q : GpuQueue) (h : FrameHeader)
    (sts sts' : List HeaderStore) :
    observe w t q h (sts ++ sts') =
      observe w t q h sts ++ observe w t q (sts.foldl FrameHeader.apply h) sts' := by
  induction sts generalizing h with
  | nil => rfl
  | cons st sts ih => rw [List.cons_append, observe, ih]; rfl

/-- If the slot and the fence value at the start, and all those stored, are among `S` and `F`,
then so are those of every observation. -/
theorem observe_within {w : Writer} {t : SharedTextures} {q : GpuQueue} {h : FrameHeader}
    {sts : List HeaderStore} {S : UInt32 → Prop} {F : ℕ → Prop} (hs : S h.writeSlot)
    (hf : F h.gpuFenceValue) (hS : ∀ v, .writeSlot v ∈ sts → S v)
    (hF : ∀ v, .gpuFenceValue v ∈ sts → F v) :
    ∀ o ∈ observe w t q h sts, S o.header.writeSlot ∧ F o.header.gpuFenceValue ∧
      o.textures = t ∧ o.gpu = q := by
  induction sts generalizing h with
  | nil => intro o ho; cases ho
  | cons st sts ih =>
    have hs' : S (h.apply st).writeSlot := by
      rcases apply_writeSlot h st with heq | heq
      · rw [heq]; exact hs
      · exact hS _ (heq ▸ List.mem_cons_self)
    have hf' : F (h.apply st).gpuFenceValue := by
      rcases apply_gpuFenceValue h st with heq | heq
      · rw [heq]; exact hf
      · exact hF _ (heq ▸ List.mem_cons_self)
    intro o ho
    rcases List.mem_cons.mp ho with rfl | ho
    · exact ⟨hs', hf', rfl, rfl⟩
    · exact ih hs' hf' (fun v hv => hS v (List.mem_cons_of_mem _ hv))
        (fun v hv => hF v (List.mem_cons_of_mem _ hv)) o ho

/-- Stores to other fields leave a readable pair of slot and fence value readable. -/
theorem coherent_of_mem_observe {w : Writer} {t : SharedTextures} {q : GpuQueue} {h : FrameHeader}
    {sts : List HeaderStore} (hread : Readable t q h.writeSlot h.gpuFenceValue)
    (hS : ∀ v, .writeSlot v ∉ sts) (hF : ∀ v, .gpuFenceValue v ∉ sts) {o : Observation}
    (ho : o ∈ observe w t q h sts) : o.Coherent := by
  obtain ⟨hslot, hfence, htex, hgpu⟩ := observe_within (S := fun v => v = h.writeSlot)
    (F := fun f => f = h.gpuFenceValue) rfl rfl (fun v hv => absurd hv (hS v))
    (fun v hv => absurd hv (hF v)) o ho
  intro _
  rw [htex, hgpu, hslot, hfence]
  exact hread

theorem observePublish_eq (w : Writer) (t : SharedTextures) (q : GpuQueue) (h : FrameHeader)
    (sts : List HeaderStore) : ∃ n, observePublish w t q h sts =
      observe w t q h (sts ++ [.sequence n]) :=
  ⟨_, (observe_append w t q h sts _).symm⟩

end Painter

/-! ### The invariant -/

/-- The interfaces are there, the numbers of textures and of fence values are fresh, a popup plane
comes with a ring, and between callbacks the current slot can be read after waiting. -/
structure FenceInv (s : Painter) : Prop where
  interfaces : s.d3d.context4 = true ∧ s.d3d.sharedFence = true
  slot : s.header.writeSlot = s.writeSlot
  slot_lt : s.writeSlot.toNat < shmFrameSlotCount
  id_lt : ∀ p tx, s.textures.texture p = some tx → tx.id < s.textures.nextTexture
  id_inj : ∀ p r tx ux, s.textures.texture p = some tx → s.textures.texture r = some ux →
    tx.id = ux.id → p = r
  popup_id : ∀ tx, s.popupTexture = some tx → tx.id < s.textures.nextTexture ∧
    ∀ p ux, s.textures.texture p = some ux → ux.id ≠ tx.id
  copy_lt : ∀ dst src, .work (.copy dst src) ∈ s.gpu → dst < s.textures.nextTexture
  signal_lt : ∀ v, .signal v ∈ s.gpu → v < s.nextGpuFenceValue
  fence_lt : s.header.gpuFenceValue < s.nextGpuFenceValue
  popup_ring : (s.textures.texture .popup).isSome → ∀ i, (s.textures.texture (.ring i)).isSome
  covered : ∀ (i : Fin shmFrameSlotCount) tx, (i : ℕ) = s.writeSlot.toNat →
    s.textures.texture (.ring i) = some tx →
    WaitCovers s.gpu s.header.gpuFenceValue (GpuWork.Writes tx.id)
  seen : ∀ o ∈ s.seen, o.InPaint → ¬ o.SlotWithoutFence → o.Coherent

namespace FenceInv

variable {s : Painter}

theorem init (names : SharedMemoryNames) {d3d : D3DInterfaces} (width height : UInt32)
    (h : d3d.context4 = true ∧ d3d.sharedFence = true) :
    FenceInv (.init names d3d width height) where
  interfaces := h
  slot := rfl
  slot_lt := Nat.zero_lt_succ 2
  id_lt _ _ h := by cases h
  id_inj _ _ _ _ h := by cases h
  popup_id _ h := by cases h
  copy_lt _ _ h := by cases h
  signal_lt _ h := by cases h
  fence_lt := Nat.one_pos
  popup_ring h := by cases h
  covered _ _ _ h := by cases h
  seen _ h := by cases h

/-- If all ring textures exist, the current slot is readable with the current fence value. -/
theorem readable (h : FenceInv s) (hring : ∀ i, (s.textures.texture (.ring i)).isSome) :
    Readable s.textures s.gpu s.writeSlot s.header.gpuFenceValue := by
  obtain ⟨tx, htx⟩ := Option.isSome_iff_exists.mp (hring ⟨s.writeSlot.toNat, h.slot_lt⟩)
  exact ⟨_, tx, slotPlane_of_lt h.slot_lt, htx, h.covered _ tx rfl htx⟩

/-! ### Submitting copies -/

/-- From `s` to `s'` the copies `q` are submitted, none of them into the current slot. -/
structure Submitted (s s' : Painter) (q : GpuQueue) : Prop where
  d3d : s'.d3d = s.d3d
  writeSlot : s'.writeSlot = s.writeSlot
  header : s'.header = s.header
  nextGpuFenceValue : s'.nextGpuFenceValue = s.nextGpuFenceValue
  seen : s'.seen = s.seen
  shape : Painter.SameShape s.textures s'.textures
  popup : s'.popupTexture.map Texture.id = s.popupTexture.map Texture.id
  gpu : s'.gpu = s.gpu ++ q
  copies : ∀ k ∈ q, ∃ dst src, k = .work (.copy dst src) ∧ dst < s.textures.nextTexture ∧
    ∀ (i : Fin shmFrameSlotCount) tx, (i : ℕ) = s.writeSlot.toNat →
      s.textures.texture (.ring i) = some tx → dst ≠ tx.id

theorem submit {s' : Painter} {q : GpuQueue} (h : FenceInv s) (u : Submitted s s' q) :
    FenceInv s' where
  interfaces := by rw [u.d3d]; exact h.interfaces
  slot := by rw [u.header, u.writeSlot]; exact h.slot
  slot_lt := by rw [u.writeSlot]; exact h.slot_lt
  id_lt p tx htx := by
    obtain ⟨ux, hux, hid, -, -⟩ := u.shape.get htx
    rw [u.shape.nextTexture, ← hid]
    exact h.id_lt p ux hux
  id_inj p r tx ux htx hux hid := by
    obtain ⟨tx', htx', hid', -, -⟩ := u.shape.get htx
    obtain ⟨ux', hux', hid'', -, -⟩ := u.shape.get hux
    exact h.id_inj p r tx' ux' htx' hux' (by rw [hid', hid'', hid])
  popup_id tx htx := by
    have hpopup := u.popup
    rw [htx] at hpopup
    cases hold : s.popupTexture with
    | none => rw [hold] at hpopup; cases hpopup
    | some ptx =>
      have hid : tx.id = ptx.id := by rw [hold] at hpopup; simpa using hpopup
      obtain ⟨hlt, hne⟩ := h.popup_id ptx hold
      rw [u.shape.nextTexture, hid]
      refine ⟨hlt, fun p ux hux => ?_⟩
      obtain ⟨ux', hux', hid', -, -⟩ := u.shape.get hux
      rw [← hid']
      exact hne p ux' hux'
  copy_lt dst src hmem := by
    rw [u.shape.nextTexture]
    rw [u.gpu] at hmem
    rcases List.mem_append.mp hmem with hold | hnew
    · exact h.copy_lt dst src hold
    · obtain ⟨dst', src', heq, hlt, -⟩ := u.copies _ hnew
      cases heq
      exact hlt
  signal_lt v hmem := by
    rw [u.nextGpuFenceValue]
    rw [u.gpu] at hmem
    rcases List.mem_append.mp hmem with hold | hnew
    · exact h.signal_lt v hold
    · obtain ⟨dst, src, heq, -⟩ := u.copies _ hnew
      cases heq
  fence_lt := by rw [u.header, u.nextGpuFenceValue]; exact h.fence_lt
  popup_ring hpopup i := by
    rw [u.shape.isSome] at hpopup ⊢
    exact h.popup_ring hpopup i
  covered i tx hi htx := by
    rw [u.writeSlot] at hi
    obtain ⟨ux, hux, hid, -, -⟩ := u.shape.get htx
    rw [u.gpu, u.header, ← hid]
    refine (h.covered i ux hi hux).append fun a ha hwrites => ?_
    obtain ⟨dst, src, heq, -, hne⟩ := u.copies _ ha
    cases heq
    exact hne i ux hi hux hwrites
  seen := by rw [u.seen]; exact h.seen

theorem of_quiet {s' : Painter} (h : FenceInv s) (hq : Painter.Quiet s s') : FenceInv s' := by
  obtain ⟨load, cursor, n, hheader⟩ := hq.header
  refine ⟨?_, ?_, ?_, ?_, ?_, ?_, ?_, ?_, ?_, ?_, ?_, fun o ho hin hnot => ?_⟩
  · rw [hq.d3d]; exact h.interfaces
  · rw [hheader, hq.writeSlot]; exact h.slot
  · rw [hq.writeSlot]; exact h.slot_lt
  · rw [hq.textures]; exact h.id_lt
  · rw [hq.textures]; exact h.id_inj
  · rw [hq.popupTexture, hq.textures]; exact h.popup_id
  · rw [hq.gpu, hq.textures]; exact h.copy_lt
  · rw [hq.gpu, hq.nextGpuFenceValue]; exact h.signal_lt
  · rw [hheader, hq.nextGpuFenceValue]; exact h.fence_lt
  · rw [hq.textures]; exact h.popup_ring
  · rw [hq.writeSlot, hq.textures, hq.gpu, hheader]; exact h.covered
  · rcases hq.seen o ho with hold | hwriter
    · exact h.seen o hold hin hnot
    · rcases hwriter with hw | hw <;> simp [Observation.InPaint, hw] at hin

/-! ### Recreating the textures -/

/-- No copy has been submitted into a texture that was just created. -/
theorem not_writes_newborn (h : FenceInv s) {t : SharedTextures} {width height : UInt32}
    (hnew : Newborn s.textures.nextTexture width height t) {p : Plane} {tx : Texture}
    (htx : t.texture p = some tx) : ∀ a, .work a ∈ s.gpu → ¬ GpuWork.Writes tx.id a := by
  obtain ⟨id, hle, -, rfl⟩ := hnew.created p tx htx
  intro a ha hwrites
  cases a with
  | copy dst src =>
    have hdst : dst = id := hwrites
    have hlt := h.copy_lt dst src ha
    omega
  | flush => exact hwrites

/-- A recreation that fails leaves new textures, none of which has been copied into. -/
theorem recreateFailed (h : FenceInv s) (device : Bool) (width height : UInt32)
    (create : Plane → CreateOutcome) : FenceInv { s with
      textures := (s.textures.recreate device width height create).1 } := by
  have hnew := s.textures.recreate_newborn device width height create
  refine ⟨h.interfaces, h.slot, h.slot_lt, fun p tx htx => ?_, hnew.inj, fun tx htx => ?_,
    fun dst src hmem => Nat.lt_of_lt_of_le (h.copy_lt dst src hmem) hnew.le, h.signal_lt,
    h.fence_lt, fun hpopup i => (recreate_popup hpopup i).1, fun i tx hi htx => ?_, h.seen⟩
  · obtain ⟨id, -, hlt, rfl⟩ := hnew.created p tx htx
    exact hlt
  · have hlt := (h.popup_id tx htx).1
    refine ⟨Nat.lt_of_lt_of_le hlt hnew.le, fun p ux hux => ?_⟩
    obtain ⟨id, hle, -, rfl⟩ := hnew.created p ux hux
    exact Nat.ne_of_gt (Nat.lt_of_lt_of_le hlt hle)
  · exact waitCovers_of_forall_not (h.not_writes_newborn hnew htx)

/-- A recreation that succeeds resets slot and fence value in the header. Nothing has been copied
into the new textures, so every slot is readable with any fence value meanwhile. -/
theorem adopt (h : FenceInv s) {width height : UInt32} {create : Plane → CreateOutcome}
    (hok : (s.d3d.device && Painter.createsAll create) = true) :
    FenceInv (s.adoptTextures (s.textures.recreate s.d3d.device width height create).1 width
      height) := by
  have hnew := s.textures.recreate_newborn s.d3d.device width height create
  have hfailed := h.recreateFailed s.d3d.device width height create
  rw [← Painter.recreate_ok s.textures _ width height] at hok
  have hopen := recreate_complete hok
  set t := (s.textures.recreate s.d3d.device width height create).1
  rw [Painter.adoptTextures_eq]
  have hreadable : ∀ slot : UInt32, slot.toNat < shmFrameSlotCount → ∀ fence,
      Readable { t with sharedWidth := width, sharedHeight := height } s.gpu slot fence := by
    intro slot hslot fence
    obtain ⟨tx, htx⟩ := Option.isSome_iff_exists.mp (hopen (.ring ⟨slot.toNat, hslot⟩)).1
    exact ⟨_, tx, slotPlane_of_lt hslot, htx,
      waitCovers_of_forall_not (h.not_writes_newborn hnew htx)⟩
  refine ⟨h.interfaces, ?_, Nat.zero_lt_succ 2, hfailed.id_lt, hfailed.id_inj, hfailed.popup_id,
    hfailed.copy_lt, hfailed.signal_lt, ?_, hfailed.popup_ring, fun i tx hi htx => ?_,
    fun o ho hin hnot => ?_⟩
  · rw [Painter.foldl_resizeStores]
  · rw [Painter.foldl_resizeStores]
    exact Nat.lt_of_le_of_lt (Nat.zero_le _) h.fence_lt
  · exact waitCovers_of_forall_not (h.not_writes_newborn hnew htx)
  · rcases List.mem_append.mp ho with hold | hobs
    · exact h.seen o hold hin hnot
    · obtain ⟨hslot, -, htex, hgpu⟩ := Painter.observe_within
        (S := fun v => v.toNat < shmFrameSlotCount) (F := fun _ => True)
        (by rw [h.slot]; exact h.slot_lt) trivial
        (by simp [Painter.resizeStores, shmFrameSlotCount]) (fun _ _ => trivial) o hobs
      intro _
      rw [htex, hgpu]
      exact hreadable _ hslot _

/-! ### Publishing -/

/-- While every `Signal` succeeds a publish signals a new value and names it. -/
theorem signaled (h : FenceInv s) {p : Paint} (hsig : p.signal = true) :
    s.signaledFence p = true ∧ s.gpuFenceValue p = s.nextGpuFenceValue ∧
      s.nextFenceValue = s.nextGpuFenceValue + 1 ∧
      s.signalCommands p = [.signal s.nextGpuFenceValue] := by
  have hsignaled : s.signaledFence p = true := by
    rw [Painter.signaledFence, h.interfaces.1, h.interfaces.2, hsig]
    rfl
  refine ⟨hsignaled, ?_, ?_, ?_⟩
  · rw [Painter.gpuFenceValue, if_pos hsignaled]
  · rw [Painter.nextFenceValue, h.interfaces.1, h.interfaces.2]
    rfl
  · rw [Painter.signalCommands, if_pos hsignaled]

/-- Commands that are no copies. -/
theorem not_work_signal_flush {p : Paint} {b : Bool} {id : ℕ} :
    ∀ a, .work a ∈ s.signalCommands p ++ Painter.flushCommands b → ¬ GpuWork.Writes id a := by
  intro a ha hwrites
  rcases Painter.mem_signalCommands_flush ha with ⟨-, heq⟩ | heq
  · cases heq
  · cases heq
    exact hwrites

/-- The new fence value covers everything submitted before the signal. -/
theorem covers_new (h : FenceInv s) {p : Paint} (hsig : p.signal = true) (b : Bool)
    (P : GpuWork → Prop) (hP : ¬ P .flush) :
    WaitCovers (s.gpu ++ (s.signalCommands p ++ Painter.flushCommands b)) s.nextGpuFenceValue
      P := by
  obtain ⟨-, -, -, hcommands⟩ := h.signaled hsig
  rw [hcommands, ← List.append_assoc]
  refine (waitCovers_signal (Nat.lt_of_le_of_lt (Nat.zero_le _) h.fence_lt) h.signal_lt).append
    fun a ha => ?_
  rw [Painter.flushCommands] at ha
  split at ha
  · cases List.mem_singleton.mp ha
    exact hP
  · cases ha

theorem copy_lt_append (h : FenceInv s) {p : Paint} {b : Bool} (dst : ℕ) (src : CopySource)
    (hmem : .work (.copy dst src) ∈ s.gpu ++ (s.signalCommands p ++ Painter.flushCommands b)) :
    dst < s.textures.nextTexture := by
  rcases List.mem_append.mp hmem with hold | hnew
  · exact h.copy_lt dst src hold
  · rcases Painter.mem_signalCommands_flush hnew with ⟨-, heq⟩ | heq <;> cases heq

theorem signal_lt_append (h : FenceInv s) {p : Paint} {b : Bool} (v : ℕ)
    (hmem : .signal v ∈ s.gpu ++ (s.signalCommands p ++ Painter.flushCommands b)) :
    v < s.nextGpuFenceValue + 1 := by
  rcases List.mem_append.mp hmem with hold | hnew
  · exact Nat.lt_succ_of_lt (h.signal_lt v hold)
  · rcases Painter.mem_signalCommands_flush hnew with ⟨-, heq⟩ | heq
    · cases heq
      exact Nat.lt_succ_self _
    · cases heq

/-- **A popup publish** names the current slot again; before and after its fence value is stored,
waiting covers the copies into that slot. -/
theorem publishPopupPlane (h : FenceInv s) (hring : ∀ i, (s.textures.texture (.ring i)).isSome)
    {p : Paint} (hsig : p.signal = true) (r : Painter.Corners) :
    FenceInv (s.publishPopupPlane p r) := by
  obtain ⟨-, hvalue, hnext, -⟩ := h.signaled hsig
  obtain ⟨count, rects, hheader⟩ := s.publishedHeader_popupStores s.header r s.nextGpuFenceValue
  rw [Painter.publishPopupPlane_eq, hvalue, hnext]
  dsimp only
  refine ⟨h.interfaces, ?_, h.slot_lt, h.id_lt, h.id_inj, h.popup_id, h.copy_lt_append,
    h.signal_lt_append, ?_, h.popup_ring, fun i tx hi htx => ?_, fun o ho hin hnot => ?_⟩
  · rw [hheader]
  · rw [hheader]
    exact Nat.lt_succ_self _
  · rw [hheader]
    exact h.covers_new hsig _ _ id
  · rcases List.mem_append.mp ho with hold | hobs
    · exact h.seen o hold hin hnot
    · obtain ⟨n, hn⟩ := Painter.observePublish_eq .popup s.textures
        (s.gpu ++ (s.signalCommands p ++ Painter.flushCommands !s.signaledFence p)) s.header
        (s.popupStores r s.nextGpuFenceValue)
      rw [hn] at hobs
      obtain ⟨hslot, hfence, htex, hgpu⟩ := Painter.observe_within
        (S := fun v => v = s.writeSlot)
        (F := fun f => f = s.header.gpuFenceValue ∨ f = s.nextGpuFenceValue) h.slot (Or.inl rfl)
        (by cases hv : r.valid <;> simp [Painter.popupStores, hv])
        (by cases hv : r.valid <;> simp [Painter.popupStores, hv]) o hobs
      intro _
      obtain ⟨plane, tx, hplane, htx, hcovers⟩ := h.readable hring
      rw [htex, hgpu, hslot]
      have hold : WaitCovers
          (s.gpu ++ (s.signalCommands p ++ Painter.flushCommands !s.signaledFence p))
          s.header.gpuFenceValue (GpuWork.Writes tx.id) := hcovers.append not_work_signal_flush
      refine ⟨plane, tx, hplane, htx, ?_⟩
      rcases hfence with hf | hf
      · rw [hf]; exact hold
      · rw [hf]; exact hold.mono (Nat.le_of_lt h.fence_lt)

theorem mem_dirtyStores {st : HeaderStore} {rects : List DirtyRect} {i : ℕ}
    (h : st ∈ Painter.dirtyStores i rects) : ∃ j r, st = .dirtyRects j r := by
  induction rects generalizing i with
  | nil => cases h
  | cons r rects ih =>
    rw [Painter.dirtyStores] at h
    split at h
    · rcases List.mem_cons.mp h with rfl | h
      · exact ⟨_, r, rfl⟩
      · exact ih h
    · cases h

/-- The dirty list touches neither slot nor fence value. -/
theorem mem_viewDirtyStores {st : HeaderStore} {full : Bool} {rects : List DirtyRect}
    (h : st ∈ Painter.viewDirtyStores full rects) :
    (∃ n, st = .dirtyCount n) ∨ ∃ j r, st = .dirtyRects j r := by
  rw [Painter.viewDirtyStores] at h
  split at h
  · exact Or.inl ⟨0, List.mem_singleton.mp h⟩
  · rcases List.mem_cons.mp h with rfl | h
    · exact Or.inl ⟨_, rfl⟩
    · exact Or.inr (mem_dirtyStores h)

/-- The header of a view publish: before the `write_slot` store the pair is still the old one, from
the `gpu_fence_value` store on it is the new one. -/
theorem coherent_viewStores {q : GpuQueue} {header : FrameHeader} {slot : UInt32} {fence : ℕ}
    (hold : Readable s.textures q header.writeSlot header.gpuFenceValue)
    (hnew : Readable s.textures q slot fence) {src : Resource} {flags : UInt32} {o : Observation}
    (ho : o ∈ Painter.observePublish .view s.textures q header
      (s.viewStores src slot flags fence)) (hnot : ¬ o.SlotWithoutFence) : o.Coherent := by
  obtain ⟨n, hn⟩ := Painter.observePublish_eq .view s.textures q header
    (s.viewStores src slot flags fence)
  let before : List HeaderStore :=
    [.version shmProtocolVersion, .protocolMagic shmProtocolMagic,
      .slotCount (UInt32.ofNat shmFrameSlotCount), .width src.width, .height src.height]
  let between : List HeaderStore :=
    [.writeSlot slot, .flags flags,
      .popupVisible (if s.usePopupDedicatedPlane && s.popupVisible then 1 else 0),
      .popupRect s.popupRect.toDirty, .presentId s.nextFrameId]
  have hsplit : s.viewStores src slot flags fence ++ [.sequence n] =
      before ++ (between ++ .gpuFenceValue fence :: [.frameId s.nextFrameId, .sequence n]) := rfl
  rw [hn, hsplit, Painter.observe_append, Painter.observe_append] at ho
  rcases List.mem_append.mp ho with hbefore | ho
  · exact Painter.coherent_of_mem_observe hold (by simp [before]) (by simp [before]) hbefore
  rcases List.mem_append.mp ho with hbetween | ho
  · -- the exception
    obtain ⟨hwriter, hstore⟩ := Painter.of_mem_observe hbetween
    have hexception : o.SlotWithoutFence := by
      refine ⟨hwriter, ?_⟩
      simp only [between, List.mem_cons, List.not_mem_nil, or_false] at hstore
      rcases hstore with heq | heq | heq | heq | heq <;> rw [heq] <;> trivial
    exact absurd hexception hnot
  · rw [Painter.observe] at ho
    rcases List.mem_cons.mp ho with rfl | hafter
    · exact fun _ => hnew
    · exact Painter.coherent_of_mem_observe hnew (by simp) (by simp) hafter

/-- **A view publish.** Up to the `write_slot` store the old slot is readable with the old fence
value, from the `gpu_fence_value` store on the new slot is with the new one. -/
theorem publishView (h : FenceInv s) (hring : ∀ i, (s.textures.texture (.ring i)).isSome)
    {p : Paint} (hsig : p.signal = true) (src : Resource) (recreated : Bool)
    (collected : List DirtyRect × Bool) : FenceInv (s.publishView p src recreated collected) := by
  obtain ⟨-, hvalue, hnext, -⟩ := h.signaled hsig
  rw [Painter.publishView_eq, hvalue, hnext]
  dsimp only
  generalize hflush : s.viewFlush p recreated (s.forceFull recreated collected.2) = flushed
  generalize hdirty :
    Painter.viewDirtyStores (s.forceFull recreated collected.2) collected.1 = dirty
  refine ⟨h.interfaces, ?_, Painter.backSlot_lt _, h.id_lt, h.id_inj, h.popup_id, h.copy_lt_append,
    h.signal_lt_append, ?_, h.popup_ring, fun i tx hi htx => ?_, fun o ho hin hnot => ?_⟩
  · rw [Painter.publishedHeader_viewStores]
  · rw [Painter.publishedHeader_viewStores]
    exact Nat.lt_succ_self _
  · rw [Painter.publishedHeader_viewStores]
    exact h.covers_new hsig _ _ id
  rcases List.mem_append.mp ho with hearlier | hobs
  · exact h.seen o hearlier hin hnot
  obtain ⟨plane, tx, hplane, htx, hcovers⟩ := h.readable hring
  rw [← h.slot] at hplane
  rcases List.mem_append.mp hobs with hobs | hobs
  · -- the dirty list, before the signal
    have hnone : (∀ v, .writeSlot v ∉ dirty) ∧ ∀ v, .gpuFenceValue v ∉ dirty := by
      rw [← hdirty]
      refine ⟨fun v hmem => ?_, fun v hmem => ?_⟩ <;>
        rcases mem_viewDirtyStores hmem with ⟨n, heq⟩ | ⟨j, r, heq⟩ <;> cases heq
    exact Painter.coherent_of_mem_observe ⟨plane, tx, hplane, htx, hcovers⟩ hnone.1 hnone.2 hobs
  · -- the rest of the header, after it
    obtain ⟨bx, hbx⟩ := Option.isSome_iff_exists.mp
      (hring ⟨(Painter.backSlot s.writeSlot).toNat, Painter.backSlot_lt s.writeSlot⟩)
    have hnew : Readable s.textures
        (s.gpu ++ (s.signalCommands p ++ Painter.flushCommands flushed))
        (Painter.backSlot s.writeSlot) s.nextGpuFenceValue :=
      ⟨_, bx, slotPlane_of_lt (Painter.backSlot_lt _), hbx, h.covers_new hsig _ _ id⟩
    obtain ⟨count, rects, hcount⟩ := Painter.foldl_viewDirtyStores s.header
      (s.forceFull recreated collected.2) collected.1
    rw [hdirty] at hcount
    refine coherent_viewStores ?_ hnew hobs hnot
    rw [hcount]
    exact ⟨plane, tx, hplane, htx, hcovers.append not_work_signal_flush⟩

/-! ### View paints -/

theorem backSlot_ne {slot : UInt32} (hslot : slot.toNat < shmFrameSlotCount) :
    (Painter.backSlot slot).toNat ≠ slot.toNat := by
  obtain ⟨n, hn⟩ : ∃ n, slot.toNat = n := ⟨_, rfl⟩
  have hlt : n < 3 := hn ▸ hslot
  obtain rfl : slot = UInt32.ofNat n := by rw [← hn, UInt32.ofNat_toNat]
  match n, hlt with
  | 0, _ => decide
  | 1, _ => decide
  | 2, _ => decide

/-- The back slot is never the current one. -/
theorem backPlane_ne {slot : UInt32} (hslot : slot.toNat < shmFrameSlotCount)
    {i : Fin shmFrameSlotCount} (hi : (i : ℕ) = slot.toNat) : Painter.backPlane slot ≠ .ring i := by
  intro heq
  have hval := congrArg Fin.val (Plane.ring.inj heq)
  exact backSlot_ne hslot (hval.trans hi)

theorem copied (h : FenceInv s) (src : Resource) {tx : Texture}
    (htx : s.textures.texture (Painter.backPlane s.writeSlot) = some tx) :
    FenceInv (s.copied src) := by
  obtain ⟨t, q, rect, heq, hshape, -, -, hq⟩ := Painter.copied_eq src htx
  rw [heq]
  refine h.submit ⟨rfl, rfl, rfl, rfl, rfl, hshape, rfl, rfl, fun k hk => ?_⟩
  rcases List.mem_cons.mp hk with rfl | hk
  · refine ⟨_, _, rfl, h.id_lt _ tx htx, fun i cx hi hcx hid => ?_⟩
    exact backPlane_ne h.slot_lt hi (h.id_inj _ _ tx cx htx hcx hid)
  · obtain ⟨ptx, ux, r, -, hux, hr, rfl⟩ := hq k hk
    refine ⟨_, _, rfl, h.id_lt r ux hux, fun i cx hi hcx hid => ?_⟩
    have hplane := h.id_inj r _ ux cx hux hcx hid
    rcases hr with rfl | rfl
    · cases hplane
    · exact backPlane_ne h.slot_lt hi hplane

theorem paintView (h : FenceInv s) {p : Paint} (hsig : p.signal = true) (src : Resource) :
    FenceInv (s.paintView p src) := by
  -- what remains once the ring is complete
  have hpublish : ∀ e : Painter, FenceInv e → (∀ i, (e.textures.texture (.ring i)).isSome) →
      ∀ recreated collected, FenceInv ((e.copied src).publishView p src recreated collected) := by
    intro e he hring recreated collected
    obtain ⟨tx, htx⟩ := Option.isSome_iff_exists.mp
      (hring ⟨(Painter.backSlot e.writeSlot).toNat, Painter.backSlot_lt e.writeSlot⟩)
    obtain ⟨t, q, rect, heq, hshape, -⟩ := Painter.copied_eq src htx
    refine (he.copied src htx).publishView (fun i => ?_) hsig src recreated collected
    rw [heq]
    exact (hshape.isSome _).trans (hring i)
  cases hready : s.texturesReady src.width src.height p.create with
  | false =>
    rw [Painter.paintView_failed hready]
    exact h.recreateFailed _ _ _ _
  | true =>
    rcases Painter.texturesReady_cases hready with hready | ⟨hready, hok⟩
    · rw [Painter.paintView_ready hready]
      exact hpublish s h (alreadyReady_iff.mp hready).2.2 false _
    · rw [Painter.paintView_recreated hready hok]
      refine hpublish _ (h.adopt hok) (fun i => ?_) true _
      rw [← Painter.recreate_ok s.textures _ src.width src.height] at hok
      rw [Painter.adoptTextures_eq]
      exact (recreate_complete hok (.ring i)).1

/-! ### Popup paints -/

/-- The private texture is kept, or a new one with a number of its own. -/
theorem preparePopup (h : FenceInv s) {tx : Texture} {n : ℕ} {width height : UInt32}
    (hor : (s.popupTexture = some tx ∧ n = s.textures.nextTexture) ∨
      (tx = .create s.textures.nextTexture width height ∧ n = s.textures.nextTexture + 1)) :
    FenceInv { s with
      popupTexture := some tx
      popupTexWidth := width
      popupTexHeight := height
      textures := { s.textures with nextTexture := n } } := by
  have hn : s.textures.nextTexture ≤ n := by rcases hor with ⟨-, rfl⟩ | ⟨-, rfl⟩ <;> omega
  refine ⟨h.interfaces, h.slot, h.slot_lt,
    fun p ux hux => Nat.lt_of_lt_of_le (h.id_lt p ux hux) hn, h.id_inj, fun tx' htx' => ?_,
    fun dst src hmem => Nat.lt_of_lt_of_le (h.copy_lt dst src hmem) hn,
    h.signal_lt, h.fence_lt, h.popup_ring, h.covered, h.seen⟩
  cases htx'
  rcases hor with ⟨hold, rfl⟩ | ⟨rfl, rfl⟩
  · exact h.popup_id tx hold
  · exact ⟨Nat.lt_succ_self _, fun p ux hux => Nat.ne_of_lt (h.id_lt p ux hux)⟩

theorem copyPopup (h : FenceInv s) (src : Resource) : FenceInv (s.copyPopup src) := by
  refine h.submit ⟨rfl, rfl, rfl, rfl, rfl, .refl _, ?_, rfl, fun k hk => ?_⟩
  · cases hpopup : s.popupTexture <;> simp [Painter.copyPopup, hpopup]
  · cases hpopup : s.popupTexture with
    | none => rw [hpopup] at hk; cases hk
    | some tx =>
      rw [hpopup] at hk
      obtain rfl : k = .work (.copy tx.id (.cef src)) := by simpa using hk
      obtain ⟨hlt, hne⟩ := h.popup_id tx hpopup
      exact ⟨_, _, rfl, hlt, fun i cx _ hcx => (hne _ cx hcx).symm⟩

theorem publishPopup (h : FenceInv s) (hplane : s.popupPlaneReady = true) {p : Paint}
    (hsig : p.signal = true) : FenceInv (s.publishPopup p) := by
  have hpopup : (s.textures.texture .popup).isSome := by
    simp only [Painter.popupPlaneReady, Bool.and_eq_true] at hplane
    exact hplane.1.1.2
  obtain ⟨t, q, heq, hshape, -, hq⟩ := s.publishPopup_eq p
  have hcopied : FenceInv { s with textures := t, gpu := s.gpu ++ q } := by
    refine h.submit ⟨rfl, rfl, rfl, rfl, rfl, hshape, rfl, rfl, fun k hk => ?_⟩
    obtain ⟨ptx, ux, -, hux, rfl⟩ := hq k hk
    refine ⟨_, _, rfl, h.id_lt _ ux hux, fun i cx _ hcx hid => ?_⟩
    cases h.id_inj _ _ ux cx hux hcx hid
  rw [heq]
  exact hcopied.publishPopupPlane (fun i => (hshape.isSome _).trans (h.popup_ring hpopup i)) hsig _

theorem paintPopup (h : FenceInv s) {p : Paint} (hsig : p.signal = true) (src : Resource) :
    FenceInv (s.paintPopup p src) := by
  cases hready : s.popupTextureReady p src with
  | false =>
    rw [Painter.paintPopup_failed hready]
    refine ⟨h.interfaces, h.slot, h.slot_lt, h.id_lt, h.id_inj, fun _ htx => ?_, h.copy_lt,
      h.signal_lt, h.fence_lt, h.popup_ring, h.covered, h.seen⟩
    cases htx
  | true =>
    obtain ⟨tx, n, heq, hor⟩ := Painter.paintPopup_ready hready
    have hcopied := (h.preparePopup hor).copyPopup src
    rw [heq]
    dsimp only
    cases hplane : s.popupPlaneReady with
    | false => exact hcopied
    | true => exact hcopied.publishPopup hplane hsig

/-! ### Any callback -/

/-- Every `Signal` of the callback succeeds. -/
def SignalSucceeds : Callback → Prop
  | .paint p => p.signal = true
  | _ => True

theorem next (h : FenceInv s) {c : Callback} (hsig : SignalSucceeds c) : FenceInv (s.step c) := by
  cases c with
  | paint p =>
    change FenceInv (s.onAcceleratedPaint p)
    cases hsrc : s.source p with
    | none =>
      rw [Painter.onAcceleratedPaint_none hsrc]
      exact h.of_quiet s.counted_quiet
    | some src =>
      have hopened := h.of_quiet (s.opened_quiet p src)
      cases ht : p.type with
      | view =>
        rw [Painter.onAcceleratedPaint_view hsrc ht]
        exact hopened.paintView hsig src
      | popup =>
        rw [Painter.onAcceleratedPaint_popup hsrc ht]
        exact hopened.paintPopup hsig src
  | _ => exact of_quiet h (s.step_quiet fun _ => Callback.noConfusion)

end FenceInv

/-- **Runs of callbacks** with a fence and without a failed `Signal`: after every assignment to
the header made during a paint, except those of a view publish between its `write_slot` and its
`gpu_fence_value` store, a consumer that waits for the header's fence value finds a texture in the
header's slot with no copy pending. -/
theorem slot_fence_coherent (names : SharedMemoryNames) (d3d : D3DInterfaces)
    (width height : UInt32) (callbacks : List Callback)
    (hfence : d3d.context4 = true ∧ d3d.sharedFence = true)
    (hsig : ∀ c ∈ callbacks, FenceInv.SignalSucceeds c) :
    ∀ o ∈ (Runs.run Painter.step (.init names d3d width height) callbacks).seen,
      o.InPaint → ¬ o.SlotWithoutFence → o.Coherent := by
  have halong : Runs.Along Painter.step (fun _ c => FenceInv.SignalSucceeds c)
      (.init names d3d width height) callbacks := Runs.along_of_forall_mem hsig
  exact (Runs.invariant_of_along (I := FenceInv) (fun _ _ h hc => h.next hc)
    (FenceInv.init names width height hfence) halong).seen

/-- Two view frames of 32 × 32, with nothing failing. -/
def twoFrames : List Callback :=
  [.paint (.succeeding .view [] 1 ⟨1, 32, 32, by decide, by decide⟩),
    .paint (.succeeding .view [] 2 ⟨2, 32, 32, by decide, by decide⟩)]

theorem slot_fence_coherent_twoFrames :
    (fullD3D.context4 = true ∧ fullD3D.sharedFence = true) ∧
      (∀ c ∈ twoFrames, FenceInv.SignalSucceeds c) ∧
      ∀ o ∈ (Runs.run Painter.step (.init (buildSharedMemoryNames []) fullD3D 32 32)
          twoFrames).seen,
        o.InPaint → ¬ o.SlotWithoutFence → o.Coherent := by
  have hsig : ∀ c ∈ twoFrames, FenceInv.SignalSucceeds c := by
    intro c hc
    simp only [twoFrames, List.mem_cons, List.not_mem_nil, or_false] at hc
    rcases hc with rfl | rfl <;> rfl
  exact ⟨⟨rfl, rfl⟩, hsig, slot_fence_coherent _ _ 32 32 twoFrames ⟨rfl, rfl⟩ hsig⟩

/-- What a consumer finds right after the `write_slot` store of the second frame. -/
def slotStore : Observation :=
  (Runs.run Painter.step (.init (buildSharedMemoryNames []) fullD3D 32 32) twoFrames).seen.get
    ⟨31, by decide +kernel⟩

/-- The header names slot 2 with fence value 1 there, and the fence reaches 1 before the copy into
slot 2 executes. -/
theorem slot_before_fence :
    ¬ ∀ o ∈ (Runs.run Painter.step (.init (buildSharedMemoryNames []) fullD3D 32 32)
        twoFrames).seen, o.InPaint → o.Coherent := by
  intro h
  have hview : slotStore.writer = .view := by decide +kernel
  have hpub : 0 < slotStore.header.frameId := by decide +kernel
  obtain ⟨plane, tx, hplane, htx, hcovers⟩ :=
    h slotStore (List.get_mem _ _) (Or.inl hview) hpub
  have hslot : slotPlane slotStore.header.writeSlot = some (.ring ⟨2, by decide⟩) := by
    decide +kernel
  rw [hslot] at hplane
  cases hplane
  have hid : (slotStore.textures.texture (.ring ⟨2, by decide⟩)).map Texture.id = some 2 := by
    decide +kernel
  rw [htx, Option.map_some, Option.some.injEq] at hid
  have hreached : slotStore.header.gpuFenceValue ≤ fence (slotStore.gpu.take 3) := by
    decide +kernel
  have hpending : .work (.copy 2 (.cef ⟨2, 32, 32, by decide, by decide⟩)) ∈
      slotStore.gpu.drop 3 := by decide +kernel
  exact hcovers 3 hreached _ hpending hid.symm

end CefHost
