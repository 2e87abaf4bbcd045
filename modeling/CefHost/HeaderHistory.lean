import CefHost.HeaderBytes
import CefHost.Library.Runs
import CefHost.PublishCases

/-!
# The header between two stores

Another process may read the mapping at any moment, also between two stores of one publish. What
it finds then is the header after some number of the assignments the host has made since `Init`,
in the layout of the struct. A mixture of two frames it may be, but the fields a reader needs to
make sense of the rest are right at every moment. The others have no range of their own: sizes, ids,
fence value and rectangles are what a publish stores, and the cursor type is what CEF passes.

## Main definitions

* `FrameFlagsValid`, `FrameHeader.InContract` — what holds of the header at every moment
* `Painter.Recorded` — what has been seen is what the stores make of the first header

## Main results

* `Painter.Recorded.step` — one callback, up to and between its stores
* `header_bytes_at_every_store` — the bytes of the mapping after each store of a run
-/

namespace CefHost

/-! ### One store -/

/-- Only the flags there are, and of the two that exclude each other just one. -/
def FrameFlagsValid (flags : UInt32) : Prop :=
  flags.toNat < 32 ∧ hasFlag flags frameFlagFullFrame ≠ hasFlag flags frameFlagDirtyOnly

instance (flags : UInt32) : Decidable (FrameFlagsValid flags) :=
  inferInstanceAs (Decidable (_ ∧ _))

/-- The fields a reader needs to make sense of the others. -/
structure FrameHeader.InContract (h : FrameHeader) : Prop where
  protocolMagic : h.protocolMagic = shmProtocolMagic
  version : h.version = shmProtocolVersion
  slotCount : h.slotCount = UInt32.ofNat shmFrameSlotCount
  writeSlot : h.writeSlot.toNat < shmFrameSlotCount
  flags : FrameFlagsValid h.flags
  popupVisible : h.popupVisible.toNat ≤ 1
  dirtyCount : h.dirtyCount.toNat ≤ maxDirtyRects

/-- An assignment that keeps them. -/
def HeaderStore.InContract : HeaderStore → Prop
  | .protocolMagic v => v = shmProtocolMagic
  | .version v => v = shmProtocolVersion
  | .slotCount v => v = UInt32.ofNat shmFrameSlotCount
  | .writeSlot v => v.toNat < shmFrameSlotCount
  | .flags v => FrameFlagsValid v
  | .popupVisible v => v.toNat ≤ 1
  | .dirtyCount v => v.toNat ≤ maxDirtyRects
  | _ => True

theorem FrameHeader.InContract.apply {h : FrameHeader} (hh : h.InContract) {st : HeaderStore}
    (hst : st.InContract) : (h.apply st).InContract := by
  obtain ⟨hmagic, hversion, hcount, hslot, hflags, hpopup, hdirty⟩ := hh
  cases st with
  | protocolMagic v => exact ⟨hst, hversion, hcount, hslot, hflags, hpopup, hdirty⟩
  | version v => exact ⟨hmagic, hst, hcount, hslot, hflags, hpopup, hdirty⟩
  | slotCount v => exact ⟨hmagic, hversion, hst, hslot, hflags, hpopup, hdirty⟩
  | writeSlot v => exact ⟨hmagic, hversion, hcount, hst, hflags, hpopup, hdirty⟩
  | flags v => exact ⟨hmagic, hversion, hcount, hslot, hst, hpopup, hdirty⟩
  | popupVisible v => exact ⟨hmagic, hversion, hcount, hslot, hflags, hst, hdirty⟩
  | dirtyCount v => exact ⟨hmagic, hversion, hcount, hslot, hflags, hpopup, hst⟩
  | _ => exact ⟨hmagic, hversion, hcount, hslot, hflags, hpopup, hdirty⟩

theorem initFrameHeaderDefaults_inContract : initFrameHeaderDefaults.InContract :=
  ⟨rfl, rfl, rfl, by decide, by decide, by decide, by decide⟩

/-- The flags of a view publish. -/
theorem Painter.flagsValid_viewFlags (s : Painter) (recreated overflow : Bool) :
    FrameFlagsValid (s.viewFlags recreated overflow) := by
  rw [viewFlags]
  cases s.forceFull recreated overflow <;> cases recreated <;> cases overflow <;>
    cases s.usePopupDedicatedPlane <;> decide

/-! ### What has been seen -/

/-- The stores of the observations lead from `h` to `h'`, by the headers observed. -/
def Replays : FrameHeader → List Observation → FrameHeader → Prop
  | h, [], h' => h' = h
  | h, o :: obs, h' => o.header = h.apply o.store ∧ Replays o.header obs h'

theorem Replays.append {h h' h'' : FrameHeader} {obs obs' : List Observation}
    (hobs : Replays h obs h') (hobs' : Replays h' obs' h'') : Replays h (obs ++ obs') h'' := by
  induction obs generalizing h with
  | nil => exact (show h' = h from hobs) ▸ hobs'
  | cons o obs ih => exact ⟨hobs.1, ih hobs.2⟩

/-- The header observed after some of the stores is what they make of the first. -/
theorem Replays.header_eq {h h' : FrameHeader} {before after : List Observation} {o : Observation}
    (hobs : Replays h (before ++ o :: after) h') :
    o.header = ((before ++ [o]).map Observation.store).foldl FrameHeader.apply h := by
  induction before generalizing h with
  | nil => exact hobs.1
  | cons o' before ih =>
    refine (ih hobs.2).trans ?_
    rw [List.cons_append, List.map_cons, List.foldl_cons, hobs.1]

theorem Replays.inContract {h h' : FrameHeader} {obs : List Observation} (hobs : Replays h obs h')
    (hh : h.InContract) (hsts : ∀ o ∈ obs, o.store.InContract) :
    ∀ o ∈ obs, o.header.InContract := by
  induction obs generalizing h with
  | nil => exact fun _ ho => absurd ho List.not_mem_nil
  | cons o obs ih =>
    have hfirst : o.header.InContract := by
      rw [hobs.1]
      exact hh.apply (hsts o List.mem_cons_self)
    intro o' ho'
    rcases List.mem_cons.mp ho' with rfl | ho'
    · exact hfirst
    · exact ih hobs.2 hfirst (fun o ho => hsts o (List.mem_cons_of_mem _ ho)) o' ho'

namespace Painter

variable {s : Painter} {p : Paint} {src : Resource}

theorem replays_observe (w : Writer) (t : SharedTextures) (q : GpuQueue) (h : FrameHeader)
    (sts : List HeaderStore) : Replays h (observe w t q h sts) (sts.foldl FrameHeader.apply h) := by
  induction sts generalizing h with
  | nil => rfl
  | cons st sts ih => exact ⟨rfl, ih (h.apply st)⟩

/-- What has been seen is what the stores make of the first header, and all of them keep the
contract. -/
structure Recorded (s : Painter) : Prop where
  writeSlot : s.writeSlot.toNat < shmFrameSlotCount
  replays : Replays initFrameHeaderDefaults s.seen s.header
  stores : ∀ o ∈ s.seen, o.store.InContract

theorem firstSlot_lt : (0 : UInt32).toNat < shmFrameSlotCount := by decide

namespace Recorded

theorem init (names : SharedMemoryNames) (d3d : D3DInterfaces) (width height : UInt32) :
    Recorded (init names d3d width height) :=
  ⟨firstSlot_lt, rfl, fun _ ho => absurd ho List.not_mem_nil⟩

/-- A step that stores nothing. -/
theorem of_eq {s' : Painter} (h : Recorded s) (hslot : s'.writeSlot.toNat < shmFrameSlotCount)
    (hheader : s'.header = s.header) (hseen : s'.seen = s.seen) : Recorded s' := by
  refine ⟨hslot, ?_, ?_⟩
  · rw [hseen, hheader]
    exact h.replays
  · rw [hseen]
    exact h.stores

theorem storeAll (h : Recorded s) (w : Writer) {sts : List HeaderStore}
    (hsts : ∀ st ∈ sts, st.InContract) : Recorded (s.storeAll w sts) := by
  refine ⟨h.writeSlot, h.replays.append (replays_observe w _ _ _ sts), fun o ho => ?_⟩
  rcases List.mem_append.mp ho with ho | ho
  · exact h.stores o ho
  · exact hsts _ (of_mem_observe ho).2

theorem bumpSequence (h : Recorded s) (w : Writer) : Recorded (s.bumpSequence w) := by
  have hstored : Recorded (s.storeAll w [.sequence (s.header.sequence + 1)]) :=
    h.storeAll w fun st hst => by rw [List.mem_singleton.mp hst]; trivial
  exact hstored.of_eq hstored.writeSlot rfl rfl

theorem finishPublish (h : Recorded s) (w : Writer) : Recorded (s.finishPublish w) := by
  have hcounted : Recorded { s with nextFrameId := s.nextFrameId + 1 } :=
    h.of_eq h.writeSlot rfl rfl
  have hbumped := hcounted.bumpSequence w
  exact hbumped.of_eq hbumped.writeSlot rfl rfl

end Recorded

/-! ### The stores of the writers -/

theorem inContract_popupStores (h : Recorded s) (r : Corners) (fence : ℕ) :
    ∀ st ∈ s.popupStores r fence, st.InContract := by
  intro st hst
  rcases List.mem_append.mp hst with hst | hst
  · simp only [List.mem_cons, List.not_mem_nil, or_false] at hst
    rcases hst with rfl | rfl | rfl | rfl | rfl | rfl | rfl | rfl | rfl | rfl | rfl | rfl <;>
      first | rfl | trivial | exact h.writeSlot | skip
    show (if s.popupVisible = true then (1 : UInt8) else 0).toNat ≤ 1
    split <;> decide
  · split at hst
    · simp only [List.mem_cons, List.not_mem_nil, or_false] at hst
      rcases hst with rfl | rfl
      · show (1 : UInt8).toNat ≤ maxDirtyRects
        decide
      · trivial
    · rw [List.mem_singleton.mp hst]
      exact Nat.zero_le _

theorem inContract_viewStores (s : Painter) (src : Resource) (slot : UInt32) {flags : UInt32}
    (hflags : FrameFlagsValid flags) (fence : ℕ) :
    ∀ st ∈ s.viewStores src (backSlot slot) flags fence, st.InContract := by
  intro st hst
  simp only [viewStores, List.mem_cons, List.not_mem_nil, or_false] at hst
  rcases hst with rfl | rfl | rfl | rfl | rfl | rfl | rfl | rfl | rfl | rfl | rfl | rfl <;>
    first | rfl | trivial | exact backSlot_lt slot | exact hflags | skip
  show (if (s.usePopupDedicatedPlane && s.popupVisible) = true then (1 : UInt8) else 0).toNat ≤ 1
  split <;> decide

theorem inContract_dirtyStores (i : ℕ) (rects : List DirtyRect) :
    ∀ st ∈ dirtyStores i rects, st.InContract := by
  induction rects generalizing i with
  | nil => exact fun _ hst => absurd hst List.not_mem_nil
  | cons r rects ih =>
    intro st hst
    rw [dirtyStores] at hst
    split at hst
    · rcases List.mem_cons.mp hst with rfl | hst
      · trivial
      · exact ih (i + 1) st hst
    · exact absurd hst List.not_mem_nil

theorem inContract_viewDirtyStores (full : Bool) {rects : List DirtyRect}
    (h : rects.length ≤ maxDirtyRects) : ∀ st ∈ viewDirtyStores full rects, st.InContract := by
  intro st hst
  rw [viewDirtyStores] at hst
  split at hst
  · rw [List.mem_singleton.mp hst]
    exact Nat.zero_le _
  · rcases List.mem_cons.mp hst with rfl | hst
    · show (UInt8.ofNat rects.length).toNat ≤ maxDirtyRects
      rw [UInt8.toNat_ofNat']
      exact (Nat.mod_le _ _).trans h
    · exact inContract_dirtyStores 0 rects st hst

/-- `nRects` is bounded by the array, whether there are more rectangles or not. -/
theorem length_collectDirty_le (s : Painter) (p : Paint) :
    (s.collectDirty p).1.length ≤ maxDirtyRects := by
  have hfold : ∀ (rects : List DirtyRect) (c : List DirtyRect × Bool),
      c.1.length ≤ maxDirtyRects → (rects.foldl addDirty c).1.length ≤ maxDirtyRects := by
    intro rects
    induction rects with
    | nil => exact fun _ hc => hc
    | cons r rects ih =>
      intro c hc
      refine ih _ ?_
      rw [addDirty]
      split
      · rw [List.length_append]
        exact ‹_›
      · exact hc
  exact hfold _ _ (Nat.zero_le _)

/-! ### One callback -/

namespace Recorded

theorem publishView (h : Recorded s) (p : Paint) (src : Resource) (recreated : Bool)
    {collected : List DirtyRect × Bool} (hc : collected.1.length ≤ maxDirtyRects) :
    Recorded (s.publishView p src recreated collected) := by
  have hforced : Recorded { s with
      forceFullFrame := false
      warmupFullFrames := if 0 < s.warmupFullFrames then s.warmupFullFrames - 1 else 0 } :=
    h.of_eq h.writeSlot rfl rfl
  have hdirty := hforced.storeAll .view
    (inContract_viewDirtyStores (s.forceFull recreated collected.2) hc)
  rw [Painter.publishView]
  refine finishPublish (storeAll ?_ .view (s.inContract_viewStores src s.writeSlot
    (s.flagsValid_viewFlags recreated collected.2) _)) .view
  exact hdirty.of_eq (backSlot_lt s.writeSlot) rfl rfl

theorem publishPopupPlane (h : Recorded s) (p : Paint) (r : Corners) :
    Recorded (s.publishPopupPlane p r) := by
  have hsubmitted : Recorded { s with
      nextGpuFenceValue := s.nextFenceValue
      gpu := s.gpu ++ s.signalCommands p ++ flushCommands !s.signaledFence p } :=
    h.of_eq h.writeSlot rfl rfl
  have hstored := (hsubmitted.storeAll .popup
    (inContract_popupStores h r (s.gpuFenceValue p))).finishPublish .popup
  exact hstored.of_eq hstored.writeSlot rfl rfl

theorem adoptTextures (h : Recorded s) (t : SharedTextures) (width height : UInt32) :
    Recorded (s.adoptTextures t width height) := by
  have hmoved : Recorded { s with
      textures := { t with sharedWidth := width, sharedHeight := height }
      writeSlot := 0 } := ⟨firstSlot_lt, h.replays, h.stores⟩
  have hsts : ∀ st ∈ resizeStores width height, st.InContract := by
    intro st hst
    simp only [resizeStores, List.mem_cons, List.not_mem_nil, or_false] at hst
    rcases hst with rfl | rfl | rfl | rfl | rfl | rfl | rfl | rfl | rfl | rfl | rfl <;>
      first | rfl | trivial | exact Nat.zero_le _ | exact firstSlot_lt
  rw [adoptTextures_eq]
  exact (hmoved.storeAll .resize hsts).of_eq firstSlot_lt rfl rfl

theorem copied (h : Recorded s) {tx : Texture}
    (htx : s.textures.texture (backPlane s.writeSlot) = some tx) : Recorded (s.copied src) := by
  obtain ⟨t, q, rect, hcopied, -⟩ := copied_eq src htx
  rw [hcopied]
  exact h.of_eq h.writeSlot rfl rfl

theorem paintView (h : Recorded s) (p : Paint) (src : Resource) :
    Recorded (s.paintView p src) := by
  have hlength := s.length_collectDirty_le p
  cases hready : s.texturesReady src.width src.height p.create with
  | false =>
    rw [paintView_failed hready]
    exact h.of_eq h.writeSlot rfl rfl
  | true =>
    rcases texturesReady_cases hready with hsized | ⟨hsized, hok⟩
    · obtain ⟨tx, htx⟩ := ready_back hsized
      rw [paintView_ready hsized]
      exact (h.copied htx).publishView p src false hlength
    · obtain ⟨tx, htx⟩ := recreated_back hok
      rw [paintView_recreated hsized hok]
      exact ((h.adoptTextures _ _ _).copied htx).publishView p src true hlength

theorem paintPopup (h : Recorded s) (p : Paint) (src : Resource) :
    Recorded (s.paintPopup p src) := by
  cases hready : s.popupTextureReady p src with
  | false =>
    rw [paintPopup_failed hready]
    exact h.of_eq h.writeSlot rfl rfl
  | true =>
    obtain ⟨tx, n, heq, -⟩ := paintPopup_ready hready
    have hcopied : Recorded ((s.withPopup src tx n).copyPopup src) :=
      h.of_eq h.writeSlot rfl rfl
    rw [heq]
    cases s.popupPlaneReady with
    | false => exact hcopied
    | true =>
      obtain ⟨t, q, hpub, -⟩ := ((s.withPopup src tx n).copyPopup src).publishPopup_eq p
      show Recorded (((s.withPopup src tx n).copyPopup src).publishPopup p)
      rw [hpub]
      refine publishPopupPlane ?_ p _
      exact hcopied.of_eq hcopied.writeSlot rfl rfl

theorem onAcceleratedPaint (h : Recorded s) (p : Paint) : Recorded (s.onAcceleratedPaint p) := by
  cases hsrc : s.source p with
  | none =>
    rw [onAcceleratedPaint_none hsrc]
    exact h.of_eq h.writeSlot rfl rfl
  | some src =>
    obtain ⟨view, popup, hopened⟩ := s.opened_eq p src
    have hremembered : Recorded (s.opened p src) := by
      rw [hopened]
      exact h.of_eq h.writeSlot rfl rfl
    cases ht : p.type with
    | view =>
      rw [onAcceleratedPaint_view hsrc ht]
      exact hremembered.paintView p src
    | popup =>
      rw [onAcceleratedPaint_popup hsrc ht]
      exact hremembered.paintPopup p src

theorem setLoadState (h : Recorded s) (isMain : Bool) (v : CefLoadState) :
    Recorded (s.setLoadState isMain v) := by
  cases isMain with
  | false => exact h
  | true =>
    refine (h.storeAll .load fun st hst => ?_).bumpSequence .load
    rw [List.mem_singleton.mp hst]
    trivial

/-- **One callback.** -/
theorem step (h : Recorded s) (c : Callback) : Recorded (s.step c) := by
  match c with
  | .paint p => exact h.onAcceleratedPaint p
  | .loadStart isMain => exact h.setLoadState isMain _
  | .loadEnd isMain status => exact h.setLoadState isMain _
  | .loadError isMain => exact h.setLoadState isMain _
  | .cursorChange type =>
    refine h.storeAll .cursor fun st hst => ?_
    rw [List.mem_singleton.mp hst]
    trivial
  | .popupShow true => exact h.of_eq h.writeSlot rfl rfl
  | .popupShow false => exact h.of_eq h.writeSlot rfl rfl
  | .popupSize rect => exact h.of_eq h.writeSlot rfl rfl
  | .resize width height => exact h.of_eq h.writeSlot rfl rfl
  | .setFlushIntervalFrames frames => exact h.of_eq h.writeSlot rfl rfl

end Recorded

end Painter

/-! ### The mapping -/

/-- The stores of `InitFrameHeaderDefaults`. -/
def initStores : List HeaderStore :=
  [.protocolMagic shmProtocolMagic, .version shmProtocolVersion,
    .slotCount (UInt32.ofNat shmFrameSlotCount), .writeSlot 0, .sequence 0, .frameId 0,
    .presentId 0, .gpuFenceValue 0, .flags frameFlagFullFrame, .popupVisible 0,
    .popupRect .zero, .dirtyCount 0]

/-- The `memset` of `SharedFrameBuffer::Init`. -/
def clearMapping (base : ℕ) (m : Layout.Memory) : Layout.Memory := fun i =>
  if base ≤ i ∧ i < base + shmFrameTotal then 0 else m i

theorem sizeofFrameHeader_le : sizeofFrameHeader ≤ shmFrameTotal := Nat.le_add_right _ _

theorem cleared_inBytes (base : ℕ) (m : Layout.Memory) :
    FrameHeader.cleared.InBytes (clearMapping base m) base := by
  have hzero : ∀ n a, base ≤ a → a + n ≤ base + sizeofFrameHeader →
      Layout.load (clearMapping base m) a n = 0 := by
    intro n
    induction n with
    | zero => exact fun _ _ _ => rfl
    | succ n ih =>
      intro a hle hend
      have hsize := sizeofFrameHeader_le
      have hbyte : clearMapping base m a = 0 := if_pos ⟨hle, by omega⟩
      rw [Layout.load, hbyte, ih (a + 1) (by omega) (by omega)]
      rfl
  rw [FrameHeader.InBytes]
  funext i
  have hin := headerLayout.offset_add_width_le i
  rw [headerLayout_size] at hin
  have hscalar : FrameHeader.cleared.scalar i = 0 := by
    obtain ⟨m, i⟩ := i
    cases m with
    | popupRect => rcases i with ⟨c, _⟩; cases c <;> rfl
    | dirtyRects => rcases i with ⟨k, c, _⟩; cases c <;> rfl
    | _ => rfl
  rw [hscalar]
  exact hzero _ _ (Nat.le_add_right _ _) (by omega)

/-- **The mapping after each store of a run**: its bytes are those of the header the model says,
with the fields in the contract, and no other byte has changed since `Init` cleared it. In a view
that is aligned to eight bytes no scalar straddles a multiple of its width, so that a store is one
access of the machine. -/
theorem header_bytes_at_every_store (names : SharedMemoryNames) (d3d : D3DInterfaces)
    (width height : UInt32) (callbacks : List Callback) (base : ℕ) (m : Layout.Memory) :
    let s := Runs.run Painter.step (.init names d3d width height) callbacks
    (8 ∣ base → ∀ i, headerLayout.width i ∣ base + headerLayout.offset i) ∧
    ∀ k : Fin s.seen.length,
      let h := (s.seen.get k).header
      let m' := storeBytes base (clearMapping base m)
        (initStores ++ (s.seen.take (k + 1)).map Observation.store)
      h.InContract ∧
      (∀ h' : FrameHeader, h'.InBytes m' base ↔ h'.wrapped = h.wrapped) ∧
      ∀ i, i < base ∨ base + sizeofFrameHeader ≤ i → m' i = clearMapping base m i := by
  intro s
  refine ⟨fun hbase => headerLayout.width_dvd_address (by rwa [headerLayout_logAlign]), ?_⟩
  intro k h m'
  have hrecorded : s.Recorded := Runs.invariant (I := Painter.Recorded) (fun _ c h => h.step c)
    (Painter.Recorded.init names d3d width height) callbacks
  have hsplit : s.seen = s.seen.take k ++ s.seen.get k :: s.seen.drop (k + 1) := by
    rw [List.get_eq_getElem, List.getElem_cons_drop, List.take_append_drop]
  have htake : s.seen.take (k + 1) = s.seen.take k ++ [s.seen.get k] := by
    rw [List.get_eq_getElem, List.take_append_getElem]
  have hbytes : h.InBytes m' base := by
    have hreplays := hrecorded.replays
    rw [hsplit] at hreplays
    have hheader : h = (initStores ++ (s.seen.take (k + 1)).map Observation.store).foldl
        FrameHeader.apply .cleared := by
      rw [List.foldl_append, htake]
      exact hreplays.header_eq
    rw [hheader]
    exact (cleared_inBytes base m).stores _
  refine ⟨?_, fun h' => ?_, fun i hi => ?_⟩
  · exact hrecorded.replays.inContract initFrameHeaderDefaults_inContract hrecorded.stores _
      (List.get_mem _ k)
  · rw [FrameHeader.InBytes, hbytes, eq_comm]
    exact FrameHeader.scalar_inj
  · refine headerLayout.writes_of_outside ?_ _ _
    rwa [headerLayout_size]

end CefHost
