import CefHost.Library.Runs
import CefHost.PublishCases

/-!
# The publication law

A consumer looks at the header when `sequence` has moved. What is stored after the increment, or
without one, it is not told about. `FrameHeader` is documented to be written before `sequence` is
incremented and the frame event set.

`Painter.published` is the header at the instant of the last increment, read off the recorded
stores. The law says that an operation which changes the header stores `sequence` last, and then
sets the event; between operations the header is then the published one. Two writers break it:
`OnCursorChange` increments nothing, and `SharedFrameBuffer::WriteFrame` increments `sequence`
before it stores the frame numbers.

## Main results

* `Painter.step_publication` — every callback but a cursor change keeps the law
* `publication_law_iff` — whole runs of operations
* `cursor_change_untold` — one cursor change
-/

namespace CefHost

/-- The store to `sequence`. -/
def HeaderStore.isSequence : HeaderStore → Bool
  | .sequence _ => true
  | _ => false

/-- Everything that writes the header after `Init`: the callbacks, and
`SharedFrameBuffer::WriteFrame`, which no callback calls. -/
inductive HeaderOp
  | callback (c : Callback)
  | writeFrame (width height : UInt32)

namespace Painter

/-- `SharedFrameBuffer::WriteFrame`, without the pixels it copies behind the header. -/
def writeFrame (s : Painter) (width height : UInt32) : Painter :=
  let slotCount :=
    if s.header.slotCount = 0 ∨ UInt32.ofNat shmFrameSlotCount < s.header.slotCount then
      UInt32.ofNat shmFrameSlotCount
    else s.header.slotCount
  let s := s.storeAll .writeFrame
    [.protocolMagic shmProtocolMagic, .version shmProtocolVersion, .slotCount slotCount,
      .width width, .height height, .writeSlot ((s.header.writeSlot + 1) % slotCount)]
  let s := s.storeAll .writeFrame [.sequence (s.header.sequence + 1)]
  let s := s.storeAll .writeFrame
    [.frameId (s.header.frameId + 1), .presentId (s.header.frameId + 1)]
  { s with frameEvents := s.frameEvents + 1 }

def apply (s : Painter) : HeaderOp → Painter
  | .callback c => s.step c
  | .writeFrame width height => s.writeFrame width height

/-- The header at the instant `sequence` was last incremented, the defaults before that. -/
def published (s : Painter) : FrameHeader :=
  ((s.seen.filter fun o => o.store.isSequence).getLast?.map Observation.header).getD
    initFrameHeaderDefaults

/-- From `s` to `s'` the header was stored to, `sequence` once and last, and the frame event set. -/
def ToldLast (s s' : Painter) : Prop :=
  ∃ obs o, s'.seen = s.seen ++ (obs ++ [o]) ∧ (∀ o' ∈ obs, o'.store.isSequence = false) ∧
    o.store.isSequence = true ∧ s'.frameEvents = s.frameEvents + 1

/-- An operation that changes the header tells the consumer, after everything else. -/
def LawAbiding (s : Painter) (op : HeaderOp) : Prop :=
  (s.apply op).header ≠ s.header → ToldLast s (s.apply op)

/-- What the consumer was told of last is what the header says. -/
def Told (s : Painter) : Prop := s.header = s.published

theorem told_init (names : SharedMemoryNames) (d3d : D3DInterfaces) (width height : UInt32) :
    (init names d3d width height).Told := rfl

variable {s s' : Painter} {p : Paint}

/-! ### The published header -/

theorem published_of_silent {obs : List Observation} (hseen : s'.seen = s.seen ++ obs)
    (hobs : ∀ o ∈ obs, o.store.isSequence = false) : s'.published = s.published := by
  have hnil : obs.filter (fun o => o.store.isSequence) = [] := by
    rw [List.filter_eq_nil_iff]
    intro o ho
    simp [hobs o ho]
  rw [published, published, hseen, List.filter_append, hnil, List.append_nil]

theorem silent_nil : ∀ o ∈ ([] : List Observation), o.store.isSequence = false :=
  fun _ ho => absurd ho List.not_mem_nil

theorem published_of_sequence {obs : List Observation} {o : Observation}
    (hseen : s'.seen = s.seen ++ (obs ++ [o])) (ho : o.store.isSequence = true) :
    s'.published = o.header := by
  have hlast : [o].filter (fun o => o.store.isSequence) = [o] := by simp [ho]
  rw [published, hseen, ← List.append_assoc, List.filter_append, hlast,
    List.getLast?_concat]
  rfl

theorem observe_silent {w : Writer} {t : SharedTextures} {q : GpuQueue} {h : FrameHeader}
    {sts : List HeaderStore} (hsts : ∀ st ∈ sts, st.isSequence = false) :
    ∀ o ∈ observe w t q h sts, o.store.isSequence = false :=
  fun _ ho => hsts _ (of_mem_observe ho).2

/-! ### The writers -/

/-- An operation keeps the law if it leaves the header alone, or if it tells the consumer last. -/
def Lawful (s s' : Painter) : Prop :=
  (s'.header = s.header ∧ s'.published = s.published) ∨ (ToldLast s s' ∧ s'.Told)

theorem Prepared.lawful (h : Prepared s s' none) : Lawful s s' := by
  obtain ⟨obs, hseen, hobs⟩ := h.seen
  refine Or.inl ⟨h.header, published_of_silent hseen fun o ho => ?_⟩
  cases hst : o.store with
  | sequence n => exact absurd hst (hobs o ho n)
  | _ => rfl

/-- A publish that stores `stores` and then increments `sequence`. -/
theorem lawful_of_publish {e : Painter} {resized : Option (UInt32 × UInt32)}
    (he : Prepared s e resized) {w : Writer} {t : SharedTextures} {q : GpuQueue} {h : FrameHeader}
    {obs : List Observation} {stores : List HeaderStore}
    (hseen : s'.seen = e.seen ++ (obs ++ observePublish w t q h stores))
    (hobs : ∀ o ∈ obs, o.store.isSequence = false)
    (hstores : ∀ st ∈ stores, st.isSequence = false)
    (hheader : s'.header = publishedHeader h stores)
    (hevents : s'.frameEvents = e.frameEvents + 1) : Lawful s s' := by
  obtain ⟨before, hbefore, hsilent⟩ := he.seen
  set h' := stores.foldl FrameHeader.apply h with hh'
  have hsplit : s'.seen = s.seen ++ ((before ++ (obs ++ observe w t q h stores)) ++
      [⟨w, .sequence (h'.sequence + 1), h'.apply (.sequence (h'.sequence + 1)), t, q⟩]) := by
    rw [hseen, hbefore, observePublish, List.append_assoc, List.append_assoc, List.append_assoc]
    rfl
  refine Or.inr ⟨⟨_, _, hsplit, fun o ho => ?_, rfl, ?_⟩, ?_⟩
  · rcases List.mem_append.mp ho with ho | ho
    · cases hst : o.store with
      | sequence n => exact absurd hst (hsilent o ho n)
      | _ => rfl
    · rcases List.mem_append.mp ho with ho | ho
      · exact hobs o ho
      · exact observe_silent hstores o ho
  · rw [hevents, he.frameEvents]
  · rw [Told, published_of_sequence hsplit rfl, hheader]
    rfl

theorem dirtyStores_silent (i : ℕ) (rects : List DirtyRect) :
    ∀ st ∈ dirtyStores i rects, st.isSequence = false := by
  induction rects generalizing i with
  | nil => simp [dirtyStores]
  | cons r rects ih =>
    rw [dirtyStores]
    split
    · intro st hst
      rcases List.mem_cons.mp hst with rfl | hst
      · rfl
      · exact ih _ st hst
    · simp

theorem viewDirtyStores_silent (full : Bool) (rects : List DirtyRect) :
    ∀ st ∈ viewDirtyStores full rects, st.isSequence = false := by
  rw [viewDirtyStores]
  intro st hst
  split at hst
  · cases List.mem_singleton.mp hst
    rfl
  · rcases List.mem_cons.mp hst with rfl | hst
    · rfl
    · exact dirtyStores_silent 0 rects st hst

theorem onAcceleratedPaint_lawful (s : Painter) (p : Paint) :
    Lawful s (s.onAcceleratedPaint p) := by
  rcases s.onAcceleratedPaint_cases p with ⟨-, hprep⟩ |
    ⟨-, -, src, e, recreated, -, -, hprep, heq⟩ | ⟨-, -, e, hprep, -, -, heq⟩
  · exact hprep.lawful
  · rw [heq, publishView_eq]
    refine lawful_of_publish hprep rfl (observe_silent (viewDirtyStores_silent _ _)) ?_ rfl rfl
    simp [viewStores, HeaderStore.isSequence]
  · rw [heq, publishPopupPlane_eq]
    refine lawful_of_publish hprep rfl silent_nil ?_ rfl rfl
    cases hv : s.clampedPopupRect.valid <;> simp [popupStores, hv, HeaderStore.isSequence]

theorem setLoadState_lawful (s : Painter) (isMain : Bool) (v : CefLoadState) :
    Lawful s (s.setLoadState isMain v) := by
  cases isMain with
  | false => exact Or.inl ⟨rfl, rfl⟩
  | true =>
    have hseen : (s.setLoadState true v).seen =
        s.seen ++ ([] ++ observePublish .load s.textures s.gpu s.header [.loadState v]) := by
      simp [setLoadState, bumpSequence, storeAll, observePublish]
    have hstores : ∀ st ∈ [HeaderStore.loadState v], st.isSequence = false := by
      simp [HeaderStore.isSequence]
    exact lawful_of_publish (.of_eq_nil : Prepared s s none) hseen silent_nil hstores rfl rfl

/-- **Every callback but a cursor change** keeps the law. -/
theorem step_publication (s : Painter) {c : Callback} (hc : ∀ type, c ≠ .cursorChange type) :
    Lawful s (s.step c) := by
  cases c with
  | paint p => exact s.onAcceleratedPaint_lawful p
  | loadStart isMain => exact s.setLoadState_lawful isMain _
  | loadEnd isMain status => exact s.setLoadState_lawful isMain _
  | loadError isMain => exact s.setLoadState_lawful isMain _
  | cursorChange type => exact absurd rfl (hc type)
  | popupShow visible => cases visible <;> exact Or.inl ⟨rfl, rfl⟩
  | popupSize rect => exact Or.inl ⟨rfl, rfl⟩
  | resize width height => exact Or.inl ⟨rfl, rfl⟩
  | setFlushIntervalFrames frames => exact Or.inl ⟨rfl, rfl⟩

/-! ### The two writers that do not -/

theorem cursorChange_published (s : Painter) (type : CefCursorType) :
    (s.onCursorChange type).published = s.published := by
  have hseen : (s.onCursorChange type).seen = s.seen ++
      [⟨.cursor, .cursorType type, s.header.apply (.cursorType type), s.textures, s.gpu⟩] := rfl
  exact published_of_silent hseen (by simp [HeaderStore.isSequence])

theorem told_cursorChange_iff (h : s.Told) (type : CefCursorType) :
    (s.onCursorChange type).Told ↔ type = s.header.cursorType := by
  rw [Told, cursorChange_published, ← h]
  change ({ s.header with cursorType := type } : FrameHeader) = s.header ↔ _
  constructor
  · intro heq
    exact congrArg FrameHeader.cursorType heq
  · rintro rfl
    rfl

/-- What is stored after an increment, and is none itself, is not published. -/
theorem published_of_late_stores (s : Painter) (w : Writer) (n : UInt32) (frames : ℕ)
    {sts : List HeaderStore} (hsts : ∀ st ∈ sts, st.isSequence = false) :
    published { (s.storeAll w [.sequence n]).storeAll w sts with frameEvents := frames }
      = (s.storeAll w [.sequence n]).header := by
  have htold : (s.storeAll w [.sequence n]).published = (s.storeAll w [.sequence n]).header :=
    published_of_sequence
      (show (s.storeAll w [.sequence n]).seen = s.seen ++ ([] ++ [_]) from rfl) rfl
  rw [← htold]
  exact published_of_silent rfl (observe_silent hsts)

/-- The frame numbers come after the increment, so the consumer is told the old ones. -/
theorem not_told_writeFrame (s : Painter) (width height : UInt32) :
    ¬ (s.writeFrame width height).Told := by
  intro htold
  have hsilent : ∀ n, ∀ st ∈ [HeaderStore.frameId n, .presentId n], st.isSequence = false := by
    simp [HeaderStore.isSequence]
  rw [writeFrame, Told, published_of_late_stores _ _ _ _ (hsilent _)] at htold
  exact absurd (congrArg FrameHeader.frameId htold) (Nat.succ_ne_self _)

/-! ### One operation -/

/-- The operation leaves nothing untold: a cursor change sets the cursor the header already has,
and `WriteFrame` is not called. -/
def TellsConsumer (s : Painter) : HeaderOp → Prop
  | .callback (.cursorChange type) => type = s.header.cursorType
  | .callback _ => True
  | .writeFrame _ _ => False

theorem Lawful.told (h : Lawful s s') (hs : s.Told) : s'.Told := by
  rcases h with ⟨hheader, hpub⟩ | ⟨-, htold⟩
  · rw [Told, hheader, hpub]
    exact hs
  · exact htold

/-- **One operation.** -/
theorem told_apply_iff (h : s.Told) (op : HeaderOp) :
    (s.apply op).Told ↔ s.TellsConsumer op := by
  cases op with
  | writeFrame width height => exact iff_of_false (s.not_told_writeFrame width height) id
  | callback c =>
    by_cases hcursor : ∃ type, c = .cursorChange type
    · obtain ⟨type, rfl⟩ := hcursor
      exact told_cursorChange_iff h type
    · have htold := (s.step_publication fun type hc => hcursor ⟨type, hc⟩).told h
      refine iff_of_true htold ?_
      cases c with
      | cursorChange type => exact absurd ⟨type, rfl⟩ hcursor
      | _ => trivial

theorem lawAbiding_of_tellsConsumer {op : HeaderOp} (hop : s.TellsConsumer op) :
    s.LawAbiding op := by
  intro hchanged
  cases op with
  | writeFrame width height => exact hop.elim
  | callback c =>
    by_cases hcursor : ∃ type, c = .cursorChange type
    · obtain ⟨type, rfl⟩ := hcursor
      refine absurd ?_ hchanged
      change ({ s.header with cursorType := type } : FrameHeader) = s.header
      rw [show type = s.header.cursorType from hop]
    · rcases s.step_publication fun type hc => hcursor ⟨type, hc⟩ with ⟨hsame, -⟩ | ⟨htold, -⟩
      · exact absurd hsame hchanged
      · exact htold

end Painter

/-- **Runs of operations**: every operation that changes the header tells the consumer last, and in
every state between them the header is the one of the last increment of `sequence`, if and only if
no operation leaves anything untold. -/
theorem publication_law_iff (names : SharedMemoryNames) (d3d : D3DInterfaces)
    (width height : UInt32) (ops : List HeaderOp) :
    (Runs.Along Painter.apply Painter.LawAbiding (.init names d3d width height) ops ∧
        Runs.Always Painter.apply Painter.Told (.init names d3d width height) ops) ↔
      Runs.Along Painter.apply Painter.TellsConsumer (.init names d3d width height) ops := by
  have htold : Runs.Always Painter.apply Painter.Told (.init names d3d width height) ops ↔
      Runs.Along Painter.apply Painter.TellsConsumer (.init names d3d width height) ops := by
    refine Runs.always_iff_along (I := fun _ => True) (fun _ _ _ _ _ => trivial) ?_ trivial
      (Painter.told_init names d3d width height) ops
    intro s op _ h
    exact Painter.told_apply_iff h op
  rw [htold]
  refine and_iff_right_of_imp fun htells => ?_
  exact Runs.Along.mono (fun _ _ hop => Painter.lawAbiding_of_tellsConsumer hop) htells

/-- The cursor becomes a hand (2) over a link, and nothing else happens. -/
theorem cursor_change_untold :
    ¬ (Runs.Along Painter.apply Painter.LawAbiding
          (.init (buildSharedMemoryNames []) fullD3D 16 16) [.callback (.cursorChange 2)] ∧
        Runs.Always Painter.apply Painter.Told
          (.init (buildSharedMemoryNames []) fullD3D 16 16) [.callback (.cursorChange 2)]) := by
  rintro ⟨-, -, htold⟩
  have hcursor := congrArg FrameHeader.cursorType htold
  exact absurd hcursor (by decide +kernel)

end CefHost
