import CefHost.Library.RoundRobin
import CefHost.Library.Runs
import CefHost.PublishCases

/-!
# Reuse of the ring slots

A view paint copies into the slot after `m_writeSlot` and, when it publishes, makes that slot the
current one. The consumer reads the slot named by the header while the host goes on painting: with
`BUFFER_COUNT` slots the texture it reads is safe from the copies of the next `BUFFER_COUNT - 1`
view paints.

The slots follow the rules of `RoundRobin`. What has to be shown of the code is that nothing else
moves `m_writeSlot` or copies into the ring, and that a texture keeps its slot until the ring is
recreated, when it is dropped for good.

## Main results

* `Painter.step_textures` — what a callback does to the textures and where it copies
* `Painter.Spared.run` — a texture out of reach of the next view paints is not copied into
* `slot_reuse_distance` — whole runs of callbacks
-/

namespace CefHost

open SharedTextures

/-- A paint callback for the view. -/
def Callback.isViewPaint : Callback → Bool
  | .paint p => p.type == .view
  | _ => false

namespace Painter

variable {s e s' : Painter} {p : Paint} {src : Resource}

theorem backSlot_toNat {slot : UInt32} (h : slot.toNat < shmFrameSlotCount) :
    (backSlot slot).toNat = RoundRobin.next shmFrameSlotCount slot.toNat := by
  have hlt : slot.toNat + (1 : UInt32).toNat < 2 ^ 32 := by
    have h1 : (1 : UInt32).toNat = 1 := rfl
    have h3 : shmFrameSlotCount = 3 := rfl
    omega
  rw [backSlot, UInt32.toNat_mod, UInt32.toNat_add, Nat.mod_eq_of_lt hlt, RoundRobin.next]
  rfl

/-! ### The current slot -/

/-- The header names the current slot, and there is such a slot. -/
structure SlotNamed (s : Painter) : Prop where
  header : s.header.writeSlot = s.writeSlot
  lt : s.writeSlot.toNat < shmFrameSlotCount

theorem slotNamed_init (names : SharedMemoryNames) (d3d : D3DInterfaces) (width height : UInt32) :
    SlotNamed (.init names d3d width height) := ⟨rfl, Nat.zero_lt_succ 2⟩

theorem SlotNamed.prepared {resized : Option (UInt32 × UInt32)} (h : SlotNamed s)
    (he : Prepared s e resized) : SlotNamed e := by
  cases resized with
  | none =>
    refine ⟨?_, by rw [he.writeSlot]; exact h.lt⟩
    rw [he.header, he.writeSlot]
    exact h.header
  | some size =>
    refine ⟨?_, by rw [he.writeSlot]; exact Nat.zero_lt_succ 2⟩
    rw [he.header, he.writeSlot, resizedHeader, foldl_resizeStores]
    rfl

theorem publishView_writeSlot (s : Painter) (p : Paint) (src : Resource) (recreated : Bool)
    (collected : List DirtyRect × Bool) :
    (s.publishView p src recreated collected).writeSlot = backSlot s.writeSlot ∧
      (s.publishView p src recreated collected).header.writeSlot = backSlot s.writeSlot := by
  obtain ⟨count, rects, -, hheader⟩ := s.publishView_header p src recreated collected
  rw [hheader, publishView_eq]
  exact ⟨rfl, rfl⟩

theorem publishPopupPlane_writeSlot (s : Painter) (p : Paint) (r : Corners) :
    (s.publishPopupPlane p r).writeSlot = s.writeSlot ∧
      (s.publishPopupPlane p r).header.writeSlot = s.writeSlot := by
  obtain ⟨rects, hheader⟩ := s.publishPopupPlane_header p r
  rw [hheader, publishPopupPlane_eq]
  exact ⟨rfl, rfl⟩

theorem SlotNamed.step (h : SlotNamed s) (c : Callback) : SlotNamed (s.step c) := by
  by_cases hpaint : ∃ p, c = .paint p
  · obtain ⟨p, rfl⟩ := hpaint
    change SlotNamed (s.onAcceleratedPaint p)
    rcases s.onAcceleratedPaint_cases p with ⟨-, hprep⟩ |
      ⟨-, -, src, e, recreated, -, -, hprep, heq⟩ | ⟨-, -, e, hprep, -, -, heq⟩
    · exact h.prepared hprep
    · obtain ⟨hslot, hheader⟩ := e.publishView_writeSlot p src recreated (s.collectDirty p)
      rw [heq]
      exact ⟨hheader.trans hslot.symm, by rw [hslot]; exact backSlot_lt _⟩
    · obtain ⟨hslot, hheader⟩ := e.publishPopupPlane_writeSlot p s.clampedPopupRect
      rw [heq]
      exact ⟨hheader.trans hslot.symm, by rw [hslot]; exact (h.prepared hprep).lt⟩
  · have hquiet := s.step_quiet fun p hc => hpaint ⟨p, hc⟩
    obtain ⟨load, cursor, k, hheader⟩ := hquiet.header
    refine ⟨?_, by rw [hquiet.writeSlot]; exact h.lt⟩
    rw [hheader, hquiet.writeSlot]
    exact h.header

end Painter

/-! ### The slots of the published view frames -/

/-- The slots of the view frames published since the ring was last recreated. -/
structure SlotRun where
  painter : Painter
  slots : List ℕ

namespace SlotRun

def init (s : Painter) : SlotRun := ⟨s, []⟩

/-- The paint finds the ring missing or of another size. -/
def recreates (s : Painter) (p : Paint) : Bool :=
  match s.source p with
  | some src => !s.textures.alreadyReady src.width src.height
  | none => false

def step (r : SlotRun) (c : Callback) : SlotRun where
  painter := r.painter.step c
  slots :=
    match c with
    | .paint p =>
      if r.painter.PublishesView p then
        (if recreates r.painter p then [] else r.slots) ++
          [(r.painter.onAcceleratedPaint p).header.writeSlot.toNat]
      else r.slots
    | _ => r.slots

/-- The slots were used in turn, the current one last. -/
structure InTurn (r : SlotRun) : Prop where
  named : r.painter.SlotNamed
  turns : RoundRobin.Turns shmFrameSlotCount r.slots
  last : ∀ a ∈ r.slots.getLast?, a = r.painter.writeSlot.toNat

variable {r : SlotRun}

/-- A callback that publishes no view frame leaves the current slot alone. -/
theorem writeSlot_of_not_publishesView (s : Painter) (p : Paint) (h : ¬ s.PublishesView p) :
    (s.onAcceleratedPaint p).writeSlot = s.writeSlot := by
  rcases s.onAcceleratedPaint_cases p with ⟨-, hprep⟩ |
    ⟨hpub, ht, -⟩ | ⟨-, -, e, hprep, -, -, heq⟩
  · exact hprep.writeSlot
  · refine absurd ⟨ht, ?_⟩ h
    rw [(s.onAcceleratedPaint_published p).1, hpub]
    exact Nat.lt_succ_self _
  · rw [heq, (e.publishPopupPlane_writeSlot p s.clampedPopupRect).1]
    exact hprep.writeSlot

/-- A published view frame moves on to the next slot, or to the first after slot 0 in a new ring. -/
theorem writeSlot_of_publishesView (s : Painter) (p : Paint) (h : s.PublishesView p) :
    (s.onAcceleratedPaint p).writeSlot =
      Painter.backSlot (if recreates s p then 0 else s.writeSlot) := by
  have hlt := h.2
  rcases s.onAcceleratedPaint_cases p with ⟨hpub, -⟩ |
    ⟨-, -, src, e, recreated, hsrc, hrec, hprep, heq⟩ | ⟨-, ht, -⟩
  · rw [(s.onAcceleratedPaint_published p).1, hpub] at hlt
    exact absurd hlt (Nat.lt_irrefl _)
  · have hrecreates : recreates s p = recreated := by
      rw [recreates, hsrc, hrec]
    rw [heq, (e.publishView_writeSlot p src recreated _).1, hprep.writeSlot, hrecreates]
    cases recreated <;> rfl
  · exact absurd (h.1.symm.trans ht) PaintElementType.noConfusion

theorem inTurn_init {s : Painter} (h : s.SlotNamed) : (init s).InTurn :=
  ⟨h, .nil, by simp [init]⟩

theorem InTurn.step (h : r.InTurn) (c : Callback) : (r.step c).InTurn := by
  have hnamed : (r.step c).painter.SlotNamed := h.named.step c
  by_cases hpaint : ∃ p, c = .paint p
  · obtain ⟨p, rfl⟩ := hpaint
    have hheader : (r.painter.onAcceleratedPaint p).header.writeSlot =
        (r.painter.onAcceleratedPaint p).writeSlot := hnamed.header
    by_cases hpub : r.painter.PublishesView p
    · have hslots : (r.step (.paint p)).slots = (if recreates r.painter p then [] else r.slots) ++
          [(r.painter.onAcceleratedPaint p).writeSlot.toNat] := by
        rw [SlotRun.step, if_pos hpub, hheader]
      have hslot := writeSlot_of_publishesView r.painter p hpub
      refine ⟨hnamed, ?_, fun a ha => ?_⟩
      · rw [hslots]
        cases hrec : recreates r.painter p with
        | true =>
          rw [if_pos rfl]
          exact RoundRobin.Turns.singleton hnamed.lt
        | false =>
          rw [if_neg Bool.false_ne_true]
          refine h.turns.concat (fun a ha => ?_) hnamed.lt
          rw [hrec, if_neg Bool.false_ne_true] at hslot
          rw [h.last a ha, hslot]
          exact Painter.backSlot_toNat h.named.lt
      · rw [hslots, List.getLast?_concat] at ha
        cases ha
        rfl
    · have hslots : (r.step (.paint p)).slots = r.slots := by
        rw [SlotRun.step, if_neg hpub]
      refine ⟨hnamed, by rw [hslots]; exact h.turns, fun a ha => ?_⟩
      rw [hslots] at ha
      rw [h.last a ha]
      exact (congrArg UInt32.toNat (writeSlot_of_not_publishesView r.painter p hpub)).symm
  · have hquiet := r.painter.step_quiet fun p hc => hpaint ⟨p, hc⟩
    have hslots : (r.step c).slots = r.slots := by
      cases c with
      | paint p => exact absurd ⟨p, rfl⟩ hpaint
      | _ => rfl
    refine ⟨hnamed, by rw [hslots]; exact h.turns, fun a ha => ?_⟩
    rw [hslots] at ha
    rw [h.last a ha]
    exact (congrArg UInt32.toNat hquiet.writeSlot).symm

end SlotRun

/-! ### What a callback does to the textures -/

namespace Painter

variable {s e s' : Painter} {p : Paint} {src : Resource}

/-- The textures at the end are those from the start, perhaps with other pixels, apart from a new
private one. -/
structure Kept (s s' : Painter) : Prop where
  next_le : s.textures.nextTexture ≤ s'.textures.nextTexture
  plane : ∀ r tx, s'.textures.texture r = some tx →
    ∃ ux, s.textures.texture r = some ux ∧ ux.id = tx.id
  popup : ∀ tx, s'.popupTexture = some tx → (∃ ux, s.popupTexture = some ux ∧ ux.id = tx.id) ∨
    (tx.id = s.textures.nextTexture ∧ s.textures.nextTexture < s'.textures.nextTexture)

/-- The shared textures at the end are all new. -/
structure Renewed (s s' : Painter) : Prop where
  next_le : s.textures.nextTexture ≤ s'.textures.nextTexture
  plane : ∀ r tx, s'.textures.texture r = some tx →
    s.textures.nextTexture ≤ tx.id ∧ tx.id < s'.textures.nextTexture
  inj : ∀ r r' tx ux, s'.textures.texture r = some tx → s'.textures.texture r' = some ux →
    tx.id = ux.id → r = r'
  popup : s'.popupTexture = s.popupTexture

/-- The copies go into the private texture, into the popup plane, or, if the current slot has moved,
into the new one. -/
def CopiesInto (s' : Painter) (moved : Bool) (q : GpuQueue) : Prop :=
  ∀ dst c, .work (.copy dst c) ∈ q → (∃ tx, s'.popupTexture = some tx ∧ tx.id = dst) ∨
    ∃ r tx, s'.textures.texture r = some tx ∧ tx.id = dst ∧
      (r = .popup ∨ (moved = true ∧ slotPlane s'.writeSlot = some r))

/-- What a callback does to the textures, and where it copies. -/
structure TextureStep (s s' : Painter) (moved : Bool) : Prop where
  gpu : ∃ q, s'.gpu = s.gpu ++ q ∧ CopiesInto s' moved q
  textures : (Kept s s' ∧ s'.writeSlot = if moved then backSlot s.writeSlot else s.writeSlot) ∨
    Renewed s s'

theorem Kept.of_sameShape (h : SameShape s.textures s'.textures)
    (hpopup : s'.popupTexture = s.popupTexture) : Kept s s' where
  next_le := Nat.le_of_eq h.nextTexture.symm
  plane r tx htx := by
    obtain ⟨ux, hux, hid, -, -⟩ := h.get htx
    exact ⟨ux, hux, hid⟩
  popup tx htx := by
    rw [hpopup] at htx
    exact Or.inl ⟨tx, htx, rfl⟩

/-- New textures that are then only copied into. -/
theorem Renewed.kept (h : Renewed s e) (h' : SameShape e.textures s'.textures)
    (hpopup : s'.popupTexture = e.popupTexture) : Renewed s s' where
  next_le := by rw [h'.nextTexture]; exact h.next_le
  plane r tx htx := by
    obtain ⟨ux, hux, hid, -, -⟩ := h'.get htx
    rw [h'.nextTexture, ← hid]
    exact h.plane r ux hux
  inj r r' tx ux htx hux hid := by
    obtain ⟨tx', htx', hid', -, -⟩ := h'.get htx
    obtain ⟨ux', hux', hid'', -, -⟩ := h'.get hux
    exact h.inj r r' tx' ux' htx' hux' (by rw [hid', hid'', hid])
  popup := hpopup.trans h.popup

theorem Renewed.of_newborn {t : SharedTextures} {width height : UInt32}
    (h : Newborn s.textures.nextTexture width height t) (hnext : s'.textures.nextTexture =
      t.nextTexture) (htex : s'.textures.texture = t.texture)
    (hpopup : s'.popupTexture = s.popupTexture) : Renewed s s' where
  next_le := by rw [hnext]; exact h.le
  plane r tx htx := by
    rw [htex] at htx
    obtain ⟨id, hle, hlt, rfl⟩ := h.created r tx htx
    rw [hnext]
    exact ⟨hle, hlt⟩
  inj := by rw [htex]; exact h.inj
  popup := hpopup

/-- The copies and the publish of a view paint, once the ring is complete. -/
theorem publishView_copied_textures {tx : Texture}
    (htx : e.textures.texture (backPlane e.writeSlot) = some tx) (p : Paint) (src : Resource)
    (recreated : Bool) (collected : List DirtyRect × Bool) :
    let s' := (e.copied src).publishView p src recreated collected
    (∃ q, s'.gpu = e.gpu ++ q ∧ CopiesInto s' true q) ∧ SameShape e.textures s'.textures ∧
      s'.popupTexture = e.popupTexture ∧ s'.writeSlot = backSlot e.writeSlot := by
  obtain ⟨t, q, rect, heq, hshape, -, -, hq⟩ := copied_eq src htx
  dsimp only
  rw [publishView_eq, heq]
  dsimp only
  have hslot : slotPlane (backSlot e.writeSlot) = some (backPlane e.writeSlot) :=
    slotPlane_of_lt (backSlot_lt _)
  -- a plane of `e` that is copied into is still there, with its number
  have hplane : ∀ r ux, e.textures.texture r = some ux →
      ∃ vx, t.texture r = some vx ∧ vx.id = ux.id := by
    intro r ux hux
    obtain ⟨vx, hvx, hid, -, -⟩ := hshape.symm.get hux
    exact ⟨vx, hvx, hid⟩
  refine ⟨⟨_, List.append_assoc .., fun dst c hmem => Or.inr ?_⟩, hshape, rfl, rfl⟩
  rcases List.mem_append.mp hmem with hmem | hmem
  · rcases List.mem_cons.mp hmem with hfirst | hmem
    · cases hfirst
      obtain ⟨vx, hvx, hid⟩ := hplane _ tx htx
      exact ⟨_, vx, hvx, hid, Or.inr ⟨rfl, hslot⟩⟩
    · obtain ⟨ptx, ux, r, -, hux, hr, hk⟩ := hq _ hmem
      cases hk
      obtain ⟨vx, hvx, hid⟩ := hplane r ux hux
      refine ⟨r, vx, hvx, hid, hr.imp_right fun hback => ⟨rfl, ?_⟩⟩
      rw [hback]
      exact hslot
  · rcases mem_signalCommands_flush hmem with ⟨-, hk⟩ | hk <;> cases hk

theorem paintView_textures (s : Painter) (p : Paint) (src : Resource) :
    TextureStep s (s.paintView p src) true := by
  cases h : s.texturesReady src.width src.height p.create with
  | false =>
    have hnew := s.textures.recreate_newborn s.d3d.device src.width src.height p.create
    rw [paintView_failed h]
    exact ⟨⟨[], (List.append_nil _).symm, by simp [CopiesInto]⟩,
      Or.inr (.of_newborn hnew rfl rfl rfl)⟩
  | true =>
    rcases texturesReady_cases h with hready | ⟨hready, hok⟩
    · obtain ⟨tx, htx⟩ := ready_back hready
      obtain ⟨hgpu, hshape, hpopup, hslot⟩ := publishView_copied_textures htx p src false
        (s.collectDirty p)
      rw [paintView_ready hready]
      exact ⟨hgpu, Or.inl ⟨.of_sameShape hshape hpopup, hslot⟩⟩
    · obtain ⟨tx, htx⟩ := recreated_back hok
      have hnew := s.textures.recreate_newborn s.d3d.device src.width src.height p.create
      obtain ⟨hgpu, hshape, hpopup, -⟩ := publishView_copied_textures (e := s.adoptTextures
        (s.textures.recreate s.d3d.device src.width src.height p.create).1 src.width src.height)
        htx p src true (s.collectDirty p)
      rw [paintView_recreated hready hok]
      refine ⟨?_, Or.inr (Renewed.kept (e := s.adoptTextures _ src.width src.height) ?_ hshape
        hpopup)⟩
      · rw [show (s.adoptTextures _ src.width src.height).gpu = s.gpu by rw [adoptTextures_eq]]
          at hgpu
        exact hgpu
      · exact .of_newborn hnew (by rw [adoptTextures_eq]) (by rw [adoptTextures_eq])
          (by rw [adoptTextures_eq])

/-- A popup publish copies into the popup plane only. -/
theorem publishPopup_textures (e : Painter) (p : Paint) :
    let s' := e.publishPopup p
    (∃ q, s'.gpu = e.gpu ++ q ∧ CopiesInto s' false q) ∧ SameShape e.textures s'.textures ∧
      s'.popupTexture = e.popupTexture ∧ s'.writeSlot = e.writeSlot := by
  obtain ⟨t, q, heq, hshape, -, hq⟩ := e.publishPopup_eq p
  dsimp only
  rw [heq, publishPopupPlane_eq]
  dsimp only
  refine ⟨⟨_, List.append_assoc .., fun dst c hmem => Or.inr ?_⟩, hshape, rfl, rfl⟩
  rcases List.mem_append.mp hmem with hmem | hmem
  · obtain ⟨ptx, ux, -, hux, hk⟩ := hq _ hmem
    cases hk
    obtain ⟨vx, hvx, hid, -, -⟩ := hshape.symm.get hux
    exact ⟨.popup, vx, hvx, hid, Or.inl rfl⟩
  · rcases mem_signalCommands_flush hmem with ⟨-, hk⟩ | hk <;> cases hk

/-- More copies into textures that stay where they are. -/
theorem TextureStep.copies {moved : Bool} (h : TextureStep s e moved)
    (hgpu : ∃ q, s'.gpu = e.gpu ++ q ∧ CopiesInto s' moved q)
    (hshape : SameShape e.textures s'.textures) (hpopup : s'.popupTexture = e.popupTexture)
    (hslot : s'.writeSlot = e.writeSlot) : TextureStep s s' moved := by
  obtain ⟨q, hq, hcopy⟩ := h.gpu
  obtain ⟨q', hq', hcopy'⟩ := hgpu
  refine ⟨⟨q ++ q', by rw [hq', hq, List.append_assoc], fun dst c hmem => ?_⟩, ?_⟩
  · rcases List.mem_append.mp hmem with hmem | hmem
    · rcases hcopy dst c hmem with ⟨tx, htx, hid⟩ | ⟨r, tx, htx, hid, hr⟩
      · exact Or.inl ⟨tx, hpopup.trans htx, hid⟩
      · obtain ⟨vx, hvx, hid', -, -⟩ := hshape.symm.get htx
        refine Or.inr ⟨r, vx, hvx, hid'.trans hid, hr.imp_right fun hring => ⟨hring.1, ?_⟩⟩
        rw [hslot]
        exact hring.2
    · exact hcopy' dst c hmem
  · refine h.textures.imp (fun hold => ⟨⟨?_, fun r tx htx => ?_, fun tx htx => ?_⟩, ?_⟩)
      fun hnew => hnew.kept hshape hpopup
    · rw [hshape.nextTexture]
      exact hold.1.next_le
    · obtain ⟨ux, hux, hid, -, -⟩ := hshape.get htx
      obtain ⟨vx, hvx, hid'⟩ := hold.1.plane r ux hux
      exact ⟨vx, hvx, hid'.trans hid⟩
    · rw [hpopup] at htx
      rw [hshape.nextTexture]
      exact hold.1.popup tx htx
    · rw [hslot]
      exact hold.2

/-- The private texture of a popup paint is the old one or a new one. -/
theorem paintPopup_textures (s : Painter) (p : Paint) (src : Resource) :
    TextureStep s (s.paintPopup p src) false := by
  cases h : s.popupTextureReady p src with
  | false =>
    rw [paintPopup_failed h]
    exact ⟨⟨[], (List.append_nil _).symm, by simp [CopiesInto]⟩,
      Or.inl ⟨⟨Nat.le_refl _, fun _ tx htx => ⟨tx, htx, rfl⟩, fun _ htx => by cases htx⟩, rfl⟩⟩
  | true =>
    obtain ⟨tx, n, heq, hor⟩ := paintPopup_ready h
    have hn : s.textures.nextTexture ≤ n := by rcases hor with ⟨-, rfl⟩ | ⟨-, rfl⟩ <;> omega
    rw [heq]
    dsimp only
    set e := (s.withPopup src tx n).copyPopup src
    have hcopied : TextureStep s e false := by
      refine ⟨⟨[.work (.copy tx.id (.cef src))], rfl, fun dst c hmem => ?_⟩,
        Or.inl ⟨⟨hn, fun _ ux hux => ⟨ux, hux, rfl⟩, fun ux hux => ?_⟩, rfl⟩⟩
      · cases List.mem_singleton.mp hmem
        exact Or.inl ⟨_, rfl, Texture.copyResource_id⟩
      · cases hux
        rw [Texture.copyResource_id]
        rcases hor with ⟨hold, -⟩ | ⟨rfl, rfl⟩
        · exact Or.inl ⟨tx, hold, rfl⟩
        · exact Or.inr ⟨rfl, Nat.lt_succ_self _⟩
    cases hplane : s.popupPlaneReady with
    | false => exact hcopied
    | true =>
      obtain ⟨hgpu, hshape, hpopup, hslot⟩ := e.publishPopup_textures p
      exact hcopied.copies hgpu hshape hpopup hslot

/-- Callbacks that leave the textures and the queue alone. -/
theorem TextureStep.of_same (htextures : s'.textures = s.textures)
    (hpopup : s'.popupTexture = s.popupTexture) (hslot : s'.writeSlot = s.writeSlot)
    (hgpu : s'.gpu = s.gpu) : TextureStep s s' false := by
  refine ⟨⟨[], by rw [hgpu, List.append_nil], by simp [CopiesInto]⟩, Or.inl ⟨?_, hslot⟩⟩
  exact .of_sameShape (by rw [htextures]; exact .refl _) hpopup

/-- **Any callback.** Only a view paint moves the current slot. -/
theorem step_textures (s : Painter) (c : Callback) :
    ∃ moved, TextureStep s (s.step c) moved ∧ (moved = true → c.isViewPaint = true) := by
  by_cases hpaint : ∃ p, c = .paint p
  · obtain ⟨p, rfl⟩ := hpaint
    change ∃ moved, TextureStep s (s.onAcceleratedPaint p) moved ∧
      (moved = true → (p.type == .view) = true)
    cases hsrc : s.source p with
    | none =>
      rw [onAcceleratedPaint_none hsrc]
      exact ⟨false, .of_same rfl rfl rfl rfl, Bool.noConfusion⟩
    | some src =>
      obtain ⟨view, popup, hopened⟩ := s.opened_eq p src
      cases ht : p.type with
      | view =>
        obtain ⟨hgpu, htextures⟩ := (s.opened p src).paintView_textures p src
        rw [onAcceleratedPaint_view hsrc ht]
        rw [hopened] at hgpu htextures ⊢
        exact ⟨true, ⟨hgpu, htextures.imp (fun h => ⟨⟨h.1.1, h.1.2, h.1.3⟩, h.2⟩)
          fun h => ⟨h.1, h.2, h.3, h.4⟩⟩, fun _ => rfl⟩
      | popup =>
        obtain ⟨hgpu, htextures⟩ := (s.opened p src).paintPopup_textures p src
        rw [onAcceleratedPaint_popup hsrc ht]
        rw [hopened] at hgpu htextures ⊢
        exact ⟨false, ⟨hgpu, htextures.imp (fun h => ⟨⟨h.1.1, h.1.2, h.1.3⟩, h.2⟩)
          fun h => ⟨h.1, h.2, h.3, h.4⟩⟩, Bool.noConfusion⟩
  · have hquiet := s.step_quiet fun p hc => hpaint ⟨p, hc⟩
    exact ⟨false, .of_same hquiet.textures hquiet.popupTexture hquiet.writeSlot hquiet.gpu,
      Bool.noConfusion⟩

/-! ### Distinct textures -/

/-- No two textures have one number, and the next one is free. -/
structure TextureIds (s : Painter) : Prop where
  lt : ∀ r tx, s.textures.texture r = some tx → tx.id < s.textures.nextTexture
  inj : ∀ r r' tx ux, s.textures.texture r = some tx → s.textures.texture r' = some ux →
    tx.id = ux.id → r = r'
  popup_lt : ∀ tx, s.popupTexture = some tx → tx.id < s.textures.nextTexture
  popup_ne : ∀ tx r ux, s.popupTexture = some tx → s.textures.texture r = some ux → ux.id ≠ tx.id

theorem textureIds_init (names : SharedMemoryNames) (d3d : D3DInterfaces)
    (width height : UInt32) : TextureIds (.init names d3d width height) :=
  ⟨by simp [init, SharedTextures.init], by simp [init, SharedTextures.init], by simp [init],
    by simp [init]⟩

theorem TextureIds.next {moved : Bool} (h : TextureIds s) (u : TextureStep s s' moved) :
    TextureIds s' := by
  rcases u.textures with ⟨hkept, -⟩ | hnew
  · refine ⟨fun r tx htx => ?_, fun r r' tx ux htx hux hid => ?_, fun tx htx => ?_,
      fun tx r ux htx hux => ?_⟩
    · obtain ⟨tx', htx', hid⟩ := hkept.plane r tx htx
      rw [← hid]
      exact Nat.lt_of_lt_of_le (h.lt r tx' htx') hkept.next_le
    · obtain ⟨tx', htx', hid'⟩ := hkept.plane r tx htx
      obtain ⟨ux', hux', hid''⟩ := hkept.plane r' ux hux
      exact h.inj r r' tx' ux' htx' hux' (by rw [hid', hid'', hid])
    · rcases hkept.popup tx htx with ⟨tx', htx', hid⟩ | ⟨hid, hlt⟩
      · rw [← hid]
        exact Nat.lt_of_lt_of_le (h.popup_lt tx' htx') hkept.next_le
      · rw [hid]
        exact hlt
    · obtain ⟨ux', hux', hid'⟩ := hkept.plane r ux hux
      rw [← hid']
      rcases hkept.popup tx htx with ⟨tx', htx', hid⟩ | ⟨hid, -⟩
      · rw [← hid]
        exact h.popup_ne tx' r ux' htx' hux'
      · rw [hid]
        exact Nat.ne_of_lt (h.lt r ux' hux')
  · refine ⟨fun r tx htx => (hnew.plane r tx htx).2, hnew.inj, fun tx htx => ?_,
      fun tx r ux htx hux => ?_⟩
    · rw [hnew.popup] at htx
      exact Nat.lt_of_lt_of_le (h.popup_lt tx htx) hnew.next_le
    · rw [hnew.popup] at htx
      exact Nat.ne_of_gt (Nat.lt_of_lt_of_le (h.popup_lt tx htx) (hnew.plane r ux hux).1)

/-! ### A texture out of reach -/

/-- The texture `id` is out of reach of the next `k` view paints: it is neither the private texture
nor the popup plane, and if it is in the ring, not in one of the `k` slots that follow. -/
structure Spared (id k : ℕ) (s : Painter) : Prop where
  lt : id < s.textures.nextTexture
  popup : ∀ tx, s.popupTexture = some tx → tx.id ≠ id
  plane : ∀ r tx, s.textures.texture r = some tx → tx.id = id →
    ∃ i : Fin shmFrameSlotCount, r = .ring i ∧
      ∀ j < k, (s.writeSlot.toNat + (j + 1)) % shmFrameSlotCount ≠ i

/-- The private texture is never the spared one. -/
theorem Spared.not_private {id k : ℕ} {moved : Bool} (h : Spared id k s)
    (u : TextureStep s s' moved) : ∀ tx, s'.popupTexture = some tx → tx.id ≠ id := by
  intro tx htx hid
  rcases u.textures with ⟨hkept, -⟩ | hnew
  · rcases hkept.popup tx htx with ⟨ux, hux, hid'⟩ | ⟨hid', -⟩
    · exact h.popup ux hux (hid'.trans hid)
    · exact Nat.ne_of_lt h.lt (hid.symm.trans hid')
  · rw [hnew.popup] at htx
    exact h.popup tx htx hid

/-- **One step.** Moving the current slot on brings a spared texture nearer by one, and it is not
copied into. -/
theorem Spared.next {id k : ℕ} {moved : Bool} (h : Spared id k s) (hslot : s.SlotNamed)
    (u : TextureStep s s' moved) (hk : moved = true → 0 < k) :
    Spared id (k - moved.toNat) s' ∧
      ∃ q, s'.gpu = s.gpu ++ q ∧ ∀ c, .work (.copy id c) ∉ q := by
  have hprivate := h.not_private u
  obtain ⟨q, hgpu, hcopies⟩ := u.gpu
  rcases u.textures with ⟨hkept, hmoved⟩ | hnew
  · have hplane : ∀ r tx, s'.textures.texture r = some tx → tx.id = id →
        ∃ i : Fin shmFrameSlotCount, r = .ring i ∧
          ∀ j < k, (s.writeSlot.toNat + (j + 1)) % shmFrameSlotCount ≠ i := by
      intro r tx htx hid
      obtain ⟨ux, hux, hid'⟩ := hkept.plane r tx htx
      exact h.plane r ux hux (hid'.trans hid)
    refine ⟨⟨Nat.lt_of_lt_of_le h.lt hkept.next_le, hprivate, fun r tx htx hid => ?_⟩,
      q, hgpu, fun c hmem => ?_⟩
    · obtain ⟨i, hr, hne⟩ := hplane r tx htx hid
      refine ⟨i, hr, fun j hj => ?_⟩
      cases moved with
      | false =>
        rw [hmoved]
        exact hne j hj
      | true =>
        rw [hmoved, if_pos rfl, backSlot_toNat hslot.lt, RoundRobin.next_add_mod]
        exact hne (j + 1) (by simp only [Bool.toNat_true] at hj; omega)
    · rcases hcopies id c hmem with ⟨tx, htx, hid⟩ | ⟨r, tx, htx, hid, hr⟩
      · exact hprivate tx htx hid
      · obtain ⟨i, rfl, hne⟩ := hplane r tx htx hid
        rcases hr with hr | ⟨rfl, hr⟩
        · cases hr
        · -- the slot the step moves to is the first one excluded
          rw [hmoved, if_pos rfl, slotPlane_of_lt (backSlot_lt _)] at hr
          cases hr
          exact hne 0 (hk rfl) (backSlot_toNat hslot.lt).symm
  · -- the ring is a new one, and the spared texture gone
    have hgone : ∀ r tx, s'.textures.texture r = some tx → tx.id ≠ id := by
      intro r tx htx
      exact Nat.ne_of_gt (Nat.lt_of_lt_of_le h.lt (hnew.plane r tx htx).1)
    refine ⟨⟨Nat.lt_of_lt_of_le h.lt hnew.next_le, hprivate,
      fun r tx htx hid => absurd hid (hgone r tx htx)⟩, q, hgpu, fun c hmem => ?_⟩
    rcases hcopies id c hmem with ⟨tx, htx, hid⟩ | ⟨r, tx, htx, hid, -⟩
    · exact hprivate tx htx hid
    · exact hgone r tx htx hid

/-- **A run** with at most `k` view paints does not copy into the texture. -/
theorem Spared.run {id k : ℕ} (h : Spared id k s) (hslot : s.SlotNamed) {cs : List Callback}
    (hk : cs.countP Callback.isViewPaint ≤ k) :
    ∃ q, (Runs.run step s cs).gpu = s.gpu ++ q ∧ ∀ c, .work (.copy id c) ∉ q := by
  induction cs generalizing s k with
  | nil => exact ⟨[], (List.append_nil _).symm, by simp⟩
  | cons c cs ih =>
    obtain ⟨moved, u, hview⟩ := s.step_textures c
    rw [List.countP_cons] at hk
    have hcount : moved.toNat + cs.countP Callback.isViewPaint ≤ k := by
      cases moved with
      | false => simpa using Nat.le_trans (Nat.le_add_right _ _) hk
      | true =>
        rw [hview rfl, if_pos rfl] at hk
        simp only [Bool.toNat_true]
        omega
    obtain ⟨hnext, q, hgpu, hnone⟩ := h.next hslot u (by rintro rfl; simp at hcount; omega)
    obtain ⟨q', hgpu', hnone'⟩ := ih hnext (hslot.step c) (by omega)
    refine ⟨q ++ q', by rw [Runs.run_cons, hgpu', hgpu, List.append_assoc], fun src hmem => ?_⟩
    rcases List.mem_append.mp hmem with hmem | hmem
    · exact hnone src hmem
    · exact hnone' src hmem

/-- The texture in the current slot is out of reach of the next `BUFFER_COUNT - 1` view paints. -/
theorem TextureIds.spared (h : TextureIds s) (hslot : s.SlotNamed) {i : Fin shmFrameSlotCount}
    (hi : (i : ℕ) = s.writeSlot.toNat) {tx : Texture}
    (htx : s.textures.texture (.ring i) = some tx) : Spared tx.id (shmFrameSlotCount - 1) s where
  lt := h.lt _ tx htx
  popup ux hux hid := h.popup_ne ux _ tx hux htx hid.symm
  plane r ux hux hid := by
    refine ⟨i, h.inj r _ ux tx hux htx hid, fun j hj => ?_⟩
    rw [hi]
    exact RoundRobin.ne_later hslot.lt (by omega)

/-- The slot of a published view frame holds a texture. -/
theorem paintView_slot (h : s.texturesReady src.width src.height p.create = true) :
    ∃ i : Fin shmFrameSlotCount, (i : ℕ) = (s.paintView p src).writeSlot.toNat ∧
      ∃ tx, (s.paintView p src).textures.texture (.ring i) = some tx := by
  have hpublished : ∀ (e : Painter) (recreated : Bool) (tx : Texture),
      e.textures.texture (backPlane e.writeSlot) = some tx →
      s.paintView p src = (e.copied src).publishView p src recreated (s.collectDirty p) →
      ∃ i : Fin shmFrameSlotCount, (i : ℕ) = (s.paintView p src).writeSlot.toNat ∧
        ∃ tx, (s.paintView p src).textures.texture (.ring i) = some tx := by
    intro e recreated tx htx heq
    obtain ⟨-, hshape, -, hslot⟩ :=
      publishView_copied_textures htx p src recreated (s.collectDirty p)
    obtain ⟨vx, hvx, -⟩ := hshape.symm.get htx
    rw [heq]
    exact ⟨⟨_, backSlot_lt e.writeSlot⟩, by rw [hslot], vx, hvx⟩
  rcases texturesReady_cases h with hready | ⟨hready, hok⟩
  · obtain ⟨tx, htx⟩ := ready_back hready
    exact hpublished s false tx htx (paintView_ready hready)
  · obtain ⟨tx, htx⟩ := recreated_back hok
    exact hpublished _ true tx htx (paintView_recreated hready hok)

theorem PublishesView.slot (h : s.PublishesView p) :
    ∃ i : Fin shmFrameSlotCount, (i : ℕ) = (s.onAcceleratedPaint p).writeSlot.toNat ∧
      ∃ tx, (s.onAcceleratedPaint p).textures.texture (.ring i) = some tx := by
  obtain ⟨ht, src, hsrc, hready⟩ := publishesView_iff.mp h
  obtain ⟨view, popup, hopened⟩ := s.opened_eq p src
  rw [onAcceleratedPaint_view hsrc ht]
  exact paintView_slot (by rw [hopened]; exact hready)

theorem TextureIds.step (h : TextureIds s) (c : Callback) : TextureIds (s.step c) := by
  obtain ⟨moved, u, -⟩ := s.step_textures c
  exact h.next u

/-- From the publish of a view frame until `BUFFER_COUNT - 1` further view paints, nothing is
copied into its texture. -/
theorem PublishesView.untouched (hids : TextureIds s) (hslot : s.SlotNamed)
    (h : s.PublishesView p) :
    let s' := s.onAcceleratedPaint p
    ∃ plane tx, slotPlane s'.header.writeSlot = some plane ∧
      s'.textures.texture plane = some tx ∧
      ∀ more : List Callback, more.countP Callback.isViewPaint ≤ shmFrameSlotCount - 1 →
        ∀ c, .work (.copy tx.id c) ∉ (Runs.run step s' more).gpu.drop s'.gpu.length := by
  have hids' : TextureIds (s.onAcceleratedPaint p) := hids.step (.paint p)
  have hslot' : SlotNamed (s.onAcceleratedPaint p) := hslot.step (.paint p)
  obtain ⟨i, hi, tx, htx⟩ := h.slot
  have hplane : slotPlane (s.onAcceleratedPaint p).header.writeSlot = some (.ring i) := by
    rw [hslot'.header, slotPlane_of_lt hslot'.lt]
    exact congrArg (fun j => some (Plane.ring j)) (Fin.ext hi.symm)
  refine ⟨.ring i, tx, hplane, htx, fun more hmore c => ?_⟩
  obtain ⟨q, hgpu, hnone⟩ := (hids'.spared hslot' hi htx).run hslot' hmore
  rw [hgpu, List.drop_left]
  exact hnone c

end Painter

/-- **Reuse distance.** After every run of callbacks the header names the current slot; since the
last recreation of the ring no `BUFFER_COUNT` consecutive view frames had a slot in common; and if
a view paint publishes next, its texture is not copied into before the `BUFFER_COUNT`-th view paint
after it. -/
theorem slot_reuse_distance (names : SharedMemoryNames) (d3d : D3DInterfaces)
    (width height : UInt32) (callbacks : List Callback) :
    let start : Painter := .init names d3d width height
    let s := Runs.run Painter.step start callbacks
    (s.header.writeSlot = s.writeSlot ∧ s.writeSlot.toNat < shmFrameSlotCount) ∧
    (∀ slots, slots <:+: (Runs.run SlotRun.step (.init start) callbacks).slots →
      slots.length ≤ shmFrameSlotCount → slots.Nodup) ∧
    ∀ p, s.PublishesView p →
      let s' := s.onAcceleratedPaint p
      ∃ plane tx, slotPlane s'.header.writeSlot = some plane ∧
        s'.textures.texture plane = some tx ∧
        ∀ more : List Callback, more.countP Callback.isViewPaint ≤ shmFrameSlotCount - 1 →
          ∀ c, .work (.copy tx.id c) ∉
            (Runs.run Painter.step s' more).gpu.drop s'.gpu.length := by
  intro start s
  have hstart : Painter.SlotNamed start := Painter.slotNamed_init names d3d width height
  have hnamed : s.SlotNamed := Runs.invariant (fun _ c h => h.step c) hstart callbacks
  have hids : Painter.TextureIds s := Runs.invariant (fun _ c h => h.step c)
    (Painter.textureIds_init names d3d width height) callbacks
  have hturns : (Runs.run SlotRun.step (.init start) callbacks).InTurn :=
    Runs.invariant (fun _ c h => h.step c) (SlotRun.inTurn_init hstart) callbacks
  refine ⟨⟨hnamed.header, hnamed.lt⟩, fun slots hslots hlen => ?_, fun p hp => ?_⟩
  · exact (hturns.turns.of_infix hslots).nodup hlen
  · exact hp.untouched hids hnamed

end CefHost
