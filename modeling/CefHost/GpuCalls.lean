import CefHost.Library.DeferredExecution
import CefHost.SlotReuse

/-!
# The commands of a callback, in full

A copy is a call that returns at once and a command that executes later. `Painter` keeps what a
texture holds in the end, and of the command queue which texture is copied into which. Here every
command is kept with all it needs when it executes, and executed on a memory that has the pixels of
every texture ever created, those that the host has dropped included: a consumer may still have
them open.

The commands are listed from the code once more, beside the textures and the coarser queue. That the
three belong together is `Painter.step_issues`.

A copy from a texture of CEF executes after the callback as well, when the texture may be back in
its pool: what the GPU finds there then is a parameter, `LentPixels`. The painter's textures are
those of a CEF that leaves what it lends as it was in the callback until it is copied, and whatever
is said of them here is said for such copies (`GpuCall.Kept`).

## Main definitions

* `GpuCall`, `GpuCall.execute` — the commands
* `GpuCall.Kept` — the copy finds what was lent
* `Painter.calls` — those of a callback
* `Painter.Shows` — a memory agrees with the textures of the painter

## Main results

* `Painter.step_issues` — a callback and its commands
* `Painter.calls_of_not_publishes` — a paint that publishes nothing
* `Painter.PublishesView.shows` — the pixels in the slot of a view frame
-/

namespace CefHost

open GpuTimeline SharedTextures

/-! ### Commands -/

/-- What a call knows of a texture: its size was fixed when it was created. -/
structure TextureRef where
  id : ℕ
  width : UInt32
  height : UInt32

def Texture.ref (tx : Texture) : TextureRef := ⟨tx.id, tx.width, tx.height⟩

/-- The pixels of every texture. -/
abbrev GpuMemory := ℕ → Content

/-- The texture as the GPU finds it. -/
def TextureRef.read (r : TextureRef) (m : GpuMemory) : Texture :=
  ⟨⟨r.width, r.height, m r.id⟩, r.id⟩

/-- The calls that submit work, with their arguments. `paint` is the callback that made the call. -/
inductive GpuCall
  | copyResource (dst : TextureRef) (src : Resource) (paint : ℕ)
  | copySubresourceRegion (dst : TextureRef) (x y : UInt32) (src : TextureRef) (b : Box)
  | flush

abbrev CallQueue := List (Command GpuCall)

/-- What the GPU finds in a texture of CEF when it executes the copy that a callback made of it. -/
abbrev LentPixels := Resource → ℕ → Content

/-- CEF leaves alone what it lends. -/
def LentPixels.unchanged : LentPixels := fun src paint => (src.image paint).content

namespace GpuCall

/-- What `Painter.gpu` keeps of it. -/
def work : GpuCall → GpuWork
  | copyResource dst src _ => .copy dst.id (.cef src)
  | copySubresourceRegion dst _ _ src _ => .copy dst.id (.texture src.id)
  | flush => .flush

def execute (lent : LentPixels) : GpuCall → GpuMemory → GpuMemory
  | copyResource dst src paint, m =>
    Function.update m dst.id
      ((dst.read m).copyResource ⟨src.width, src.height, lent src paint⟩).content
  | copySubresourceRegion dst x y src b, m =>
    Function.update m dst.id
      ((dst.read m).copySubresourceRegion x y (src.read m).toImage b).content
  | flush, m => m

/-- A copy from CEF finds the pixels that were lent in the callback. -/
def Kept (lent : LentPixels) : GpuCall → Prop
  | copyResource _ src paint => lent src paint = (src.image paint).content
  | _ => True

variable {lent : LentPixels}

theorem execute_copyResource {src : Resource} {paint : ℕ} {dst : TextureRef}
    (h : (copyResource dst src paint).Kept lent) (m : GpuMemory) :
    (copyResource dst src paint).execute lent m =
      Function.update m dst.id ((dst.read m).copyResource (src.image paint)).content := by
  have hlent : lent src paint = (src.image paint).content := h
  rw [execute, hlent]
  rfl

/-- A command writes the texture it copies into. -/
theorem frames : Frames (execute lent) fun id c => GpuWork.Writes id c.work := by
  intro c m id hnot
  cases c with
  | copyResource dst src paint => exact Function.update_of_ne (fun h => hnot h.symm) ..
  | copySubresourceRegion dst x y src b => exact Function.update_of_ne (fun h => hnot h.symm) ..
  | flush => rfl

end GpuCall

/-- Every copy from CEF in the queue finds the pixels that were lent. -/
def CallQueue.Kept (lent : LentPixels) (q : CallQueue) : Prop := ∀ c, .work c ∈ q → c.Kept lent

theorem CallQueue.kept_append {lent : LentPixels} {q q' : CallQueue} :
    CallQueue.Kept lent (q ++ q') ↔ q.Kept lent ∧ q'.Kept lent := by
  constructor
  · intro h
    exact ⟨fun c hc => h c (List.mem_append_left _ hc),
      fun c hc => h c (List.mem_append_right _ hc)⟩
  · rintro ⟨h, h'⟩ c hc
    exact (List.mem_append.mp hc).elim (h c) (h' c)

theorem GpuWork.writes_eq {id : ℕ} {w : GpuWork} (h : GpuWork.Writes id w) :
    ∃ src, w = .copy id src := by
  cases w with
  | copy dst src =>
    cases h
    exact ⟨src, rfl⟩
  | flush => exact h.elim

theorem Texture.ref_read {tx : Texture} {m : GpuMemory} (h : m tx.id = tx.content) :
    tx.ref.read m = tx := by
  rw [Texture.ref, TextureRef.read, h]

namespace Painter

/-! ### What a callback submits -/

/-- A copy into a shared texture, if there is one. -/
def callInto (s : Painter) (r : Plane) (call : TextureRef → GpuCall) : CallQueue :=
  ((s.textures.texture r).map fun tx => .work (call tx.ref)).toList

/-- The copy of a popup paint into the private texture. -/
def popupCalls (s : Painter) (src : Resource) : CallQueue :=
  (s.popupTexture.map fun tx => .work (.copyResource tx.ref src s.paints)).toList

/-- The copy of the corner of the private texture. -/
def regionCalls (s : Painter) (cond : Bool) (dst : Plane) (x y w h : Int32) : CallQueue :=
  match s.popupTexture with
  | some tx =>
    if cond then
      s.callInto dst fun d =>
        .copySubresourceRegion d x.toUInt32 y.toUInt32 tx.ref (cornerBox w h)
    else []
  | none => []

/-- The signal and the flush of a publish. -/
def publishCalls (s : Painter) (p : Paint) (flush : Bool) : CallQueue :=
  (if s.signaledFence p then [.signal s.nextGpuFenceValue] else []) ++
    if flush then [.work .flush] else []

def publishPopupCalls (s : Painter) (p : Paint) : CallQueue :=
  let r := s.clampedPopupRect
  s.regionCalls (s.popupVisible && r.valid) .popup r.x0 r.y0 r.width r.height ++
    s.publishCalls p !s.signaledFence p

def paintPopupCalls (s : Painter) (p : Paint) (src : Resource) : CallQueue :=
  let (s, ok) := s.preparePopupTexture p src
  if ok then
    let calls := s.popupCalls src
    let s := s.copyPopup src
    if s.popupPlaneReady then calls ++ s.publishPopupCalls p else calls
  else []

/-- The copies of a view paint, once the textures are ready. -/
def copiedCalls (s : Painter) (src : Resource) : CallQueue :=
  let calls := s.callInto (backPlane s.writeSlot) fun d => .copyResource d src s.paints
  let s := (s.copyInto (backPlane s.writeSlot) (fun dst => dst.copyResource (src.image s.paints))
    (.cef src)).clearLegacyPopup
  calls ++ s.regionCalls (s.popupVisible && 0 < s.popupRect.width && 0 < s.popupRect.height)
    (if s.usePopupDedicatedPlane then .popup else backPlane s.writeSlot)
    s.popupRect.x s.popupRect.y s.popupRect.width s.popupRect.height

def paintViewCalls (s : Painter) (p : Paint) (src : Resource) : CallQueue :=
  let (s, ok, recreated) := s.ensureSharedTextures src.width src.height p.create
  if ok then
    s.copiedCalls src ++
      s.publishCalls p (s.viewFlush p recreated (s.forceFull recreated (s.collectDirty p).2))
  else []

/-- The commands that `OnAcceleratedPaint` submits, in order. -/
def paintCalls (s : Painter) (p : Paint) : CallQueue :=
  let s := { s with paints := s.paints + 1 }
  match s.source p with
  | none => []
  | some src =>
    let s := s.remember p src
    match p.type with
    | .popup => s.paintPopupCalls p src
    | .view => s.paintViewCalls p src

/-- The other callbacks submit nothing. -/
def calls (s : Painter) : Callback → CallQueue
  | .paint p => s.paintCalls p
  | _ => []

/-! ### A memory that agrees -/

variable {s e s' : Painter} {m : GpuMemory} {q q' : CallQueue} {p : Paint} {src : Resource}

/-- The textures of the painter have the pixels they have in `m`, and the next ones have none. -/
structure Shows (m : GpuMemory) (s : Painter) : Prop where
  plane : ∀ r tx, s.textures.texture r = some tx → m tx.id = tx.content
  popup : ∀ tx, s.popupTexture = some tx → m tx.id = tx.content
  blank : ∀ id, s.textures.nextTexture ≤ id → m id = .blank

/-- From `s` to `s'` the commands `q` are submitted. Once they have executed, a memory that agreed
with `s` agrees with `s'`, if CEF kept what it lent. -/
structure Issues (s s' : Painter) (q : CallQueue) : Prop where
  gpu : s'.gpu = s.gpu ++ q.map (Command.map GpuCall.work)
  ids : TextureIds s → TextureIds s'
  shows : TextureIds s → ∀ lent, q.Kept lent → ∀ m, Shows m s →
    Shows (execute (GpuCall.execute lent) m q) s'

theorem Issues.trans (h : Issues s e q) (h' : Issues e s' q') : Issues s s' (q ++ q') where
  gpu := by rw [h'.gpu, h.gpu, List.map_append, List.append_assoc]
  ids hids := h'.ids (h.ids hids)
  shows hids lent hlent m hm := by
    obtain ⟨hfirst, hthen⟩ := CallQueue.kept_append.mp hlent
    rw [execute_append]
    exact h'.shows (h.ids hids) lent hthen _ (h.shows hids lent hfirst m hm)

/-- What `Painter.gpu` has of a command. -/
theorem Issues.mem_gpu (h : Issues s s' q) {w : GpuQueue} (hw : s'.gpu = s.gpu ++ w) {c : GpuCall}
    (hc : .work c ∈ q) : .work c.work ∈ w := by
  rw [List.append_cancel_left (hw.symm.trans h.gpu)]
  exact List.mem_map.mpr ⟨.work c, hc, rfl⟩

theorem Issues.not_writes (h : Issues s s' q) {w : GpuQueue} (hw : s'.gpu = s.gpu ++ w) {id : ℕ}
    (hnone : ∀ src, .work (.copy id src) ∉ w) :
    ∀ c, .work c ∈ q → ¬ GpuWork.Writes id c.work := by
  intro c hc hwrites
  obtain ⟨src, hwork⟩ := GpuWork.writes_eq hwrites
  exact hnone src (hwork ▸ h.mem_gpu hw hc)

/-- Nothing happens to the textures. -/
theorem Issues.of_same (htextures : s'.textures = s.textures)
    (hpopup : s'.popupTexture = s.popupTexture)
    (hgpu : s'.gpu = s.gpu ++ q.map (Command.map GpuCall.work))
    (hq : ∀ c, .work c ∈ q → c = .flush) : Issues s s' q := by
  have hexec : ∀ lent m, execute (GpuCall.execute lent) m q = m := by
    intro lent m
    funext id
    refine execute_of_not_writes GpuCall.frames fun c hc => ?_
    rw [hq c hc]
    exact not_false
  refine ⟨hgpu, fun h => ⟨?_, ?_, ?_, ?_⟩, fun _ lent _ m h => ⟨?_, ?_, ?_⟩⟩
  · rw [htextures]
    exact h.lt
  · rw [htextures]
    exact h.inj
  · rw [htextures, hpopup]
    exact h.popup_lt
  · rw [htextures, hpopup]
    exact h.popup_ne
  · rw [htextures, hexec]
    exact h.plane
  · rw [hpopup, hexec]
    exact h.popup
  · rw [htextures, hexec]
    exact h.blank

/-- Textures that keep their numbers, or get new ones, have different numbers as before. -/
theorem TextureIds.of_kept (h : TextureIds s) (hkept : Kept s s' ∨ Renewed s s') :
    TextureIds s' := by
  have hstep : TextureStep s { s' with gpu := s.gpu, writeSlot := s.writeSlot } false :=
    ⟨⟨[], (List.append_nil _).symm, by simp [CopiesInto]⟩,
      hkept.imp (fun k => ⟨⟨k.1, k.2, k.3⟩, rfl⟩) fun k => ⟨k.1, k.2, k.3, k.4⟩⟩
  have hnext := h.next hstep
  exact ⟨hnext.lt, hnext.inj, hnext.popup_lt, hnext.popup_ne⟩

/-! ### One call -/

/-- **A copy into a shared texture**: the call and the command do the same. -/
theorem copyInto_issues {r : Plane} {f : Texture → Texture} {c : CopySource}
    {call : TextureRef → GpuCall} (hf : ∀ tx, (f tx).id = tx.id ∧ (f tx).width = tx.width ∧
      (f tx).height = tx.height) (hwork : ∀ d, (call d).work = .copy d.id c)
    (hexec : ∀ lent m tx, Shows m s → s.textures.texture r = some tx →
      (call tx.ref).Kept lent →
        (call tx.ref).execute lent m = Function.update m tx.id (f tx).content) :
    Issues s (s.copyInto r f c) (s.callInto r call) := by
  have hids : TextureIds s → TextureIds (s.copyInto r f c) := fun h =>
    h.of_kept (Or.inl (.of_sameShape (copyInto_sameShape hf) rfl))
  cases htx : s.textures.texture r with
  | none =>
    have hcalls : s.callInto r call = [] := by rw [callInto, htx]; rfl
    have hsame : (s.copyInto r f c).textures = s.textures := by
      simp only [copyInto, htx, Option.map_none]
      rw [← htx, Function.update_eq_self]
    rw [hcalls]
    refine ⟨by simp [copyInto, htx], hids, fun _ lent _ m hm => ⟨?_, hm.popup, hm.blank⟩⟩
    rw [hsame]
    exact hm.plane
  | some tx =>
    have hcalls : s.callInto r call = [.work (call tx.ref)] := by rw [callInto, htx]; rfl
    rw [hcalls]
    refine ⟨by simp [copyInto, htx, Command.map, hwork, Texture.ref], hids,
      fun h lent hlent m hm => ?_⟩
    have hm' : execute (GpuCall.execute lent) m [.work (call tx.ref)] =
        Function.update m tx.id (f tx).content :=
      hexec lent m tx hm htx (hlent _ List.mem_cons_self)
    rw [hm']
    refine ⟨fun r' tx' htx' => ?_, fun ux hux => ?_, fun id hid => ?_⟩
    · by_cases hr : r' = r
      · subst hr
        obtain rfl : f tx = tx' := by simpa [copyInto, htx] using htx'
        rw [(hf tx).1, Function.update_self]
      · have hold : s.textures.texture r' = some tx' := by
          simpa [copyInto, Function.update_of_ne hr] using htx'
        rw [Function.update_of_ne fun hid => hr (h.inj r' r tx' tx hold htx hid)]
        exact hm.plane r' tx' hold
    · rw [Function.update_of_ne fun hid => h.popup_ne ux r tx hux htx hid.symm]
      exact hm.popup ux hux
    · have hlt := h.lt r tx htx
      rw [Function.update_of_ne (by
        have hle : s.textures.nextTexture ≤ id := hid
        omega)]
      exact hm.blank id hid

/-- **The copy into the private texture.** -/
theorem copyPopup_issues (s : Painter) (src : Resource) :
    Issues s (s.copyPopup src) (s.popupCalls src) := by
  have hids : TextureIds s → TextureIds (s.copyPopup src) := fun h =>
    h.of_kept (Or.inl ⟨Nat.le_refl _, fun r tx htx => ⟨tx, htx, rfl⟩, fun tx htx => by
      obtain ⟨ux, hux, rfl⟩ := Option.map_eq_some_iff.mp htx
      exact Or.inl ⟨ux, hux, Texture.copyResource_id.symm⟩⟩)
  cases htx : s.popupTexture with
  | none =>
    have hcalls : s.popupCalls src = [] := by rw [popupCalls, htx]; rfl
    rw [hcalls]
    refine ⟨by simp [copyPopup, htx], hids, fun _ lent _ m hm =>
      ⟨hm.plane, fun tx htx' => ?_, hm.blank⟩⟩
    rw [show (s.copyPopup src).popupTexture = none by simp [copyPopup, htx]] at htx'
    cases htx'
  | some tx =>
    have hcalls : s.popupCalls src = [.work (.copyResource tx.ref src s.paints)] := by
      rw [popupCalls, htx]
      rfl
    rw [hcalls]
    refine ⟨by simp [copyPopup, htx, Command.map, GpuCall.work, Texture.ref], hids,
      fun h lent hlent m hm => ?_⟩
    have hm' : execute (GpuCall.execute lent) m [.work (.copyResource tx.ref src s.paints)] =
        Function.update m tx.id (tx.copyResource (src.image s.paints)).content := by
      have hread := Texture.ref_read (hm.popup tx htx)
      change (GpuCall.copyResource tx.ref src s.paints).execute lent m = _
      rw [GpuCall.execute_copyResource (hlent _ List.mem_cons_self), hread]
      rfl
    rw [hm']
    refine ⟨fun r ux hux => ?_, fun tx' htx' => ?_, fun id hid => ?_⟩
    · rw [Function.update_of_ne (h.popup_ne tx r ux htx hux)]
      exact hm.plane r ux hux
    · obtain rfl : tx.copyResource (src.image s.paints) = tx' := by
        simpa [copyPopup, htx] using htx'
      rw [Texture.copyResource_id, Function.update_self]
    · have hlt := h.popup_lt tx htx
      rw [Function.update_of_ne (by
        have hle : s.textures.nextTexture ≤ id := hid
        omega)]
      exact hm.blank id hid

/-- The copy from the private texture. -/
theorem copyPopupRegion_issues (s : Painter) (cond : Bool) (dst : Plane) (x y w h : Int32) :
    Issues s (s.copyPopupRegion cond dst x y w h) (s.regionCalls cond dst x y w h) := by
  rw [copyPopupRegion, regionCalls]
  cases htx : s.popupTexture with
  | none => exact .of_same rfl rfl (List.append_nil _).symm (by simp)
  | some tx =>
    dsimp only
    split
    · refine copyInto_issues (fun d => ⟨Texture.copySubresourceRegion_id,
        Texture.copySubresourceRegion_width, Texture.copySubresourceRegion_height⟩)
        (fun _ => rfl) fun lent m ux hm hux _ => ?_
      rw [GpuCall.execute, Texture.ref_read (hm.plane dst ux hux),
        Texture.ref_read (hm.popup tx htx)]
      rfl
    · exact .of_same rfl rfl (List.append_nil _).symm (by simp)

/-! ### The paths through a paint -/

/-- The end of a publish: textures stay as they are. -/
theorem Issues.publish (h : Issues s e q) {flush : Bool} (htextures : s'.textures = e.textures)
    (hpopup : s'.popupTexture = e.popupTexture)
    (hgpu : s'.gpu = e.gpu ++ (e.signalCommands p ++ flushCommands flush)) :
    Issues s s' (q ++ e.publishCalls p flush) := by
  refine h.trans (.of_same htextures hpopup ?_ fun c hc => ?_)
  · rw [hgpu, signalCommands, flushCommands, publishCalls]
    split <;> split <;> rfl
  · rw [publishCalls] at hc
    rcases List.mem_append.mp hc with hc | hc
    · split at hc
      · cases List.mem_singleton.mp hc
      · cases hc
    · split at hc
      · exact Command.work.inj (List.mem_singleton.mp hc)
      · cases hc

/-- New textures show nothing yet. -/
theorem issues_of_newborn {t : SharedTextures} {width height : UInt32}
    (hnew : Newborn s.textures.nextTexture width height t) (hnext : s'.textures.nextTexture =
      t.nextTexture) (htex : s'.textures.texture = t.texture)
    (hpopup : s'.popupTexture = s.popupTexture) (hgpu : s'.gpu = s.gpu) : Issues s s' [] := by
  refine ⟨by rw [hgpu]; exact (List.append_nil _).symm,
    fun h => h.of_kept (Or.inr (.of_newborn hnew hnext htex hpopup)),
    fun _ lent _ m hm => ⟨fun r tx htx => ?_, fun tx htx => ?_, fun id hid => ?_⟩⟩
  · rw [htex] at htx
    obtain ⟨id, hle, -, rfl⟩ := hnew.created r tx htx
    exact hm.blank id hle
  · rw [hpopup] at htx
    exact hm.popup tx htx
  · rw [hnext] at hid
    exact hm.blank id (Nat.le_trans hnew.le hid)

theorem copied_issues (s : Painter) (src : Resource) :
    Issues s (s.copied src) (s.copiedCalls src) := by
  have hcopy : Issues s (s.copyInto (backPlane s.writeSlot)
      (fun dst => dst.copyResource (src.image s.paints)) (.cef src))
      (s.callInto (backPlane s.writeSlot) fun d => .copyResource d src s.paints) := by
    refine copyInto_issues (fun dst => ⟨Texture.copyResource_id, Texture.copyResource_width,
      Texture.copyResource_height⟩) (fun _ => rfl) fun lent m tx hm htx hlent => ?_
    rw [GpuCall.execute_copyResource hlent, Texture.ref_read (hm.plane _ tx htx)]
    rfl
  obtain ⟨rect, hclear⟩ := (s.copyInto (backPlane s.writeSlot)
    (fun dst => dst.copyResource (src.image s.paints)) (.cef src)).clearLegacyPopup_eq
  refine hcopy.trans (Issues.trans (q := []) (.of_same ?_ ?_ ?_ (by simp))
    (copyPopupRegion_issues _ _ _ _ _ _ _))
  · rw [hclear]
  · rw [hclear]
  · rw [hclear]
    exact (List.append_nil _).symm

/-- The copies and the publish of a view paint, on textures that are ready. -/
theorem publishView_issues {tx : Texture}
    (htx : s.textures.texture (backPlane s.writeSlot) = some tx) (p : Paint) (src : Resource)
    (recreated : Bool) (collected : List DirtyRect × Bool) :
    Issues s ((s.copied src).publishView p src recreated collected)
      (s.copiedCalls src ++
        s.publishCalls p (s.viewFlush p recreated (s.forceFull recreated collected.2))) := by
  have hcalls : ∀ b, (s.copied src).publishCalls p b = s.publishCalls p b ∧
      (s.copied src).viewFlush p recreated ((s.copied src).forceFull recreated collected.2) =
        s.viewFlush p recreated (s.forceFull recreated collected.2) := by
    obtain ⟨t, q, rect, heq, -⟩ := copied_eq src htx
    intro b
    rw [heq]
    exact ⟨rfl, rfl⟩
  rw [← (hcalls _).1, ← (hcalls true).2]
  exact (s.copied_issues src).publish (by rw [publishView_eq]) (by rw [publishView_eq])
    (publishView_gpu ..)

theorem paintView_issues (s : Painter) (p : Paint) (src : Resource) :
    Issues s (s.paintView p src) (s.paintViewCalls p src) := by
  have hnew := s.textures.recreate_newborn s.d3d.device src.width src.height p.create
  cases h : s.texturesReady src.width src.height p.create with
  | false =>
    have hcalls : s.paintViewCalls p src = [] := by
      rw [texturesReady, Bool.or_eq_false_iff] at h
      rw [paintViewCalls, ensureSharedTextures_failed h.1 h.2]
      rfl
    rw [paintView_failed h, hcalls]
    exact issues_of_newborn hnew rfl rfl rfl rfl
  | true =>
    rcases texturesReady_cases h with hready | ⟨hready, hok⟩
    · obtain ⟨tx, htx⟩ := ready_back hready
      rw [paintView_ready hready, paintViewCalls, ensureSharedTextures_ready hready]
      exact publishView_issues htx p src false _
    · obtain ⟨tx, htx⟩ := recreated_back hok
      rw [paintView_recreated hready hok, paintViewCalls, ensureSharedTextures_recreated hready hok]
      refine Issues.trans (q := []) (issues_of_newborn hnew ?_ ?_ ?_ ?_)
        (publishView_issues htx p src true _)
      · rw [adoptTextures_eq]
      · rw [adoptTextures_eq]
      · rw [adoptTextures_eq]
      · rw [adoptTextures_eq]

theorem publishPopup_issues (s : Painter) (p : Paint) :
    Issues s (s.publishPopup p) (s.publishPopupCalls p) := by
  obtain ⟨t, q, heq, -⟩ := s.copyPopupRegion_eq
    (s.popupVisible && s.clampedPopupRect.valid) .popup s.clampedPopupRect.x0
    s.clampedPopupRect.y0 s.clampedPopupRect.width s.clampedPopupRect.height
  have hcopy := s.copyPopupRegion_issues (s.popupVisible && s.clampedPopupRect.valid) .popup
    s.clampedPopupRect.x0 s.clampedPopupRect.y0 s.clampedPopupRect.width s.clampedPopupRect.height
  rw [heq] at hcopy
  rw [publishPopup, heq]
  exact hcopy.publish (by rw [publishPopupPlane_eq]) (by rw [publishPopupPlane_eq])
    (publishPopupPlane_gpu ..)

theorem preparePopupTexture_issues (s : Painter) (p : Paint) (src : Resource) :
    Issues s (s.preparePopupTexture p src).1 [] := by
  cases h : s.popupTextureReady p src with
  | false =>
    rw [preparePopupTexture_failed h]
    refine ⟨(List.append_nil _).symm, fun h => h.of_kept (Or.inl ⟨Nat.le_refl _,
      fun r tx htx => ⟨tx, htx, rfl⟩, fun _ htx => ?_⟩), fun _ lent _ m hm =>
      ⟨hm.plane, fun _ htx => ?_, hm.blank⟩⟩
    · cases htx
    · cases htx
  | true =>
    obtain ⟨tx, n, heq, hor⟩ := preparePopupTexture_ready h
    have hn : s.textures.nextTexture ≤ n := by rcases hor with ⟨-, rfl⟩ | ⟨-, rfl⟩ <;> omega
    rw [heq]
    refine ⟨(List.append_nil _).symm, fun h => h.of_kept (Or.inl ⟨hn,
      fun r tx htx => ⟨tx, htx, rfl⟩, fun ux hux => ?_⟩),
      fun _ lent _ m hm => ⟨hm.plane, fun ux hux => ?_,
        fun id hid => hm.blank id (Nat.le_trans hn hid)⟩⟩
    · cases hux
      rcases hor with ⟨hold, -⟩ | ⟨rfl, rfl⟩
      · exact Or.inl ⟨tx, hold, rfl⟩
      · exact Or.inr ⟨rfl, Nat.lt_succ_self _⟩
    · cases hux
      rcases hor with ⟨hold, -⟩ | ⟨rfl, -⟩
      · exact hm.popup tx hold
      · exact hm.blank _ (Nat.le_refl _)

theorem paintPopup_issues (s : Painter) (p : Paint) (src : Resource) :
    Issues s (s.paintPopup p src) (s.paintPopupCalls p src) := by
  have hprepare := s.preparePopupTexture_issues p src
  rw [paintPopup, paintPopupCalls]
  dsimp only
  split
  · have hcopied := hprepare.trans (copyPopup_issues _ src)
    split
    · exact hcopied.trans (publishPopup_issues _ p)
    · exact hcopied
  · exact hprepare

theorem onAcceleratedPaint_issues (s : Painter) (p : Paint) :
    Issues s (s.onAcceleratedPaint p) (s.paintCalls p) := by
  have hsource : source { s with paints := s.paints + 1 } p = s.source p := rfl
  cases hsrc : s.source p with
  | none =>
    rw [onAcceleratedPaint_none hsrc, paintCalls]
    dsimp only
    rw [hsource, hsrc]
    exact .of_same rfl rfl (List.append_nil _).symm (by simp)
  | some src =>
    obtain ⟨view, popup, hopened⟩ := s.opened_eq p src
    have hopen : Issues s (s.opened p src) [] := by
      rw [hopened]
      exact .of_same rfl rfl (List.append_nil _).symm (by simp)
    cases ht : p.type with
    | view =>
      rw [onAcceleratedPaint_view hsrc ht, paintCalls]
      dsimp only
      rw [hsource, hsrc, ht]
      exact hopen.trans (paintView_issues _ p src)
    | popup =>
      rw [onAcceleratedPaint_popup hsrc ht, paintCalls]
      dsimp only
      rw [hsource, hsrc, ht]
      exact hopen.trans (paintPopup_issues _ p src)

/-- **Any callback** and the commands it submits. -/
theorem step_issues (s : Painter) (c : Callback) : Issues s (s.step c) (s.calls c) := by
  by_cases hpaint : ∃ p, c = .paint p
  · obtain ⟨p, rfl⟩ := hpaint
    exact s.onAcceleratedPaint_issues p
  · have hquiet := s.step_quiet fun p hc => hpaint ⟨p, hc⟩
    have hcalls : s.calls c = [] := by
      cases c with
      | paint p => exact absurd ⟨p, rfl⟩ hpaint
      | _ => rfl
    rw [hcalls]
    exact .of_same hquiet.textures hquiet.popupTexture (by
      rw [hquiet.gpu]
      exact (List.append_nil _).symm) (by simp)

/-- A paint that publishes nothing copies into the private texture at most. -/
theorem calls_of_not_publishes (h : s.publishes p = false) {c : GpuCall}
    (hc : .work c ∈ s.paintCalls p) : ∃ tx, (s.onAcceleratedPaint p).popupTexture = some tx ∧
      ∀ id, GpuWork.Writes id c.work → tx.id = id := by
  have hsource : source { s with paints := s.paints + 1 } p = s.source p := rfl
  rw [paintCalls] at hc
  dsimp only at hc
  rw [hsource] at hc
  rw [publishes] at h
  cases hsrc : s.source p with
  | none =>
    rw [hsrc] at hc
    cases hc
  | some src =>
    rw [hsrc] at hc h
    obtain ⟨view, popup, hopened⟩ := s.opened_eq p src
    cases ht : p.type with
    | view =>
      rw [ht] at hc h
      change .work c ∈ (s.opened p src).paintViewCalls p src at hc
      have hnot : (s.opened p src).texturesReady src.width src.height p.create = false := by
        rw [hopened]
        exact h
      rw [texturesReady, Bool.or_eq_false_iff] at hnot
      rw [paintViewCalls, ensureSharedTextures_failed hnot.1 hnot.2] at hc
      cases hc
    | popup =>
      rw [ht] at hc h
      change .work c ∈ (s.opened p src).paintPopupCalls p src at hc
      rw [onAcceleratedPaint_popup hsrc ht]
      have hnot : ((s.opened p src).popupTextureReady p src &&
          (s.opened p src).popupPlaneReady) = false := by
        rw [hopened]
        exact h
      cases hready : (s.opened p src).popupTextureReady p src with
      | false =>
        rw [paintPopupCalls, preparePopupTexture_failed hready] at hc
        cases hc
      | true =>
        rw [hready, Bool.true_and] at hnot
        obtain ⟨tx, n, heq, -⟩ := preparePopupTexture_ready hready
        have hnot' : ((s.opened p src).withPopup src tx n |>.copyPopup src).popupPlaneReady
            = false := hnot
        rw [paintPopupCalls, heq] at hc
        rw [paintPopup, heq]
        dsimp only at hc ⊢
        rw [if_pos rfl, if_neg (by rw [hnot']; exact Bool.false_ne_true)] at hc ⊢
        cases List.mem_singleton.mp hc
        exact ⟨_, rfl, fun id hid => Texture.copyResource_id.trans hid⟩

/-! ### What a view publish shows -/

/-- After the copies of a view publish the slot in the header has the texture of CEF, provided that
the texture in the slot has the size in the header. -/
theorem publishView_shows {tx : Texture} (hmode : s.usePopupDedicatedPlane = true)
    (htx : s.textures.texture (backPlane s.writeSlot) = some tx) (p : Paint) (src : Resource)
    (recreated : Bool) (collected : List DirtyRect × Bool) :
    let s' := (s.copied src).publishView p src recreated collected
    ∃ plane ux, slotPlane s'.header.writeSlot = some plane ∧ s'.textures.texture plane = some ux ∧
      (ux.width = s'.header.width → ux.height = s'.header.height →
        ux.content = (src.image s.paints).content) := by
  obtain ⟨t, q, rect, heq, hshape, -, hback, -⟩ := copied_eq src htx
  obtain ⟨count, rects, -, hheader⟩ := (s.copied src).publishView_header p src recreated collected
  intro s'
  have hslot : s'.header.writeSlot = backSlot s.writeSlot := by
    rw [hheader, heq]
  have htexture : s'.textures.texture (backPlane s.writeSlot) =
      some (tx.copyResource (src.image s.paints)) := by
    rw [show s'.textures = t by simp only [s', publishView_eq, heq]]
    exact hback hmode
  refine ⟨backPlane s.writeSlot, _, ?_, htexture, fun hw hh => ?_⟩
  · rw [hslot]
    exact slotPlane_of_lt (backSlot_lt _)
  · rw [hheader, Texture.copyResource_width] at hw
    rw [hheader, Texture.copyResource_height] at hh
    exact Texture.copyResource_content hw hh

theorem PublishesView.shows (hmode : s.usePopupDedicatedPlane = true) (h : s.PublishesView p) :
    let s' := s.onAcceleratedPaint p
    ∃ src plane ux, s.source p = some src ∧ slotPlane s'.header.writeSlot = some plane ∧
      s'.textures.texture plane = some ux ∧
      (ux.width = s'.header.width → ux.height = s'.header.height →
        ux.content = (src.image (s.paints + 1)).content) := by
  obtain ⟨ht, src, hsrc, hready⟩ := publishesView_iff.mp h
  obtain ⟨view, popup, hopened⟩ := s.opened_eq p src
  dsimp only
  rw [onAcceleratedPaint_view hsrc ht, hopened]
  set e : Painter :=
    { s with paints := s.paints + 1, cachedView := view, cachedPopup := popup }
  have hmode' : e.usePopupDedicatedPlane = true := hmode
  have hready' : e.texturesReady src.width src.height p.create = true := hready
  rcases texturesReady_cases hready' with hold | ⟨hold, hok⟩
  · obtain ⟨tx, htx⟩ := ready_back hold
    rw [paintView_ready hold]
    exact ⟨src, (publishView_shows hmode' htx p src false _).imp fun plane hplane =>
      hplane.imp fun ux hux => ⟨hsrc, hux⟩⟩
  · obtain ⟨tx, htx⟩ := recreated_back hok
    rw [paintView_recreated hold hok]
    set a : Painter := e.adoptTextures
      (e.textures.recreate e.d3d.device src.width src.height p.create).1 src.width src.height
      with ha
    have hsetup : a.usePopupDedicatedPlane = true ∧ a.paints = s.paints + 1 := by
      rw [ha, adoptTextures_eq]
      exact ⟨hmode', rfl⟩
    have hshown := publishView_shows hsetup.1 htx p src true (e.collectDirty p)
    rw [hsetup.2] at hshown
    exact ⟨src, hshown.imp fun plane hplane => hplane.imp fun ux hux => ⟨hsrc, hux⟩⟩

end Painter

end CefHost
