import CefHost.Library.Runs
import CefHost.PublishCases

/-!
# Frame numbers

A consumer tells from `frame_id` whether it has seen every frame, and from `sequence` whether
anything happened at all. Two paint paths and three load callbacks advance these fields; the claim
is that they count exactly, whatever returns early in between.

## Main results

* `Painter.step_numbered` — one callback
* `frame_numbering` — whole runs: the numbers count, and a consumer that sees `frame_id` move by at
  most one has missed no dirty list
-/

namespace CefHost

/-- A load callback of a main frame. -/
def Callback.isMainLoad : Callback → Bool
  | .loadStart isMain => isMain
  | .loadEnd isMain _ => isMain
  | .loadError isMain => isMain
  | _ => false

namespace Painter

variable {s : Painter} {n m : ℕ}

/-- The callback publishes a frame. -/
def publishesFrame (s : Painter) : Callback → Bool
  | .paint p => s.publishes p
  | _ => false

/-- The frames a run of callbacks publishes. -/
def publishCount : Painter → List Callback → ℕ
  | _, [] => 0
  | s, c :: cs => (s.publishesFrame c).toNat + publishCount (s.step c) cs

/-- After `n` frames and `m` load callbacks. -/
structure Numbered (n m : ℕ) (s : Painter) : Prop where
  frameId : s.header.frameId = n
  presentId : s.header.presentId = n
  nextFrameId : s.nextFrameId = n + 1
  sequence : s.header.sequence = UInt32.ofNat (n + m)
  frameEvents : s.frameEvents = n + m

theorem numbered_init (names : SharedMemoryNames) (d3d : D3DInterfaces) (width height : UInt32) :
    Numbered 0 0 (.init names d3d width height) := ⟨rfl, rfl, rfl, rfl, rfl⟩

/-- What leads up to a publish advances nothing. -/
theorem Numbered.prepared {e : Painter} {resized : Option (UInt32 × UInt32)} (h : Numbered n m s)
    (he : Prepared s e resized) : Numbered n m e := by
  have hheader : e.header.frameId = s.header.frameId ∧ e.header.presentId = s.header.presentId ∧
      e.header.sequence = s.header.sequence := by
    rw [he.header]
    cases resized with
    | none => exact ⟨rfl, rfl, rfl⟩
    | some size =>
      rw [resizedHeader, foldl_resizeStores]
      exact ⟨rfl, rfl, rfl⟩
  exact ⟨hheader.1.trans h.frameId, hheader.2.1.trans h.presentId,
    he.nextFrameId.trans h.nextFrameId, hheader.2.2.trans h.sequence,
    he.frameEvents.trans h.frameEvents⟩

/-- A publish uses up one frame number and one sequence number. -/
theorem Numbered.published {s' : Painter} (h : Numbered n m s)
    (hframe : s'.header.frameId = s.nextFrameId) (hpresent : s'.header.presentId = s.nextFrameId)
    (hnext : s'.nextFrameId = s.nextFrameId + 1)
    (hsequence : s'.header.sequence = s.header.sequence + 1)
    (hevents : s'.frameEvents = s.frameEvents + 1) : Numbered (n + 1) m s' where
  frameId := hframe.trans h.nextFrameId
  presentId := hpresent.trans h.nextFrameId
  nextFrameId := by rw [hnext, h.nextFrameId]
  sequence := by
    rw [hsequence, h.sequence, show n + 1 + m = n + m + 1 by omega]
    exact FreeRunning.ofNat_succ (n + m)
  frameEvents := by rw [hevents, h.frameEvents]; omega

theorem Numbered.paint (h : Numbered n m s) (p : Paint) :
    Numbered (n + (s.publishes p).toNat) m (s.onAcceleratedPaint p) := by
  rcases s.onAcceleratedPaint_cases p with ⟨hpub, hprep⟩ |
    ⟨hpub, -, src, e, recreated, -, -, hprep, heq⟩ | ⟨hpub, -, e, hprep, -, -, heq⟩
  · rw [hpub]
    exact h.prepared hprep
  · have he := h.prepared hprep
    obtain ⟨count, rects, -, hheader⟩ := e.publishView_header p src recreated (s.collectDirty p)
    rw [hpub, heq]
    refine he.published ?_ ?_ (e.publishView_counters p src recreated _).1 ?_ ?_
    · rw [hheader]
    · rw [hheader]
    · rw [hheader]
    · rw [publishView_eq]
  · have he := h.prepared hprep
    obtain ⟨rects, hheader⟩ := e.publishPopupPlane_header p s.clampedPopupRect
    rw [hpub, heq]
    refine he.published ?_ ?_ ?_ ?_ ?_
    · rw [hheader]
    · rw [hheader]
    · rw [publishPopupPlane_eq]
    · rw [hheader]
    · rw [publishPopupPlane_eq]

theorem Numbered.setLoadState (h : Numbered n m s) (isMain : Bool) (v : CefLoadState) :
    Numbered n (m + isMain.toNat) (s.setLoadState isMain v) := by
  cases isMain with
  | false => exact h
  | true =>
    refine ⟨h.frameId, h.presentId, h.nextFrameId, ?_, ?_⟩
    · change s.header.sequence + 1 = UInt32.ofNat (n + m + 1)
      rw [h.sequence, FreeRunning.ofNat_succ]
    · change s.frameEvents + 1 = n + (m + 1)
      rw [h.frameEvents]
      rfl

/-- **One callback** advances the numbers by what it publishes and loads. -/
theorem step_numbered (h : Numbered n m s) (c : Callback) :
    Numbered (n + (s.publishesFrame c).toNat) (m + c.isMainLoad.toNat) (s.step c) := by
  cases c with
  | paint p => exact h.paint p
  | loadStart isMain => exact h.setLoadState isMain _
  | loadEnd isMain status => exact h.setLoadState isMain _
  | loadError isMain => exact h.setLoadState isMain _
  | cursorChange type => exact ⟨h.frameId, h.presentId, h.nextFrameId, h.sequence, h.frameEvents⟩
  | popupShow visible =>
    cases visible <;> exact ⟨h.frameId, h.presentId, h.nextFrameId, h.sequence, h.frameEvents⟩
  | popupSize rect => exact ⟨h.frameId, h.presentId, h.nextFrameId, h.sequence, h.frameEvents⟩
  | resize width height =>
    exact ⟨h.frameId, h.presentId, h.nextFrameId, h.sequence, h.frameEvents⟩
  | setFlushIntervalFrames frames =>
    exact ⟨h.frameId, h.presentId, h.nextFrameId, h.sequence, h.frameEvents⟩

/-! ### Runs -/

theorem publishCount_append (s : Painter) (cs ds : List Callback) :
    publishCount s (cs ++ ds) = publishCount s cs + publishCount (Runs.run step s cs) ds := by
  induction cs generalizing s with
  | nil => simp [publishCount]
  | cons c cs ih =>
    rw [List.cons_append, publishCount, publishCount, ih, Runs.run_cons, Nat.add_assoc]

theorem Numbered.run (h : Numbered n m s) (cs : List Callback) :
    Numbered (n + publishCount s cs) (m + cs.countP Callback.isMainLoad) (Runs.run step s cs) := by
  induction cs generalizing s n m with
  | nil => simpa [publishCount] using h
  | cons c cs ih =>
    have hrun := ih (step_numbered h c)
    rw [publishCount, ← Nat.add_assoc, List.countP_cons, Runs.run_cons]
    rw [Nat.add_assoc m, Nat.add_comm c.isMainLoad.toNat] at hrun
    cases hc : c.isMainLoad <;> rw [hc] at hrun <;> exact hrun

/-- What the header tells a consumer about the damage of the last frame. -/
def SameDamage (h h' : FrameHeader) : Prop := h'.flags = h.flags ∧ h'.dirtyList = h.dirtyList

/-- A callback that publishes no frame leaves the damage of the last one standing. -/
theorem step_sameDamage (s : Painter) {c : Callback} (hc : s.publishesFrame c = false) :
    SameDamage s.header (s.step c).header := by
  by_cases hpaint : ∃ p, c = .paint p
  · obtain ⟨p, rfl⟩ := hpaint
    rcases s.onAcceleratedPaint_cases p with ⟨-, hprep⟩ | ⟨hpub, -⟩ | ⟨hpub, -⟩
    · change SameDamage s.header (s.onAcceleratedPaint p).header
      rw [hprep.header]
      exact ⟨rfl, rfl⟩
    · exact absurd (hpub.symm.trans hc) Bool.noConfusion
    · exact absurd (hpub.symm.trans hc) Bool.noConfusion
  · obtain ⟨load, cursor, k, hheader⟩ := (s.step_quiet fun p h => hpaint ⟨p, h⟩).header
    rw [hheader]
    exact ⟨rfl, rfl⟩

theorem run_sameDamage {cs : List Callback} (h : publishCount s cs = 0) :
    SameDamage s.header (Runs.run step s cs).header := by
  induction cs generalizing s with
  | nil => exact ⟨rfl, rfl⟩
  | cons c cs ih =>
    rw [publishCount, Nat.add_eq_zero_iff] at h
    have hstep := s.step_sameDamage (c := c) (by simpa using h.1)
    have hrun := ih h.2
    exact ⟨hrun.1.trans hstep.1, hrun.2.trans hstep.2⟩

/-- With at most one frame published, the damage of that frame is in the header at the end. -/
theorem run_missesNothing {before after : List Callback} {c : Callback}
    (hle : publishCount s (before ++ c :: after) ≤ 1)
    (hc : (Runs.run step s before).publishesFrame c = true) :
    SameDamage (Runs.run step s (before ++ [c])).header
      (Runs.run step s (before ++ c :: after)).header := by
  rw [publishCount_append, publishCount, hc] at hle
  have hafter : publishCount (Runs.run step s (before ++ [c])) after = 0 := by
    rw [Runs.run_append, Runs.run_cons, Runs.run_nil]
    simp only [Bool.toNat_true] at hle
    omega
  have hrun := run_sameDamage hafter
  rwa [← Runs.run_append, List.append_assoc] at hrun

end Painter

/-- **Runs of callbacks.** After `n` publishes and `m` main-frame load callbacks the numbers are
what they should be; between any two states the frame number moves by the publishes in between, so
a consumer that sees it move by at most one finds the damage of every one of them. -/
theorem frame_numbering (names : SharedMemoryNames) (d3d : D3DInterfaces) (width height : UInt32)
    (callbacks more : List Callback) :
    let start : Painter := .init names d3d width height
    let s := Runs.run Painter.step start callbacks
    let s' := Runs.run Painter.step s more
    let n := start.publishCount callbacks
    let m := callbacks.countP Callback.isMainLoad
    (s.header.frameId = n ∧ s.header.presentId = n ∧ s.nextFrameId = n + 1 ∧
      s.header.sequence.toNat = (n + m) % 2 ^ 32 ∧ s.frameEvents = n + m) ∧
    s'.header.frameId - s.header.frameId = s.publishCount more ∧
    (s'.header.frameId ≤ s.header.frameId + 1 → ∀ before c after, more = before ++ c :: after →
      (Runs.run Painter.step s before).publishesFrame c = true →
      (Runs.run Painter.step s (before ++ [c])).header.flags = s'.header.flags ∧
      (Runs.run Painter.step s (before ++ [c])).header.dirtyList = s'.header.dirtyList) := by
  intro start s s' n m
  have hs : Painter.Numbered n m s := by
    have h := (Painter.numbered_init names d3d width height).run callbacks
    rwa [Nat.zero_add, Nat.zero_add] at h
  have hmoved : s'.header.frameId = s.header.frameId + s.publishCount more := by
    rw [(hs.run more).frameId, hs.frameId]
  refine ⟨⟨hs.frameId, hs.presentId, hs.nextFrameId, ?_, hs.frameEvents⟩, by omega, ?_⟩
  · rw [hs.sequence, UInt32.toNat_ofNat']
  · rintro hle before c after rfl hc
    have hfew : s.publishCount (before ++ c :: after) ≤ 1 := by omega
    have hsame := Painter.run_missesNothing hfew hc
    exact ⟨hsame.1.symm, hsame.2.symm⟩

end CefHost
