import CefHost.FrameNumbering

/-!
# How long work stays unflushed

A publish that signals the fence need not flush the context: the signal tells the consumer when the
copies are done. But nothing makes the driver submit them before the next flush, so a view publish
counts the frames since the last flush and flushes when their number reaches
`m_flushIntervalFrames`.

A popup publish flushes only if it could not signal. It neither counts nor looks at the count. A
popup that repaints over a page that does not — hovering over a menu — publishes frame after frame
without a flush.

## Main definitions

* `Painter.flushes` — the callback flushes the context after its copies
* `FlushRun` — the painter, and the publishes since one last flushed

## Main results

* `Painter.popup_again` — a popup paint that publishes can be repeated
* `flush_bound` — with interval `F`, fewer than `F` publishes in a row are unflushed as long as no
  popup publish signals; and `F` signalling popup publishes in a row are
-/

namespace CefHost

namespace Painter

variable {s e : Painter} {p : Paint}

/-! ### The flush of a publish -/

/-- The commands a callback submits. -/
def submitted (s : Painter) (c : Callback) : GpuQueue := (s.step c).gpu.drop s.gpu.length

/-- The last thing the callback submits is a flush, so it comes after its copies. -/
def flushes (s : Painter) (c : Callback) : Bool :=
  (s.submitted c).getLast? == some (.work .flush)

/-- A publish flushes if it says so: copies and signals are no flushes. -/
theorem flushes_of_gpu {c : Callback} {q : GpuQueue} {b : Bool}
    (hgpu : (s.step c).gpu = s.gpu ++ q ++ (e.signalCommands p ++ flushCommands b))
    (hq : ∀ k ∈ q, IsCopy k) : s.flushes c = b := by
  have hsubmitted : s.submitted c = q ++ (e.signalCommands p ++ flushCommands b) := by
    rw [submitted, hgpu, List.append_assoc, List.drop_left]
  rw [flushes, hsubmitted]
  cases b with
  | true => simp [flushCommands]
  | false =>
    rw [flushCommands, if_neg Bool.false_ne_true, List.append_nil, beq_eq_false_iff_ne]
    intro hlast
    rcases List.mem_append.mp (List.mem_of_getLast? hlast) with hmem | hmem
    · exact hq _ hmem
    · rw [signalCommands] at hmem
      split at hmem
      · cases List.mem_singleton.mp hmem
      · cases hmem

theorem flushes_of_view {src : Resource} {recreated : Bool} {collected : List DirtyRect × Bool}
    {resized : Option (UInt32 × UInt32)} (he : Prepared s e resized)
    (heq : s.onAcceleratedPaint p = e.publishView p src recreated collected) :
    s.flushes (.paint p) = e.viewFlush p recreated (e.forceFull recreated collected.2) := by
  obtain ⟨q, hgpu, hq⟩ := he.gpu
  refine flushes_of_gpu (e := e) (p := p) (q := q) ?_ hq
  change (s.onAcceleratedPaint p).gpu = _
  rw [heq, publishView_gpu, hgpu]

theorem flushes_of_popup {r : Corners} {resized : Option (UInt32 × UInt32)}
    (he : Prepared s e resized) (heq : s.onAcceleratedPaint p = e.publishPopupPlane p r) :
    s.flushes (.paint p) = !s.signaledFence p := by
  obtain ⟨q, hgpu, hq⟩ := he.gpu
  have hsignal : e.signaledFence p = s.signaledFence p := by
    rw [signaledFence, signaledFence, he.d3d]
  rw [← hsignal]
  refine flushes_of_gpu (e := e) (p := p) (q := q) ?_ hq
  change (s.onAcceleratedPaint p).gpu = _
  rw [heq, publishPopupPlane_gpu, hgpu]

/-! ### The count -/

/-- The count and the interval are the same. -/
def SameCount (s s' : Painter) : Prop :=
  s'.framesSinceFlush = s.framesSinceFlush ∧ s'.flushIntervalFrames = s.flushIntervalFrames

theorem setLoadState_sameCount (s : Painter) (isMain : Bool) (v : CefLoadState) :
    SameCount s (s.setLoadState isMain v) := by
  obtain ⟨header, seen, events, heq⟩ := s.setLoadState_eq isMain v
  rw [heq]
  exact ⟨rfl, rfl⟩

/-- The interval is not set to anything new. -/
def IntervalKept (s : Painter) : Callback → Prop
  | .setFlushIntervalFrames frames => frames = s.flushIntervalFrames
  | _ => True

instance (s : Painter) : ∀ c, Decidable (s.IntervalKept c)
  | .setFlushIntervalFrames frames =>
    inferInstanceAs (Decidable (frames = s.flushIntervalFrames))
  | .paint _ | .popupShow _ | .popupSize _ | .resize _ _ | .loadStart _ | .loadEnd _ _
  | .loadError _ | .cursorChange _ => inferInstanceAs (Decidable True)

/-- Only paints count. -/
theorem step_sameCount {c : Callback} (hpaint : ∀ p, c ≠ .paint p) (hset : s.IntervalKept c) :
    SameCount s (s.step c) := by
  cases c with
  | paint p => exact absurd rfl (hpaint p)
  | setFlushIntervalFrames frames => exact ⟨rfl, hset⟩
  | loadStart isMain => exact s.setLoadState_sameCount isMain _
  | loadEnd isMain status => exact s.setLoadState_sameCount isMain _
  | loadError isMain => exact s.setLoadState_sameCount isMain _
  | popupShow visible => cases visible <;> exact ⟨rfl, rfl⟩
  | _ => exact ⟨rfl, rfl⟩

theorem Prepared.sameCount {resized : Option (UInt32 × UInt32)} (he : Prepared s e resized) :
    SameCount s e := ⟨he.framesSinceFlush, he.flushIntervalFrames⟩

/-- A view publish counts itself, unless it flushes; it does so at the latest when the count
reaches the interval. -/
theorem publishView_count (s : Painter) (p : Paint) (src : Resource) (recreated : Bool)
    (collected : List DirtyRect × Bool) :
    (s.publishView p src recreated collected).flushIntervalFrames = s.flushIntervalFrames ∧
      (s.publishView p src recreated collected).framesSinceFlush =
        if s.viewFlush p recreated (s.forceFull recreated collected.2) then 0
        else s.framesSinceFlush + 1 := by
  rw [publishView_eq]
  exact ⟨rfl, rfl⟩

theorem count_lt_of_not_viewFlush {recreated full : Bool} (hF : 0 < s.flushIntervalFrames)
    (h : s.viewFlush p recreated full = false) :
    s.framesSinceFlush + 1 < s.flushIntervalFrames.toNat := by
  simp only [viewFlush, Bool.or_eq_false_iff, Bool.and_eq_false_iff, decide_eq_false_iff_not] at h
  rcases h.2 with hzero | hle
  · exact absurd hF hzero
  · omega

theorem publishPopupPlane_sameCount (s : Painter) (p : Paint) (r : Corners) :
    SameCount s (s.publishPopupPlane p r) := by
  rw [publishPopupPlane_eq]
  exact ⟨rfl, rfl⟩

/-! ### Repeating a popup paint -/

/-- What a popup paint that publishes leaves for the next one: CEF's texture in the cache, a
private texture of its size, and the plane. -/
theorem popup_left {src : Resource} (hsrc : s.source p = some src) (ht : p.type = .popup)
    (hready : s.popupTextureReady p src = true) (hplane : s.popupPlaneReady = true) :
    (s.onAcceleratedPaint p).d3d = s.d3d ∧
      (s.onAcceleratedPaint p).cachedPopup = ⟨p.handle, some src⟩ ∧
      (s.onAcceleratedPaint p).popupTextureReady p src = true ∧
      (s.onAcceleratedPaint p).popupPlaneReady = true := by
  set e : Painter := { s with
    paints := s.paints + 1, cachedPopup := ⟨p.handle, some src⟩ } with he
  have hopened : s.opened p src = e := by simp [opened, remember, ht, he]
  have hready' : e.popupTextureReady p src = true := hready
  have hplane' : e.popupPlaneReady = true := hplane
  obtain ⟨tx, n, hpaint, -⟩ := paintPopup_ready hready'
  rw [if_pos hplane'] at hpaint
  obtain ⟨t, q, hpublish, hshape, -⟩ := ((e.withPopup src tx n).copyPopup src).publishPopup_eq p
  rw [onAcceleratedPaint_popup hsrc ht, hopened, hpaint, hpublish, publishPopupPlane_eq]
  refine ⟨rfl, rfl, ?_, ?_⟩
  · simp [popupTextureReady, copyPopup, withPopup]
  · have hsome := hshape.isSome .popup
    simp only [popupPlaneReady, hshape.sharedWidth, hshape.sharedHeight, hsome] at hplane ⊢
    exact hplane

/-- **A popup paint that publishes can be repeated.** -/
theorem popup_again (ht : p.type = .popup) (h : s.publishes p = true) :
    (s.onAcceleratedPaint p).publishes p = true ∧
      (s.onAcceleratedPaint p).signaledFence p = s.signaledFence p := by
  cases hsrc : s.source p with
  | none => simp [publishes, hsrc] at h
  | some src =>
    obtain ⟨hready, hplane⟩ : s.popupTextureReady p src = true ∧ s.popupPlaneReady = true := by
      simpa [publishes, hsrc, ht] using h
    have hdevice := device_of_source hsrc
    obtain ⟨hd3d, hcache, hready', hplane'⟩ := popup_left hsrc ht hready hplane
    have hsrc' : (s.onAcceleratedPaint p).source p = some src := by
      simp [source, cacheHit, cache, ht, hd3d, hdevice, hcache]
    refine ⟨?_, by rw [signaledFence, signaledFence, hd3d]⟩
    simp [publishes, hsrc', ht, hready', hplane']

/-- A publish of the popup plane that signals the fence, and so does not flush. -/
def SignalsPopup (s : Painter) : Callback → Prop
  | .paint p => s.publishes p = true ∧ p.type = .popup ∧ s.signaledFence p = true
  | _ => False

instance (s : Painter) : ∀ c, Decidable (s.SignalsPopup c)
  | .paint _ => inferInstanceAs (Decidable (_ ∧ _))
  | .popupShow _ | .popupSize _ | .resize _ _ | .loadStart _ | .loadEnd _ _ | .loadError _
  | .cursorChange _ | .setFlushIntervalFrames _ => inferInstanceAs (Decidable False)

end Painter

/-! ### Runs -/

/-- The painter, and how many publishes in a row did not flush. -/
structure FlushRun where
  painter : Painter
  unflushed : ℕ

namespace FlushRun

def step (r : FlushRun) (c : Callback) : FlushRun where
  painter := r.painter.step c
  unflushed :=
    if r.painter.publishesFrame c then
      if r.painter.flushes c then 0 else r.unflushed + 1
    else r.unflushed

/-- The interval is `F`, and the count includes the publishes in a row. -/
structure Counted (F : UInt32) (r : FlushRun) : Prop where
  interval : r.painter.flushIntervalFrames = F
  unflushed_le : r.unflushed ≤ r.painter.framesSinceFlush

variable {F : UInt32} {r : FlushRun}

theorem Counted.of_sameCount (h : r.Counted F) {s' : Painter} {n : ℕ}
    (hs : Painter.SameCount r.painter s') (hn : n ≤ r.unflushed) : Counted F ⟨s', n⟩ where
  interval := hs.2.trans h.interval
  unflushed_le := by
    have hle := h.unflushed_le
    have hcount := hs.1
    change n ≤ s'.framesSinceFlush
    omega

theorem step_of_not_publishes {c : Callback} (h : r.painter.publishesFrame c = false) :
    r.step c = ⟨r.painter.step c, r.unflushed⟩ := by
  rw [step, h, if_neg Bool.false_ne_true]

theorem step_of_publishes {c : Callback} (h : r.painter.publishesFrame c = true) :
    r.step c = ⟨r.painter.step c, if r.painter.flushes c then 0 else r.unflushed + 1⟩ := by
  rw [step, h, if_pos rfl]

/-- A view publish. -/
theorem Counted.view (hF : 0 < F) (h : r.Counted F) {p : Paint} {e : Painter} {src : Resource}
    {recreated : Bool} {collected : List DirtyRect × Bool} {resized : Option (UInt32 × UInt32)}
    (hpub : r.painter.publishesFrame (.paint p) = true)
    (hprep : Painter.Prepared r.painter e resized)
    (heq : r.painter.onAcceleratedPaint p = e.publishView p src recreated collected) :
    (r.step (.paint p)).Counted F ∧ (r.step (.paint p)).unflushed < F.toNat := by
  obtain ⟨hinterval, hcount⟩ := e.publishView_count p src recreated collected
  have hFe : e.flushIntervalFrames = F := hprep.flushIntervalFrames.trans h.interval
  rw [step_of_publishes hpub, Painter.flushes_of_view hprep heq]
  change Counted F ⟨r.painter.onAcceleratedPaint p, _⟩ ∧ _
  rw [heq]
  cases hflush : e.viewFlush p recreated (e.forceFull recreated collected.2) with
  | true =>
    exact ⟨⟨hinterval.trans hFe, Nat.zero_le _⟩, UInt32.lt_iff_toNat_lt.mp hF⟩
  | false =>
    rw [hflush, if_neg Bool.false_ne_true, hprep.framesSinceFlush] at hcount
    have hlt := Painter.count_lt_of_not_viewFlush (hFe ▸ hF) hflush
    rw [hFe, hprep.framesSinceFlush] at hlt
    have hle := h.unflushed_le
    refine ⟨⟨hinterval.trans hFe, ?_⟩, ?_⟩
    · simp only [Bool.false_eq_true, if_false, hcount]
      omega
    · simp only [Bool.false_eq_true, if_false]
      omega

/-- A popup publish that does not signal. -/
theorem Counted.popup (hF : 0 < F) (h : r.Counted F) {p : Paint} {e : Painter}
    {corners : Painter.Corners} {resized : Option (UInt32 × UInt32)}
    (hpub : r.painter.publishesFrame (.paint p) = true)
    (hsignal : r.painter.signaledFence p = false) (hprep : Painter.Prepared r.painter e resized)
    (heq : r.painter.onAcceleratedPaint p = e.publishPopupPlane p corners) :
    (r.step (.paint p)).Counted F ∧ (r.step (.paint p)).unflushed < F.toNat := by
  obtain ⟨-, hinterval⟩ := e.publishPopupPlane_sameCount p corners
  rw [step_of_publishes hpub, Painter.flushes_of_popup hprep heq, hsignal]
  change Counted F ⟨r.painter.onAcceleratedPaint p, _⟩ ∧ _
  rw [heq]
  exact ⟨⟨hinterval.trans (hprep.flushIntervalFrames.trans h.interval), Nat.zero_le _⟩,
    UInt32.lt_iff_toNat_lt.mp hF⟩

/-- **One callback** while no popup publish signals. -/
theorem Counted.next (hF : 0 < F) (h : r.Counted F) (hr : r.unflushed < F.toNat) {c : Callback}
    (hset : r.painter.IntervalKept c) (hsignal : ¬ r.painter.SignalsPopup c) :
    (r.step c).Counted F ∧ (r.step c).unflushed < F.toNat := by
  by_cases hpaint : ∃ p, c = .paint p
  · obtain ⟨p, rfl⟩ := hpaint
    rcases r.painter.onAcceleratedPaint_cases p with ⟨hpub, hprep⟩ |
      ⟨hpub, -, src, e, recreated, -, -, hprep, heq⟩ | ⟨hpub, ht, e, hprep, -, -, heq⟩
    · rw [step_of_not_publishes (c := .paint p) hpub]
      exact ⟨h.of_sameCount hprep.sameCount (Nat.le_refl _), hr⟩
    · exact h.view hF hpub hprep heq
    · have hnot : r.painter.signaledFence p = false := by
        by_contra hsome
        exact hsignal ⟨hpub, ht, by simpa using hsome⟩
      exact h.popup hF hpub hnot hprep heq
  · have hpub : r.painter.publishesFrame c = false := by
      cases c with
      | paint p => exact absurd ⟨p, rfl⟩ hpaint
      | _ => rfl
    rw [step_of_not_publishes hpub]
    have hcount := Painter.step_sameCount (fun p hc => hpaint ⟨p, hc⟩) hset
    exact ⟨h.of_sameCount hcount (Nat.le_refl _), hr⟩

/-- A popup publish that signals adds to the publishes in a row. -/
theorem unflushed_of_signalsPopup {p : Paint} (h : r.painter.SignalsPopup (.paint p)) :
    (r.step (.paint p)).unflushed = r.unflushed + 1 := by
  obtain ⟨hpub, ht, hsignal⟩ := h
  rcases r.painter.onAcceleratedPaint_cases p with ⟨hnot, -⟩ | ⟨-, hview, -⟩ |
    ⟨-, -, e, hprep, -, -, heq⟩
  · exact absurd (hpub.symm.trans hnot) Bool.noConfusion
  · exact absurd (ht.symm.trans hview) PaintElementType.noConfusion
  · have hpub' : r.painter.publishesFrame (.paint p) = true := hpub
    rw [step_of_publishes hpub', Painter.flushes_of_popup hprep heq, hsignal]
    rfl

/-- The same popup paint over and over. -/
theorem unflushed_replicate {p : Paint} (h : r.painter.SignalsPopup (.paint p)) (n : ℕ) :
    (Runs.run step r (List.replicate n (.paint p))).unflushed = r.unflushed + n := by
  induction n generalizing r with
  | zero => rfl
  | succ n ih =>
    have hnext : (r.step (.paint p)).painter.SignalsPopup (.paint p) := by
      obtain ⟨hpub, ht, hsignal⟩ := h
      obtain ⟨hpub', hsignal'⟩ := Painter.popup_again ht hpub
      exact ⟨hpub', ht, hsignal'.trans hsignal⟩
    rw [List.replicate_succ, Runs.run_cons, ih hnext, unflushed_of_signalsPopup h]
    omega

end FlushRun

/-- **The flush bound.** From a state with the interval `F`, as long as the interval is kept and no
popup publish signals, fewer than `F` publishes in a row go without a flush. And where a popup
publish signals, `F` of them do so in a row if the popup is painted `F` times. -/
theorem flush_bound {F : UInt32} (hF : 0 < F) (s : Painter) (hs : s.flushIntervalFrames = F) :
    (∀ callbacks, Runs.Along FlushRun.step
          (fun r c => r.painter.IntervalKept c ∧ ¬ r.painter.SignalsPopup c) ⟨s, 0⟩ callbacks →
        Runs.Always FlushRun.step (fun r => r.unflushed < F.toNat) ⟨s, 0⟩ callbacks)
      ∧ ∀ p, s.SignalsPopup (.paint p) →
        ¬ Runs.Always FlushRun.step (fun r => r.unflushed < F.toNat) ⟨s, 0⟩
          (List.replicate F.toNat (.paint p)) := by
  constructor
  · intro callbacks hguard
    have hnext : ∀ (r : FlushRun) (c : Callback), r.Counted F ∧ r.unflushed < F.toNat →
        r.painter.IntervalKept c ∧ ¬ r.painter.SignalsPopup c →
        (r.step c).Counted F ∧ (r.step c).unflushed < F.toNat :=
      fun r c h hc => h.1.next hF h.2 hc.1 hc.2
    exact Runs.always_of_along hnext (fun r h => h.2)
      ⟨⟨hs, Nat.zero_le _⟩, UInt32.lt_iff_toNat_lt.mp hF⟩ hguard
  · intro p hp halways
    have hlast := (Runs.always_iff_forall.mp halways) _ List.prefix_rfl
    rw [FlushRun.unflushed_replicate (r := ⟨s, 0⟩) hp] at hlast
    omega

/-- A handler with the interval 3. -/
def flushEveryThird : Painter :=
  (Painter.init (buildSharedMemoryNames []) fullD3D 16 16).step (.setFlushIntervalFrames 3)

/-- A view paint of one corner, and a popup paint whose signal fails. -/
def cornerPaint : Callback := .paint (.succeeding .view [⟨0, 0, 8, 8⟩] 1 .smallView)

def failedPopupPaint : Callback :=
  .paint { Paint.succeeding .popup [] 2 .smallPopup with signal := false }

/-- Three warm-up frames, and three more with popups in between. -/
def mixedPaints : List Callback :=
  [cornerPaint, cornerPaint, cornerPaint, cornerPaint, failedPopupPaint, cornerPaint, cornerPaint,
    failedPopupPaint, cornerPaint]

/-- The fourth frame is not flushed, the popup is; nor is the frame behind it, until the count has
reached 3. -/
theorem flush_bound_mixed :
    0 < (3 : UInt32) ∧ flushEveryThird.flushIntervalFrames = 3 ∧
      Runs.Along FlushRun.step
        (fun r c => r.painter.IntervalKept c ∧ ¬ r.painter.SignalsPopup c) ⟨flushEveryThird, 0⟩
        mixedPaints ∧
      Runs.Always FlushRun.step (fun r => r.unflushed < (3 : UInt32).toNat) ⟨flushEveryThird, 0⟩
        mixedPaints ∧
      (List.range 10).map (fun n =>
          (Runs.run FlushRun.step ⟨flushEveryThird, 0⟩ (mixedPaints.take n)).unflushed) =
        [0, 0, 0, 0, 1, 0, 1, 0, 0, 1] := by
  have hguard : Runs.Along FlushRun.step
      (fun r c => r.painter.IntervalKept c ∧ ¬ r.painter.SignalsPopup c) ⟨flushEveryThird, 0⟩
      mixedPaints := by decide +kernel
  exact ⟨by decide, rfl, hguard,
    (flush_bound (F := 3) (by decide) flushEveryThird rfl).1 mixedPaints hguard, by decide +kernel⟩

/-- A view paint, which flushes, and a popup paint, which does not, with the interval 1. -/
theorem popup_publish_unflushed :
    ¬ Runs.Always FlushRun.step (fun r => r.unflushed < 1)
        ⟨.init (buildSharedMemoryNames []) fullD3D 16 16, 0⟩
        [.paint (.succeeding .view [] 1 .smallView),
          .paint (.succeeding .popup [] 2 .smallPopup)] := by
  simp only [Runs.always_cons, Runs.always_nil]
  decide +kernel

end CefHost
