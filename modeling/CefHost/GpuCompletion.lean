import CefHost.Library.Runs
import CefHost.PublicationLaw

/-!
# When the copies of a frame are complete

With every published frame the header names a fence value. The consumer waits for it before it
reads the textures; 0 stands for no value, and then the host has flushed the context instead. Two
publish paths draw from one counter, and a failed `Signal` uses a value up.

## Main results

* `Painter.FreshSignals.step` — the next fence value is above all those signalled
* `Painter.completion_of_publish` — one publish, signalled or flushed
* `gpu_completion_known` — whole runs of callbacks, with any pattern of failures
-/

namespace CefHost

open GpuTimeline

namespace Painter

variable {s e : Painter} {p : Paint}

/-- From `s` to `s'` a frame is published, with `copies` submitted for it. All of it is submitted
when `sequence` is incremented. Either the fence value in the header is signalled after the copies,
and is new, or there is none and the context is flushed after them. -/
structure CompletionKnown (s s' : Painter) : Prop where
  submitted : ∃ o, s'.seen.getLast? = some o ∧ o.store.isSequence = true ∧ o.header = s'.header ∧
    o.gpu = s'.gpu
  known : ∃ copies tail, (∀ k ∈ copies, IsCopy k) ∧ (∀ k ∈ tail, ¬ IsCopy k) ∧
    ((s'.header.gpuFenceValue ≠ 0 ∧
        s'.gpu = s.gpu ++ copies ++ .signal s'.header.gpuFenceValue :: tail ∧
        ∀ u, .signal u ∈ s.gpu ++ copies → u < s'.header.gpuFenceValue) ∨
      (s'.header.gpuFenceValue = 0 ∧ s'.gpu = s.gpu ++ copies ++ .work .flush :: tail))
  covers : s'.header.gpuFenceValue ≠ 0 →
    WaitCovers s'.gpu s'.header.gpuFenceValue fun a => IsCopy (.work a)

/-- The values still to come are positive and above those already signalled. -/
structure FreshSignals (s : Painter) : Prop where
  pos : 0 < s.nextGpuFenceValue
  signal_lt : ∀ v, .signal v ∈ s.gpu → v < s.nextGpuFenceValue

theorem freshSignals_init (names : SharedMemoryNames) (d3d : D3DInterfaces)
    (width height : UInt32) : FreshSignals (.init names d3d width height) :=
  ⟨Nat.one_pos, by simp [init]⟩

theorem FreshSignals.prepared {resized : Option (UInt32 × UInt32)} (h : FreshSignals s)
    (he : Prepared s e resized) : FreshSignals e := by
  obtain ⟨q, hgpu, hq⟩ := he.gpu
  refine ⟨by rw [he.nextGpuFenceValue]; exact h.pos, fun v hv => ?_⟩
  rw [hgpu] at hv
  rw [he.nextGpuFenceValue]
  rcases List.mem_append.mp hv with hv | hv
  · exact h.signal_lt v hv
  · exact (hq _ hv).elim

/-- A publish moves on to the next value if it has used one. -/
theorem FreshSignals.published {s' : Painter} {b : Bool} (h : FreshSignals s)
    (hnext : s'.nextGpuFenceValue = s.nextFenceValue)
    (hgpu : s'.gpu = s.gpu ++ (s.signalCommands p ++ flushCommands b)) : FreshSignals s' := by
  have hle : s.nextGpuFenceValue ≤ s'.nextGpuFenceValue := by
    rw [hnext, nextFenceValue]
    split <;> omega
  refine ⟨Nat.lt_of_lt_of_le h.pos hle, fun v hv => ?_⟩
  rw [hgpu] at hv
  rcases List.mem_append.mp hv with hv | hv
  · exact Nat.lt_of_lt_of_le (h.signal_lt v hv) hle
  · rcases mem_signalCommands_flush hv with ⟨hsig, heq⟩ | heq
    · cases heq
      have hboth : (s.d3d.context4 && s.d3d.sharedFence) = true := by
        rw [signaledFence, Bool.and_eq_true] at hsig
        exact hsig.1
      rw [hnext, nextFenceValue, if_pos hboth]
      exact Nat.lt_succ_self _
    · cases heq

/-- Besides its copies a publish submits none. -/
theorem not_isCopy_flushCommands (b : Bool) : ∀ k ∈ flushCommands b, ¬ IsCopy k := by
  intro k hk hcopy
  rw [flushCommands] at hk
  split at hk
  · cases List.mem_singleton.mp hk
    exact hcopy
  · cases hk

/-- **One publish.** The path flushes at least when nothing was signalled. -/
theorem completion_of_publish {s' : Painter} {resized : Option (UInt32 × UInt32)} {b : Bool}
    (h : FreshSignals s) (he : Prepared s e resized)
    (hgpu : s'.gpu = e.gpu ++ (e.signalCommands p ++ flushCommands b))
    (hflush : e.signaledFence p = false → b = true)
    (hfence : s'.header.gpuFenceValue = e.gpuFenceValue p)
    (hlast : ∃ o, s'.seen.getLast? = some o ∧ o.store.isSequence = true ∧ o.header = s'.header ∧
      o.gpu = s'.gpu) : CompletionKnown s s' := by
  have hfresh := h.prepared he
  obtain ⟨copies, hcopies, hcopy⟩ := he.gpu
  cases hsig : e.signaledFence p with
  | true =>
    rw [signalCommands, if_pos hsig, hcopies] at hgpu
    rw [gpuFenceValue, if_pos hsig] at hfence
    have hlt : ∀ u, .signal u ∈ s.gpu ++ copies → u < e.nextGpuFenceValue := by
      rw [← hcopies]
      exact hfresh.signal_lt
    refine ⟨hlast, ⟨copies, flushCommands b, hcopy, not_isCopy_flushCommands b, Or.inl ?_⟩,
      fun _ => ?_⟩
    · rw [hfence]
      exact ⟨Nat.ne_of_gt hfresh.pos, hgpu, hlt⟩
    · rw [hfence, hgpu, ← List.append_assoc]
      refine (waitCovers_signal hfresh.pos hlt).append fun a ha => ?_
      exact not_isCopy_flushCommands b _ ha
  | false =>
    rw [signalCommands, if_neg (by rw [hsig]; exact Bool.false_ne_true), hflush hsig, hcopies]
      at hgpu
    rw [gpuFenceValue, if_neg (by rw [hsig]; exact Bool.false_ne_true)] at hfence
    refine ⟨hlast, ⟨copies, [], hcopy, by simp, Or.inr ⟨hfence, hgpu⟩⟩, fun hne => ?_⟩
    exact absurd hfence hne

/-- The last thing observed of a publish is its increment of `sequence`. -/
theorem getLast?_observePublish {w : Writer} {t : SharedTextures} {q : GpuQueue} {h : FrameHeader}
    {before : List Observation} {stores : List HeaderStore} :
    ∃ o, (before ++ observePublish w t q h stores).getLast? = some o ∧
      o.store.isSequence = true ∧ o.header = publishedHeader h stores ∧ o.gpu = q := by
  rw [observePublish, ← List.append_assoc]
  exact ⟨_, List.getLast?_concat, rfl, rfl, rfl⟩

/-- What a callback publishes is complete when the header says so. -/
def CompletesFrame (s : Painter) : Callback → Prop
  | .paint p => s.publishes p = true → CompletionKnown s (s.onAcceleratedPaint p)
  | _ => True

theorem FreshSignals.completesFrame (h : FreshSignals s) (c : Callback) : s.CompletesFrame c := by
  cases c with
  | paint p =>
    intro hpub
    rcases s.onAcceleratedPaint_cases p with ⟨hnot, -⟩ |
      ⟨-, -, src, e, recreated, -, -, hprep, heq⟩ | ⟨-, -, e, hprep, -, -, heq⟩
    · exact absurd (hpub.symm.trans hnot) Bool.noConfusion
    · obtain ⟨count, rects, -, hheader⟩ := e.publishView_header p src recreated (s.collectDirty p)
      rw [heq]
      refine completion_of_publish h hprep (publishView_gpu ..) (fun hsig => ?_)
        (by rw [hheader]) ?_
      · rw [viewFlush, hsig]
        rfl
      · rw [publishView_eq]
        dsimp only
        rw [← List.append_assoc]
        exact getLast?_observePublish
    · obtain ⟨rects, hheader⟩ := e.publishPopupPlane_header p s.clampedPopupRect
      rw [heq]
      refine completion_of_publish h hprep (publishPopupPlane_gpu ..) (fun hsig => ?_)
        (by rw [hheader]) ?_
      · rw [hsig]
        rfl
      · rw [publishPopupPlane_eq]
        exact getLast?_observePublish
  | _ => trivial

theorem FreshSignals.step (h : FreshSignals s) (c : Callback) : FreshSignals (s.step c) := by
  by_cases hpaint : ∃ p, c = .paint p
  · obtain ⟨p, rfl⟩ := hpaint
    change FreshSignals (s.onAcceleratedPaint p)
    rcases s.onAcceleratedPaint_cases p with ⟨-, hprep⟩ |
      ⟨-, -, src, e, recreated, -, -, hprep, heq⟩ | ⟨-, -, e, hprep, -, -, heq⟩
    · exact h.prepared hprep
    · rw [heq]
      exact (h.prepared hprep).published (by rw [publishView_eq]) (publishView_gpu ..)
    · rw [heq]
      exact (h.prepared hprep).published (by rw [publishPopupPlane_eq]) (publishPopupPlane_gpu ..)
  · have hquiet := s.step_quiet fun p hc => hpaint ⟨p, hc⟩
    refine ⟨by rw [hquiet.nextGpuFenceValue]; exact h.pos, fun v hv => ?_⟩
    rw [hquiet.gpu] at hv
    rw [hquiet.nextGpuFenceValue]
    exact h.signal_lt v hv

end Painter

/-- **Runs of callbacks**, with a fence or without one and any `Signal` failing: the header of
every published frame names a new value that is signalled after the copies of the frame, or none
after a flush. Waiting for the value covers every copy submitted so far, those of earlier frames
included. -/
theorem gpu_completion_known (names : SharedMemoryNames) (d3d : D3DInterfaces)
    (width height : UInt32) (callbacks : List Callback) :
    Runs.Along Painter.step Painter.CompletesFrame (.init names d3d width height) callbacks := by
  refine Runs.along_of_invariant (I := Painter.FreshSignals) (G := fun _ _ => True)
    (fun s c h _ => h.step c) (fun s c h _ => h.completesFrame c)
    (Painter.freshSignals_init names d3d width height) ?_
  exact Runs.along_of_forall_mem (G := fun _ => True) fun _ _ => trivial

end CefHost
