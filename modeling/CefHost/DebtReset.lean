import CefHost.BeginFrameThreads

/-!
# Resetting the debt

`SetMaxInFlightBeginFrames` stores `m_beginFramesSent` into `m_paintsCompleted`, so that begin
frames sent under another cap are not waited for. It loads the one and stores the other, and in
between the render thread goes on sending and CEF goes on painting. A paint that answers a begin
frame sent before the load is overwritten for good reason; one that answers a begin frame sent after
it is lost, and the cap has one place less from then on.

A begin frame is sent before it is counted. If it is sent before the load and counted after it, its
paint is lost as well, even one that came before the load.

## Main definitions

* `DebtRun` — the threads, and the begin frames that are really unanswered
* `DebtRun.OneToOne` — every begin frame is answered by one published paint, and there are no nudges
* `DebtRun.Covered` — the reset overwrites no more answers than it should

## Main results

* `debt_reset_keeps_books` — whole runs of the threads, in any order
-/

namespace CefHost

namespace BeginFrameThreads

/-- The step calls `SendExternalBeginFrame`. -/
def asks (s : BeginFrameThreads) : ThreadStep → Bool
  | .render => s.renderAsks
  | .input _ => s.inputAsks
  | _ => false

/-- The step is a paint that publishes a frame. -/
def answers (s : BeginFrameThreads) : ThreadStep → Bool
  | .callback (.paint p) => s.host.painter.publishes p
  | _ => false

/-- A begin frame has been sent and not been counted. -/
def uncounted (s : BeginFrameThreads) : ℕ := if s.render = .asked then 1 else 0

/-- The step loads `m_beginFramesSent` in a reset. -/
def loadsSent (s : BeginFrameThreads) : ThreadStep → Bool
  | .control _ => s.control == .capped
  | _ => false

/-- The step finishes a reset. -/
def finishesReset (s : BeginFrameThreads) : ThreadStep → Bool
  | .control _ =>
    match s.control with
    | .loaded _ => true
    | _ => false
  | _ => false

/-- Sent and not counted, or counted: the render thread loses none. -/
theorem stepRender_counts (s : BeginFrameThreads) :
    s.stepRender.host.beginFramesSent + s.stepRender.uncounted =
      s.host.beginFramesSent + s.uncounted + s.renderAsks.toNat := by
  cases h : s.render with
  | idle =>
    simp only [stepRender, h]
    split <;> simp [uncounted, renderAsks, h]
  | loadedDone now sent done =>
    simp only [stepRender, h]
    generalize (if done < sent then sent - done else 0) = inFlight
    split <;> simp [uncounted, renderAsks, h]
  | admitted now =>
    simp only [stepRender, h]
    split <;> simp [uncounted, renderAsks, h]
  | _ => simp [stepRender, uncounted, renderAsks, h]

theorem callback_paintsCompleted (s : BeginFrameThreads) (c : Callback) :
    (s.step (.callback c)).host.painter.paintsCompleted =
      s.host.painter.paintsCompleted + (s.answers (.callback c)).toNat := by
  by_cases hpaint : ∃ p, c = .paint p
  · obtain ⟨p, rfl⟩ := hpaint
    exact (s.host.painter.onAcceleratedPaint_published p).2
  · have hnone : s.answers (.callback c) = false := by
      cases c with
      | paint p => exact absurd ⟨p, rfl⟩ hpaint
      | _ => rfl
    rw [hnone]
    exact (s.host.painter.step_quiet fun p hc => hpaint ⟨p, hc⟩).paintsCompleted

end BeginFrameThreads

/-- The threads, the begin frames CEF has been asked for and has not answered, whether a reset has
finished, and what has happened since the last load of a reset. -/
structure DebtRun where
  threads : BeginFrameThreads
  unanswered : ℕ
  reset : Bool
  /-- The begin frames that were unanswered at the load. -/
  openAtLoad : ℕ
  /-- The begin frames that were sent and not counted at the load. -/
  uncountedAtLoad : ℕ
  answeredSince : ℕ

namespace DebtRun

def init (host : OsrHandler) : DebtRun := ⟨.init host, 0, false, 0, 0, 0⟩

def step (r : DebtRun) (a : ThreadStep) : DebtRun where
  threads := r.threads.step a
  unanswered := r.unanswered + (r.threads.asks a).toNat - (r.threads.answers a).toNat
  reset := r.reset || r.threads.finishesReset a
  openAtLoad := if r.threads.loadsSent a then r.unanswered else r.openAtLoad
  uncountedAtLoad := if r.threads.loadsSent a then r.threads.uncounted else r.uncountedAtLoad
  answeredSince :=
    if r.threads.loadsSent a then 0 else r.answeredSince + (r.threads.answers a).toNat

/-- A paint publishes and answers a begin frame, and no nudge is sent. -/
def OneToOne (r : DebtRun) : ThreadStep → Prop
  | .callback (.paint p) => 0 < r.unanswered ∧ r.threads.host.painter.publishes p = true
  | .input _ => r.threads.inputAsks = false
  | _ => True

instance (r : DebtRun) : ∀ a, Decidable (r.OneToOne a)
  | .callback (.paint _) => inferInstanceAs (Decidable (_ ∧ _))
  | .callback (.loadStart _) => isTrue trivial
  | .callback (.loadEnd _ _) => isTrue trivial
  | .callback (.loadError _) => isTrue trivial
  | .callback (.cursorChange _) => isTrue trivial
  | .callback (.popupShow _) => isTrue trivial
  | .callback (.popupSize _) => isTrue trivial
  | .callback (.resize _ _) => isTrue trivial
  | .callback (.setFlushIntervalFrames _) => isTrue trivial
  | .input _ => inferInstanceAs (Decidable (_ = _))
  | .time _ => isTrue trivial
  | .render => isTrue trivial
  | .control _ => isTrue trivial

/-- Once a reset has finished, what `TrySendBeginFrame` takes to be in flight is. -/
def Settled (r : DebtRun) : Prop := r.reset = true → r.threads.host.inFlight ≤ r.unanswered

/-- A reset finishes only if no more begin frames have been answered since its load than were
unanswered and counted then. -/
def Covered (r : DebtRun) (a : ThreadStep) : Prop :=
  r.threads.finishesReset a = true → r.uncountedAtLoad + r.answeredSince ≤ r.openAtLoad

instance (r : DebtRun) (a : ThreadStep) : Decidable (r.Covered a) :=
  inferInstanceAs (Decidable (_ → _))

/-- The counters, and the value loaded by a reset, against the begin frames that are unanswered. -/
structure Inv (r : DebtRun) : Prop where
  counted : r.threads.host.beginFramesSent + r.threads.uncounted ≤
    r.threads.host.painter.paintsCompleted + r.unanswered
  loaded : ∀ sent, r.threads.control = .loaded sent →
    r.threads.host.beginFramesSent + r.threads.uncounted + r.openAtLoad =
      sent + r.uncountedAtLoad + r.unanswered + r.answeredSince

theorem inv_init (names : SharedMemoryNames) (d3d : D3DInterfaces) (width height : UInt32)
    (browser : Option BrowserId) :
    (init { OsrHandler.init names d3d width height with browser := browser }).Inv :=
  ⟨Nat.le_refl _, fun sent h => by cases h⟩

variable {r : DebtRun}

theorem Inv.settled (h : r.Inv) : r.Settled := by
  intro _
  have hcounted := h.counted
  rw [OsrHandler.inFlight_eq]
  omega

/-- A step that is not one of a reset's. -/
theorem Inv.of_counts (h : r.Inv) {a : ThreadStep} (hloads : r.threads.loadsSent a = false)
    (hcontrol : ∀ sent, (r.threads.step a).control = .loaded sent →
      r.threads.control = .loaded sent)
    (hsent : (r.threads.step a).host.beginFramesSent + (r.threads.step a).uncounted =
      r.threads.host.beginFramesSent + r.threads.uncounted + (r.threads.asks a).toNat)
    (hdone : (r.threads.step a).host.painter.paintsCompleted =
      r.threads.host.painter.paintsCompleted + (r.threads.answers a).toNat)
    (hanswered : (r.threads.answers a).toNat ≤ r.unanswered) : (r.step a).Inv := by
  constructor
  · have hcounted := h.counted
    simp only [step]
    omega
  · intro sent hsent'
    have hloaded := h.loaded sent (hcontrol sent hsent')
    simp only [step, hloads, Bool.false_eq_true, if_false]
    omega

/-- The control thread sends and answers no begin frame. -/
theorem control_books (r : DebtRun) (evt : ControlEvent) :
    (r.step (.control evt)).threads.host.beginFramesSent +
        (r.step (.control evt)).threads.uncounted =
      r.threads.host.beginFramesSent + r.threads.uncounted ∧
    (r.step (.control evt)).unanswered = r.unanswered := by
  obtain ⟨-, hrender, hsent⟩ := r.threads.stepControl_frame evt
  refine ⟨?_, rfl⟩
  change (r.threads.stepControl evt).host.beginFramesSent +
    (r.threads.stepControl evt).uncounted = _
  rw [hsent, BeginFrameThreads.uncounted, hrender, BeginFrameThreads.uncounted]

theorem Inv.control (h : r.Inv) {evt : ControlEvent} (hcovered : r.Covered (.control evt)) :
    (r.step (.control evt)).Inv := by
  obtain ⟨hsent, hunanswered⟩ := r.control_books evt
  have hcounted := h.counted
  cases hcontrol : r.threads.control with
  | idle =>
    have hnext : (∀ sent, (r.step (.control evt)).threads.control ≠ .loaded sent) ∧
        (r.step (.control evt)).threads.host.painter.paintsCompleted =
          r.threads.host.painter.paintsCompleted := by
      simp only [step, BeginFrameThreads.step]
      cases hb : r.threads.host.browser with
      | none => simp [BeginFrameThreads.stepControl, hcontrol, hb]
      | some b =>
        cases evt <;>
          simp [BeginFrameThreads.stepControl, hcontrol, hb, OsrHandler.SetsCap,
            OsrHandler.handleControlEvent_counters]
    have hloads : r.threads.loadsSent (.control evt) = false := by
      rw [BeginFrameThreads.loadsSent, hcontrol]
      rfl
    exact h.of_counts hloads (fun sent hp => absurd hp (hnext.1 sent)) hsent hnext.2
      (Nat.zero_le _)
  | capped =>
    have hnext : (r.step (.control evt)).threads.control =
          .loaded r.threads.host.beginFramesSent ∧
        (r.step (.control evt)).threads.host.painter.paintsCompleted =
          r.threads.host.painter.paintsCompleted := by
      simp [step, BeginFrameThreads.step, BeginFrameThreads.stepControl, hcontrol]
    have hloads : r.threads.loadsSent (.control evt) = true := by
      rw [BeginFrameThreads.loadsSent, hcontrol]
      rfl
    have hload : (r.step (.control evt)).openAtLoad = r.unanswered ∧
        (r.step (.control evt)).uncountedAtLoad = r.threads.uncounted ∧
        (r.step (.control evt)).answeredSince = 0 := by
      simp [step, hloads]
    constructor
    · rw [hsent, hunanswered, hnext.2]
      exact hcounted
    · intro sent hp
      rw [hnext.1] at hp
      cases hp
      rw [hsent, hunanswered, hload.1, hload.2.1, hload.2.2]
      omega
  | loaded sent =>
    -- the store: what it overwrites is covered
    have hnext : (r.step (.control evt)).threads.control = .idle ∧
        (r.step (.control evt)).threads.host.painter.paintsCompleted = sent := by
      simp [step, BeginFrameThreads.step, BeginFrameThreads.stepControl, hcontrol]
    have hfinishes : r.threads.finishesReset (.control evt) = true := by
      rw [BeginFrameThreads.finishesReset, hcontrol]
    have hloaded := h.loaded sent hcontrol
    have hle := hcovered hfinishes
    constructor
    · rw [hsent, hunanswered, hnext.2]
      omega
    · intro sent' hp
      rw [hnext.1] at hp
      cases hp

/-- **Any step.** -/
theorem Inv.next (h : r.Inv) {a : ThreadStep} (hone : r.OneToOne a) (hcovered : r.Covered a) :
    (r.step a).Inv := by
  cases a with
  | time now => exact h.of_counts rfl (fun _ hp => hp) rfl rfl (Nat.zero_le _)
  | render =>
    obtain ⟨-, hcontrol, hpainter, -⟩ := r.threads.stepRender_frame
    refine h.of_counts rfl (fun sent hp => hcontrol.symm.trans hp) r.threads.stepRender_counts ?_
      (Nat.zero_le _)
    exact congrArg Painter.paintsCompleted hpainter
  | input spurious =>
    obtain ⟨hrender, hcontrol, hpainter, hsent⟩ := r.threads.stepInput_frame spurious
    have hquiet : r.threads.inputAsks = false := hone
    refine h.of_counts rfl (fun sent hp => hcontrol.symm.trans hp) ?_
      (congrArg Painter.paintsCompleted hpainter) (Nat.zero_le _)
    change (r.threads.stepInput spurious).host.beginFramesSent +
      (r.threads.stepInput spurious).uncounted = _ + r.threads.inputAsks.toNat
    rw [hsent, BeginFrameThreads.uncounted, hrender, hquiet]
    rfl
  | control evt => exact h.control hcovered
  | callback c =>
    refine h.of_counts rfl (fun _ hp => hp) rfl (r.threads.callback_paintsCompleted c) ?_
    cases c with
    | paint p =>
      rw [BeginFrameThreads.answers, hone.2]
      exact hone.1
    | _ => exact Nat.zero_le _

/-- **A reset that is not covered** loses answers: the begin frames taken to be in flight exceed
the unanswered ones at once, or when the render thread has counted the one it has just sent. -/
theorem Inv.lost (h : r.Inv) {evt : ControlEvent} (hlost : ¬ r.Covered (.control evt)) :
    ¬ (r.step (.control evt)).Settled ∨ ¬ ((r.step (.control evt)).step .render).Settled := by
  have hfinishes : r.threads.finishesReset (.control evt) = true := by
    by_contra hnot
    exact hlost fun hyes => absurd hyes hnot
  have hlt : r.openAtLoad < r.uncountedAtLoad + r.answeredSince := by
    by_contra hle
    exact hlost fun _ => Nat.not_lt.mp hle
  obtain ⟨-, hrender, hsent⟩ := r.threads.stepControl_frame evt
  cases hcontrol : r.threads.control with
  | loaded sent =>
    have hloaded := h.loaded sent hcontrol
    have hdone : (r.threads.stepControl evt).host.painter.paintsCompleted = sent := by
      simp [BeginFrameThreads.stepControl, hcontrol]
    have hreset : (r.step (.control evt)).reset = true := by
      change (r.reset || r.threads.finishesReset (.control evt)) = true
      rw [hfinishes, Bool.or_true]
    by_cases hasked : r.threads.render = .asked
    · right
      intro hsettled
      have hle := hsettled (by rw [step, hreset, Bool.true_or])
      have huncounted : r.threads.uncounted = 1 := if_pos hasked
      have hasked' : (r.threads.stepControl evt).render = .asked := hrender.trans hasked
      have hnext : (r.threads.stepControl evt).stepRender.host.beginFramesSent =
            (r.threads.stepControl evt).host.beginFramesSent + 1 ∧
          (r.threads.stepControl evt).stepRender.host.painter =
            (r.threads.stepControl evt).host.painter ∧
          (r.threads.stepControl evt).renderAsks = false := by
        simp [BeginFrameThreads.stepRender, BeginFrameThreads.renderAsks, hasked']
      change (r.threads.stepControl evt).stepRender.host.inFlight ≤
        r.unanswered + 0 - 0 + (r.threads.stepControl evt).renderAsks.toNat - 0 at hle
      rw [OsrHandler.inFlight_eq, hnext.1, hnext.2.1, hnext.2.2, hsent, hdone] at hle
      simp only [Bool.toNat_false] at hle
      omega
    · left
      intro hsettled
      have hle := hsettled hreset
      have huncounted : r.threads.uncounted = 0 := if_neg hasked
      change (r.threads.stepControl evt).host.inFlight ≤ r.unanswered + 0 - 0 at hle
      rw [OsrHandler.inFlight_eq, hsent, hdone] at hle
      omega
  | idle =>
    rw [BeginFrameThreads.finishesReset, hcontrol] at hfinishes
    cases hfinishes
  | capped =>
    rw [BeginFrameThreads.finishesReset, hcontrol] at hfinishes
    cases hfinishes

end DebtRun

/-- **Runs of the threads** in any order, without nudges and with one published paint for each begin
frame: while every reset is covered, what is taken to be in flight after a reset is. And a reset
that is not breaks this, at once or with the next step of the render thread. -/
theorem debt_reset_keeps_books (names : SharedMemoryNames) (d3d : D3DInterfaces)
    (width height : UInt32) (browser : Option BrowserId) (steps : List ThreadStep) :
    let start : DebtRun :=
      .init { OsrHandler.init names d3d width height with browser := browser }
    let r := Runs.run DebtRun.step start steps
    Runs.Along DebtRun.step DebtRun.OneToOne start steps →
      Runs.Along DebtRun.step DebtRun.Covered start steps →
        r.Settled ∧ ∀ evt, ¬ r.Covered (.control evt) →
          ¬ (r.step (.control evt)).Settled ∨
            ¬ ((r.step (.control evt)).step .render).Settled := by
  intro start r hone hcovered
  have hr : r.Inv := Runs.invariant_of_along (fun _ _ h hG => h.next hG.1 hG.2)
    (DebtRun.inv_init names d3d width height browser) (Runs.along_and.mpr ⟨hone, hcovered⟩)
  exact ⟨hr.settled, fun _ => hr.lost⟩

/-- A begin frame is sent, a reset to a cap of 1 runs through, and the begin frame is painted. -/
def uninterruptedReset : List ThreadStep :=
  List.replicate 9 .render ++ List.replicate 3 (.control (.setMaxInFlightBeginFrames 1)) ++
    [.callback (.paint (.succeeding .view [] 1 .smallView))]

theorem debt_reset_keeps_books_uninterrupted :
    let start : DebtRun :=
      .init { OsrHandler.init (buildSharedMemoryNames []) fullD3D 16 16 with browser := some 1 }
    let r := Runs.run DebtRun.step start uninterruptedReset
    Runs.Along DebtRun.step DebtRun.OneToOne start uninterruptedReset ∧
      Runs.Along DebtRun.step DebtRun.Covered start uninterruptedReset ∧
      r.Settled ∧ ∀ evt, ¬ r.Covered (.control evt) →
        ¬ (r.step (.control evt)).Settled ∨
          ¬ ((r.step (.control evt)).step .render).Settled := by
  intro start r
  have hone : Runs.Along DebtRun.step DebtRun.OneToOne start uninterruptedReset := by
    decide +kernel
  have hcovered : Runs.Along DebtRun.step DebtRun.Covered start uninterruptedReset := by
    decide +kernel
  exact ⟨hone, hcovered,
    debt_reset_keeps_books _ _ 16 16 (some 1) uninterruptedReset hone hcovered⟩

/-- A reset to a cap of 1 loads `m_beginFramesSent`; a begin frame is sent and painted; the reset
goes on. -/
def interruptedReset : List ThreadStep :=
  List.replicate 2 (.control (.setMaxInFlightBeginFrames 1)) ++ List.replicate 9 .render ++
    [.callback (.paint (.succeeding .view [] 1 .smallView)),
      .control (.setMaxInFlightBeginFrames 1)]

/-- Nothing is unanswered, and one begin frame is taken to be in flight. -/
theorem interrupted_reset_loses_paint :
    let start : DebtRun :=
      .init { OsrHandler.init (buildSharedMemoryNames []) fullD3D 16 16 with browser := some 1 }
    ¬ (Runs.Along DebtRun.step DebtRun.OneToOne start interruptedReset →
      (Runs.run DebtRun.step start interruptedReset).Settled) := by
  intro start h
  have hone : Runs.Along DebtRun.step DebtRun.OneToOne start interruptedReset := by
    decide +kernel
  exact absurd (h hone (by decide +kernel)) (by decide +kernel)

end CefHost
