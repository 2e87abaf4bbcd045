import CefHost.BeginFrames
import CefHost.Library.Runs

/-!
# The threads around begin frames

`RenderThreadMain`, `PumpInput` and `PumpControl` run on three threads and share the atomics of
`OsrHandler`, among them the time of the last begin frame and the two counters of the cap. Here
each thread takes one atomic access, clock reading or call into CEF at a time, and the steps of the
threads come in any order; CEF's callbacks come between them.

Of the control events only `SetMaxInFlightBeginFrames` is taken apart: no other writes anything
that these functions read in more than one place.

## Main definitions

* `RenderPoint`, `InputPoint`, `ControlPoint` — where a thread is, with the values it has loaded
* `BeginFrameThreads`, `ThreadStep` — the state, and the next step of one of the threads

## Main results

* `BeginFrameThreads.render_alone`, `input_alone`, `control_alone` — a thread that is not
  interrupted does what the sequential functions of `OsrHandler` do
-/

namespace CefHost

/-- A turn of the loop in `RenderThreadMain`, through `TrySendBeginFrame`. -/
inductive RenderPoint
  | idle
  /-- `m_paused` loaded and false. -/
  | entered
  | clocked (now : UInt64)
  /-- `m_beginFramesSent` loaded. -/
  | loadedSent (now : UInt64) (sent : ℕ)
  /-- `m_paintsCompleted` loaded. -/
  | loadedDone (now : UInt64) (sent done : ℕ)
  /-- The cap leaves room. -/
  | admitted (now : UInt64)
  /-- There is a browser. -/
  | stamping (now : UInt64)
  /-- `m_lastBeginFrameUs` stored. -/
  | stamped
  /-- `SendExternalBeginFrame` called. -/
  | asked
deriving DecidableEq

/-- A call of `TryInputNudgeFrame`. -/
inductive InputPoint
  | idle
  /-- `m_paused` loaded and false. -/
  | entered
  | clocked (now : UInt64)
  /-- `m_beginFrameIntervalNs` loaded. -/
  | paced (now intervalNs : UInt64)
  /-- `prev` loaded, at the top of the loop. -/
  | loaded (now intervalNs prev : UInt64)
  /-- The begin frame at `prev` is long enough ago. -/
  | passed (now intervalNs prev : UInt64)
  /-- The exchange has succeeded. -/
  | swapped (now intervalNs : UInt64)
deriving DecidableEq

/-- A control event, through `HandleControlSetMaxInFlightBeginFrames`. -/
inductive ControlPoint
  | idle
  /-- The cap is stored. -/
  | capped
  /-- `m_beginFramesSent` loaded. -/
  | loaded (sent : ℕ)
deriving DecidableEq

/-- The handler, the clock in microseconds, and the three threads. -/
structure BeginFrameThreads where
  host : OsrHandler
  clock : UInt64
  render : RenderPoint
  input : InputPoint
  control : ControlPoint

/-- The next step of a thread, a callback of CEF, or time passing. -/
inductive ThreadStep
  /-- The clock shows `now`, if that is not earlier than before. -/
  | time (now : UInt64)
  | render
  /-- `compare_exchange_weak` may fail although the value is the expected one. -/
  | input (spurious : Bool)
  /-- The event matters only between two events. -/
  | control (evt : ControlEvent)
  | callback (c : Callback)

/-- `nudgeUs`, from the interval loaded. -/
def nudgeGap (intervalNs : UInt64) : UInt64 :=
  let cadenceUs := if 0 < intervalNs / 1000 then intervalNs / 1000 else 1
  if cadenceUs < 2000 then cadenceUs else 2000

namespace BeginFrameThreads

/-- Between two turns of each thread, with the clock at 0. -/
def init (host : OsrHandler) : BeginFrameThreads := ⟨host, 0, .idle, .idle, .idle⟩

def stepRender (s : BeginFrameThreads) : BeginFrameThreads :=
  match s.render with
  | .idle => if s.host.paused then s else { s with render := .entered }
  | .entered => { s with render := .clocked s.clock }
  | .clocked now => { s with render := .loadedSent now s.host.beginFramesSent }
  | .loadedSent now sent =>
    { s with render := .loadedDone now sent s.host.painter.paintsCompleted }
  | .loadedDone now sent done =>
    let inFlight := if done < sent then sent - done else 0
    if 0 < s.host.maxInFlightBeginFrames ∧ s.host.maxInFlightBeginFrames.toNat ≤ inFlight then
      { s with render := .idle }
    else { s with render := .admitted now }
  | .admitted now =>
    match s.host.browser with
    | some _ => { s with render := .stamping now }
    | none => { s with render := .idle }
  | .stamping now => { s with host := { s.host with lastBeginFrameUs := now }, render := .stamped }
  | .stamped => { s with render := .asked }
  | .asked =>
    { s with
      host := { s.host with beginFramesSent := s.host.beginFramesSent + 1 }
      render := .idle }

/-- Whether `compare_exchange_weak` stores, when it expects `prev`. -/
def exchanges (s : BeginFrameThreads) (spurious : Bool) (prev : UInt64) : Bool :=
  !spurious && s.host.lastBeginFrameUs == prev

def stepInput (s : BeginFrameThreads) (spurious : Bool) : BeginFrameThreads :=
  match s.input with
  | .idle => if s.host.paused then s else { s with input := .entered }
  | .entered => { s with input := .clocked s.clock }
  | .clocked now => { s with input := .paced now s.host.beginFrameIntervalNs }
  | .paced now intervalNs => { s with input := .loaded now intervalNs s.host.lastBeginFrameUs }
  | .loaded now intervalNs prev =>
    if now - prev < nudgeGap intervalNs then { s with input := .idle }
    else { s with input := .passed now intervalNs prev }
  | .passed now intervalNs prev =>
    if s.exchanges spurious prev then
      { s with
        host := { s.host with lastBeginFrameUs := now }
        input := .swapped now intervalNs }
    else { s with input := .loaded now intervalNs s.host.lastBeginFrameUs }
  | .swapped _ _ => { s with input := .idle }

def stepControl (s : BeginFrameThreads) (evt : ControlEvent) : BeginFrameThreads :=
  match s.control with
  | .idle =>
    match s.host.browser, evt with
    | some _, .setMaxInFlightBeginFrames value =>
      { s with
        host := { s.host with maxInFlightBeginFrames := if value = 0 then 2 else value }
        control := .capped }
    | some _, evt => { s with host := s.host.handleControlEvent evt }
    | none, _ => s
  | .capped => { s with control := .loaded s.host.beginFramesSent }
  | .loaded sent =>
    { s with
      host := { s.host with painter := { s.host.painter with paintsCompleted := sent } }
      control := .idle }

def step (s : BeginFrameThreads) : ThreadStep → BeginFrameThreads
  | .time now => { s with clock := if s.clock ≤ now then now else s.clock }
  | .render => s.stepRender
  | .input spurious => s.stepInput spurious
  | .control evt => s.stepControl evt
  | .callback c => { s with host := { s.host with painter := s.host.painter.step c } }

/-- The render thread's step calls `SendExternalBeginFrame`. -/
def renderAsks (s : BeginFrameThreads) : Bool := s.render == .stamped

/-- The input thread's step calls `SendExternalBeginFrame`. -/
def inputAsks (s : BeginFrameThreads) : Bool :=
  match s.input with
  | .swapped _ _ => s.host.browser.isSome
  | _ => false

variable {s : BeginFrameThreads}

/-! ### What a step leaves alone -/

theorem stepRender_frame (s : BeginFrameThreads) :
    s.stepRender.input = s.input ∧ s.stepRender.control = s.control ∧
      s.stepRender.host.painter = s.host.painter ∧ s.stepRender.host.browser = s.host.browser := by
  rw [stepRender]
  split
  · split <;> exact ⟨rfl, rfl, rfl, rfl⟩
  · exact ⟨rfl, rfl, rfl, rfl⟩
  · exact ⟨rfl, rfl, rfl, rfl⟩
  · exact ⟨rfl, rfl, rfl, rfl⟩
  · rename_i now sent done _
    generalize (if done < sent then sent - done else 0) = inFlight
    dsimp only
    split <;> exact ⟨rfl, rfl, rfl, rfl⟩
  · split <;> exact ⟨rfl, rfl, rfl, rfl⟩
  · exact ⟨rfl, rfl, rfl, rfl⟩
  · exact ⟨rfl, rfl, rfl, rfl⟩
  · exact ⟨rfl, rfl, rfl, rfl⟩

theorem stepInput_frame (s : BeginFrameThreads) (spurious : Bool) :
    (s.stepInput spurious).render = s.render ∧ (s.stepInput spurious).control = s.control ∧
      (s.stepInput spurious).host.painter = s.host.painter ∧
      (s.stepInput spurious).host.beginFramesSent = s.host.beginFramesSent := by
  rw [stepInput]
  split
  · split <;> exact ⟨rfl, rfl, rfl, rfl⟩
  · exact ⟨rfl, rfl, rfl, rfl⟩
  · exact ⟨rfl, rfl, rfl, rfl⟩
  · exact ⟨rfl, rfl, rfl, rfl⟩
  · split <;> exact ⟨rfl, rfl, rfl, rfl⟩
  · split <;> exact ⟨rfl, rfl, rfl, rfl⟩
  · exact ⟨rfl, rfl, rfl, rfl⟩

theorem stepControl_frame (s : BeginFrameThreads) (evt : ControlEvent) :
    (s.stepControl evt).input = s.input ∧ (s.stepControl evt).render = s.render ∧
      (s.stepControl evt).host.beginFramesSent = s.host.beginFramesSent := by
  cases h : s.control with
  | idle =>
    cases hb : s.host.browser with
    | none => simp [stepControl, h, hb]
    | some b => cases evt <;> simp [stepControl, h, hb, OsrHandler.handleControlEvent_counters]
  | capped => simp [stepControl, h]
  | loaded sent => simp [stepControl, h]

/-! ### A thread that is not interrupted -/

/-- **The render thread alone** does `renderTick`. -/
theorem render_alone (h : s.render = .idle) :
    ∃ n, Runs.run step s (List.replicate n .render) =
      { s with host := (s.host.renderTick s.clock).1 } := by
  obtain ⟨host, clock, render, input, control⟩ := s
  obtain rfl : render = .idle := h
  dsimp only
  by_cases hpaused : host.paused = true
  · refine ⟨0, ?_⟩
    rw [OsrHandler.renderTick, if_pos hpaused]
    rfl
  rw [OsrHandler.renderTick, if_neg hpaused, OsrHandler.trySendBeginFrame]
  by_cases hcap : 0 < host.maxInFlightBeginFrames ∧
      host.maxInFlightBeginFrames.toNat ≤ host.inFlight
  · refine ⟨5, ?_⟩
    rw [if_pos hcap]
    rw [OsrHandler.inFlight] at hcap
    simp [List.replicate_succ, step, stepRender, hpaused, hcap]
  · rw [if_neg hcap]
    rw [OsrHandler.inFlight] at hcap
    cases hb : host.browser with
    | none =>
      refine ⟨6, ?_⟩
      simp [List.replicate_succ, step, stepRender, hpaused, hcap, hb]
    | some b =>
      refine ⟨9, ?_⟩
      simp [List.replicate_succ, step, stepRender, hpaused, hcap, hb]

/-- **The input thread alone** does `tryInputNudgeFrame`, if no exchange fails spuriously. -/
theorem input_alone (h : s.input = .idle) :
    ∃ n, Runs.run step s (List.replicate n (.input false)) =
      { s with host := (s.host.tryInputNudgeFrame s.clock).1 } := by
  obtain ⟨host, clock, render, input, control⟩ := s
  obtain rfl : input = .idle := h
  dsimp only
  by_cases hpaused : host.paused = true
  · refine ⟨0, ?_⟩
    rw [OsrHandler.tryInputNudgeFrame, if_pos hpaused]
    rfl
  rw [OsrHandler.tryInputNudgeFrame, if_neg hpaused]
  have hgap : nudgeGap host.beginFrameIntervalNs = host.nudgeUs := rfl
  by_cases hrecent : clock - host.lastBeginFrameUs < host.nudgeUs
  · refine ⟨5, ?_⟩
    simp [List.replicate_succ, step, stepInput, hpaused, hgap, hrecent]
  · refine ⟨7, ?_⟩
    simp [List.replicate_succ, step, stepInput, exchanges, hpaused, hgap, hrecent]

/-- **The control thread alone** does `pumpControl`, event by event. -/
theorem control_alone (h : s.control = .idle) (evt : ControlEvent) :
    ∃ n, Runs.run step s (List.replicate n (.control evt)) =
      { s with host := s.host.pumpControl [evt] } := by
  obtain ⟨host, clock, render, input, control⟩ := s
  obtain rfl : control = .idle := h
  dsimp only
  cases hb : host.browser with
  | none =>
    refine ⟨0, ?_⟩
    rw [OsrHandler.pumpControl, hb]
    rfl
  | some b =>
    rw [OsrHandler.pumpControl, hb]
    cases evt with
    | setMaxInFlightBeginFrames value =>
      refine ⟨3, ?_⟩
      simp [List.replicate_succ, step, stepControl, hb, OsrHandler.handleControlEvent,
        OsrHandler.handleControlSetMaxInFlightBeginFrames]
    | _ =>
      refine ⟨1, ?_⟩
      simp [step, stepControl, hb]

end BeginFrameThreads

end CefHost
