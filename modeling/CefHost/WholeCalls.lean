import CefHost.BeginFrameThreads
import CefHost.ConsoleQueue
import CefHost.InputPump
import CefHost.MouseButtons
import CefHost.ResizeWarmup

/-!
# Whole calls

The threads of the host are modelled at two levels. Results about the order of calls take a call as
one step: a turn of the render loop, a nudge, a control event, a paint. Results about races take one
access at a time. Here the second level is shown to contain the first: whatever calls are made one
after the other, the threads have a run of single accesses with the same outcome, that in which no
thread is interrupted.

For the pump of the input ring there are three descriptions of a call: on the ring, on the events
that it reads, and as steps that the buttons are followed along. They agree.

## Main definitions

* `BeginFrameThreads.wholeStep`, `ResizeThreads.wholeStep`, `ConsoleChannel.wholeStep` — one call of
  one of the threads, as a step

## Main results

* `ConsoleChannel.run_read` — `ReadEvent` without interruption
* `whole_calls_covered` — every sequence of calls
-/

namespace CefHost

open FreeRunning

/-! ### Begin frames -/

namespace BeginFrameThreads

/-- No thread is in a call. -/
structure Idle (s : BeginFrameThreads) : Prop where
  render : s.render = .idle
  input : s.input = .idle
  control : s.control = .idle

/-- A call: the sequential functions of `OsrHandler`. -/
def wholeStep (s : BeginFrameThreads) : ThreadStep → BeginFrameThreads
  | .time now => { s with clock := if s.clock ≤ now then now else s.clock }
  | .render => { s with host := (s.host.renderTick s.clock).1 }
  | .input _ => { s with host := (s.host.tryInputNudgeFrame s.clock).1 }
  | .control evt => { s with host := s.host.pumpControl [evt] }
  | .callback c => { s with host := { s.host with painter := s.host.painter.step c } }

theorem Idle.wholeStep {s : BeginFrameThreads} (h : s.Idle) (a : ThreadStep) :
    (s.wholeStep a).Idle := by
  cases a <;> exact ⟨h.render, h.input, h.control⟩

theorem Idle.covers {s : BeginFrameThreads} (h : s.Idle) (a : ThreadStep) :
    ∃ steps, Runs.run step s steps = s.wholeStep a := by
  cases a with
  | time now => exact ⟨[.time now], rfl⟩
  | render =>
    obtain ⟨n, hn⟩ := render_alone h.render
    exact ⟨_, hn⟩
  | input spurious =>
    obtain ⟨n, hn⟩ := input_alone h.input
    exact ⟨_, hn⟩
  | control evt =>
    obtain ⟨n, hn⟩ := control_alone h.control evt
    exact ⟨_, hn⟩
  | callback c => exact ⟨[.callback c], rfl⟩

end BeginFrameThreads

/-! ### Paints and resizes -/

namespace ResizeThreads

structure Idle (s : ResizeThreads) : Prop where
  paint : s.paint = .idle
  resize : s.resize = .idle

/-- A callback, or a call of `Resize` on the control thread. -/
def wholeStep (s : ResizeThreads) : ResizeStep → ResizeThreads
  | .ui (.resize _ _) => s
  | .ui c => { s with painter := s.painter.step c }
  | .control width height => { s with painter := s.painter.resize width height }

theorem Idle.wholeStep {s : ResizeThreads} (h : s.Idle) (a : ResizeStep) :
    (s.wholeStep a).Idle := by
  cases a with
  | ui c => cases c <;> exact ⟨h.paint, h.resize⟩
  | control width height => exact ⟨h.paint, h.resize⟩

theorem Idle.covers {s : ResizeThreads} (h : s.Idle) (a : ResizeStep) :
    ∃ steps, Runs.run step s steps = s.wholeStep a := by
  cases a with
  | control width height => exact ⟨_, resize_alone h.resize width height⟩
  | ui c =>
    by_cases hpaint : ∃ p, c = .paint p
    · obtain ⟨p, rfl⟩ := hpaint
      obtain ⟨n, hn⟩ := paint_alone h.paint p
      exact ⟨_, hn⟩
    · -- nothing else touches the two fields
      refine ⟨[.ui c], ?_⟩
      rw [Runs.run_cons, Runs.run_nil, step, stepUi, h.paint]
      cases c with
      | paint p => exact absurd ⟨p, rfl⟩ hpaint
      | _ => rfl

end ResizeThreads

/-! ### The console ring -/

namespace ConsoleChannel

variable {c : Capacity} {α : Type*}

structure Idle (s : ConsoleChannel c α) : Prop where
  writer : s.writer = .idle
  reader : s.reader = .idle

/-- A call of `WriteEvent`, or of `ReadEvent` on the other side. -/
def wholeStep (s : ConsoleChannel c α) : ConsoleAction α → ConsoleChannel c α
  | .write e => { s with ring := s.ring.writeEvent e, written := s.written ++ [e] }
  | .read =>
    match s.ring.readEvent with
    | some (e, b) => { s with ring := b, results := s.results ++ [.event e] }
    | none => { s with results := s.results ++ [.empty] }

/-- A reader left alone computes `readEvent`: in four accesses, or in two when it finds the ring
empty. -/
theorem run_read (s : ConsoleChannel c α) (h : s.reader = .idle) :
    Runs.run step s (List.replicate (if s.ring.readIndex = s.ring.writeIndex then 2 else 4) .read)
      = s.wholeStep .read := by
  by_cases hempty : s.ring.readIndex = s.ring.writeIndex
  · rw [if_pos hempty]
    simp [List.replicate, step, Reader.step, wholeStep, RingBuffer.readEvent, h, hempty]
  · rw [if_neg hempty]
    simp [List.replicate, step, Reader.step, wholeStep, RingBuffer.readEvent, h, hempty]

theorem Idle.wholeStep {s : ConsoleChannel c α} (h : s.Idle) (a : ConsoleAction α) :
    (s.wholeStep a).Idle := by
  cases a with
  | write e => exact ⟨h.writer, h.reader⟩
  | read =>
    rw [ConsoleChannel.wholeStep]
    split
    · exact ⟨h.writer, h.reader⟩
    · exact ⟨h.writer, h.reader⟩

theorem Idle.covers {s : ConsoleChannel c α} (h : s.Idle) (a : ConsoleAction α) :
    ∃ steps, Runs.run step s steps = s.wholeStep a := by
  cases a with
  | write e => exact ⟨_, s.run_write h.writer e⟩
  | read => exact ⟨_, s.run_read h.reader⟩

end ConsoleChannel

/-! ### The pump -/

/-- The three descriptions of a call of the pump. -/
theorem pumpInputRing_agrees (browser : BrowserId) (inputEnabled : ℕ → Bool)
    (ring : RingBuffer inputRing InputEvent) (s : MouseRun) :
    let p := pumpInputRing (some browser) inputEnabled ring s.mouseModifiers
    let read := (PumpCall.reads ring inputEnabled 0).take maxEventsPerPump
    (Runs.run MouseRun.step s (MouseRun.ofLoads read)).mouseModifiers = p.mouseModifiers ∧
      (p.log.flatMap PumpStep.actions).filterMap PumpAction.call =
        consumeCalls s.mouseModifiers read := by
  intro p read
  obtain ⟨hmodifiers, hactions⟩ :=
    pumpInputRing_eq_pumpInput browser inputEnabled ring s.mouseModifiers
  constructor
  · rw [MouseRun.run_pumpInput s browser]
    exact hmodifiers.symm
  · rw [hactions, pumpInput_calls]

/-- **Whole calls are runs of single accesses.** With no thread in a call, whatever calls are made
one after the other, there is a run of single accesses with the same outcome: of the threads around
begin frames, of the two threads that touch the warm-up, and of the two sides of the console ring.
And a call of the pump on a ring leaves the buttons, and makes the calls into CEF, that follow from
its events one by one. -/
theorem whole_calls_covered :
    (∀ s : BeginFrameThreads, s.Idle → ∀ calls, ∃ steps,
      Runs.run BeginFrameThreads.step s steps = Runs.run BeginFrameThreads.wholeStep s calls) ∧
    (∀ s : ResizeThreads, s.Idle → ∀ calls, ∃ steps,
      Runs.run ResizeThreads.step s steps = Runs.run ResizeThreads.wholeStep s calls) ∧
    (∀ (c : Capacity) (α : Type) (s : ConsoleChannel c α), s.Idle → ∀ calls, ∃ steps,
      Runs.run ConsoleChannel.step s steps = Runs.run ConsoleChannel.wholeStep s calls) ∧
    ∀ (browser : BrowserId) (inputEnabled : ℕ → Bool) (ring : RingBuffer inputRing InputEvent)
      (s : MouseRun),
      let p := pumpInputRing (some browser) inputEnabled ring s.mouseModifiers
      let read := (PumpCall.reads ring inputEnabled 0).take maxEventsPerPump
      (Runs.run MouseRun.step s (MouseRun.ofLoads read)).mouseModifiers = p.mouseModifiers ∧
        (p.log.flatMap PumpStep.actions).filterMap PumpAction.call =
          consumeCalls s.mouseModifiers read := by
  refine ⟨fun s h calls => ?_, fun s h calls => ?_, fun c α s h calls => ?_, ?_⟩
  · exact Runs.covers (fun _ a h => h.wholeStep a) (fun _ a h => h.covers a) h calls
  · exact Runs.covers (fun _ a h => h.wholeStep a) (fun _ a h => h.covers a) h calls
  · exact Runs.covers (fun _ a h => h.wholeStep a) (fun _ a h => h.covers a) h calls
  · exact pumpInputRing_agrees

end CefHost
