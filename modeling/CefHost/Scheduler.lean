import CefHost.Library.RateBound
import CefHost.Library.Runs

/-!
# The frame scheduler

The loop of `RenderThreadMain`: a deadline that advances by one frame interval, a wait for it,
`TrySendBeginFrame`, and a new start for the deadline after a major stall.

## Representation

The thread stops at every reading of the performance counter and of an atomic; a step is one such
reading and what the thread does from there to the next. `SchedulerPoint` is the place, with the
locals that live across it. A step is given what the thread finds there (`Moment`), among it how
many ticks have passed since the step before, so that every trace of the counter is non-decreasing
and every non-decreasing trace is one of these. How late a wait returns is the environment's choice.

`m_running` is written by `StopRenderLoop` alone while the thread exists, and only to false:
`StartRenderLoop` sets it before it creates the thread, and `StopRenderLoop` joins the thread. So
it is a field here, and `SchedulerStep.stop` clears it.

Signed 64-bit values are integers: that no expression leaves the range of its type is a matter of
its own. Unsigned ones wrap. Division of signed values is C's.

## Main definitions

* `TickRate` — the counter's frequency, with `spinTicks`, `frameTicks`, `dueTime`, `sleepMs`,
  `lateUs`
* `RenderThread`, `RenderThread.step` — the loop
* `RenderThread.callsIn` — the calls of `TrySendBeginFrame` in a window of time

## Main results

* `RenderThread.Inv.step` — how deadline, counter and calls are related wherever the thread is
* `RenderThread.begin_frame_rate` — the rate bound, and no drift
-/

namespace CefHost

open RateBound

/-- What `QueryPerformanceFrequency` reports, 1 for a value that is not positive. -/
structure TickRate where
  freq : ℤ
  pos : 0 < freq

namespace TickRate

def ofQuery (quadPart : ℤ) : TickRate :=
  if h : 0 < quadPart then ⟨quadPart, h⟩ else ⟨1, Int.one_pos⟩

variable (q : TickRate)

/-- About half a millisecond. -/
def spinTicks : ℤ := if 0 < q.freq.tdiv 2000 then q.freq.tdiv 2000 else 1

/-- The interval in nanoseconds, 60 Hz for 0. -/
def effectiveNs (intervalNs : UInt64) : UInt64 := if 0 < intervalNs then intervalNs else 16666666

def frameTicks (intervalNs : UInt64) : ℤ :=
  let ticks := ((effectiveNs intervalNs * UInt64.ofInt q.freq + 999999999) / 1000000000).toInt64
  if ticks.toInt ≤ 0 then 1 else ticks.toInt

/-- `due100ns`: a relative due time, in 100 ns. -/
def dueTime (sleepTicks : ℤ) : ℤ :=
  let due := -((sleepTicks * 10000000).tdiv q.freq)
  if due = 0 then -1 else due

def sleepMs (sleepTicks : ℤ) : UInt32 :=
  let ms := UInt32.ofInt ((sleepTicks * 1000).tdiv q.freq)
  if ms = 0 then 1 else ms

def lateUs (lateTicks : ℤ) : UInt64 := UInt64.ofInt ((lateTicks * 1000000).tdiv q.freq)

theorem frameTicks_pos (intervalNs : UInt64) : 0 < q.frameTicks intervalNs := by
  simp only [frameTicks]
  split <;> omega

end TickRate

/-- What `waitUntil` does while the deadline has not come. -/
inductive WaitRequest
  /-- `SetWaitableTimerEx` and the wait for the timer. -/
  | timer (due100ns : ℤ)
  | sleep (ms : UInt32)
  | yield
deriving DecidableEq

/-- A call of `TrySendBeginFrame`: the counter at that moment, and the deadline it was made for. -/
structure BeginFrameCall where
  deadline : ℤ
  tick : ℤ
deriving DecidableEq

/-- Where the thread is. -/
inductive SchedulerPoint
  /-- `while (m_running)` of the loop. -/
  | frame
  /-- At `m_beginFrameIntervalNs.load`. -/
  | loading
  /-- `while (m_running)` of `waitUntil`. -/
  | waiting (frameTicks : ℤ)
  /-- At `now`, in `waitUntil`. -/
  | measuring (frameTicks : ℤ)
  /-- `waitUntil` has returned: at `if (!m_running)`. -/
  | waited (frameTicks : ℤ)
  /-- At `wakeTick`. -/
  | waking (frameTicks : ℤ)
  /-- The lateness is recorded: at `if (!m_paused)`. -/
  | calling (frameTicks : ℤ)
  /-- At `afterTick`. -/
  | resync (frameTicks : ℤ)
  | stopped
deriving DecidableEq

/-- What the thread finds when it goes on: the ticks since its last step, the two atomics, and
whether `SetWaitableTimerEx` succeeds. -/
structure Moment where
  elapsed : ℕ
  intervalNs : UInt64
  paused : Bool
  timerSet : Bool
deriving DecidableEq

inductive SchedulerStep
  /-- `StopRenderLoop` clears `m_running`. -/
  | stop
  | go (m : Moment)
deriving DecidableEq

/-- The thread, and what it has done: the deadlines it has set, its requests to wait, the late
wake-ups it has counted, and its calls. `clock` is the performance counter. -/
structure RenderThread where
  hiResTimer : Bool
  running : Bool
  clock : ℤ
  nextTick : ℤ
  point : SchedulerPoint
  deadlines : List ℤ
  requests : List WaitRequest
  misses : List UInt64
  calls : List BeginFrameCall

namespace RenderThread

/-- Before the loop: `nextTick` is the time. -/
def start (hiResTimer : Bool) (now : ℤ) : RenderThread where
  hiResTimer := hiResTimer
  running := true
  clock := now
  nextTick := now
  point := .frame
  deadlines := []
  requests := []
  misses := []
  calls := []

/-- The body of `waitUntil`'s loop with `remaining` ticks to go. -/
def waitRequest (q : TickRate) (hiResTimer timerSet : Bool) (remaining : ℤ) : WaitRequest :=
  if q.spinTicks < remaining then
    let sleepTicks := remaining - q.spinTicks
    if hiResTimer then
      if timerSet then .timer (q.dueTime sleepTicks) else .sleep (q.sleepMs sleepTicks)
    else .sleep (q.sleepMs sleepTicks)
  else .yield

/-- The late wake-ups after the one at `wakeTick`: those by more than 500 µs are counted. -/
def recordLateness (q : TickRate) (misses : List UInt64) (nextTick wakeTick : ℤ) : List UInt64 :=
  if nextTick < wakeTick then
    let lateUs := q.lateUs (wakeTick - nextTick)
    if 500 < lateUs then misses ++ [lateUs] else misses
  else misses

/-- What the thread does next. The counter has been advanced. -/
def advance (q : TickRate) (s : RenderThread) (m : Moment) : RenderThread :=
  match s.point with
  | .frame => { s with point := if s.running then .loading else .stopped }
  | .loading =>
    let frameTicks := q.frameTicks m.intervalNs
    { s with
      nextTick := s.nextTick + frameTicks
      deadlines := s.deadlines ++ [s.nextTick + frameTicks]
      point := .waiting frameTicks }
  | .waiting frameTicks =>
    { s with point := if s.running then .measuring frameTicks else .waited frameTicks }
  | .measuring frameTicks =>
    let remaining := s.nextTick - s.clock
    if remaining ≤ 0 then { s with point := .waited frameTicks }
    else
      { s with
        requests := s.requests ++ [waitRequest q s.hiResTimer m.timerSet remaining]
        point := .waiting frameTicks }
  | .waited frameTicks => { s with point := if s.running then .waking frameTicks else .stopped }
  | .waking frameTicks =>
    { s with
      misses := recordLateness q s.misses s.nextTick s.clock
      point := .calling frameTicks }
  | .calling frameTicks =>
    if m.paused then { s with point := .resync frameTicks }
    else { s with calls := s.calls ++ [⟨s.nextTick, s.clock⟩], point := .resync frameTicks }
  | .resync frameTicks =>
    if s.nextTick + frameTicks * 4 < s.clock then { s with nextTick := s.clock, point := .frame }
    else { s with point := .frame }
  | .stopped => s

def step (q : TickRate) (s : RenderThread) : SchedulerStep → RenderThread
  | .stop => { s with running := false }
  | .go m => advance q { s with clock := s.clock + m.elapsed } m

/-- The counter at each call of `TrySendBeginFrame`. -/
def ticks (s : RenderThread) : List ℤ := s.calls.map BeginFrameCall.tick

/-- The calls from `first` to `last`, both included. -/
def callsIn (s : RenderThread) (first last : ℤ) : List BeginFrameCall :=
  s.calls.filter fun call => first ≤ call.tick ∧ call.tick ≤ last

/-- The interval the thread loads here, if it loads it here, has `frameTicks` ticks. -/
def Loads (q : TickRate) (frameTicks : ℤ) (s : RenderThread) : SchedulerStep → Prop
  | .stop => True
  | .go m => s.point = .loading → q.frameTicks m.intervalNs = frameTicks

instance (q : TickRate) (frameTicks : ℤ) (s : RenderThread) :
    ∀ i, Decidable (Loads q frameTicks s i)
  | .stop => isTrue trivial
  | .go m =>
    inferInstanceAs (Decidable (s.point = .loading → q.frameTicks m.intervalNs = frameTicks))

/-- An iteration ends here, more than four intervals after its deadline. -/
def endsLate (s : RenderThread) : SchedulerStep → Bool
  | .stop => false
  | .go m =>
    match s.point with
    | .resync frameTicks => s.nextTick + frameTicks * 4 < s.clock + m.elapsed
    | _ => false

/-! ### The rate -/

/-- What holds where the thread is. The next call is due at the deadline, and before `resync` it
is not known yet whether the deadline moves. -/
def Phase (F : ℤ) (s : RenderThread) : Prop :=
  match s.point with
  | .frame | .loading => Ready F 4 s.ticks (s.nextTick + F)
  | .waiting f | .measuring f => f = F ∧ Ready F 4 s.ticks s.nextTick
  | .waited f => f = F ∧ Ready F 4 s.ticks s.nextTick ∧ (s.running → s.nextTick ≤ s.clock)
  | .waking f | .calling f => f = F ∧ Ready F 4 s.ticks s.nextTick ∧ s.nextTick ≤ s.clock
  | .resync f => f = F ∧
      ∀ due, s.nextTick + F ≤ due → s.clock + (1 - 4) * F ≤ due → Ready F 4 s.ticks due
  | .stopped => True

structure Inv (F : ℤ) (s : RenderThread) : Prop where
  spread : Spread F 4 s.ticks
  met : ∀ call ∈ s.calls, call.deadline ≤ call.tick
  phase : s.Phase F

variable {q : TickRate} {F : ℤ} {s : RenderThread}

theorem inv_start (F : ℤ) (hiResTimer : Bool) (now : ℤ) : Inv F (start hiResTimer now) where
  spread := .nil
  met := by simp [start]
  phase := .nil _

/-- Time passing, and the end of `m_running`, spoil nothing. -/
theorem Inv.stop (h : Inv F s) : Inv F { s with running := false } := by
  refine ⟨h.spread, h.met, ?_⟩
  have hphase := h.phase
  rw [Phase] at hphase ⊢
  cases hp : s.point <;> simp only [hp] at hphase ⊢
  case waited => exact ⟨hphase.1, hphase.2.1, by simp⟩
  all_goals exact hphase

theorem Inv.pass (h : Inv F s) (n : ℕ) : Inv F { s with clock := s.clock + n } := by
  refine ⟨h.spread, h.met, ?_⟩
  have hphase := h.phase
  rw [Phase] at hphase ⊢
  cases hp : s.point <;> simp only [hp] at hphase ⊢
  case waited => exact ⟨hphase.1, hphase.2.1, fun hrun => by have := hphase.2.2 hrun; omega⟩
  case waking | calling => exact ⟨hphase.1, hphase.2.1, by omega⟩
  case resync => exact ⟨hphase.1, fun due hnext hclock => hphase.2 due hnext (by omega)⟩
  all_goals exact hphase

/-- What `advance` does not touch is as before. -/
theorem Inv.moved {s' : RenderThread} (h : Inv F s) (hcalls : s'.calls = s.calls)
    (hphase : s'.Phase F) : Inv F s' where
  spread := by rw [ticks, hcalls]; exact h.spread
  met := by rw [hcalls]; exact h.met
  phase := hphase

/-- The call at the deadline or after it. -/
theorem Inv.call (hF : 0 < F) (h : Inv F s) {f : ℤ} (hp : s.point = .calling f) :
    Inv F { s with calls := s.calls ++ [⟨s.nextTick, s.clock⟩], point := .resync f } := by
  obtain ⟨hf, hready, hle⟩ : f = F ∧ Ready F 4 s.ticks s.nextTick ∧ s.nextTick ≤ s.clock := by
    simpa only [Phase, hp] using h.phase
  have hticks : ticks { s with
      calls := s.calls ++ [⟨s.nextTick, s.clock⟩], point := .resync f } = s.ticks ++ [s.clock] := by
    simp [ticks]
  refine ⟨?_, ?_, hf, ?_⟩
  · rw [hticks]
    exact h.spread.append (Int.le_of_lt hF) hready hle
  · intro call hcall
    rcases List.mem_append.mp hcall with hold | hnew
    · exact h.met call hold
    · obtain rfl := List.mem_singleton.mp hnew
      exact hle
  · intro due hnext hclock
    rw [hticks]
    exact hready.append hnext (by simpa using hclock)

theorem Inv.advance (hF : 0 < F) (h : Inv F s) {m : Moment}
    (hload : s.point = .loading → q.frameTicks m.intervalNs = F) :
    Inv F (RenderThread.advance q s m) := by
  have hphase := h.phase
  rw [Phase] at hphase
  rw [RenderThread.advance]
  cases hp : s.point <;> simp only [hp] at hphase ⊢
  case frame =>
    split
    · exact h.moved rfl hphase
    · exact h.moved rfl trivial
  case loading =>
    refine h.moved rfl ⟨hload hp, ?_⟩
    rw [hload hp]
    exact hphase
  case waiting f =>
    split
    · exact h.moved rfl hphase
    · next hstop => exact h.moved rfl ⟨hphase.1, hphase.2, fun hrun => absurd hrun hstop⟩
  case measuring f =>
    obtain ⟨hf, hready⟩ := hphase
    split
    · next hdue => exact h.moved rfl ⟨hf, hready, fun _ => by simp only; omega⟩
    · exact h.moved rfl ⟨hf, hready⟩
  case waited f =>
    obtain ⟨hf, hready, hle⟩ := hphase
    split
    · next hrun => exact h.moved rfl ⟨hf, hready, hle hrun⟩
    · exact h.moved rfl trivial
  case waking f => exact h.moved rfl hphase
  case calling f =>
    obtain ⟨hf, hready, hle⟩ := hphase
    split
    · exact h.moved rfl ⟨hf, fun due hnext _ => hready.mono (by simp only at hnext; omega)⟩
    · exact h.call hF hp
  case resync f =>
    obtain ⟨rfl, hready⟩ := hphase
    split
    · next hlate => exact h.moved rfl (hready _ (by simp only; omega) (by simp only; omega))
    · next hlate => exact h.moved rfl (hready _ (Int.le_refl _) (by simp only; omega))
  case stopped => exact h

/-- **One step** keeps the rate. -/
theorem Inv.step (hF : 0 < F) (h : Inv F s) {i : SchedulerStep} (hload : Loads q F s i) :
    Inv F (RenderThread.step q s i) := by
  cases i with
  | stop => exact h.stop
  | go m => exact (h.pass m.elapsed).advance hF hload

/-! ### No drift -/

/-- The deadlines so far are `F` apart from `start` on, and the next is measured from the last. -/
structure Steady (F start : ℤ) (s : RenderThread) : Prop where
  nextTick : s.point ≠ .stopped → s.nextTick = start + s.deadlines.length * F
  deadlines : ∀ (i : ℕ) d, s.deadlines[i]? = some d → d = start + (i + 1) * F

theorem steady_start (F : ℤ) (hiResTimer : Bool) (now : ℤ) :
    Steady F now (start hiResTimer now) where
  nextTick _ := by simp [start]
  deadlines i d h := by simp [start] at h

theorem Steady.moved {start : ℤ} {s' : RenderThread} (h : Steady F start s)
    (hdeadlines : s'.deadlines = s.deadlines)
    (hnext : s'.point ≠ .stopped → s.point ≠ .stopped ∧ s'.nextTick = s.nextTick) :
    Steady F start s' where
  nextTick hp := by
    obtain ⟨hlive, hkept⟩ := hnext hp
    rw [hkept, hdeadlines]
    exact h.nextTick hlive
  deadlines := by rw [hdeadlines]; exact h.deadlines

/-- The next deadline is set. -/
theorem Steady.set {start : ℤ} (h : Steady F start s) (hp : s.point = .loading) :
    Steady F start { s with
      nextTick := s.nextTick + F
      deadlines := s.deadlines ++ [s.nextTick + F]
      point := .waiting F } := by
  have hnext : s.nextTick + F = start + ((s.deadlines.length : ℤ) + 1) * F := by
    rw [h.nextTick (by rw [hp]; simp), Int.add_mul, Int.one_mul]
    omega
  refine ⟨fun _ => ?_, fun i d hd => ?_⟩
  · simpa using hnext
  · simp only at hd
    rcases Nat.lt_or_ge i s.deadlines.length with hi | hi
    · rw [List.getElem?_append_left hi] at hd
      exact h.deadlines i d hd
    · obtain rfl : i = s.deadlines.length := by
        have := (List.getElem?_eq_some_iff.mp hd).1
        simp at this
        omega
      rw [List.getElem?_concat_length, Option.some.injEq] at hd
      rw [← hd, hnext]

theorem Steady.advance {start : ℤ} (h : Steady F start s) {m : Moment}
    (hload : s.point = .loading → q.frameTicks m.intervalNs = F)
    (htime : ∀ f, s.point = .resync f → s.clock ≤ s.nextTick + f * 4) :
    Steady F start (RenderThread.advance q s m) := by
  rw [RenderThread.advance]
  cases hp : s.point <;> simp only
  case loading =>
    rw [hload hp]
    exact h.set hp
  case measuring f => split <;> exact h.moved rfl (by simp [hp])
  case calling f => split <;> exact h.moved rfl (by simp [hp])
  case resync f =>
    rw [if_neg (Int.not_lt.mpr (htime f hp))]
    exact h.moved rfl (by simp [hp])
  case stopped => exact h
  all_goals exact h.moved rfl (by simp [hp])

theorem Steady.step {start : ℤ} (h : Steady F start s) {i : SchedulerStep} (hload : Loads q F s i)
    (htime : s.endsLate i = false) : Steady F start (RenderThread.step q s i) := by
  cases i with
  | stop => exact h.moved rfl fun hp => ⟨hp, rfl⟩
  | go m =>
    have hpass : Steady F start { s with clock := s.clock + m.elapsed } :=
      h.moved rfl fun hp => ⟨hp, rfl⟩
    refine hpass.advance hload fun f hf => ?_
    simp only [endsLate] at htime hf
    rw [hf] at htime
    simpa using htime

end RenderThread

/-- The loop keeps the rate of a constant interval. -/
theorem RenderThread.inv_run (q : TickRate) (hiResTimer : Bool) (now : ℤ) {F : ℤ} (hF : 0 < F)
    {is : List SchedulerStep} (hload : Runs.Along (RenderThread.step q) (RenderThread.Loads q F)
      (RenderThread.start hiResTimer now) is) :
    RenderThread.Inv F (Runs.run (RenderThread.step q) (RenderThread.start hiResTimer now) is) :=
  Runs.invariant_of_along (fun _ _ h hi => h.step hF hi) (RenderThread.inv_start F hiResTimer now)
    hload

/-- **The rate of begin frames**, for every trace of the counter and however late the waits return:
a window of `length` ticks holds at most `length / F + 5` calls, no call is made before its
deadline, and the deadlines are `F` apart as long as no iteration ends more than `4 * F` after
its own. -/
theorem begin_frame_rate (q : TickRate) (hiResTimer : Bool) (now : ℤ) (intervalNs : UInt64)
    (is : List SchedulerStep)
    (hload : Runs.Along (RenderThread.step q) (RenderThread.Loads q (q.frameTicks intervalNs))
      (RenderThread.start hiResTimer now) is) :
    let F := q.frameTicks intervalNs
    let s := Runs.run (RenderThread.step q) (RenderThread.start hiResTimer now) is
    (∀ (first : ℤ) (length : ℕ),
        ((s.callsIn first (first + length)).length : ℤ) ≤ length / F + 5) ∧
      (∀ call ∈ s.calls, call.deadline ≤ call.tick) ∧
      (Runs.Along (RenderThread.step q) (fun s i => s.endsLate i = false)
          (RenderThread.start hiResTimer now) is →
        ∀ (i : ℕ) d, s.deadlines[i]? = some d → d = now + (i + 1) * F) := by
  intro F s
  have hF : 0 < F := q.frameTicks_pos intervalNs
  have hinv : s.Inv F := RenderThread.inv_run q hiResTimer now hF hload
  refine ⟨fun first length => ?_, hinv.met, fun htime => ?_⟩
  · have hwindow := hinv.spread.window hF first length
    rw [RenderThread.ticks, List.filter_map, List.length_map] at hwindow
    exact Int.le_trans hwindow (by omega)
  · have hboth := Runs.along_and.mpr ⟨hload, htime⟩
    exact (Runs.invariant_of_along (I := RenderThread.Steady F now)
      (fun _ _ h hi => h.step hi.1 hi.2) (RenderThread.steady_start F hiResTimer now)
      hboth).deadlines

/-- A counter of 1 MHz. -/
def megahertz : TickRate := .ofQuery 1000000

/-- What the thread finds `elapsed` ticks later, at 60 Hz. -/
def atSixty (elapsed : ℕ) : SchedulerStep := .go ⟨elapsed, 16666667, false, true⟩

/-- One frame interval with a wait that returns after `elapsed` ticks. -/
def iteration (elapsed : ℕ) : List SchedulerStep :=
  [atSixty 0, atSixty 0, atSixty 0, atSixty 0, atSixty elapsed, atSixty 0, atSixty 0, atSixty 1,
    atSixty 1, atSixty 1]

/-- Two frames in time, a stall of one second, and the end. -/
def stalledRun : List SchedulerStep :=
  iteration 16700 ++ iteration 16700 ++ iteration 1000000 ++ iteration 16700 ++ [.stop, atSixty 5]

theorem begin_frame_rate_stalled :
    Runs.Along (RenderThread.step megahertz) (RenderThread.Loads megahertz
        (megahertz.frameTicks 16666667)) (RenderThread.start true 0) stalledRun ∧
      let F := megahertz.frameTicks 16666667
      let s := Runs.run (RenderThread.step megahertz) (RenderThread.start true 0) stalledRun
      (∀ (first : ℤ) (length : ℕ),
          ((s.callsIn first (first + length)).length : ℤ) ≤ length / F + 5) ∧
        (∀ call ∈ s.calls, call.deadline ≤ call.tick) ∧
        (Runs.Along (RenderThread.step megahertz) (fun s i => s.endsLate i = false)
            (RenderThread.start true 0) stalledRun →
          ∀ (i : ℕ) d, s.deadlines[i]? = some d → d = 0 + (i + 1) * F) := by
  have hload : Runs.Along (RenderThread.step megahertz) (RenderThread.Loads megahertz
      (megahertz.frameTicks 16666667)) (RenderThread.start true 0) stalledRun := by
    decide +kernel
  exact ⟨hload, begin_frame_rate megahertz true 0 16666667 stalledRun hload⟩

end CefHost
