import CefHost.ControlThread
import CefHost.InputThread

/-!
# The two threads that serve a ring, and how they stop

`StartRenderLoop` starts the input and the control thread on one flag, `m_running`.
`StopRenderLoop` clears it, sets the event of the input ring, then that of the control ring, and
joins both. All of this happens one access at a time, while the consumer process goes on producing.

Each thread, with the consumer process and the statements of `StopRenderLoop` that concern it, is a
machine of `EventLoop`, so what is known of the two carries over to runs of the whole.

## Main results

* `worker_threads_stop` — both threads come to their end, so both joins return
-/

namespace CefHost

open EventLoop Runs

/-- How far `StopRenderLoop` is. -/
inductive StopPc
  | notCalled
  /-- Behind `m_running = false`. -/
  | cleared
  /-- Behind the `SetEvent` of the input ring. -/
  | inputSet
  /-- Behind the `SetEvent` of the control ring. -/
  | joining
deriving DecidableEq

/-- The two threads, their rings and events, and `StopRenderLoop`. Each thread's state has a copy of
`m_running`; `Coherent` says that they agree. -/
structure WorkerThreads where
  input : InputThread.State
  control : ControlThread.State
  stop : StopPc

/-- The next access of one of the parties. -/
inductive WorkerAction
  | produceInput (evt : InputEvent)
  | workInput (value : Bool)
  | timeoutInput
  | produceControl (evt : ControlEvent)
  | workControl (value : Bool)
  | timeoutControl
  | stop

namespace WorkerThreads

/-- After `Init` and `StartRenderLoop`. -/
def start (events : Fin inputRing.size → InputEvent)
    (commands : Fin controlRing.size → ControlEvent) : WorkerThreads where
  input := InputThread.start events
  control := ControlThread.start commands
  stop := .notCalled

/-- The statements of `StopRenderLoop` up to the joins. -/
def stopStep (s : WorkerThreads) : WorkerThreads :=
  match s.stop with
  | .notCalled =>
    { input := { s.input with running := false }
      control := { s.control with running := false }
      stop := .cleared }
  | .cleared => { s with input := { s.input with event := true, rung := true }, stop := .inputSet }
  | .inputSet =>
    { s with control := { s.control with event := true, rung := true }, stop := .joining }
  | .joining => s

def step (browser : BrowserId) (s : WorkerThreads) : WorkerAction → WorkerThreads
  | .produceInput evt => { s with input := InputThread.step (some browser) s.input (.produce evt) }
  | .workInput value => { s with input := InputThread.step (some browser) s.input (.work value) }
  | .timeoutInput => { s with input := InputThread.step (some browser) s.input .timeout }
  | .produceControl evt =>
    { s with control := ControlThread.step (some browser) s.control (.produce evt) }
  | .workControl value =>
    { s with control := ControlThread.step (some browser) s.control (.work value) }
  | .timeoutControl => { s with control := ControlThread.step (some browser) s.control .timeout }
  | .stop => s.stopStep

/-! ### The parts -/

/-- What the input thread's machine sees of an access. -/
def toInput (s : WorkerThreads) : WorkerAction → List (Action InputEvent)
  | .produceInput evt => [.produce evt]
  | .workInput value => [.work value]
  | .timeoutInput => [.timeout]
  | .stop => if s.stop = .notCalled ∨ s.stop = .cleared then [.stop] else []
  | _ => []

/-- What the control thread's machine sees of an access. -/
def toControl (s : WorkerThreads) : WorkerAction → List (Action ControlEvent)
  | .produceControl evt => [.produce evt]
  | .workControl value => [.work value]
  | .timeoutControl => [.timeout]
  | .stop => if s.stop = .notCalled ∨ s.stop = .inputSet then [.stop] else []
  | _ => []

/-- The copies of `m_running`, and what `StopRenderLoop` has set, agree with how far it is. -/
structure Coherent (s : WorkerThreads) : Prop where
  inputRunning : s.input.running = decide (s.stop = .notCalled)
  controlRunning : s.control.running = decide (s.stop = .notCalled)
  inputRung : s.input.rung = decide (s.stop = .inputSet ∨ s.stop = .joining)
  controlRung : s.control.rung = decide (s.stop = .joining)

variable {browser : BrowserId} {s : WorkerThreads}

theorem Coherent.start (events : Fin inputRing.size → InputEvent)
    (commands : Fin controlRing.size → ControlEvent) : (start events commands).Coherent :=
  ⟨rfl, rfl, rfl, rfl⟩

/-- An access of another party than `StopRenderLoop`. -/
theorem Coherent.of_flags {s' : WorkerThreads} (h : s.Coherent) (hstop : s'.stop = s.stop)
    (hinput : s'.input.running = s.input.running ∧ s'.input.rung = s.input.rung)
    (hcontrol : s'.control.running = s.control.running ∧ s'.control.rung = s.control.rung) :
    s'.Coherent where
  inputRunning := by rw [hinput.1, hstop, h.inputRunning]
  controlRunning := by rw [hcontrol.1, hstop, h.controlRunning]
  inputRung := by rw [hinput.2, hstop, h.inputRung]
  controlRung := by rw [hcontrol.2, hstop, h.controlRung]

theorem Coherent.stopStep (h : s.Coherent) : s.stopStep.Coherent := by
  obtain ⟨hinput, hcontrol, hinputRung, hcontrolRung⟩ := h
  rw [WorkerThreads.stopStep]
  split
  · next hs =>
    rw [hs] at hinputRung hcontrolRung
    exact ⟨rfl, rfl, hinputRung, hcontrolRung⟩
  · next hs =>
    rw [hs] at hinput hcontrol hcontrolRung
    exact ⟨hinput, hcontrol, rfl, hcontrolRung⟩
  · next hs =>
    rw [hs] at hinput hcontrol hinputRung
    exact ⟨hinput, hcontrol, hinputRung, rfl⟩
  · next hs => exact ⟨hinput, hcontrol, hinputRung, hcontrolRung⟩

theorem Coherent.step (h : s.Coherent) (a : WorkerAction) : (s.step browser a).Coherent := by
  match a with
  | .produceInput _ | .workInput _ | .timeoutInput =>
    exact h.of_flags rfl (step_flags s.input nofun) ⟨rfl, rfl⟩
  | .produceControl _ | .workControl _ | .timeoutControl =>
    exact h.of_flags rfl ⟨rfl, rfl⟩ (step_flags s.control nofun)
  | .stop => exact h.stopStep

theorem input_step (h : s.Coherent) (a : WorkerAction) :
    (s.step browser a).input = run (InputThread.step (some browser)) s.input (s.toInput a) := by
  match a with
  | .produceInput _ | .workInput _ | .timeoutInput => rfl
  | .produceControl _ | .workControl _ | .timeoutControl => rfl
  | .stop =>
    have hrun := h.inputRunning
    rw [step, WorkerThreads.stopStep, toInput]
    match hs : s.stop with
    | .notCalled | .cleared =>
      rw [hs] at hrun
      simp [InputThread.step, EventLoop.step, hrun]
    | .inputSet | .joining => rfl

theorem control_step (h : s.Coherent) (a : WorkerAction) :
    (s.step browser a).control
      = run (ControlThread.step (some browser)) s.control (s.toControl a) := by
  match a with
  | .produceInput _ | .workInput _ | .timeoutInput => rfl
  | .produceControl _ | .workControl _ | .timeoutControl => rfl
  | .stop =>
    have hrun := h.controlRunning
    rw [step, WorkerThreads.stopStep, toControl]
    match hs : s.stop with
    | .notCalled | .inputSet =>
      rw [hs] at hrun
      simp [ControlThread.step, EventLoop.step, hrun]
    | .cleared | .joining => rfl

/-- **The input thread** in a run of the whole is the input thread in a run of its own machine. -/
theorem input_run (browser : BrowserId) (h : s.Coherent) (as : List WorkerAction) :
    (run (step browser) s as).input
      = run (InputThread.step (some browser)) s.input (emitted (step browser) toInput s as) :=
  project (fun _ a h => h.step a) (fun _ a h => input_step h a) h as

theorem control_run (browser : BrowserId) (h : s.Coherent) (as : List WorkerAction) :
    (run (step browser) s as).control
      = run (ControlThread.step (some browser)) s.control
          (emitted (step browser) toControl s as) :=
  project (fun _ a h => h.step a) (fun _ a h => control_step h a) h as

/-! ### Their ends -/

/-- Whether an access is one of the input thread. -/
def ofInput : WorkerAction → Bool
  | .workInput _ => true
  | _ => false

/-- Whether an access is one of the control thread. -/
def ofControl : WorkerAction → Bool
  | .workControl _ => true
  | _ => false

theorem countP_toInput (s : WorkerThreads) (a : WorkerAction) :
    (s.toInput a).countP Action.isWork = (ofInput a).toNat := by
  match a with
  | .stop => rw [toInput]; split <;> rfl
  | .produceInput _ | .workInput _ | .timeoutInput => rfl
  | .produceControl _ | .workControl _ | .timeoutControl => rfl

theorem countP_toControl (s : WorkerThreads) (a : WorkerAction) :
    (s.toControl a).countP Action.isWork = (ofControl a).toNat := by
  match a with
  | .stop => rw [toControl]; split <;> rfl
  | .produceInput _ | .workInput _ | .timeoutInput => rfl
  | .produceControl _ | .workControl _ | .timeoutControl => rfl

/-- In every interleaving. -/
theorem coherent_run (browser : BrowserId) (events : Fin inputRing.size → InputEvent)
    (commands : Fin controlRing.size → ControlEvent) (as : List WorkerAction) :
    (run (step browser) (start events commands) as).Coherent :=
  invariant (fun _ a h => h.step a) (.start events commands) as

/-- `StopRenderLoop` does not leave its joins for anything earlier. -/
theorem joining_step (h : s.stop = .joining) (a : WorkerAction) :
    (s.step browser a).stop = .joining := by
  match a with
  | .produceInput _ | .workInput _ | .timeoutInput => exact h
  | .produceControl _ | .workControl _ | .timeoutControl => exact h
  | .stop =>
    rw [step, WorkerThreads.stopStep, h]
    exact h

/-- At its joins, `StopRenderLoop` has set both events. -/
theorem Coherent.rung_of_joining (h : s.Coherent) (hjoin : s.stop = .joining) :
    s.input.rung = true ∧ s.control.rung = true := by
  rw [h.inputRung, h.controlRung, hjoin]
  exact ⟨rfl, rfl⟩

theorem input_ok (browser : BrowserId) (events : Fin inputRing.size → InputEvent)
    (commands : Fin controlRing.size → ControlEvent) (as : List WorkerAction) :
    InputThread.Ok browser (run (step browser) (start events commands) as).input := by
  rw [input_run browser (.start events commands)]
  exact InputThread.ok_run browser events _

theorem control_ok (browser : BrowserId) (events : Fin inputRing.size → InputEvent)
    (commands : Fin controlRing.size → ControlEvent) (as : List WorkerAction) :
    ControlThread.Ok browser (run (step browser) (start events commands) as).control := by
  rw [control_run browser (.start events commands)]
  exact ControlThread.ok_run browser commands _

end WorkerThreads

/-- **`StopRenderLoop` gets through its joins.** In every interleaving of the threads with the
consumer process and with `StopRenderLoop`, once the latter has set both events:

* neither thread sleeps at its wait without its event set;
* the input thread has returned after 1315 accesses of its own at most, however much is produced;
* the control thread has returned after ten accesses for each command that is left or is produced
  meanwhile, and 20 more. -/
theorem worker_threads_stop (browser : BrowserId) (events : Fin inputRing.size → InputEvent)
    (commands : Fin controlRing.size → ControlEvent) (as bs : List WorkerAction) :
    let s := run (WorkerThreads.step browser) (WorkerThreads.start events commands) as
    let t := run (WorkerThreads.step browser) s bs
    s.stop = .joining →
      (¬ Blocked (InputThread.code (some browser)) t.input ∧
        ¬ Blocked (ControlThread.code (some browser)) t.control) ∧
      (1314 < bs.countP WorkerThreads.ofInput → t.input.pc = .returned) ∧
      (10 * ((ControlThread.published t.control).length
          - (ControlThread.returned s.control).length) + 19 < bs.countP WorkerThreads.ofControl →
        t.control.pc = .returned) := by
  intro s t hjoin
  have hcoherent : s.Coherent := WorkerThreads.coherent_run browser events commands as
  have hlast : t = run (WorkerThreads.step browser) (WorkerThreads.start events commands)
      (as ++ bs) := (run_append _ _ _).symm
  obtain ⟨hinputRung, hcontrolRung⟩ := hcoherent.rung_of_joining hjoin
  refine ⟨?_, fun hcount => ?_, fun hcount => ?_⟩
  · have hjoining : t.stop = .joining :=
      invariant (I := fun s : WorkerThreads => s.stop = .joining)
        (fun _ a h => WorkerThreads.joining_step h a) hjoin bs
    have hrung : t.input.rung = true ∧ t.control.rung = true := by
      rw [hlast] at hjoining ⊢
      exact (WorkerThreads.coherent_run browser events commands _).rung_of_joining hjoining
    rw [hlast] at hrung ⊢
    exact ⟨(WorkerThreads.input_ok browser events commands _).not_blocked_of_rung
        (InputThread.serves browser) hrung.1,
      (WorkerThreads.control_ok browser events commands _).not_blocked_of_rung
        (ControlThread.serves browser) hrung.2⟩
  · have hinput := WorkerThreads.input_run browser hcoherent bs
    show (run (WorkerThreads.step browser) s bs).input.pc = .returned
    rw [hinput]
    refine (WorkerThreads.input_ok browser events commands as).exit_of_count hinputRung ?_
    rwa [countP_emitted WorkerThreads.countP_toInput]
  · have hcontrol := WorkerThreads.control_run browser hcoherent bs
    rw [show t.control = _ from hcontrol] at hcount ⊢
    refine (WorkerThreads.control_ok browser events commands as).exit_of_count hcontrolRung ?_
    rwa [countP_emitted WorkerThreads.countP_toControl]

/-- Two input events and a command come in. `StopRenderLoop` sets its events when the input thread
is about to dispatch the first and the control thread about to handle the command. -/
def stoppedWhileServing : List WorkerAction :=
  List.replicate 10 (.produceInput (.mouseMove 1 2 0)) ++
    List.replicate 5 (.produceControl .goBack) ++ List.replicate 9 (.workInput true) ++
    List.replicate 8 (.workControl true) ++ [.stop, .stop, .stop]

/-- One more command comes in while the threads are joined. -/
def joinedThreads : List WorkerAction :=
  List.replicate 5 (.produceControl .goForward) ++ List.replicate 30 (.workControl true) ++
    List.replicate 1315 (.workInput true)

/-- Stopped in the middle of a call, both threads have returned then. -/
theorem worker_threads_joined :
    let s := run (WorkerThreads.step 0)
      (WorkerThreads.start (fun _ => .unknown 9) fun _ => .unknown 9) stoppedWhileServing
    let t := run (WorkerThreads.step 0) s joinedThreads
    (s.input.pc = .dispatching 1 false (.mouseMove 1 2 0) ∧ s.control.pc = .handling .goBack ∧
      (InputThread.published s.input).length = 2) ∧
    (¬ Blocked (InputThread.code (some 0)) t.input ∧
      ¬ Blocked (ControlThread.code (some 0)) t.control) ∧
    t.input.pc = .returned ∧ t.control.pc = .returned := by
  intro s t
  have hmiddle : s.input.pc = .dispatching 1 false (.mouseMove 1 2 0) ∧
      s.control.pc = .handling .goBack ∧ (InputThread.published s.input).length = 2 :=
    ⟨rfl, rfl, rfl⟩
  have hjoin : s.stop = .joining := by decide +kernel
  have hinput : 1314 < joinedThreads.countP WorkerThreads.ofInput := by
    rw [joinedThreads, List.countP_append, List.countP_append, List.countP_replicate,
      List.countP_replicate, List.countP_replicate]
    decide
  have hcontrol : 10 * ((ControlThread.published t.control).length
      - (ControlThread.returned s.control).length) + 19
        < joinedThreads.countP WorkerThreads.ofControl := by decide +kernel
  -- from here on the two runs are not evaluated
  revert s t
  generalize stoppedWhileServing = as, joinedThreads = bs at hinput ⊢
  intro s t hmiddle hjoin hcontrol
  obtain ⟨hawake, hreturned, hserved⟩ := worker_threads_stop 0 _ _ as bs hjoin
  exact ⟨hmiddle, hawake, hreturned hinput, hserved hcontrol⟩

end CefHost
