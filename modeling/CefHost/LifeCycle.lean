import CefHost.Library.Runs
import CefHost.OsrHandler

/-!
# Browsers sharing a handler

A popup that a page opens gets the client of its opener, so the life cycle callbacks of every
browser reach the one handler. `OnAfterCreated` makes the browser the handler's and starts the
three threads; `OnBeforeClose` joins them and forgets the browser. Neither looks at which browser
it is called for.

## What may be delivered

The hosted browser is the first to be created, a browser is created once, and only a browser that
is open is closed. Nothing is assumed about which browser opened which popup.

## Main results

* `LifeCycle.OneBrowser.next` — one callback while at most one browser is open
* `lifeCycle_safe_iff` — whole runs
* `popup_terminates` — the hosted browser and one popup
-/

namespace CefHost

/-- The life cycle callbacks. -/
inductive LifeSpanEvent
  | onAfterCreated (browser : BrowserId)
  | onBeforeClose (browser : BrowserId)
deriving DecidableEq

/-- The process and the browsers so far. -/
structure LifeCycle where
  /-- The handler, unless the process was terminated. -/
  process : Option OsrHandler
  created : List BrowserId
  /-- The browsers that are created and not closed. -/
  alive : List BrowserId

namespace LifeCycle

/-- After `Init`. -/
def init (names : SharedMemoryNames) (d3d : D3DInterfaces) (width height : UInt32) : LifeCycle where
  process := some (.init names d3d width height)
  created := []
  alive := []

def step (s : LifeCycle) : LifeSpanEvent → LifeCycle
  | .onAfterCreated browser =>
    { process := s.process.bind fun host => host.onAfterCreated browser
      created := browser :: s.created
      alive := browser :: s.alive }
  | .onBeforeClose browser =>
    { process := s.process.map fun host => host.onBeforeClose browser
      created := s.created
      alive := s.alive.erase browser }

variable (hosted : BrowserId) {s : LifeCycle}

/-- CEF may deliver the callback. -/
def Deliverable (s : LifeCycle) : LifeSpanEvent → Prop
  | .onAfterCreated browser => browser ∉ s.created ∧ (browser = hosted ∨ hosted ∈ s.created)
  | .onBeforeClose browser => browser ∈ s.alive

instance (s : LifeCycle) : ∀ e, Decidable (s.Deliverable hosted e)
  | .onAfterCreated _ => inferInstanceAs (Decidable (_ ∧ _))
  | .onBeforeClose _ => inferInstanceAs (Decidable (_ ∈ _))

/-- The process runs, with at most one thread of each kind; and while the hosted browser is open
the loops run and the handler's browser is the hosted one. -/
def Safe (s : LifeCycle) : Prop :=
  ∃ host, s.process = some host ∧
    (host.renderThread.running ≤ 1 ∧ host.inputThread.running ≤ 1 ∧
      host.controlThread.running ≤ 1) ∧
    (hosted ∈ s.alive → host.running = true ∧ host.browser = some hosted)

/-- A browser is created while no other one is open. -/
def Alone (s : LifeCycle) : LifeSpanEvent → Prop
  | .onAfterCreated _ => s.alive = []
  | .onBeforeClose _ => True

/-! ### The threads -/

/-- The three threads of a handler are in the same state. -/
def Threads (host : OsrHandler) (t : WorkerThread) : Prop :=
  host.renderThread = t ∧ host.inputThread = t ∧ host.controlThread = t

/-- Over joined threads the loops are started. -/
theorem onAfterCreated_of_joined {host : OsrHandler} (h : Threads host .none)
    (browser : BrowserId) : ∃ host', host.onAfterCreated browser = some host' ∧
      Threads host' ⟨true, 1⟩ ∧ host'.running = true ∧ host'.browser = some browser := by
  obtain ⟨hrender, hinput, hcontrol⟩ := h
  rw [OsrHandler.onAfterCreated, OsrHandler.startRenderLoop,
    OsrHandler.updateBeginFrameIntervalFromFps]
  dsimp only
  rw [hrender, hinput, hcontrol]
  exact ⟨_, rfl, ⟨rfl, rfl, rfl⟩, rfl, rfl⟩

/-- Over joinable threads the process is terminated. -/
theorem onAfterCreated_of_joinable {host : OsrHandler} {n : ℕ} (h : Threads host ⟨true, n⟩)
    (browser : BrowserId) : host.onAfterCreated browser = none := by
  rw [OsrHandler.onAfterCreated, OsrHandler.startRenderLoop,
    OsrHandler.updateBeginFrameIntervalFromFps]
  dsimp only
  rw [h.1]
  rfl

theorem onBeforeClose_threads {host : OsrHandler} (h : Threads host ⟨true, 1⟩)
    (browser : BrowserId) : Threads (host.onBeforeClose browser) .none := by
  obtain ⟨hrender, hinput, hcontrol⟩ := h
  rw [OsrHandler.onBeforeClose, OsrHandler.stopRenderLoop, hrender, hinput, hcontrol]
  exact ⟨rfl, rfl, rfl⟩

/-! ### One browser at a time -/

/-- At most one browser is open, and the handler serves it. -/
def OneBrowser (s : LifeCycle) : Prop :=
  ∃ host, s.process = some host ∧
    ((s.alive = [] ∧ Threads host .none) ∨
      ∃ browser, s.alive = [browser] ∧ Threads host ⟨true, 1⟩ ∧ host.running = true ∧
        host.browser = some browser)

theorem OneBrowser.safe (h : s.OneBrowser) : s.Safe hosted := by
  obtain ⟨host, hprocess, ⟨halive, hrender, hinput, hcontrol⟩ |
    ⟨browser, halive, ⟨hrender, hinput, hcontrol⟩, hrunning, hbrowser⟩⟩ := h
  · refine ⟨host, hprocess, ?_, fun hmem => ?_⟩
    · rw [hrender, hinput, hcontrol]
      decide
    · rw [halive] at hmem
      cases hmem
  · refine ⟨host, hprocess, ?_, fun hmem => ?_⟩
    · rw [hrender, hinput, hcontrol]
      decide
    · rw [halive] at hmem
      rw [List.mem_singleton.mp hmem]
      exact ⟨hrunning, hbrowser⟩

/-- **One callback**: with a browser created alone, or closed, there is one browser at most. -/
theorem OneBrowser.next (h : s.OneBrowser) {e : LifeSpanEvent} (he : s.Deliverable hosted e)
    (halone : s.Alone e) : (s.step e).OneBrowser := by
  obtain ⟨host, hprocess, hor⟩ := h
  cases e with
  | onAfterCreated browser =>
    obtain ⟨halive, hthreads⟩ | ⟨other, halive, -⟩ := hor
    · obtain ⟨host', hstart, hthreads', hrunning, hbrowser⟩ :=
        onAfterCreated_of_joined hthreads browser
      refine ⟨host', ?_, Or.inr ⟨browser, ?_, hthreads', hrunning, hbrowser⟩⟩
      · change s.process.bind _ = _
        rw [hprocess]
        exact hstart
      · change browser :: s.alive = [browser]
        rw [halive]
    · rw [Alone, halive] at halone
      cases halone
  | onBeforeClose browser =>
    rw [Deliverable] at he
    obtain ⟨halive, -⟩ | ⟨other, halive, hthreads, -⟩ := hor
    · rw [halive] at he
      cases he
    · rw [halive] at he
      cases List.mem_singleton.mp he
      refine ⟨host.onBeforeClose browser, ?_, Or.inl ⟨?_, onBeforeClose_threads hthreads browser⟩⟩
      · change s.process.map _ = _
        rw [hprocess]
        rfl
      · change s.alive.erase browser = []
        rw [halive, List.erase_cons_head]

/-- A browser created while another one is open terminates the process. -/
theorem OneBrowser.safe_iff (h : s.OneBrowser) {e : LifeSpanEvent} (he : s.Deliverable hosted e) :
    (s.step e).Safe hosted ↔ s.Alone e := by
  constructor
  · intro hsafe
    cases e with
    | onBeforeClose browser => trivial
    | onAfterCreated browser =>
      obtain ⟨host, hprocess, ⟨halive, -⟩ | ⟨other, -, hthreads, -⟩⟩ := h
      · exact halive
      · obtain ⟨host', hhost', -⟩ := hsafe
        change s.process.bind _ = _ at hhost'
        rw [hprocess] at hhost'
        change host.onAfterCreated browser = some host' at hhost'
        rw [onAfterCreated_of_joinable hthreads] at hhost'
        cases hhost'
  · intro halone
    exact (h.next hosted he halone).safe hosted

end LifeCycle

/-- **Runs of life cycle callbacks**: the process stays safe if and only if no browser is created
while another one is open. -/
theorem lifeCycle_safe_iff (names : SharedMemoryNames) (d3d : D3DInterfaces) (width height : UInt32)
    (hosted : BrowserId) (events : List LifeSpanEvent)
    (hdeliverable : Runs.Along LifeCycle.step (LifeCycle.Deliverable hosted)
      (.init names d3d width height) events) :
    Runs.Always LifeCycle.step (LifeCycle.Safe hosted) (.init names d3d width height) events ↔
      Runs.Along LifeCycle.step LifeCycle.Alone (.init names d3d width height) events := by
  have hinit : LifeCycle.OneBrowser (.init names d3d width height) :=
    ⟨_, rfl, Or.inl ⟨rfl, rfl, rfl, rfl⟩⟩
  exact Runs.always_iff_along_of_along (I := LifeCycle.OneBrowser)
    (fun _ _ h _ hD hG => h.next hosted hD hG) (fun _ _ h _ hD => h.safe_iff hosted hD) hinit
    (hinit.safe hosted) hdeliverable

/-- Browser 1 is hosted, browser 2 a popup. -/
def popupRun : List LifeSpanEvent :=
  [.onAfterCreated 1, .onAfterCreated 2, .onBeforeClose 2, .onBeforeClose 1]

/-- Both created one after the other. -/
def sequentialRun : List LifeSpanEvent := [.onAfterCreated 1, .onBeforeClose 1, .onAfterCreated 2]

theorem lifeCycle_safe_iff_sequentialRun :
    Runs.Always LifeCycle.step (LifeCycle.Safe 1)
      (.init (buildSharedMemoryNames []) fullD3D 4 4) sequentialRun :=
  (lifeCycle_safe_iff _ _ 4 4 1 sequentialRun (by decide +kernel)).mpr ⟨rfl, trivial, rfl, trivial⟩

/-- The popup's `OnAfterCreated` assigns onto the threads of the hosted browser. -/
theorem popup_terminates :
    ¬ (Runs.Along LifeCycle.step (LifeCycle.Deliverable 1)
        (.init (buildSharedMemoryNames []) fullD3D 4 4) popupRun →
      Runs.Always LifeCycle.step (LifeCycle.Safe 1)
        (.init (buildSharedMemoryNames []) fullD3D 4 4) popupRun) := by
  intro h
  obtain ⟨host, hprocess, -⟩ := Runs.always_iff_forall.mp (h (by decide +kernel))
    (popupRun.take 2) (List.take_prefix 2 popupRun)
  have hnone : (Runs.run LifeCycle.step (.init (buildSharedMemoryNames []) fullD3D 4 4)
      (popupRun.take 2)).process.isNone = true := by decide +kernel
  rw [hprocess] at hnone
  cases hnone

end CefHost
