import CefHost.Painter

/-!
# The handler

`OsrHandler` around its paint callbacks: which browser it belongs to, the threads that serve it,
and the pacing of begin frames.

A function that asks CEF for a begin frame returns, besides the new state, whether it called
`SendExternalBeginFrame`. `std::terminate` is `none`. The clock is read by the caller: `now` is
`steady_clock` in microseconds.

Left out: the calls into CEF that change no field (navigation, focus, zoom, scripts), the timer
period, and `m_keyframeIntervalUs`, which is stored and never loaded.

## Main definitions

* `OsrHandler` — the state
* `OsrHandler.trySendBeginFrame`, `OsrHandler.tryInputNudgeFrame` — the two ways to ask for a frame
* `OsrHandler.handleControlEvent` — the commands of the consumer
* `OsrHandler.onAfterCreated`, `OsrHandler.onBeforeClose` — the life cycle callbacks
-/

namespace CefHost

/-- The identity of a `CefBrowser`. -/
abbrev BrowserId := ℕ

/-- A `std::thread` member, and how many of the threads started through it still run. -/
structure WorkerThread where
  joinable : Bool
  running : ℕ
deriving DecidableEq

namespace WorkerThread

/-- A default-constructed `std::thread`. -/
def none : WorkerThread := ⟨false, 0⟩

/-- Assigning a new `std::thread`, which terminates the process over a joinable one. -/
def assign (t : WorkerThread) : Option WorkerThread :=
  if t.joinable then Option.none else some ⟨true, t.running + 1⟩

/-- `if (joinable()) join()`, once `m_running` is false. -/
def join (t : WorkerThread) : WorkerThread :=
  if t.joinable then ⟨false, t.running - 1⟩ else t

end WorkerThread

/-- The fields of `OsrHandler`. -/
structure OsrHandler where
  painter : Painter
  browser : Option BrowserId
  renderThread : WorkerThread
  inputThread : WorkerThread
  controlThread : WorkerThread
  running : Bool
  inputEnabled : Bool
  paused : Bool
  lastBeginFrameUs : UInt64
  beginFrameIntervalNs : UInt64
  smoothedConsumerCadenceUs : UInt32
  beginFramesSent : ℕ
  maxInFlightBeginFrames : UInt32

namespace OsrHandler

/-- After the constructor, with the default frame rate, and `Init`. -/
def init (names : SharedMemoryNames) (d3d : D3DInterfaces) (width height : UInt32) :
    OsrHandler where
  painter := .init names d3d width height
  browser := none
  renderThread := .none
  inputThread := .none
  controlThread := .none
  running := false
  inputEnabled := true
  paused := false
  lastBeginFrameUs := 0
  beginFrameIntervalNs := 1000000000 / 60
  smoothedConsumerCadenceUs := 0
  beginFramesSent := 0
  maxInFlightBeginFrames := 2

/-! ### Begin frames -/

/-- The begin frames `TrySendBeginFrame` takes to be in flight. -/
def inFlight (s : OsrHandler) : ℕ :=
  if s.painter.paintsCompleted < s.beginFramesSent then
    s.beginFramesSent - s.painter.paintsCompleted
  else 0

def trySendBeginFrame (s : OsrHandler) (now : UInt64) : OsrHandler × Bool :=
  if 0 < s.maxInFlightBeginFrames ∧ s.maxInFlightBeginFrames.toNat ≤ s.inFlight then (s, false)
  else
    match s.browser with
    | some _ =>
      ({ s with
        lastBeginFrameUs := now
        beginFramesSent := s.beginFramesSent + 1 }, true)
    | none => (s, false)

/-- One turn of the loop in `RenderThreadMain`. -/
def renderTick (s : OsrHandler) (now : UInt64) : OsrHandler × Bool :=
  if s.paused then (s, false) else s.trySendBeginFrame now

/-- The least distance between a nudge and the begin frame before it. -/
def nudgeUs (s : OsrHandler) : UInt64 :=
  let cadenceUs := if 0 < s.beginFrameIntervalNs / 1000 then s.beginFrameIntervalNs / 1000 else 1
  if cadenceUs < 2000 then cadenceUs else 2000

def tryInputNudgeFrame (s : OsrHandler) (now : UInt64) : OsrHandler × Bool :=
  if s.paused then (s, false)
  else if now - s.lastBeginFrameUs < s.nudgeUs then (s, false)
  else ({ s with lastBeginFrameUs := now }, s.browser.isSome)

def updateBeginFrameIntervalFromFps (s : OsrHandler) (fps : UInt32) : OsrHandler :=
  let clamped := if fps < 1 then 1 else if 240 < fps then 240 else fps
  { s with
    beginFrameIntervalNs := 1000000000 / clamped.toUInt64
    smoothedConsumerCadenceUs := 0 }

/-- The cadence `UpdateBeginFrameIntervalFromConsumerCadenceUs` goes by: between 240 and 15 frames a
second. -/
def clampCadenceUs (cadenceUs : UInt32) : UInt32 :=
  let minUs := 1000000 / 240
  let maxUs := 1000000 / 15
  let clamped := if cadenceUs < minUs then minUs else cadenceUs
  if maxUs < clamped then maxUs else clamped

def updateBeginFrameIntervalFromConsumerCadenceUs (s : OsrHandler) (cadenceUs : UInt32) :
    OsrHandler :=
  if cadenceUs = 0 then s
  else
    let clamped := clampCadenceUs cadenceUs
    let prev := s.smoothedConsumerCadenceUs
    let smooth := if prev = 0 then clamped else (prev * 7 + clamped * 3) / 10
    let targetUs := smooth.toUInt64 + smooth.toUInt64 / 100
    { s with
      smoothedConsumerCadenceUs := smooth
      beginFrameIntervalNs := targetUs * 1000 }

/-- After the constructor with the frame rate `targetFps`, and `Init`. -/
def create (names : SharedMemoryNames) (d3d : D3DInterfaces) (width height targetFps : UInt32) :
    OsrHandler :=
  (init names d3d width height).updateBeginFrameIntervalFromFps targetFps

/-! ### Control events -/

def handleControlSetFrameRate (s : OsrHandler) (requestedFps : UInt32) : OsrHandler :=
  s.updateBeginFrameIntervalFromFps
    (if requestedFps = 0 then 60 else if 240 < requestedFps then 240 else requestedFps)

/-- The cap, 2 for 0; the begin frames sent so far count as painted. -/
def handleControlSetMaxInFlightBeginFrames (s : OsrHandler) (requestedMaxInFlight : UInt32) :
    OsrHandler :=
  { s with
    maxInFlightBeginFrames := if requestedMaxInFlight = 0 then 2 else requestedMaxInFlight
    painter := { s.painter with paintsCompleted := s.beginFramesSent } }

def handleControlEvent (s : OsrHandler) : ControlEvent → OsrHandler
  | .setPaused value => { s with paused := value }
  | .setFrameRate value => s.handleControlSetFrameRate value
  | .setMaxInFlightBeginFrames value => s.handleControlSetMaxInFlightBeginFrames value
  | .setFlushIntervalFrames value =>
    { s with painter := { s.painter with flushIntervalFrames := value } }
  | .resize width height => { s with painter := s.painter.resize width height }
  | .setInputEnabled value => { s with inputEnabled := value }
  | _ => s

/-- `PumpControl` for the events it reads from the ring; without a browser it reads none. -/
def pumpControl (s : OsrHandler) (events : List ControlEvent) : OsrHandler :=
  match s.browser with
  | some _ => events.foldl handleControlEvent s
  | none => s

/-! ### Life cycle -/

def startRenderLoop (s : OsrHandler) : Option OsrHandler := do
  let s := { s with running := true }
  let renderThread ← s.renderThread.assign
  let inputThread ← s.inputThread.assign
  let controlThread ← s.controlThread.assign
  return { s with
    renderThread := renderThread
    inputThread := inputThread
    controlThread := controlThread }

def stopRenderLoop (s : OsrHandler) : OsrHandler :=
  { s with
    running := false
    renderThread := s.renderThread.join
    inputThread := s.inputThread.join
    controlThread := s.controlThread.join }

def onAfterCreated (s : OsrHandler) (browser : BrowserId) : Option OsrHandler :=
  let s := { s with browser := some browser }
  (s.updateBeginFrameIntervalFromFps 60).startRenderLoop

def onBeforeClose (s : OsrHandler) (_browser : BrowserId) : OsrHandler :=
  { s.stopRenderLoop with browser := none }

end OsrHandler

end CefHost
