import CefHost.HostRuntimeConfig
import CefHost.OsrHandler

/-!
# The frame rate

The rate a host is asked for on the command line reaches the handler twice: as the constructor's
`targetFps`, from which the begin-frame interval is computed, and in the browser settings, which
tell CEF. Requests of the consumer come later, as control events, and set both.

In between, `OnAfterCreated` sets both to 60. Until the first request the configured rate is
therefore in force only if it is 60.

## Main definitions

* `Pacing` — the handler with the rate CEF was last told
* `requestedFps` — the rate that should be in force after some control events

## Main results

* `Pacing.onContextInitialized_follows` — the handler is created with the configured rate
* `Pacing.run_follows` — control events keep to the last request
* `pacing_iff` — after `OnAfterCreated`, that is the case exactly if there was a request or the
  configured rate is 60
-/

namespace CefHost

/-- The handler, and the rate last set on CEF. -/
structure Pacing where
  host : OsrHandler
  windowlessFrameRate : Int32

/-- What `HandleControlSetFrameRate` makes of a request. -/
def appliedFps (requestedFps : UInt32) : UInt32 :=
  if requestedFps = 0 then 60 else if 240 < requestedFps then 240 else requestedFps

/-- The request of a control event. -/
def frameRateRequest : ControlEvent → Option UInt32
  | .setFrameRate value => some value
  | _ => none

/-- The rate that should be in force after `events`: the last one requested, or else the
configured one. -/
def requestedFps (argv : List Arg) (events : List ControlEvent) : UInt32 :=
  ((events.filterMap frameRateRequest).getLast?.map appliedFps).getD
    (fromArgs argv).frameRate.toUInt32

namespace Pacing

/-- `CefHostBrowserApp::OnContextInitialized`. -/
def onContextInitialized (cfg : HostRuntimeConfig) (d3d : D3DInterfaces) : Pacing where
  host := .create (buildSharedMemoryNames cfg.sessionId) d3d cfg.width cfg.height
    cfg.frameRate.toUInt32
  windowlessFrameRate := cfg.frameRate

def onAfterCreated (s : Pacing) (browser : BrowserId) : Option Pacing :=
  (s.host.onAfterCreated browser).map fun host => ⟨host, 60⟩

def handleControlEvent (s : Pacing) (e : ControlEvent) : Pacing where
  host := s.host.handleControlEvent e
  windowlessFrameRate := ((frameRateRequest e).map fun value => (appliedFps value).toInt32).getD
    s.windowlessFrameRate

/-- Both the begin-frame interval and CEF go by the rate `fps`. -/
def Follows (s : Pacing) (fps : UInt32) : Prop :=
  s.host.beginFrameIntervalNs = 1000000000 / fps.toUInt64 ∧ s.windowlessFrameRate = fps.toInt32

instance (s : Pacing) (fps : UInt32) : Decidable (s.Follows fps) :=
  inferInstanceAs (Decidable (_ ∧ _))

/-! ### The interval -/

/-- A rate from 1 to 240 is taken as it is. -/
theorem interval_of_range (host : OsrHandler) {fps : UInt32} (hpos : 1 ≤ fps) (hle : fps ≤ 240) :
    (host.updateBeginFrameIntervalFromFps fps).beginFrameIntervalNs
      = 1000000000 / fps.toUInt64 := by
  have hlow : ¬ fps < 1 := by grind
  have hhigh : ¬ 240 < fps := by grind
  simp only [OsrHandler.updateBeginFrameIntervalFromFps, if_neg hlow, if_neg hhigh]

theorem appliedFps_range (requestedFps : UInt32) :
    1 ≤ appliedFps requestedFps ∧ appliedFps requestedFps ≤ 240 := by
  unfold appliedFps
  split_ifs with hzero hbig
  · decide
  · decide
  · grind

/-- The configured rate as an unsigned number. -/
theorem frameRate_range (argv : List Arg) :
    1 ≤ (fromArgs argv).frameRate.toUInt32 ∧ (fromArgs argv).frameRate.toUInt32 ≤ 240 := by
  have h := fromArgs_sanitized argv
  constructor
  · exact Int32.toUInt32_le (by decide) h.frameRate_pos
  · exact Int32.toUInt32_le (Int32.le_trans (by decide) h.frameRate_pos) h.frameRate_le

/-- **The handler is created with the configured rate.** -/
theorem onContextInitialized_follows (argv : List Arg) (d3d : D3DInterfaces) :
    (onContextInitialized (fromArgs argv) d3d).Follows (fromArgs argv).frameRate.toUInt32 := by
  obtain ⟨hpos, hle⟩ := frameRate_range argv
  exact ⟨interval_of_range _ hpos hle, by simp [onContextInitialized]⟩

/-! ### Requests -/

theorem handleControlEvent_of_request {e : ControlEvent} {value : UInt32}
    (h : frameRateRequest e = some value) (s : Pacing) :
    (s.handleControlEvent e).Follows (appliedFps value) := by
  cases e with
  | setFrameRate v =>
    obtain rfl : v = value := by simpa [frameRateRequest] using h
    obtain ⟨hpos, hle⟩ := appliedFps_range v
    exact ⟨interval_of_range _ hpos hle, rfl⟩
  | _ => cases h

theorem handleControlEvent_of_no_request {e : ControlEvent} (h : frameRateRequest e = none)
    {s : Pacing} {fps : UInt32} (hs : s.Follows fps) : (s.handleControlEvent e).Follows fps := by
  cases e with
  | setFrameRate v => cases h
  | _ => exact hs

/-- **Control events keep to the last request**, or to the rate in force before them. -/
theorem run_follows {s : Pacing} {fps : UInt32} (hs : s.Follows fps)
    (events : List ControlEvent) :
    (Runs.run handleControlEvent s events).Follows
      (((events.filterMap frameRateRequest).getLast?.map appliedFps).getD fps) := by
  induction events generalizing s fps with
  | nil => simpa using hs
  | cons e events ih =>
    rw [Runs.run_cons]
    cases he : frameRateRequest e with
    | none =>
      rw [List.filterMap_cons_none he]
      exact ih (handleControlEvent_of_no_request he hs)
    | some value =>
      rw [List.filterMap_cons_some he, List.getLast?_cons]
      have h := ih (handleControlEvent_of_request he s)
      cases hlast : (events.filterMap frameRateRequest).getLast? with
      | none => simpa [hlast] using h
      | some last => simpa [hlast] using h

/-! ### The startup -/

/-- On a new handler the threads start, and the rate is 60. -/
theorem onAfterCreated_follows (cfg : HostRuntimeConfig) (d3d : D3DInterfaces)
    (browser : BrowserId) :
    ∃ s, (onContextInitialized cfg d3d).onAfterCreated browser = some s ∧ s.Follows 60 :=
  ⟨_, rfl, rfl, rfl⟩

end Pacing

/-- **The rate in force.** After `OnAfterCreated` and any control events, the begin-frame interval
and CEF go by the last request, or else by the configured rate, exactly when there was a request
or the configured rate is 60. -/
theorem pacing_iff (argv : List Arg) (d3d : D3DInterfaces) (browser : BrowserId)
    (events : List ControlEvent) :
    (∃ s, (Pacing.onContextInitialized (fromArgs argv) d3d).onAfterCreated browser = some s
        ∧ (Runs.run Pacing.handleControlEvent s events).Follows (requestedFps argv events))
      ↔ events.filterMap frameRateRequest ≠ [] ∨ (fromArgs argv).frameRate = 60 := by
  obtain ⟨s, hs, hsixty⟩ := Pacing.onAfterCreated_follows (fromArgs argv) d3d browser
  have hrun := Pacing.run_follows hsixty events
  rw [hs]
  simp only [Option.some.injEq, exists_eq_left']
  cases hlast : (events.filterMap frameRateRequest).getLast? with
  | none =>
    have hempty : events.filterMap frameRateRequest = [] := List.getLast?_eq_none_iff.mp hlast
    rw [hempty] at hrun
    simp only [requestedFps, hempty, ne_eq, not_true_eq_false, false_or]
    constructor
    · intro h
      -- the rate set on CEF is 60 and the configured one
      have hrate : (60 : UInt32).toInt32 = (fromArgs argv).frameRate.toUInt32.toInt32 :=
        hrun.2.symm.trans h.2
      simpa using hrate.symm
    · intro h
      rw [h]
      exact hrun
  | some last =>
    have hne : events.filterMap frameRateRequest ≠ [] := by
      rintro hempty
      simp [hempty] at hlast
    rw [hlast] at hrun
    simp only [requestedFps, hlast, hne, ne_eq, not_false_eq_true, true_or, iff_true]
    exact hrun

/-- A host started with `--fps 30` is created with that rate, and loses it in `OnAfterCreated`. -/
theorem configured_fps_overwritten :
    let argv := [ascii "host", ascii "--fps", ascii "30"]
    let created := Pacing.onContextInitialized (fromArgs argv) fullD3D
    requestedFps argv [] = 30 ∧ created.Follows (requestedFps argv []) ∧
      ¬ ∃ s, created.onAfterCreated 1 = some s ∧
        (Runs.run Pacing.handleControlEvent s []).Follows (requestedFps argv []) := by
  refine ⟨by decide, Pacing.onContextInitialized_follows _ fullD3D, ?_⟩
  rintro ⟨s, hs, hfollows⟩
  cases hs
  exact absurd hfollows (by decide)

end CefHost
