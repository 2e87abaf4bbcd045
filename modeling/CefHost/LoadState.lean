import CefHost.Library.Runs
import CefHost.OsrHandler
import CefHost.PublishCases

/-!
# The load state

The header has one byte for the load state of the page. Three callbacks write it, each from its
own arguments and without a look at what the others wrote, and none of them looks at the browser it
is called for. A navigation that fails after it was committed is reported by `OnLoadError` *and* by
`OnLoadEnd`, and the popups of a page share the handler of their opener.

A `LoadRun` remembers whether the hosted browser's main frame has reported a failure since its last
`OnLoadStart`.

## Main results

* `LoadRun.truthful_iff` — one callback
* `load_state_truthful_iff` — whole runs
* `load_end_hides_error` — a navigation that fails after its commit
-/

namespace CefHost

/-- What a load callback reports. -/
inductive LoadEvent
  | start
  | ended (httpStatusCode : Int32)
  | error
deriving DecidableEq

/-- The state the callback writes for a main frame. -/
def LoadEvent.loadState : LoadEvent → CefLoadState
  | .start => .loading
  | .ended status => if 400 ≤ status then .error else .ready
  | .error => .error

/-- A load callback: its browser, whether its frame is the browser's main frame, and the event. -/
structure LoadCall where
  browser : BrowserId
  isMain : Bool
  event : LoadEvent
deriving DecidableEq

/-- The callback is about the main frame of this browser. -/
def LoadCall.isAbout (c : LoadCall) (hosted : BrowserId) : Bool := c.browser == hosted && c.isMain

/-- One of the three load callbacks. -/
def Callback.isLoad : Callback → Bool
  | .loadStart _ => true
  | .loadEnd _ _ => true
  | .loadError _ => true
  | _ => false

namespace Painter

/-- `OnLoadStart`, `OnLoadEnd` or `OnLoadError`. The code does not use the browser. -/
def loadCall (s : Painter) (c : LoadCall) : Painter :=
  match c.event with
  | .start => s.onLoadStart c.isMain
  | .ended status => s.onLoadEnd c.isMain status
  | .error => s.onLoadError c.isMain

theorem setLoadState_loadState (s : Painter) (isMain : Bool) (v : CefLoadState) :
    (s.setLoadState isMain v).header.loadState = if isMain then v else s.header.loadState := by
  cases isMain <;> rfl

theorem loadCall_loadState (s : Painter) (c : LoadCall) :
    (s.loadCall c).header.loadState =
      if c.isMain then c.event.loadState else s.header.loadState := by
  rw [loadCall]
  cases c.event <;> exact s.setLoadState_loadState _ _

/-- The other callbacks leave the load state alone. -/
theorem step_loadState (s : Painter) {c : Callback} (hc : c.isLoad = false) :
    (s.step c).header.loadState = s.header.loadState := by
  cases c with
  | paint p =>
    change (s.onAcceleratedPaint p).header.loadState = s.header.loadState
    rcases s.onAcceleratedPaint_cases p with ⟨-, hprep⟩ |
      ⟨-, -, src, e, recreated, -, -, hprep, heq⟩ | ⟨-, -, e, hprep, -, -, heq⟩
    · rw [hprep.header]
      rfl
    · obtain ⟨count, rects, -, hheader⟩ := e.publishView_header p src recreated (s.collectDirty p)
      rw [heq, hheader, hprep.header]
      cases recreated <;> rfl
    · obtain ⟨rects, hheader⟩ := e.publishPopupPlane_header p s.clampedPopupRect
      rw [heq, hheader, hprep.header]
      rfl
  | loadStart isMain => cases hc
  | loadEnd isMain status => cases hc
  | loadError isMain => cases hc
  | popupShow visible => cases visible <;> rfl
  | _ => rfl

end Painter

/-- The painter, and whether the main frame of the hosted browser has reported `OnLoadError` or a
status of at least 400 since its last `OnLoadStart`. -/
structure LoadRun where
  painter : Painter
  failed : Bool

/-- A load callback, or another one. -/
inductive LoadInput
  | load (c : LoadCall)
  | other (c : Callback) (hc : c.isLoad = false)

namespace LoadRun

def init (s : Painter) : LoadRun := ⟨s, false⟩

def step (hosted : BrowserId) (r : LoadRun) : LoadInput → LoadRun
  | .load c =>
    { painter := r.painter.loadCall c
      failed :=
        if c.isAbout hosted then
          match c.event with
          | .start => false
          | .ended status => r.failed || 400 ≤ status
          | .error => true
        else r.failed }
  | .other c _ => { r with painter := r.painter.step c }

/-- After a failure the header says so. -/
def ShowsError (r : LoadRun) : Prop := r.failed = true → r.painter.header.loadState = .error

/-- The step leaves the truth in the header, and the callbacks of other browsers and of sub frames
leave what is there. -/
def Truthful (hosted : BrowserId) (r : LoadRun) (i : LoadInput) : Prop :=
  (r.step hosted i).ShowsError ∧
    match i with
    | .load c => c.isAbout hosted = false →
        (r.step hosted i).painter.header.loadState = r.painter.header.loadState
    | .other _ _ => True

/-- The hosted main frame does not end well after it has failed, and the main frame of another
browser reports nothing but what the header already says. -/
def Undisturbed (hosted : BrowserId) (r : LoadRun) : LoadInput → Prop
  | .load c =>
    if c.isAbout hosted then c.event.loadState = .ready → r.failed = false
    else c.isMain = true → c.event.loadState = r.painter.header.loadState
  | .other _ _ => True

variable {r : LoadRun} {hosted : BrowserId}

/-- **One callback.** -/
theorem truthful_iff (h : r.ShowsError) (i : LoadInput) :
    r.Truthful hosted i ↔ r.Undisturbed hosted i := by
  cases i with
  | other c hc =>
    refine iff_of_true ⟨fun hfailed => ?_, trivial⟩ trivial
    exact (r.painter.step_loadState hc).trans (h hfailed)
  | load c =>
    have hstate := r.painter.loadCall_loadState c
    rw [Truthful, ShowsError, Undisturbed, step]
    dsimp only
    rw [hstate]
    cases hmine : c.isAbout hosted with
    | true =>
      have hmain : c.isMain = true := by
        rw [LoadCall.isAbout, Bool.and_eq_true] at hmine
        exact hmine.2
      rw [if_pos rfl, if_pos rfl, if_pos hmain]
      cases hevent : c.event with
      | start => simp [LoadEvent.loadState]
      | error => simp [LoadEvent.loadState]
      | ended status =>
        by_cases hbad : 400 ≤ status
        · simp [LoadEvent.loadState, hbad]
        · simp [LoadEvent.loadState, hbad]
    | false =>
      rw [if_neg Bool.false_ne_true, if_neg Bool.false_ne_true]
      cases hmain : c.isMain with
      | false =>
        have hshown : r.failed = true → r.painter.header.loadState = .error := h
        simpa using hshown
      | true =>
        simp only [if_true, true_implies]
        constructor
        · exact fun htruth => htruth.2
        · intro hsame
          rw [hsame]
          exact ⟨h, rfl⟩

end LoadRun

/-- **Runs of callbacks**, in any order and of any browsers: the load state tells the truth about
the hosted browser if and only if nothing disturbs it. -/
theorem load_state_truthful_iff (names : SharedMemoryNames) (d3d : D3DInterfaces)
    (width height : UInt32) (hosted : BrowserId) (inputs : List LoadInput) :
    Runs.Along (LoadRun.step hosted) (LoadRun.Truthful hosted)
        (.init (.init names d3d width height)) inputs ↔
      Runs.Along (LoadRun.step hosted) (LoadRun.Undisturbed hosted)
        (.init (.init names d3d width height)) inputs := by
  refine Runs.along_iff_along (I := LoadRun.ShowsError) ?_ ?_ Bool.noConfusion inputs
  · intro r i h hG
    exact ((LoadRun.truthful_iff h i).mpr hG).1
  · intro r i h
    exact LoadRun.truthful_iff h i

/-- A navigation that is committed, fails and ends, in the main frame of browser 1. -/
def failedNavigation : List LoadInput :=
  [.load ⟨1, true, .start⟩, .load ⟨1, true, .error⟩, .load ⟨1, true, .ended 200⟩]

/-- Its `OnLoadEnd` replaces the error. -/
theorem load_end_hides_error :
    ¬ Runs.Along (LoadRun.step 1) (LoadRun.Truthful 1)
      (.init (.init (buildSharedMemoryNames []) fullD3D 16 16)) failedNavigation := by
  rintro ⟨-, -, ⟨htruth, -⟩, -⟩
  exact absurd (htruth (by decide +kernel)) (by decide +kernel)

end CefHost
