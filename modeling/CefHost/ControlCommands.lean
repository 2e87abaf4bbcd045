import CefHost.ControlStrings
import CefHost.ControlThread
import CefHost.PaintOutcome

/-!
# What the commands do

`HandleControlEvent` has two kinds of effect: it stores members of the handler, and it calls CEF.
The settings among the members are read by the render thread, the input thread and CEF's callbacks
while the control thread goes through its commands, and nobody else stores them.

`CommandRun` is the control thread, access by access, and a command store by store and call by call,
with a turn of the render loop, a nudge or a callback of CEF anywhere in between. The consumer finds
that its commands take effect once each, in the order it wrote them, and that nothing else does.
Within a command, the settings may be those of its first stores: a reader in the middle of `Resize`
finds the new width with the old height.

## Representation

The run begins when `OnAfterCreated` has started the threads. `OnAfterCreated` stores the interval
itself, before it does so; it is not among the callbacks, since one more would assign to threads
that run, which ends the process.

A command with a string passes on whatever the scan for its zero unit finds; `beyond i` is the
memory behind the copied event of command number `i`. `m_keyframeIntervalUs` is stored and never
loaded. The debt reset, a load and a store, is one step: no setting depends on it.

## Main definitions

* `CefCall`, `controlCall` — the calls into CEF
* `ControlEffect`, `controlEffects` — the stores and calls of a command, in order
* `ControlSettings` — the settings, and what a command makes of them
* `CommandRun` — the runs

## Main results

* `OsrHandler.foldl_execute`, `ControlSettings.foldl_execute` — one command
* `commands_take_effect` — whole runs
-/

namespace CefHost

open EventLoop Runs

/-- A call into CEF that a command makes. -/
inductive CefCall
  | goBack
  | goForward
  | stopLoad
  | reload
  | frame (call : FrameCall)
  | wasHidden (hidden : Bool)
  | setFocus (focus : Bool)
  /-- The level is a double, which the event has as the bits of a float. -/
  | setZoomLevel (level : UInt32)
  | setWindowlessFrameRate (frameRate : UInt32)
  | wasResized
  | setAudioMuted (muted : Bool)
  | showDevTools
  | closeDevTools
  | deleteCookies
deriving DecidableEq

/-- The script of `HandleControlScrollTo`. -/
def scrollScript (x y : Int32) : U16String :=
  u16 ("window.scrollTo(" ++ toString x.toInt ++ "," ++ toString y.toInt ++ ")")

/-- `applied` in `HandleControlSetFrameRate`. -/
def appliedFrameRate (requestedFps : UInt32) : UInt32 :=
  if requestedFps = 0 then 60 else if 240 < requestedFps then 240 else requestedFps

section Calls

variable (cefURIEncode : U16String → U16String)

/-- The calls of `HandleControlEvent`, with `string` for what the commands with a string do. There
is a browser. -/
def callOf (string : StringCommand → ControlText → Option FrameCall) :
    ControlEvent → Option CefCall
  | .goBack => some .goBack
  | .goForward => some .goForward
  | .stopLoad => some .stopLoad
  | .reload => some .reload
  | .setURL text => (string .setURL text).map .frame
  | .setPaused _ => none
  | .setHidden value => some (.wasHidden value)
  | .setFocus value => some (.setFocus value)
  | .setZoomLevel value => some (.setZoomLevel value)
  | .setFrameRate value => some (.setWindowlessFrameRate (appliedFrameRate value))
  | .setConsumerCadenceUs _ => none
  | .setMaxInFlightBeginFrames _ => none
  | .setFlushIntervalFrames _ => none
  | .setKeyframeIntervalUs _ => none
  | .openLocalFile text => (string .openLocalFile text).map .frame
  | .loadHtmlString text => (string .loadHtmlString text).map .frame
  | .scrollTo x y => some (.frame (.executeJavaScript (scrollScript x y)))
  | .resize _ _ => some .wasResized
  | .setMuted value => some (.setAudioMuted value)
  | .openDevTools => some .showDevTools
  | .closeDevTools => some .closeDevTools
  | .setInputEnabled _ => none
  | .executeJS text => (string .executeJS text).map .frame
  | .clearCookies => some .deleteCookies
  | .unknown _ => none

/-- The call a command makes, with `beyond` behind the copy of the event. -/
def controlCall (beyond : U16String) : ControlEvent → Option CefCall :=
  callOf fun c text => (passString cefURIEncode beyond c text).call

/-- The call a command is meant to make. -/
def intendedCall : ControlEvent → Option CefCall :=
  callOf fun c text => some (c.call cefURIEncode (textString text))

/-- The string of a command. -/
def commandText : ControlEvent → Option ControlText
  | .setURL text => some text
  | .openLocalFile text => some text
  | .loadHtmlString text => some text
  | .executeJS text => some text
  | _ => none

/-- The string of the command, if it has one, has its zero unit. -/
def Terminates (evt : ControlEvent) : Prop := ∀ text ∈ commandText evt, ∃ i, text i = 0

/-- What lies behind the event does not matter then. -/
theorem controlCall_of_terminates {evt : ControlEvent} (h : Terminates evt) (beyond : U16String) :
    controlCall cefURIEncode beyond evt = intendedCall cefURIEncode evt := by
  have hstring : ∀ (c : StringCommand) (text : ControlText), text ∈ commandText evt →
      (passString cefURIEncode beyond c text).call
        = some (c.call cefURIEncode (textString text)) := by
    intro c text htext
    simp only [passString, found_cefString (h text htext), Option.map_some]
  rw [controlCall, intendedCall]
  cases evt with
  | setURL text => rw [callOf, hstring _ text rfl, callOf]
  | openLocalFile text => rw [callOf, hstring _ text rfl, callOf]
  | loadHtmlString text => rw [callOf, hstring _ text rfl, callOf]
  | executeJS text => rw [callOf, hstring _ text rfl, callOf]
  | _ => simp only [callOf]

/-- One store of a command to a member of the handler, or one call. -/
inductive ControlEffect
  | paused (value : Bool)
  | inputEnabled (value : Bool)
  | beginFrameIntervalNs (value : UInt64)
  | smoothedConsumerCadenceUs (value : UInt32)
  | maxInFlightBeginFrames (value : UInt32)
  /-- `m_paintsCompleted.store(sentNow)`, and the load in front of it. -/
  | paintsCompleted
  | flushIntervalFrames (value : UInt32)
  | width (value : UInt32)
  | height (value : UInt32)
  | forceFullFrame
  | warmupFullFrames
  | call (c : CefCall)
deriving DecidableEq

def ControlEffect.call? : ControlEffect → Option CefCall
  | .call c => some c
  | _ => none

/-- What a command does, one store or call after the other. -/
def controlEffects (beyond : U16String) (evt : ControlEvent) : List ControlEffect :=
  let calls := (controlCall cefURIEncode beyond evt).toList.map .call
  match evt with
  | .setPaused value => [.paused value]
  | .setInputEnabled value => [.inputEnabled value]
  | .setFrameRate value =>
    calls ++ [.beginFrameIntervalNs (1000000000 / (appliedFrameRate value).toUInt64),
      .smoothedConsumerCadenceUs 0]
  | .setMaxInFlightBeginFrames value =>
    [.maxInFlightBeginFrames (if value = 0 then 2 else value), .paintsCompleted]
  | .setFlushIntervalFrames value => [.flushIntervalFrames value]
  | .resize width height =>
    [.width width, .height height, .forceFullFrame, .warmupFullFrames] ++ calls
  | _ => calls

/-- Among the effects are the calls. -/
theorem filterMap_controlEffects (beyond : U16String) (evt : ControlEvent) :
    (controlEffects cefURIEncode beyond evt).filterMap ControlEffect.call?
      = (controlCall cefURIEncode beyond evt).toList := by
  have hcalls : ∀ calls : List CefCall,
      (calls.map ControlEffect.call).filterMap ControlEffect.call? = calls := by
    intro calls
    rw [List.filterMap_map]
    exact List.filterMap_some
  cases evt with
  | setFrameRate value => rw [controlEffects, List.filterMap_append, hcalls]; rfl
  | resize width height => rw [controlEffects, List.filterMap_append, hcalls]; rfl
  | setPaused | setInputEnabled | setMaxInFlightBeginFrames | setFlushIntervalFrames => rfl
  | _ => exact hcalls _

end Calls

/-! ### The settings -/

/-- What the commands set, apart from CEF's own state. -/
structure ControlSettings where
  paused : Bool
  inputEnabled : Bool
  beginFrameIntervalNs : UInt64
  smoothedConsumerCadenceUs : UInt32
  maxInFlightBeginFrames : UInt32
  flushIntervalFrames : UInt32
  width : UInt32
  height : UInt32
deriving DecidableEq

/-- The settings after a command. -/
def ControlSettings.apply (c : ControlSettings) : ControlEvent → ControlSettings
  | .setPaused value => { c with paused := value }
  | .setInputEnabled value => { c with inputEnabled := value }
  | .setFrameRate value =>
    { c with
      beginFrameIntervalNs := 1000000000 / (appliedFrameRate value).toUInt64
      smoothedConsumerCadenceUs := 0 }
  | .setMaxInFlightBeginFrames value =>
    { c with maxInFlightBeginFrames := if value = 0 then 2 else value }
  | .setFlushIntervalFrames value => { c with flushIntervalFrames := value }
  | .resize width height => { c with width := width, height := height }
  | _ => c

/-- The settings after a store. -/
def ControlSettings.execute (c : ControlSettings) : ControlEffect → ControlSettings
  | .paused value => { c with paused := value }
  | .inputEnabled value => { c with inputEnabled := value }
  | .beginFrameIntervalNs value => { c with beginFrameIntervalNs := value }
  | .smoothedConsumerCadenceUs value => { c with smoothedConsumerCadenceUs := value }
  | .maxInFlightBeginFrames value => { c with maxInFlightBeginFrames := value }
  | .flushIntervalFrames value => { c with flushIntervalFrames := value }
  | .width value => { c with width := value }
  | .height value => { c with height := value }
  | .paintsCompleted | .forceFullFrame | .warmupFullFrames | .call _ => c

theorem ControlSettings.foldl_call (c : ControlSettings) (calls : List CefCall) :
    (calls.map ControlEffect.call).foldl .execute c = c := by
  induction calls with
  | nil => rfl
  | cons call calls ih => exact ih

/-- **The stores of a command** make of the settings what the command does. -/
theorem ControlSettings.foldl_execute (cefURIEncode : U16String → U16String) (beyond : U16String)
    (c : ControlSettings) (evt : ControlEvent) :
    (controlEffects cefURIEncode beyond evt).foldl .execute c = c.apply evt := by
  cases evt with
  | setFrameRate value => rw [controlEffects, List.foldl_append, foldl_call]; rfl
  | resize width height => rw [controlEffects, List.foldl_append, foldl_call]; rfl
  | setPaused | setInputEnabled | setMaxInFlightBeginFrames | setFlushIntervalFrames => rfl
  | _ => exact foldl_call _ _

namespace OsrHandler

def settings (s : OsrHandler) : ControlSettings where
  paused := s.paused
  inputEnabled := s.inputEnabled
  beginFrameIntervalNs := s.beginFrameIntervalNs
  smoothedConsumerCadenceUs := s.smoothedConsumerCadenceUs
  maxInFlightBeginFrames := s.maxInFlightBeginFrames
  flushIntervalFrames := s.painter.flushIntervalFrames
  width := s.painter.width
  height := s.painter.height

/-- The rate is cut to its range by the command already. -/
theorem appliedFrameRate_clamped (requestedFps : UInt32) :
    (if appliedFrameRate requestedFps < 1 then 1
      else if 240 < appliedFrameRate requestedFps then 240 else appliedFrameRate requestedFps)
      = appliedFrameRate requestedFps := by
  have hpos : ¬ appliedFrameRate requestedFps < 1 := by
    rw [appliedFrameRate]
    grind
  have hle : ¬ 240 < appliedFrameRate requestedFps := by
    rw [appliedFrameRate]
    grind
  rw [if_neg hpos, if_neg hle]

/-- The handler after a store. -/
def execute (s : OsrHandler) : ControlEffect → OsrHandler
  | .paused value => { s with paused := value }
  | .inputEnabled value => { s with inputEnabled := value }
  | .beginFrameIntervalNs value => { s with beginFrameIntervalNs := value }
  | .smoothedConsumerCadenceUs value => { s with smoothedConsumerCadenceUs := value }
  | .maxInFlightBeginFrames value => { s with maxInFlightBeginFrames := value }
  | .paintsCompleted =>
    { s with painter := { s.painter with paintsCompleted := s.beginFramesSent } }
  | .flushIntervalFrames value =>
    { s with painter := { s.painter with flushIntervalFrames := value } }
  | .width value => { s with painter := { s.painter with width := value } }
  | .height value => { s with painter := { s.painter with height := value } }
  | .forceFullFrame => { s with painter := { s.painter with forceFullFrame := true } }
  | .warmupFullFrames => { s with painter := { s.painter with warmupFullFrames := 3 } }
  | .call _ => s

theorem foldl_call (s : OsrHandler) (calls : List CefCall) :
    (calls.map ControlEffect.call).foldl execute s = s := by
  induction calls with
  | nil => rfl
  | cons call calls ih => exact ih

/-- **One command**, store by store, is `HandleControlEvent`. -/
theorem foldl_execute (cefURIEncode : U16String → U16String) (beyond : U16String) (s : OsrHandler)
    (evt : ControlEvent) :
    (controlEffects cefURIEncode beyond evt).foldl execute s = s.handleControlEvent evt := by
  cases evt with
  | setFrameRate value =>
    rw [handleControlEvent, handleControlSetFrameRate, ← appliedFrameRate,
      updateBeginFrameIntervalFromFps, appliedFrameRate_clamped, controlEffects, List.foldl_append,
      foldl_call]
    rfl
  | resize width height => rw [controlEffects, List.foldl_append, foldl_call]; rfl
  | setPaused | setInputEnabled | setMaxInFlightBeginFrames | setFlushIntervalFrames => rfl
  | _ => exact foldl_call _ _

theorem settings_execute (s : OsrHandler) (e : ControlEffect) :
    (s.execute e).settings = s.settings.execute e := by
  cases e <;> rfl

end OsrHandler

namespace Painter

/-- The settings the painter has. -/
def SameControls (s s' : Painter) : Prop :=
  s'.flushIntervalFrames = s.flushIntervalFrames ∧ s'.width = s.width ∧ s'.height = s.height

theorem SameControls.trans {s s' s'' : Painter} (h : SameControls s s')
    (h' : SameControls s' s'') : SameControls s s'' :=
  ⟨h'.1.trans h.1, h'.2.1.trans h.2.1, h'.2.2.trans h.2.2⟩

theorem paintView_sameControls (s : Painter) (p : Paint) (src : Resource) :
    SameControls s (s.paintView p src) := by
  cases h : s.texturesReady src.width src.height p.create with
  | false => rw [paintView_failed h]; exact ⟨rfl, rfl, rfl⟩
  | true =>
    rcases texturesReady_cases h with hready | ⟨hready, hok⟩
    · obtain ⟨tx, htx⟩ := ready_back hready
      obtain ⟨t, q, rect, hcopied, -⟩ := copied_eq src htx
      rw [paintView_ready hready, hcopied, publishView_eq]
      exact ⟨rfl, rfl, rfl⟩
    · obtain ⟨tx, htx⟩ := recreated_back hok
      obtain ⟨t, q, rect, hcopied, -⟩ := copied_eq src htx
      rw [paintView_recreated hready hok, hcopied, publishView_eq, adoptTextures_eq]
      exact ⟨rfl, rfl, rfl⟩

theorem paintPopup_sameControls (s : Painter) (p : Paint) (src : Resource) :
    SameControls s (s.paintPopup p src) := by
  cases h : s.popupTextureReady p src with
  | false => rw [paintPopup_failed h]; exact ⟨rfl, rfl, rfl⟩
  | true =>
    obtain ⟨tx, n, heq, -⟩ := paintPopup_ready h
    rw [heq]
    cases hplane : s.popupPlaneReady with
    | false => exact ⟨rfl, rfl, rfl⟩
    | true =>
      have hcopied : SameControls s ((s.withPopup src tx n).copyPopup src) := ⟨rfl, rfl, rfl⟩
      refine hcopied.trans ?_
      obtain ⟨t, q, hpublish, -⟩ := publishPopup_eq ((s.withPopup src tx n).copyPopup src) p
      show SameControls _ (publishPopup _ p)
      rw [hpublish, publishPopupPlane_eq]
      exact ⟨rfl, rfl, rfl⟩

theorem onAcceleratedPaint_sameControls (s : Painter) (p : Paint) :
    SameControls s (s.onAcceleratedPaint p) := by
  cases hsrc : s.source p with
  | none => rw [onAcceleratedPaint_none hsrc]; exact ⟨rfl, rfl, rfl⟩
  | some src =>
    obtain ⟨view, popup, hopened⟩ := s.opened_eq p src
    cases ht : p.type with
    | view =>
      rw [onAcceleratedPaint_view hsrc ht, hopened]
      exact SameControls.trans ⟨rfl, rfl, rfl⟩ (paintView_sameControls _ p src)
    | popup =>
      rw [onAcceleratedPaint_popup hsrc ht, hopened]
      exact SameControls.trans ⟨rfl, rfl, rfl⟩ (paintPopup_sameControls _ p src)

end Painter

/-- Whether a callback comes from CEF; the other two are what commands do to the painter. -/
def Callback.fromCef : Callback → Bool
  | .resize _ _ => false
  | .setFlushIntervalFrames _ => false
  | _ => true

/-- **CEF's callbacks** leave the settings alone. -/
theorem Painter.step_sameControls (s : Painter) {c : Callback} (hc : c.fromCef = true) :
    SameControls s (s.step c) := by
  have hload : ∀ isMain v, SameControls s (s.setLoadState isMain v) := by
    intro isMain v
    obtain ⟨header, seen, events, heq⟩ := s.setLoadState_eq isMain v
    rw [heq]
    exact ⟨rfl, rfl, rfl⟩
  match c with
  | .paint p => exact s.onAcceleratedPaint_sameControls p
  | .loadStart isMain => exact hload isMain _
  | .loadEnd isMain _ => exact hload isMain _
  | .loadError isMain => exact hload isMain _
  | .cursorChange _ => exact ⟨rfl, rfl, rfl⟩
  | .popupShow true => exact ⟨rfl, rfl, rfl⟩
  | .popupShow false => exact ⟨rfl, rfl, rfl⟩
  | .popupSize _ => exact ⟨rfl, rfl, rfl⟩

namespace OsrHandler

theorem settings_renderTick (s : OsrHandler) (now : UInt64) :
    (s.renderTick now).1.settings = s.settings := by
  rw [renderTick, trySendBeginFrame]
  split
  · rfl
  · split
    · rfl
    · split <;> rfl

theorem settings_tryInputNudgeFrame (s : OsrHandler) (now : UInt64) :
    (s.tryInputNudgeFrame now).1.settings = s.settings := by
  rw [tryInputNudgeFrame]
  split
  · rfl
  · split <;> rfl

theorem settings_callback (s : OsrHandler) {c : Callback} (hc : c.fromCef = true) :
    { s with painter := s.painter.step c }.settings = s.settings := by
  obtain ⟨hflush, hwidth, hheight⟩ := s.painter.step_sameControls hc
  simp only [settings, hflush, hwidth, hheight]

end OsrHandler

/-! ### Runs -/

/-- The handler, the control thread with what is left of the command in hand, and the calls made
into CEF. -/
structure CommandRun where
  handler : OsrHandler
  thread : ControlThread.State
  pending : List ControlEffect
  calls : List CefCall

/-- The next step of one of the parties. -/
inductive CommandAction
  /-- Of the control thread, the consumer process or `StopRenderLoop`. -/
  | control (a : Action ControlEvent)
  /-- A turn of the render loop. -/
  | tick (now : UInt64)
  /-- A call of `TryInputNudgeFrame`. -/
  | nudge (now : UInt64)
  | callback (c : Callback) (hc : c.fromCef = true)

/-- The event that a step of the control thread begins to handle. -/
def handledBy (s : ControlThread.State) : Action ControlEvent → Option ControlEvent
  | .work _ =>
    match s.pc with
    | .handling evt => some evt
    | _ => none
  | _ => none

namespace CommandRun

variable (cefURIEncode : U16String → U16String) (beyond : ℕ → U16String) (browser : BrowserId)

/-- With the threads started. -/
def start (handler : OsrHandler) (events : Fin controlRing.size → ControlEvent) : CommandRun where
  handler := handler
  thread := ControlThread.start events
  pending := []
  calls := []

/-- What is left to do after a step that may begin with a command, the one with the number `n`. -/
def begun (n : ℕ) : Option ControlEvent → List ControlEffect
  | some evt => controlEffects cefURIEncode (beyond n) evt
  | none => []

def step (s : CommandRun) : CommandAction → CommandRun
  | .control a =>
    match s.pending, a.isWork with
    | e :: rest, true =>
      { s with
        handler := s.handler.execute e
        pending := rest
        calls := s.calls ++ e.call?.toList }
    | pending, _ =>
      { s with
        thread := ControlThread.step (some browser) s.thread a
        pending := pending ++ begun cefURIEncode beyond (ControlThread.handled s.thread).length
          (handledBy s.thread a) }
  | .tick now => { s with handler := (s.handler.renderTick now).1 }
  | .nudge now => { s with handler := (s.handler.tryInputNudgeFrame now).1 }
  | .callback c _ => { s with handler := { s.handler with painter := s.handler.painter.step c } }

/-- What the control thread's machine sees of a step. -/
def toThread (s : CommandRun) : CommandAction → List (Action ControlEvent)
  | .control a => if s.pending ≠ [] ∧ a.isWork = true then [] else [a]
  | _ => []

theorem thread_step (s : CommandRun) (a : CommandAction) :
    (s.step cefURIEncode beyond browser a).thread
      = run (ControlThread.step (some browser)) s.thread (s.toThread a) := by
  match a with
  | .control a =>
    rw [step, toThread]
    cases s.pending <;> cases a.isWork <;> rfl
  | .tick _ | .nudge _ | .callback _ _ => rfl

/-- What a step of the control thread's machine adds to what is handled. -/
theorem handled_step (s : ControlThread.State) (a : Action ControlEvent) :
    ControlThread.handled (ControlThread.step (some browser) s a)
      = ControlThread.handled s ++ (handledBy s a).toList := by
  cases a with
  | produce _ =>
    rw [ControlThread.step, EventLoop.step]
    split <;> exact (List.append_nil _).symm
  | timeout =>
    rw [ControlThread.step, EventLoop.step]
    split <;> exact (List.append_nil _).symm
  | stop =>
    rw [ControlThread.step, EventLoop.step]
    split <;> exact (List.append_nil _).symm
  | work v =>
    show (work _ _ s v).log = s.log ++ (handledBy s (.work v)).toList
    rw [handledBy, work]
    cases s.pc with
    | handling evt => rfl
    | waiting =>
      simp only [ControlThread.code]
      split <;> exact (List.append_nil _).symm
    | reading =>
      simp only [ControlThread.code]
      split <;> exact (List.append_nil _).symm
    | loop | woken | pump | returned => exact (List.append_nil _).symm

/-- The others do not move the thread while it is not at its wait. -/
theorem pc_step_of_reading {s : ControlThread.State} (hs : s.pc = .reading)
    {a : Action ControlEvent} (ha : a.isWork = false) :
    (ControlThread.step (some browser) s a).pc = .reading := by
  cases a with
  | work v => cases ha
  | produce _ =>
    rw [ControlThread.step, EventLoop.step]
    split <;> exact hs
  | timeout =>
    rw [ControlThread.step, EventLoop.step, hs]
    exact hs
  | stop =>
    rw [ControlThread.step, EventLoop.step]
    split <;> exact hs

/-- After a step that begins with a command the thread is at the next read. -/
theorem pc_step_of_handledBy {s : ControlThread.State} {a : Action ControlEvent}
    {evt : ControlEvent} (h : handledBy s a = some evt) :
    (ControlThread.step (some browser) s a).pc = .reading := by
  cases a with
  | work v =>
    show (work _ _ s v).pc = .reading
    rw [handledBy] at h
    cases hpc : s.pc with
    | handling evt => rw [work, hpc]; rfl
    | _ => rw [hpc] at h; cases h
  | _ => cases h

/-! ### What the commands have done -/

/-- The calls of the commands, with what lies behind each of them. -/
def callsOf (commands : List ControlEvent) : List CefCall :=
  (commands.mapIdx fun i evt => (controlCall cefURIEncode (beyond i) evt).toList).flatten

theorem callsOf_append_singleton (commands : List ControlEvent) (evt : ControlEvent) :
    callsOf cefURIEncode beyond (commands ++ [evt]) = callsOf cefURIEncode beyond commands
      ++ (controlCall cefURIEncode (beyond commands.length) evt).toList := by
  rw [callsOf, List.mapIdx_concat, List.flatten_append, List.flatten_singleton]
  rfl

theorem callsOf_of_terminates {commands : List ControlEvent}
    (h : ∀ evt ∈ commands, Terminates evt) :
    callsOf cefURIEncode beyond commands = commands.filterMap (intendedCall cefURIEncode) := by
  induction commands using List.reverseRecOn with
  | nil => rfl
  | append_singleton commands evt ih =>
    have hlast := h evt (List.mem_append_right _ (List.mem_singleton_self evt))
    rw [callsOf_append_singleton, ih fun evt hevt => h evt (List.mem_append_left _ hevt),
      controlCall_of_terminates _ hlast, List.filterMap_append]
    congr 1

/-- The settings and the calls are those of the commands `finished`, and of the effects `done` of
the command in hand. -/
structure Faithful (settings : ControlSettings) (s : CommandRun) (finished : List ControlEvent)
    (inHand : Option ControlEvent) (done : List ControlEffect) : Prop where
  handled : ControlThread.handled s.thread = finished ++ inHand.toList
  effects : done ++ s.pending = begun cefURIEncode beyond finished.length inHand
  settings : s.handler.settings = done.foldl .execute (finished.foldl .apply settings)
  calls : s.calls = callsOf cefURIEncode beyond finished ++ done.filterMap ControlEffect.call?
  reading : s.pending ≠ [] → s.thread.pc = .reading

variable {cefURIEncode beyond browser} {c : ControlSettings} {s : CommandRun}
  {finished : List ControlEvent} {inHand : Option ControlEvent} {done : List ControlEffect}

/-- With nothing left of the command in hand, all commands are finished. -/
theorem Faithful.complete (h : Faithful cefURIEncode beyond c s finished inHand done)
    (hpending : s.pending = []) :
    Faithful cefURIEncode beyond c s (ControlThread.handled s.thread) none [] := by
  have heffects := h.effects
  rw [hpending, List.append_nil] at heffects
  cases inHand with
  | none =>
    have hhandled := h.handled.trans (List.append_nil _)
    have hdone : done = [] := heffects
    rw [hhandled, ← hdone]
    exact ⟨hhandled.trans (List.append_nil _).symm, by rw [hdone, hpending]; rfl, h.settings,
      h.calls, h.reading⟩
  | some evt =>
    have hhandled : ControlThread.handled s.thread = finished ++ [evt] := h.handled
    have hdone : done = controlEffects cefURIEncode (beyond finished.length) evt := heffects
    refine ⟨(List.append_nil _).symm, by rw [hpending]; rfl, ?_, ?_, h.reading⟩
    · rw [h.settings, hdone, ControlSettings.foldl_execute, hhandled, List.foldl_append]
      rfl
    · rw [h.calls, hdone, filterMap_controlEffects, hhandled, callsOf_append_singleton]
      exact (List.append_nil _).symm

/-- A step of anyone who stores no setting. -/
theorem Faithful.other (h : Faithful cefURIEncode beyond c s finished inHand done)
    {handler : OsrHandler} (hsame : handler.settings = s.handler.settings) :
    Faithful cefURIEncode beyond c { s with handler := handler } finished inHand done :=
  ⟨h.handled, h.effects, hsame.trans h.settings, h.calls, h.reading⟩

/-- A step of the control thread's machine: it may begin with a command, if none is in hand. -/
theorem Faithful.thread (h : Faithful cefURIEncode beyond c s finished inHand done)
    {a : Action ControlEvent} (ha : s.pending ≠ [] → a.isWork = false) :
    ∃ finished' inHand' done', Faithful cefURIEncode beyond c
      { s with
        thread := ControlThread.step (some browser) s.thread a
        pending := s.pending ++ begun cefURIEncode beyond (ControlThread.handled s.thread).length
          (handledBy s.thread a) } finished' inHand' done' := by
  have hhandled := handled_step browser s.thread a
  cases hevt : handledBy s.thread a with
  | none =>
    rw [hevt] at hhandled
    refine ⟨finished, inHand, done, (hhandled.trans (List.append_nil _)).trans h.handled,
      (congrArg (done ++ ·) (List.append_nil s.pending)).trans h.effects, h.settings, h.calls,
      fun hpending => ?_⟩
    have hleft : s.pending ≠ [] := by
      intro hnil
      exact hpending (by rw [hnil]; rfl)
    exact pc_step_of_reading browser (h.reading hleft) (ha hleft)
  | some evt =>
    rw [hevt] at hhandled
    have hpending : s.pending = [] := by
      by_contra hleft
      rw [handledBy.eq_def, h.reading hleft] at hevt
      cases a <;> cases hevt
    have hcomplete := h.complete hpending
    refine ⟨ControlThread.handled s.thread, some evt, [], hhandled, ?_, hcomplete.settings,
      hcomplete.calls, fun _ => pc_step_of_handledBy browser hevt⟩
    rw [hpending]
    rfl

/-- A store or a call of the command in hand. -/
theorem Faithful.effect (h : Faithful cefURIEncode beyond c s finished inHand done)
    {e : ControlEffect} {rest : List ControlEffect} (hpending : s.pending = e :: rest) :
    Faithful cefURIEncode beyond c
      { s with
        handler := s.handler.execute e
        pending := rest
        calls := s.calls ++ e.call?.toList } finished inHand (done ++ [e]) := by
  have heffects := h.effects
  rw [hpending, List.append_cons] at heffects
  refine ⟨h.handled, heffects, ?_, ?_, fun _ => h.reading (by rw [hpending]; simp)⟩
  · show (s.handler.execute e).settings = _
    rw [OsrHandler.settings_execute, h.settings, List.foldl_append]
    rfl
  · show s.calls ++ e.call?.toList = _
    rw [h.calls, List.filterMap_append, List.append_assoc]
    cases e <;> rfl

/-- **One step** of any party. -/
theorem Faithful.step (h : Faithful cefURIEncode beyond c s finished inHand done)
    (a : CommandAction) : ∃ finished' inHand' done', Faithful cefURIEncode beyond c
      (s.step cefURIEncode beyond browser a) finished' inHand' done' := by
  match a with
  | .tick now => exact ⟨_, _, _, h.other (s.handler.settings_renderTick now)⟩
  | .nudge now => exact ⟨_, _, _, h.other (s.handler.settings_tryInputNudgeFrame now)⟩
  | .callback d hd => exact ⟨_, _, _, h.other (s.handler.settings_callback hd)⟩
  | .control a =>
    rw [CommandRun.step]
    split
    · next e rest hpending hwork => exact ⟨_, _, _, h.effect hpending⟩
    · next hnot =>
      refine h.thread fun hpending => ?_
      obtain ⟨e, rest, hcons⟩ := List.exists_cons_of_ne_nil hpending
      exact Bool.eq_false_iff.mpr fun hwork => hnot e rest hcons hwork

/-- **Whole runs.** -/
theorem faithful_run (cefURIEncode : U16String → U16String) (beyond : ℕ → U16String)
    (browser : BrowserId) (handler : OsrHandler) (events : Fin controlRing.size → ControlEvent)
    (as : List CommandAction) :
    ∃ finished inHand done, Faithful cefURIEncode beyond handler.settings
      (run (step cefURIEncode beyond browser) (start handler events) as) finished inHand done :=
  invariant (I := fun s => ∃ finished inHand done,
      Faithful cefURIEncode beyond handler.settings s finished inHand done)
    (fun _ a ⟨_, _, _, h⟩ => h.step a)
    ⟨[], none, [], rfl, rfl, rfl, rfl, fun hpending => absurd rfl hpending⟩ as

theorem thread_ok (cefURIEncode : U16String → U16String) (beyond : ℕ → U16String)
    (browser : BrowserId) (handler : OsrHandler) (events : Fin controlRing.size → ControlEvent)
    (as : List CommandAction) :
    ControlThread.Ok browser
      (run (step cefURIEncode beyond browser) (start handler events) as).thread := by
  rw [project (I := fun _ => True) (fun _ _ h => h)
    (fun s a _ => thread_step cefURIEncode beyond browser s a) trivial]
  exact ControlThread.ok_run browser events _

end CommandRun

/-- **Commands take effect.** In every interleaving of the control thread, one access, store or call
at a time, with the consumer process, `StopRenderLoop`, the render loop, nudges and CEF's callbacks,
whatever CEF escapes and wherever a string stands in memory, there are commands that are finished,
the first ones published, and at most one that comes next and is in hand:

* what a command does, without an interruption, is `HandleControlEvent`;
* the settings are what the finished ones make of those at the start, and then the first stores of
  the one in hand; nothing else has changed them;
* the calls made into CEF are those of the finished ones, in order, which are the intended ones if
  their strings have a zero unit, and then the first calls of the one in hand;
* while `m_running` is set, with every published command announced and the thread asleep, all the
  commands published are finished. -/
theorem commands_take_effect (cefURIEncode : U16String → U16String) (beyond : ℕ → U16String)
    (browser : BrowserId) (handler : OsrHandler) (events : Fin controlRing.size → ControlEvent)
    (as : List CommandAction) :
    let s := run (CommandRun.step cefURIEncode beyond browser) (CommandRun.start handler events) as
    (∀ (h : OsrHandler) i evt,
      (controlEffects cefURIEncode (beyond i) evt).foldl .execute h = h.handleControlEvent evt) ∧
    ∃ (finished : List ControlEvent) (inHand : Option ControlEvent) (done : List ControlEffect),
      (finished ++ inHand.toList) <+: ControlThread.published s.thread ∧
      done ++ s.pending = CommandRun.begun cefURIEncode beyond finished.length inHand ∧
      s.handler.settings = done.foldl .execute (finished.foldl .apply handler.settings) ∧
      (∃ calls, s.calls = calls ++ done.filterMap ControlEffect.call? ∧
        calls = CommandRun.callsOf cefURIEncode beyond finished ∧
        ((∀ evt ∈ finished, Terminates evt) →
          calls = finished.filterMap (intendedCall cefURIEncode))) ∧
      (s.thread.running = true → s.thread.owed = false →
        Blocked (ControlThread.code (some browser)) s.thread →
        finished = ControlThread.published s.thread ∧ inHand = none) := by
  intro s
  refine ⟨fun h i evt => h.foldl_execute cefURIEncode (beyond i) evt, ?_⟩
  have hok := CommandRun.thread_ok cefURIEncode beyond browser handler events as
  obtain ⟨finished, inHand, done, h⟩ :=
    CommandRun.faithful_run cefURIEncode beyond browser handler events as
  by_cases hpending : s.pending = []
  · have hcomplete := h.complete hpending
    refine ⟨_, none, [], ?_, hcomplete.effects, hcomplete.settings, ⟨_, hcomplete.calls, rfl,
      fun hterminates => CommandRun.callsOf_of_terminates _ _ hterminates⟩,
      fun hrun howed hblocked => ⟨?_, rfl⟩⟩
    · rw [Option.toList_none, List.append_nil]
      exact hok.handled_prefix
    · rw [hok.handled_of_blocked hblocked]
      exact hok.drained_of_blocked (ControlThread.serves browser) hrun howed hblocked
  · refine ⟨finished, inHand, done, ?_, h.effects, h.settings, ⟨_, h.calls, rfl,
      fun hterminates => CommandRun.callsOf_of_terminates _ _ hterminates⟩,
      fun _ _ hblocked => ?_⟩
    · rw [← h.handled]
      exact hok.handled_prefix
    · -- a thread with a command in hand is not at its wait
      obtain ⟨⟨next, hi⟩, -⟩ := hblocked
      rw [h.reading hpending] at hi
      cases hi

end CefHost
