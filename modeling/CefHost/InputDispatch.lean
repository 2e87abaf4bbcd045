import CefHost.Library.Binary32
import CefHost.OsrHandler

/-!
# Input events

`DispatchInputEvent` and `PumpInput`: the input thread takes events off the input ring and passes
them to CEF, unless input is disabled, in which case they are dropped.

## Representation

`PumpInput` reads two things that other processes and threads write: the ring, and
`m_inputEnabled`, which it loads once for each event. A call is therefore given the events that
`ReadEvent` returns, each with the value loaded after it; the pump decides how many it takes. What
it does is a list of actions. A nudge is `OsrHandler.tryInputNudgeFrame` at the clock of that
moment. The scroll deltas are floats, and the cast to `int` drops their fractions; of a delta that
does not fit the language says nothing, and the model what x64 does.

## Main definitions

* `dispatchInputEvent` — one event
* `pumpInput` — one call of the pump

## Main results

* `dispatchInputEvent_wheel` — the cast of the scroll deltas
* `pumpInput_mouseModifiers`, `pumpInput_calls` — what a call of the pump does to
  `m_mouseModifiers` and to CEF, event by event
-/

namespace CefHost

/-- `CefBrowserHost::MouseButtonType`. -/
def mbtLeft : UInt8 := 0
def mbtMiddle : UInt8 := 1
def mbtRight : UInt8 := 2

def eventflagLeftMouseButton : UInt32 := 16
def eventflagMiddleMouseButton : UInt32 := 32
def eventflagRightMouseButton : UInt32 := 64

structure CefMouseEvent where
  x : Int32
  y : Int32
  modifiers : UInt32 := 0
deriving DecidableEq

inductive CefKeyEventType
  | rawKeyDown
  | keyUp
  | char
deriving DecidableEq

structure CefKeyEvent where
  type : CefKeyEventType
  windowsKeyCode : Int32
  modifiers : UInt32 := 0
deriving DecidableEq

/-- A call of the browser host. -/
inductive HostCall
  | sendMouseMoveEvent (e : CefMouseEvent) (mouseLeave : Bool)
  | sendMouseClickEvent (e : CefMouseEvent) (type : UInt8) (mouseUp : Bool) (clickCount : ℕ)
  | sendMouseWheelEvent (e : CefMouseEvent) (deltaX deltaY : Int32)
  | sendKeyEvent (e : CefKeyEvent)
deriving DecidableEq

/-- The flag of a button byte. Every byte but two is taken for the right button. -/
def buttonFlag (btn : UInt8) : UInt32 :=
  if btn = mbtLeft then eventflagLeftMouseButton
  else if btn = mbtMiddle then eventflagMiddleMouseButton
  else eventflagRightMouseButton

/-- What `DispatchInputEvent` does: the new `m_mouseModifiers`, the call, and the result. -/
structure Dispatched where
  mouseModifiers : UInt32
  call : Option HostCall
  result : Bool
deriving DecidableEq

/-- `MouseDown` and `MouseUp`. -/
def dispatchButton (mouseModifiers : UInt32) (x y : Int32) (btn : UInt8) (isUp : Bool) :
    Dispatched :=
  let modifiers :=
    if isUp then mouseModifiers &&& ~~~buttonFlag btn else mouseModifiers ||| buttonFlag btn
  ⟨modifiers, some (.sendMouseClickEvent ⟨x, y, modifiers⟩ btn isUp 1), true⟩

def dispatchInputEvent (mouseModifiers : UInt32) : InputEvent → Dispatched
  | .mouseMove x y _ =>
    ⟨mouseModifiers, some (.sendMouseMoveEvent ⟨x, y, mouseModifiers⟩ false), true⟩
  | .mouseDown x y button => dispatchButton mouseModifiers x y button false
  | .mouseUp x y button => dispatchButton mouseModifiers x y button true
  | .mouseScroll x y deltaX deltaY =>
    ⟨mouseModifiers, some (.sendMouseWheelEvent { x := x, y := y } (Binary32.toInt32 deltaX)
      (Binary32.toInt32 deltaY)), true⟩
  | .keyDown windowsKeyCode modifiers =>
    ⟨mouseModifiers, some (.sendKeyEvent ⟨.rawKeyDown, windowsKeyCode.toInt32, modifiers⟩), true⟩
  | .keyUp windowsKeyCode modifiers =>
    ⟨mouseModifiers, some (.sendKeyEvent ⟨.keyUp, windowsKeyCode.toInt32, modifiers⟩), true⟩
  | .keyChar character =>
    ⟨mouseModifiers, some (.sendKeyEvent
      { type := .char, windowsKeyCode := character.toUInt32.toInt32 }), true⟩
  | .unknown _ => ⟨mouseModifiers, none, false⟩

/-- **The wheel** turns by the deltas of the event, each without its fraction. -/
theorem dispatchInputEvent_wheel (mouseModifiers : UInt32) (x y : Int32) {deltaX deltaY : UInt32}
    (hx : Binary32.IsFinite deltaX ∧ |Binary32.value deltaX| < 2147483648)
    (hy : Binary32.IsFinite deltaY ∧ |Binary32.value deltaY| < 2147483648) :
    ∃ e wheelX wheelY, (dispatchInputEvent mouseModifiers (.mouseScroll x y deltaX deltaY)).call =
        some (.sendMouseWheelEvent e wheelX wheelY) ∧
      wheelX.toInt = Binary32.towardZero (Binary32.value deltaX) ∧
      wheelY.toInt = Binary32.towardZero (Binary32.value deltaY) :=
  ⟨_, _, _, rfl, Binary32.toInt32_toInt hx.1 hx.2, Binary32.toInt32_toInt hy.1 hy.2⟩

/-! ### The pump -/

/-- What the pump does, seen from outside. -/
inductive PumpAction
  | send (call : HostCall)
  | nudge
deriving DecidableEq

def maxEventsPerPump : ℕ := 64

def nudgeEveryEvents : ℕ := 8

/-- The nudge behind the loop. -/
def finalNudge (shouldNudgeFrame : Bool) : List PumpAction :=
  if shouldNudgeFrame then [.nudge] else []

/-- The loop of `PumpInput` after `processed` events. -/
def pumpEvents (processed : ℕ) (shouldNudgeFrame : Bool) (mouseModifiers : UInt32) :
    List (InputEvent × Bool) → UInt32 × List PumpAction
  | [] => (mouseModifiers, finalNudge shouldNudgeFrame)
  | (evt, inputEnabled) :: read =>
    if maxEventsPerPump ≤ processed then (mouseModifiers, finalNudge shouldNudgeFrame)
    else if !inputEnabled then pumpEvents (processed + 1) shouldNudgeFrame mouseModifiers read
    else
      let d := dispatchInputEvent mouseModifiers evt
      let nudge := d.result || shouldNudgeFrame
      let sends := d.call.toList.map PumpAction.send
      if nudge && (processed + 1) % nudgeEveryEvents == 0 then
        let t := pumpEvents (processed + 1) false d.mouseModifiers read
        (t.1, sends ++ .nudge :: t.2)
      else
        let t := pumpEvents (processed + 1) nudge d.mouseModifiers read
        (t.1, sends ++ t.2)

/-- One call of `PumpInput`; without a browser it reads no event. -/
def pumpInput (browser : Option BrowserId) (mouseModifiers : UInt32)
    (read : List (InputEvent × Bool)) : UInt32 × List PumpAction :=
  match browser with
  | none => (mouseModifiers, [])
  | some _ => pumpEvents 0 false mouseModifiers read

/-- `m_mouseModifiers` after one event. -/
def consume (mouseModifiers : UInt32) (p : InputEvent × Bool) : UInt32 :=
  if p.2 then (dispatchInputEvent mouseModifiers p.1).mouseModifiers else mouseModifiers

/-- The call an event makes. -/
def consumeCall (mouseModifiers : UInt32) (p : InputEvent × Bool) : Option HostCall :=
  if p.2 then (dispatchInputEvent mouseModifiers p.1).call else none

/-- The calls some events make, one after the other. -/
def consumeCalls (mouseModifiers : UInt32) : List (InputEvent × Bool) → List HostCall
  | [] => []
  | p :: read =>
    (consumeCall mouseModifiers p).toList ++ consumeCalls (consume mouseModifiers p) read

/-- The call of an action. -/
def PumpAction.call : PumpAction → Option HostCall
  | send call => some call
  | nudge => none

theorem filterMap_sends (c : Option HostCall) (rest : List PumpAction) :
    (c.toList.map PumpAction.send ++ rest).filterMap PumpAction.call
      = c.toList ++ rest.filterMap PumpAction.call := by
  cases c <;> rfl

/-- The loop takes events one by one up to its limit, whatever nudges it makes in between. -/
theorem pumpEvents_eq (processed : ℕ) (shouldNudgeFrame : Bool) (mouseModifiers : UInt32)
    (read : List (InputEvent × Bool)) :
    (pumpEvents processed shouldNudgeFrame mouseModifiers read).1
        = (read.take (maxEventsPerPump - processed)).foldl consume mouseModifiers
      ∧ (pumpEvents processed shouldNudgeFrame mouseModifiers read).2.filterMap PumpAction.call
        = consumeCalls mouseModifiers (read.take (maxEventsPerPump - processed)) := by
  have hfinal : ∀ b, (finalNudge b).filterMap PumpAction.call = [] := by decide
  induction read generalizing processed shouldNudgeFrame mouseModifiers with
  | nil => simp [pumpEvents, hfinal, consumeCalls]
  | cons p read ih =>
    obtain ⟨evt, inputEnabled⟩ := p
    by_cases hfull : maxEventsPerPump ≤ processed
    · simp [pumpEvents, hfull, hfinal, consumeCalls]
    · have hroom : maxEventsPerPump - processed = (maxEventsPerPump - (processed + 1)) + 1 := by
        omega
      rw [hroom, List.take_succ_cons]
      cases inputEnabled with
      | false =>
        simp only [pumpEvents, hfull, if_false, Bool.not_false, if_true, List.foldl_cons,
          consumeCalls, consumeCall, consume, Bool.false_eq_true, Option.toList_none,
          List.nil_append]
        exact ih _ _ _
      | true =>
        simp only [pumpEvents, hfull, if_false, Bool.not_true, Bool.false_eq_true,
          List.foldl_cons, consumeCalls, consumeCall, consume, if_true]
        split
        · obtain ⟨hmodifiers, hcalls⟩ := ih (processed + 1) false
            (dispatchInputEvent mouseModifiers evt).mouseModifiers
          exact ⟨hmodifiers, by rw [filterMap_sends]; exact congrArg _ hcalls⟩
        · obtain ⟨hmodifiers, hcalls⟩ := ih (processed + 1)
            ((dispatchInputEvent mouseModifiers evt).result || shouldNudgeFrame)
            (dispatchInputEvent mouseModifiers evt).mouseModifiers
          exact ⟨hmodifiers, by rw [filterMap_sends]; exact congrArg _ hcalls⟩

/-- **One call of the pump** takes at most 64 events, and treats each of them by itself. -/
theorem pumpInput_mouseModifiers (browser : BrowserId) (mouseModifiers : UInt32)
    (read : List (InputEvent × Bool)) :
    (pumpInput (some browser) mouseModifiers read).1
      = (read.take maxEventsPerPump).foldl consume mouseModifiers :=
  (pumpEvents_eq 0 false mouseModifiers read).1

theorem pumpInput_calls (browser : BrowserId) (mouseModifiers : UInt32)
    (read : List (InputEvent × Bool)) :
    (pumpInput (some browser) mouseModifiers read).2.filterMap PumpAction.call
      = consumeCalls mouseModifiers (read.take maxEventsPerPump) :=
  (pumpEvents_eq 0 false mouseModifiers read).2

end CefHost
