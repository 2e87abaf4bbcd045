import CefHost.InputDispatch
import CefHost.Library.Flags
import CefHost.Library.Runs
import Mathlib.Logic.Function.Basic

/-!
# The mouse buttons

`m_mouseModifiers` tells CEF with every mouse event which buttons are down. It is kept up to date
in `DispatchInputEvent`, which is not called while input is disabled; the events of that time are
taken off the ring all the same. A button that is down when input is disabled and is released
before it is enabled again stays down for CEF until its next `MouseUp`.

The pump loads `m_inputEnabled` once for each event and the control thread stores it at any time.
So the two threads together are a list of steps, in each of which one event of one ring is taken.

## Button bytes

The protocol has three buttons, and a byte for each. Every other byte is taken for the right button,
which shows in its flag only.

## Main definitions

* `MouseRun` — the handler, the modifier word, and what the events so far say about the buttons
* `MouseRun.Faithful` — the word holds the flags of the buttons that are held
* `MouseRun.InStep` — no press or release is lost on the way into the word, and none made up

## Main results

* `MouseRun.faithful_step_iff` — one event
* `MouseRun.run_pumpInput` — a call of the pump is a run of steps
* `mouse_buttons_faithful_iff` — whole runs
-/

namespace CefHost

/-! ### Buttons and their flags -/

inductive MouseButton
  | left
  | middle
  | right
deriving DecidableEq

namespace MouseButton

/-- The button of a byte of the protocol. -/
def ofByte (btn : UInt8) : Option MouseButton :=
  if btn = mbtLeft then some left
  else if btn = mbtMiddle then some middle
  else if btn = mbtRight then some right
  else none

def flag : MouseButton → UInt32
  | left => eventflagLeftMouseButton
  | middle => eventflagMiddleMouseButton
  | right => eventflagRightMouseButton

end MouseButton

theorem MouseButton.flag_ne_zero (b : MouseButton) : b.flag ≠ 0 := by
  cases b <;> decide

/-- The three flags share no bit. -/
theorem MouseButton.flag_disjoint (b c : MouseButton) (h : b ≠ c) : b.flag &&& c.flag = 0 := by
  cases b <;> cases c <;> first | rfl | exact absurd rfl h

def mouseFlags : Flags.Family MouseButton where
  flag := MouseButton.flag
  ne_zero := MouseButton.flag_ne_zero
  disjoint := MouseButton.flag_disjoint

/-- The button whose flag a byte changes. -/
def flagButton (btn : UInt8) : MouseButton := (MouseButton.ofByte btn).getD .right

theorem buttonFlag_eq (btn : UInt8) : buttonFlag btn = mouseFlags.flag (flagButton btn) := by
  unfold buttonFlag flagButton MouseButton.ofByte
  split_ifs <;> rfl

theorem has_dispatchButton (m : UInt32) (x y : Int32) (btn : UInt8) (isUp : Bool)
    (b : MouseButton) :
    mouseFlags.Has (dispatchButton m x y btn isUp).mouseModifiers b
      ↔ if b = flagButton btn then isUp = false else mouseFlags.Has m b := by
  cases isUp with
  | false =>
    simp only [dispatchButton, Bool.false_eq_true, if_false, buttonFlag_eq]
    rw [Flags.Family.has_or]
    by_cases h : b = flagButton btn <;> simp [h]
  | true =>
    simp only [dispatchButton, if_true, buttonFlag_eq]
    rw [Flags.Family.has_and_not]
    by_cases h : b = flagButton btn <;> simp [h]

/-! ### Runs -/

/-- The handler and `m_mouseModifiers`. `held` tells for each button whether the last `MouseDown`
or `MouseUp` consumed for it was a `MouseDown` that was dispatched. -/
structure MouseRun where
  host : OsrHandler
  mouseModifiers : UInt32
  held : MouseButton → Bool

/-- One event of one of the two rings. -/
inductive MouseStep
  | control (e : ControlEvent)
  | input (e : InputEvent)

/-- The button byte of a `MouseDown` or `MouseUp`, and whether it is a `MouseUp`. -/
def buttonChange : InputEvent → Option (UInt8 × Bool)
  | .mouseDown _ _ button => some (button, false)
  | .mouseUp _ _ button => some (button, true)
  | _ => none

namespace MouseRun

/-- No button is down. -/
def init (host : OsrHandler) : MouseRun := ⟨host, 0, fun _ => false⟩

/-- What an event says about the buttons. -/
def note (s : MouseRun) (e : InputEvent) : MouseButton → Bool :=
  match buttonChange e with
  | none => s.held
  | some (btn, isUp) =>
    match MouseButton.ofByte btn with
    | none => s.held
    | some b => Function.update s.held b (!isUp && s.host.inputEnabled)

def step (s : MouseRun) : MouseStep → MouseRun
  | .control e => { s with host := s.host.handleControlEvent e }
  | .input e =>
    { host := s.host
      mouseModifiers := consume s.mouseModifiers (e, s.host.inputEnabled)
      held := s.note e }

/-- The modifiers have the flags of the buttons that are held, and no other button's. -/
def Faithful (s : MouseRun) : Prop :=
  ∀ b, mouseFlags.Has s.mouseModifiers b ↔ s.held b = true

theorem faithful_iff (s : MouseRun) : s.Faithful
    ↔ (mouseFlags.Has s.mouseModifiers .left ↔ s.held .left = true)
      ∧ (mouseFlags.Has s.mouseModifiers .middle ↔ s.held .middle = true)
      ∧ (mouseFlags.Has s.mouseModifiers .right ↔ s.held .right = true) := by
  constructor
  · exact fun h => ⟨h _, h _, h _⟩
  · rintro ⟨hleft, hmiddle, hright⟩ b
    cases b with
    | left => exact hleft
    | middle => exact hmiddle
    | right => exact hright

instance (s : MouseRun) : Decidable s.Faithful := decidable_of_iff _ s.faithful_iff.symm

/-- With input disabled, a button that is pressed or released has no flag; with input enabled, a
byte that stands for no button finds the flag of the right one as it would leave it. -/
def InStep (s : MouseRun) : MouseStep → Prop
  | .control _ => True
  | .input e =>
    match buttonChange e with
    | none => True
    | some (btn, isUp) =>
      match MouseButton.ofByte btn with
      | some b => s.host.inputEnabled = true ∨ ¬ mouseFlags.Has s.mouseModifiers b
      | none =>
        s.host.inputEnabled = true → (mouseFlags.Has s.mouseModifiers .right ↔ isUp = false)

/-- An event that is neither a press nor a release leaves the modifiers alone. -/
theorem dispatch_of_no_change {e : InputEvent} (h : buttonChange e = none) (m : UInt32) :
    (dispatchInputEvent m e).mouseModifiers = m := by
  cases e with
  | mouseDown x y button => cases h
  | mouseUp x y button => cases h
  | _ => rfl

theorem dispatch_of_change {e : InputEvent} {btn : UInt8} {isUp : Bool}
    (h : buttonChange e = some (btn, isUp)) (m : UInt32) (b : MouseButton) :
    mouseFlags.Has (dispatchInputEvent m e).mouseModifiers b
      ↔ if b = flagButton btn then isUp = false else mouseFlags.Has m b := by
  cases e with
  | mouseDown x y button =>
    obtain ⟨rfl, rfl⟩ : button = btn ∧ false = isUp := by simpa [buttonChange] using h
    exact has_dispatchButton m x y button false b
  | mouseUp x y button =>
    obtain ⟨rfl, rfl⟩ : button = btn ∧ true = isUp := by simpa [buttonChange] using h
    exact has_dispatchButton m x y button true b
  | _ => cases h

/-- A step that concerns one button is judged at that button. -/
theorem Faithful.at_button {s s' : MouseRun} (hs : s.Faithful) {b : MouseButton}
    (hmodifiers : ∀ c, c ≠ b →
      (mouseFlags.Has s'.mouseModifiers c ↔ mouseFlags.Has s.mouseModifiers c))
    (hheld : ∀ c, c ≠ b → s'.held c = s.held c) :
    s'.Faithful ↔ (mouseFlags.Has s'.mouseModifiers b ↔ s'.held b = true) := by
  refine ⟨fun h => h b, fun h c => ?_⟩
  by_cases hc : c = b
  · rw [hc]
    exact h
  · rw [hmodifiers c hc, hheld c hc]
    exact hs c

/-- A press or release that is dropped. -/
theorem faithful_dropped_iff {s : MouseRun} (hs : s.Faithful) {e : InputEvent} {btn : UInt8}
    {isUp : Bool} (hchange : buttonChange e = some (btn, isUp))
    (henabled : s.host.inputEnabled = false) :
    (s.step (.input e)).Faithful ↔ s.InStep (.input e) := by
  have hmodifiers : (s.step (.input e)).mouseModifiers = s.mouseModifiers := by
    simp [step, consume, henabled]
  cases hbtn : MouseButton.ofByte btn with
  | none =>
    have hheld : (s.step (.input e)).held = s.held := by simp [step, note, hchange, hbtn]
    simp only [Faithful, hmodifiers, hheld, InStep, hchange, hbtn, henabled, Bool.false_eq_true,
      false_implies, iff_true]
    exact hs
  | some b =>
    have hheld : (s.step (.input e)).held = Function.update s.held b false := by
      simp [step, note, hchange, hbtn, henabled]
    rw [hs.at_button (b := b) (fun c hc => by rw [hmodifiers])
      (fun c hc => by rw [hheld, Function.update_of_ne hc]), hmodifiers, hheld]
    simp [InStep, hchange, hbtn, henabled]

/-- A press or release that is dispatched. -/
theorem faithful_dispatched_iff {s : MouseRun} (hs : s.Faithful) {e : InputEvent} {btn : UInt8}
    {isUp : Bool} (hchange : buttonChange e = some (btn, isUp))
    (henabled : s.host.inputEnabled = true) :
    (s.step (.input e)).Faithful ↔ s.InStep (.input e) := by
  have hhas : ∀ c, mouseFlags.Has (s.step (.input e)).mouseModifiers c ↔
      if c = flagButton btn then isUp = false else mouseFlags.Has s.mouseModifiers c := by
    intro c
    simp only [step, consume, henabled, if_true]
    exact dispatch_of_change hchange s.mouseModifiers c
  cases hbtn : MouseButton.ofByte btn with
  | none =>
    have hright : flagButton btn = .right := by simp [flagButton, hbtn]
    have hheld : (s.step (.input e)).held = s.held := by simp [step, note, hchange, hbtn]
    rw [hright] at hhas
    rw [hs.at_button (b := .right) (fun c hc => by rw [hhas, if_neg hc])
      (fun c hc => by rw [hheld]), hhas, if_pos rfl, hheld, ← hs .right]
    simp only [InStep, hchange, hbtn, henabled, forall_const]
    exact iff_comm
  | some b =>
    have hb : flagButton btn = b := by simp [flagButton, hbtn]
    have hheld : (s.step (.input e)).held = Function.update s.held b (!isUp) := by
      simp [step, note, hchange, hbtn, henabled]
    rw [hb] at hhas
    rw [hs.at_button (b := b) (fun c hc => by rw [hhas, if_neg hc])
      (fun c hc => by rw [hheld, Function.update_of_ne hc]), hhas, if_pos rfl, hheld]
    simp [InStep, hchange, hbtn, henabled]

/-- **One event.** -/
theorem faithful_step_iff {s : MouseRun} (hs : s.Faithful) (a : MouseStep) :
    (s.step a).Faithful ↔ s.InStep a := by
  cases a with
  | control e => exact iff_of_true hs trivial
  | input e =>
    cases hchange : buttonChange e with
    | none =>
      have hmodifiers : consume s.mouseModifiers (e, s.host.inputEnabled) = s.mouseModifiers := by
        simp [consume, dispatch_of_no_change hchange]
      simp only [Faithful, step, InStep, note, hchange, hmodifiers, iff_true]
      exact hs
    | some change =>
      cases henabled : s.host.inputEnabled with
      | false => exact faithful_dropped_iff hs hchange henabled
      | true => exact faithful_dispatched_iff hs hchange henabled

/-! ### The pump -/

/-- Steps after which `m_inputEnabled` is loaded with the given values. -/
def ofLoads (read : List (InputEvent × Bool)) : List MouseStep :=
  read.flatMap fun p => [.control (.setInputEnabled p.2), .input p.1]

theorem run_ofLoads (s : MouseRun) (read : List (InputEvent × Bool)) :
    (Runs.run step s (ofLoads read)).mouseModifiers = read.foldl consume s.mouseModifiers := by
  induction read generalizing s with
  | nil => rfl
  | cons p read ih => exact ih _

/-- A call of the pump is a run of steps, one for each event it takes. -/
theorem run_pumpInput (s : MouseRun) (browser : BrowserId) (read : List (InputEvent × Bool)) :
    (Runs.run step s (ofLoads (read.take maxEventsPerPump))).mouseModifiers
      = (pumpInput (some browser) s.mouseModifiers read).1 := by
  rw [run_ofLoads, pumpInput_mouseModifiers]

end MouseRun

/-- **The mouse buttons.** In a run of the two threads, after every event the modifiers hold the
flags of the buttons that are held, exactly when every press and release is in step. -/
theorem mouse_buttons_faithful_iff (host : OsrHandler) (steps : List MouseStep) :
    Runs.Always MouseRun.step MouseRun.Faithful (.init host) steps
      ↔ Runs.Along MouseRun.step MouseRun.InStep (.init host) steps := by
  have hinit : (MouseRun.init host).Faithful := by
    intro b
    exact iff_of_false (mouseFlags.not_has_zero b) Bool.false_ne_true
  have hnext : ∀ s a, True → MouseRun.Faithful s →
      ((MouseRun.step s a).Faithful ↔ MouseRun.InStep s a) :=
    fun s a _ hs => MouseRun.faithful_step_iff hs a
  exact Runs.always_iff_along (fun _ _ _ _ _ => trivial) hnext trivial hinit steps

/-- The left button is released while input is disabled. -/
theorem disabled_release_keeps_flag :
    ¬ Runs.Always MouseRun.step MouseRun.Faithful
        (.init (.init (buildSharedMemoryNames []) fullD3D 16 16))
        [.input (.mouseDown 1 1 0), .control (.setInputEnabled false),
          .input (.mouseUp 1 1 0)] := by
  simp only [Runs.always_cons, Runs.always_nil]
  decide

end CefHost
