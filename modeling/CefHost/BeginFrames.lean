import CefHost.Library.FlowControl
import CefHost.Library.Runs
import CefHost.OsrHandler
import CefHost.PaintOutcome

/-!
# Begin frames in flight

`TrySendBeginFrame` holds back when `m_beginFramesSent - m_paintsCompleted` reaches the cap. The
first counter is advanced by itself, the second by a paint that publishes a frame, and the two are
levelled when the consumer sets a cap.

A `Session` is the handler with the begin frames CEF still has to resolve, kept as the books of
`FlowControl.Books`. CEF resolves a begin frame by a paint callback or without one. An event that
cannot happen, a paint or a resolution with no begin frame to resolve, changes nothing. Every
function is one step.

## What escapes the counters

A nudge calls `SendExternalBeginFrame` without advancing `m_beginFramesSent`, and a begin frame
that is resolved without a published frame does not advance `m_paintsCompleted`.

## Main results

* `Session.noPhantomDebt_iff` — when the counters overstate what is in flight
* `phantom_debt_iff` — whole runs
* `two_lost_frames_stall`, `Session.Stalled.run` — two begin frames without a paint, and a
  producer that never sends again
-/

namespace CefHost

open FlowControl

/-! ### What the sending functions do -/

namespace OsrHandler

variable (s : OsrHandler)

theorem inFlight_eq : s.inFlight = s.beginFramesSent - s.painter.paintsCompleted := by
  rw [inFlight]
  split <;> omega

/-- The gate of `TrySendBeginFrame` is closed. -/
def AtCap : Prop :=
  0 < s.maxInFlightBeginFrames ∧ s.maxInFlightBeginFrames.toNat ≤ s.inFlight

instance : Decidable s.AtCap := inferInstanceAs (Decidable (_ ∧ _))

variable {s} in
theorem AtCap.congr {s' : OsrHandler} (h : s.AtCap)
    (hcap : s'.maxInFlightBeginFrames = s.maxInFlightBeginFrames)
    (hsent : s'.beginFramesSent = s.beginFramesSent)
    (hdone : s'.painter.paintsCompleted = s.painter.paintsCompleted) : s'.AtCap := by
  rw [AtCap, inFlight_eq, hcap, hsent, hdone, ← inFlight_eq]
  exact h

theorem trySendBeginFrame_sends_iff (now : UInt64) :
    (s.trySendBeginFrame now).2 = true ↔ s.browser.isSome ∧ ¬ s.AtCap := by
  rw [trySendBeginFrame, AtCap]
  split
  · next hcap => simp [hcap]
  · next hcap => cases s.browser <;> simp [hcap]

/-- What asking for a frame changes, besides the time of the last begin frame. -/
structure Asked (s : OsrHandler) (r : OsrHandler × Bool) (counted : ℕ) : Prop where
  sent : r.1.beginFramesSent = s.beginFramesSent + counted
  painter : r.1.painter = s.painter
  browser : r.1.browser = s.browser
  paused : r.1.paused = s.paused
  maxInFlight : r.1.maxInFlightBeginFrames = s.maxInFlightBeginFrames

theorem trySendBeginFrame_asked (now : UInt64) :
    Asked s (s.trySendBeginFrame now) (s.trySendBeginFrame now).2.toNat := by
  rw [trySendBeginFrame]
  split
  · exact ⟨rfl, rfl, rfl, rfl, rfl⟩
  · cases hb : s.browser with
    | none => exact ⟨rfl, rfl, rfl, rfl, rfl⟩
    | some b => exact ⟨rfl, rfl, hb.symm ▸ rfl, rfl, rfl⟩

theorem renderTick_asked (now : UInt64) :
    Asked s (s.renderTick now) (s.renderTick now).2.toNat := by
  rw [renderTick]
  split
  · exact ⟨rfl, rfl, rfl, rfl, rfl⟩
  · exact s.trySendBeginFrame_asked now

/-- A nudge is never counted. -/
theorem tryInputNudgeFrame_asked (now : UInt64) : Asked s (s.tryInputNudgeFrame now) 0 := by
  rw [tryInputNudgeFrame]
  split
  · exact ⟨rfl, rfl, rfl, rfl, rfl⟩
  · split <;> exact ⟨rfl, rfl, rfl, rfl, rfl⟩

/-- The event sets the cap. -/
def SetsCap : ControlEvent → Bool
  | .setMaxInFlightBeginFrames _ => true
  | _ => false

/-- Setting the cap levels the counters, no other control event touches them. -/
theorem handleControlEvent_counters (evt : ControlEvent) :
    (s.handleControlEvent evt).beginFramesSent = s.beginFramesSent ∧
      (s.handleControlEvent evt).painter.paintsCompleted =
        if SetsCap evt then s.beginFramesSent else s.painter.paintsCompleted := by
  cases evt <;> exact ⟨rfl, rfl⟩

theorem handleControlEvent_keeps {evt : ControlEvent} (hevt : SetsCap evt = false) :
    (s.handleControlEvent evt).maxInFlightBeginFrames = s.maxInFlightBeginFrames ∧
      (s.handleControlEvent evt).painter.d3d = s.painter.d3d ∧
      (s.handleControlEvent evt).browser = s.browser := by
  cases evt <;> first | exact ⟨rfl, rfl, rfl⟩ | cases hevt

end OsrHandler

/-! ### Sessions -/

/-- The handler and the begin frames CEF has been sent, on books that agree with its counters. -/
structure Session where
  host : OsrHandler
  books : Books
  sent_eq : books.sent = host.beginFramesSent
  done_eq : books.done = host.painter.paintsCompleted

/-- The calls and callbacks that concern begin frames. -/
inductive BeginFrameEvent
  /-- A turn of the render loop. -/
  | tick (now : UInt64)
  /-- A call of `TryInputNudgeFrame`. -/
  | nudge (now : UInt64)
  /-- A control event read by `PumpControl`. -/
  | control (evt : ControlEvent)
  /-- CEF resolves a begin frame by a paint callback. -/
  | paint (p : Paint)
  /-- CEF resolves a begin frame without one, nothing being damaged. -/
  | noPaint
  /-- Another callback. -/
  | callback (c : Callback) (hc : ∀ p, c ≠ .paint p)

namespace Session

/-- After `Init`, with `m_browser` set or not. -/
def start (names : SharedMemoryNames) (d3d : D3DInterfaces) (width height : UInt32)
    (browser : Option BrowserId) : Session where
  host := { OsrHandler.init names d3d width height with browser := browser }
  books := .empty
  sent_eq := rfl
  done_eq := rfl

variable (s : Session)

def tick (now : UInt64) : Session where
  host := (s.host.renderTick now).1
  books := if (s.host.renderTick now).2 then s.books.send else s.books
  sent_eq := by
    rw [(s.host.renderTick_asked now).sent, ← s.sent_eq]
    cases (s.host.renderTick now).2 <;> rfl
  done_eq := by
    rw [(s.host.renderTick_asked now).painter, ← s.done_eq]
    cases (s.host.renderTick now).2 <;> rfl

def nudge (now : UInt64) : Session where
  host := (s.host.tryInputNudgeFrame now).1
  books := if (s.host.tryInputNudgeFrame now).2 then s.books.sendOffBook else s.books
  sent_eq := by
    rw [(s.host.tryInputNudgeFrame_asked now).sent, ← s.sent_eq]
    cases (s.host.tryInputNudgeFrame now).2 <;> rfl
  done_eq := by
    rw [(s.host.tryInputNudgeFrame_asked now).painter, ← s.done_eq]
    cases (s.host.tryInputNudgeFrame now).2 <;> rfl

/-- `PumpControl` does nothing without a browser. -/
def control (evt : ControlEvent) : Session where
  host := s.host.pumpControl [evt]
  books := if s.host.browser.isSome && OsrHandler.SetsCap evt then s.books.level else s.books
  sent_eq := by
    cases hb : s.host.browser with
    | none => rw [OsrHandler.pumpControl, hb]; exact s.sent_eq
    | some b =>
      rw [OsrHandler.pumpControl, hb]
      refine Eq.trans ?_ (s.host.handleControlEvent_counters evt).1.symm
      rw [← s.sent_eq]
      cases OsrHandler.SetsCap evt <;> rfl
  done_eq := by
    cases hb : s.host.browser with
    | none => rw [OsrHandler.pumpControl, hb]; exact s.done_eq
    | some b =>
      rw [OsrHandler.pumpControl, hb]
      refine Eq.trans ?_ (s.host.handleControlEvent_counters evt).2.symm
      rw [← s.sent_eq, ← s.done_eq]
      cases OsrHandler.SetsCap evt <;> rfl

def paint (p : Paint) : Session :=
  if h : 0 < s.books.outstanding then
    { host := { s.host with painter := s.host.painter.onAcceleratedPaint p }
      books := if s.host.painter.publishes p then s.books.answer h else s.books.answerOffBook h
      sent_eq := by
        rw [← s.sent_eq]
        cases s.host.painter.publishes p <;> rfl
      done_eq := by
        rw [(s.host.painter.onAcceleratedPaint_published p).2, ← s.done_eq]
        cases s.host.painter.publishes p <;> rfl }
  else s

def noPaint : Session :=
  if h : 0 < s.books.outstanding then
    { s with
      books := s.books.answerOffBook h
      sent_eq := s.sent_eq
      done_eq := s.done_eq }
  else s

def callback (c : Callback) (hc : ∀ p, c ≠ .paint p) : Session where
  host := { s.host with painter := s.host.painter.step c }
  books := s.books
  sent_eq := s.sent_eq
  done_eq := s.done_eq.trans (s.host.painter.step_quiet hc).paintsCompleted.symm

def step : BeginFrameEvent → Session
  | .tick now => s.tick now
  | .nudge now => s.nudge now
  | .control evt => s.control evt
  | .paint p => s.paint p
  | .noPaint => s.noPaint
  | .callback c hc => s.callback c hc

/-! ### What an event enters -/

theorem tick_books {now : UInt64} (hsent : (s.host.renderTick now).2 = true) :
    (s.tick now).books = s.books.send := if_pos hsent

theorem tick_books_of_not {now : UInt64} (hsent : (s.host.renderTick now).2 = false) :
    (s.tick now).books = s.books := if_neg (ne_true_of_eq_false hsent)

theorem nudge_books {now : UInt64} (hsent : (s.host.tryInputNudgeFrame now).2 = true) :
    (s.nudge now).books = s.books.sendOffBook := if_pos hsent

theorem nudge_books_of_not {now : UInt64} (hsent : (s.host.tryInputNudgeFrame now).2 = false) :
    (s.nudge now).books = s.books := if_neg (ne_true_of_eq_false hsent)

/-- A tick leaves nothing out of the books. -/
theorem tick_offBook (now : UInt64) :
    (s.tick now).books.carried = s.books.carried ∧
      (s.tick now).books.offBookDone = s.books.offBookDone ∧
      (s.tick now).books.offBookSent = s.books.offBookSent := by
  cases hsent : (s.host.renderTick now).2 with
  | true => rw [s.tick_books hsent]; exact ⟨rfl, rfl, rfl⟩
  | false => rw [s.tick_books_of_not hsent]; exact ⟨rfl, rfl, rfl⟩

/-- A nudge leaves out no answer. -/
theorem nudge_offBook (now : UInt64) :
    (s.nudge now).books.carried = s.books.carried ∧
      (s.nudge now).books.offBookDone = s.books.offBookDone := by
  cases hsent : (s.host.tryInputNudgeFrame now).2 with
  | true => rw [s.nudge_books hsent]; exact ⟨rfl, rfl⟩
  | false => rw [s.nudge_books_of_not hsent]; exact ⟨rfl, rfl⟩

theorem control_books_of_not {evt : ControlEvent} (hevt : OsrHandler.SetsCap evt = false) :
    (s.control evt).books = s.books :=
  if_neg (by rw [hevt, Bool.and_false]; exact Bool.false_ne_true)

theorem paint_of_publishes {p : Paint} (h : 0 < s.books.outstanding)
    (hpub : s.host.painter.publishes p = true) :
    (s.paint p).host = { s.host with painter := s.host.painter.onAcceleratedPaint p } ∧
      (s.paint p).books = s.books.answer h := by
  rw [paint, dif_pos h]
  exact ⟨rfl, if_pos hpub⟩

/-! ### Phantom debt -/

theorem inFlight_eq_believed : s.host.inFlight = s.books.believed := by
  rw [OsrHandler.inFlight_eq, Books.believed, s.sent_eq, s.done_eq]

/-- What `TrySendBeginFrame` takes to be in flight is; so with nothing in flight, a browser and no
pause, it sends. -/
def NoPhantomDebt : Prop :=
  s.host.inFlight ≤ s.books.outstanding ∧
    (s.books.outstanding = 0 → s.host.browser.isSome → s.host.paused = false →
      ∀ now, (s.host.trySendBeginFrame now).2 = true)

/-- Since the cap was last set, no more begin frames were resolved without a published frame than
were outstanding then and sent by nudges since. -/
def LossesCovered : Prop :=
  s.books.offBookDone ≤ s.books.carried + s.books.offBookSent

/-- **The counters overstate** exactly when more begin frames were lost than nudges make up for. -/
theorem noPhantomDebt_iff : s.NoPhantomDebt ↔ s.LossesCovered := by
  rw [NoPhantomDebt, inFlight_eq_believed, s.books.believed_le_outstanding_iff, LossesCovered]
  refine ⟨And.left, fun hcovered => ⟨hcovered, fun hzero hbrowser _ now => ?_⟩⟩
  rw [OsrHandler.trySendBeginFrame_sends_iff]
  refine ⟨hbrowser, fun hcap => ?_⟩
  have hle := s.books.believed_le_outstanding_iff.mpr hcovered
  rw [← inFlight_eq_believed, hzero] at hle
  have hpos : 0 < s.host.maxInFlightBeginFrames.toNat := hcap.1
  exact absurd (Nat.le_trans hcap.2 hle) (Nat.not_le.mpr hpos)

end Session

/-- **Runs of begin frames**: in the state after any run, what `TrySendBeginFrame` takes to be in
flight is at most what is, and the producer is not stalled, if and only if the losses are
covered. -/
theorem phantom_debt_iff (names : SharedMemoryNames) (d3d : D3DInterfaces) (width height : UInt32)
    (browser : Option BrowserId) (events : List BeginFrameEvent) :
    (Runs.run Session.step (.start names d3d width height browser) events).NoPhantomDebt ↔
      (Runs.run Session.step (.start names d3d width height browser) events).LossesCovered :=
  Session.noPhantomDebt_iff _

/-- Two ticks with the default cap of 2, and nothing to paint. -/
def lostFrames : List BeginFrameEvent := [.tick 1, .tick 2, .noPaint, .noPaint]

/-- Nothing is in flight then, and `TrySendBeginFrame` does not send. -/
theorem two_lost_frames_stall :
    ¬ (Runs.run Session.step (.start (buildSharedMemoryNames []) fullD3D 4 4 (some 1))
      lostFrames).NoPhantomDebt := by
  rintro ⟨-, hsends⟩
  exact absurd (hsends (by decide +kernel) (by decide +kernel) (by decide +kernel) 3)
    (by decide +kernel)

/-! ### Stalled for good -/

namespace Session

/-- Nothing is outstanding and the gate is closed. -/
structure Stalled (s : Session) (sent : ℕ) : Prop where
  outstanding : s.books.outstanding = 0
  atCap : s.host.AtCap
  sent : s.host.beginFramesSent = sent

variable {s : Session} {sent : ℕ}

/-- Only a nudge or a control event gets a stalled producer going again. -/
theorem Stalled.next (h : s.Stalled sent) {e : BeginFrameEvent} (hnudge : ∀ now, e ≠ .nudge now)
    (hcontrol : ∀ evt, e ≠ .control evt) : (s.step e).Stalled sent := by
  have hnone : ¬ 0 < s.books.outstanding := by rw [h.outstanding]; exact Nat.lt_irrefl 0
  cases e with
  | nudge now => exact absurd rfl (hnudge now)
  | control evt => exact absurd rfl (hcontrol evt)
  | tick now =>
    have hfalse : (s.host.renderTick now).2 = false := by
      rw [OsrHandler.renderTick]
      split
      · rfl
      · rw [← Bool.not_eq_true, OsrHandler.trySendBeginFrame_sends_iff]
        exact fun hsend => hsend.2 h.atCap
    have hasked := s.host.renderTick_asked now
    refine ⟨?_, ?_, ?_⟩
    · change (if (s.host.renderTick now).2 then s.books.send else s.books).outstanding = 0
      rw [hfalse]
      exact h.outstanding
    · rw [hfalse] at hasked
      exact h.atCap.congr hasked.maxInFlight hasked.sent (congrArg _ hasked.painter)
    · exact hasked.sent.trans (by rw [hfalse]; exact h.sent)
  | paint p =>
    change (s.paint p).Stalled sent
    rw [Session.paint, dif_neg hnone]
    exact h
  | noPaint =>
    change s.noPaint.Stalled sent
    rw [Session.noPaint, dif_neg hnone]
    exact h
  | callback c hc =>
    have hdone := (s.host.painter.step_quiet hc).paintsCompleted
    exact ⟨h.outstanding, h.atCap.congr rfl rfl hdone, h.sent⟩

/-- **A stall is for good** as far as the render loop and CEF are concerned. -/
theorem Stalled.run (h : s.Stalled sent) {events : List BeginFrameEvent}
    (hevents : ∀ e ∈ events, (∀ now, e ≠ .nudge now) ∧ ∀ evt, e ≠ .control evt) :
    (Runs.run Session.step s events).Stalled sent :=
  Runs.invariant_of_along (I := fun s : Session => s.Stalled sent)
    (fun _ _ h he => h.next he.1 he.2) h (Runs.along_of_forall_mem
      (G := fun e => (∀ now, e ≠ BeginFrameEvent.nudge now) ∧ ∀ evt, e ≠ .control evt) hevents)

end Session

end CefHost
