import CefHost.InputPump
import CefHost.RingMailbox

/-!
# The input thread

`InputThreadMain` and the `PumpInput` it calls, one access at a time: the loads of `m_running` and
`m_inputEnabled`, the accesses of `HasPendingEvents` and `ReadEvent`, the performance counter, the
wait for the input event. `DispatchInputEvent` and `TryInputNudgeFrame` are one step each.

The thread looks at the ring before it sleeps, and again for half a millisecond: it spins between
`HasPendingEvents` and the counter. Whether the half millisecond is over is a value the thread
reads, like `m_inputEnabled`. The spin also ends when `m_running` is cleared; the thread then goes
to its wait, where the event `StopRenderLoop` sets is waiting for it.

## Main results

* `InputThread.serves` — the conditions of `EventLoop` hold of the program
* `InputThread.Ok.exit_of_count` — how a stopped thread leaves
* `input_thread_delivers` — events are consumed in order, once, and no wakeup is lost
-/

namespace CefHost

open EventLoop

/-- Where the input thread is. `processed` and `nudge` are the locals of `PumpInput`. -/
inductive InputPc
  /-- `while (m_running)`. -/
  | loop
  /-- `if (m_inputBuffer.HasPendingEvents())`. -/
  | poll
  /-- `QueryPerformanceCounter(&start)`. -/
  | start
  /-- `while (m_running)` of the spin. -/
  | spin
  /-- `HasPendingEvents` of the spin. -/
  | spinPoll
  /-- `if (now - start >= spinTicks)`. -/
  | clock
  /-- In `WaitForSingleObject`. -/
  | waiting
  /-- At the start of `PumpInput`. -/
  | pump
  /-- `while (processedEvents < kMaxEventsPerPump && ReadEvent(evt))`. -/
  | reading (processed : ℕ) (nudge : Bool)
  /-- `if (!m_inputEnabled)`, with this event counted. -/
  | enabled (processed : ℕ) (nudge : Bool) (evt : InputEvent)
  /-- `continue`. -/
  | skipping (processed : ℕ) (nudge : Bool) (evt : InputEvent)
  | dispatching (processed : ℕ) (nudge : Bool) (evt : InputEvent)
  /-- In front of the nudge of the loop. -/
  | nudging (processed : ℕ)
  /-- Behind the loop of the pump. -/
  | finishing (nudge : Bool)
  | returned

/-- What the thread does that can be seen: an event is dropped or dispatched, or a nudge made. -/
inductive InputAct
  | skip (evt : InputEvent)
  | dispatch (evt : InputEvent)
  | nudge
deriving DecidableEq

/-- The event of an act. -/
def InputAct.event? : InputAct → Option InputEvent
  | skip evt => some evt
  | dispatch evt => some evt
  | nudge => none

/-- The result of `DispatchInputEvent`. -/
def dispatchResult (evt : InputEvent) : Bool := (dispatchInputEvent 0 evt).result

/-- It does not depend on the buttons held. -/
theorem dispatchInputEvent_result (mouseModifiers : UInt32) (evt : InputEvent) :
    (dispatchInputEvent mouseModifiers evt).result = dispatchResult evt := by
  cases evt <;> rfl

namespace InputThread

/-- The program of the thread. `HasPendingEvents` takes no entry, and `ReadEvent` never answers
`pending`. -/
def code (browser : Option BrowserId) : InputPc → Instr InputPc InputEvent InputAct
  | .loop => .running .poll .returned
  | .poll => .call .poll fun
    | .pending => .pump
    | _ => .start
  | .start => .own fun _ => .spin
  | .spin => .running .spinPoll .waiting
  | .spinPoll => .call .poll fun
    | .pending => .pump
    | _ => .clock
  | .clock => .own fun expired => if expired then .waiting else .spin
  | .waiting => .wait .loop
  | .pump => .own fun _ => if browser.isSome then .reading 0 false else .loop
  | .reading processed nudge =>
    if processed < maxEventsPerPump then
      .call .take fun
        | .entry evt => .enabled (processed + 1) nudge evt
        | _ => .finishing nudge
    else .own fun _ => .finishing nudge
  | .enabled processed nudge evt => .own fun inputEnabled =>
    if inputEnabled then .dispatching processed nudge evt else .skipping processed nudge evt
  | .skipping processed nudge evt => .act (.skip evt) (.reading processed nudge)
  | .dispatching processed nudge evt =>
    .act (.dispatch evt)
      (if (dispatchResult evt || nudge) && processed % nudgeEveryEvents == 0 then
        .nudging processed
      else .reading processed (dispatchResult evt || nudge))
  | .nudging processed => .act .nudge (.reading processed false)
  | .finishing nudge => if nudge then .act .nudge .loop else .own fun _ => .loop
  | .returned => .exit

/-- The thread on its ring. -/
abbrev State := EventLoop.State (OrderlyChannel inputRing InputEvent) InputPc InputAct

/-- The ring as a mailbox. -/
abbrev mailbox : Mailbox (OrderlyChannel inputRing InputEvent) InputEvent InputEvent :=
  ringMailbox inputRing InputEvent

def step (browser : Option BrowserId) : State → Action InputEvent → State :=
  EventLoop.step mailbox (code browser)

/-- After `Init` and `StartRenderLoop`. -/
def start (events : Fin inputRing.size → InputEvent) : State := .start (.init events) .loop

/-- The events whose `write_index` has been stored. -/
def published (s : State) : List InputEvent := s.mailbox.1.published

/-- The events `ReadEvent` has returned. -/
def returned (s : State) : List InputEvent := s.mailbox.1.returned

/-- The events dropped or dispatched so far. -/
def consumed (s : State) : List InputEvent := s.log.filterMap InputAct.event?

/-! ### The conditions -/

/-- Where an empty ring was seen after the last wait. -/
def Drained : InputPc → Prop
  | .start | .spin | .spinPoll | .clock | .waiting => True
  | _ => False

/-- Where a stopped thread is past its last wait. -/
def Leaving : InputPc → Prop
  | .loop | .returned => True
  | _ => False

/-- The event in hand. -/
def hand : InputPc → List InputEvent
  | .enabled _ _ evt | .skipping _ _ evt | .dispatching _ _ evt => [evt]
  | _ => []

/-- The rank of the loop of the pump, for a thread that is stopped: four steps for each event it
may still read. -/
def roomRank (processed : ℕ) : ℕ := 3 + 4 * (maxEventsPerPump - processed)

/-- The rank for a thread that is stopped. The loop of the pump is bounded, so it goes down along
the reads as well. -/
def stopRank : InputPc → ℕ
  | .returned => 0
  | .loop => 1
  | .waiting => 2
  | .finishing _ => 2
  | .spin => 3
  | .start => 4
  | .clock => 4
  | .reading processed _ => roomRank processed
  | .nudging processed => roomRank processed + 1
  | .skipping processed _ _ => roomRank processed + 2
  | .dispatching processed _ _ => roomRank processed + 2
  | .enabled processed _ _ => roomRank processed + 3
  | .pump => roomRank 0 + 1
  | .poll => roomRank 0 + 2
  | .spinPoll => roomRank 0 + 2

/-- The rank for a thread that has something to read. -/
def readRank : InputPc → ℕ
  | .returned => 0
  | .pump => 3
  | .poll => 4
  | .spinPoll => 4
  | .loop => 5
  | .spin => 5
  | .start => 6
  | .waiting => 6
  | .finishing _ => 6
  | .clock => 7
  | .reading processed _ => if processed < maxEventsPerPump then 0 else 7
  | .nudging _ => 8
  | .skipping _ _ _ => 9
  | .dispatching _ _ _ => 9
  | .enabled _ _ _ => 10

variable (browser : BrowserId)

/-- The loop of the pump has room for another event. -/
theorem code_reading_of_lt {processed : ℕ} (h : processed < maxEventsPerPump) (nudge : Bool) :
    code (some browser) (.reading processed nudge)
      = .call .take fun
        | .entry evt => .enabled (processed + 1) nudge evt
        | _ => .finishing nudge := if_pos h

theorem code_reading_of_not_lt {processed : ℕ} (h : ¬ processed < maxEventsPerPump)
    (nudge : Bool) :
    code (some browser) (.reading processed nudge) = .own fun _ => .finishing nudge := if_neg h

theorem code_eq_exit_iff {p : InputPc} : code (some browser) p = .exit ↔ p = .returned := by
  cases p with
  | reading processed nudge => simp only [code]; split <;> simp
  | finishing nudge => cases nudge <;> simp [code]
  | _ => simp [code]

theorem sound : Sound (code (some browser)) Drained := by
  intro p
  match p with
  | .loop => exact id
  | .poll =>
    intro a hgives hne hc
    match a with
    | .entry _ => exact hgives
    | .pending => exact hc
    | .nothing => exact hne rfl
  | .start => exact fun _ => id
  | .spin => exact id
  | .spinPoll => exact fun _ _ _ _ => trivial
  | .clock => exact fun _ _ => trivial
  | .waiting => exact ⟨trivial, id⟩
  | .pump => exact fun _ => id
  | .reading processed nudge =>
    by_cases hroom : processed < maxEventsPerPump
    · rw [code_reading_of_lt browser hroom]
      rintro (_ | _ | _) _ _ hc
      exacts [hc, hc, hc]
    · rw [code_reading_of_not_lt browser hroom]
      exact fun _ => id
  | .enabled processed nudge evt =>
    rintro (_ | _) hc
    exacts [hc, hc]
  | .skipping _ _ _ => exact id
  | .dispatching processed nudge evt =>
    show Drained (if _ then _ else _) → False
    split
    exacts [id, id]
  | .nudging _ => exact id
  | .finishing true => exact id
  | .finishing false => exact fun _ => id
  | .returned => trivial

theorem leaves : Leaves (code (some browser)) Leaving := by
  intro p
  match p with
  | .loop => exact fun _ => trivial
  | .poll => exact fun hd => hd.elim
  | .start => exact fun hd => hd.elim
  | .spin => exact fun hd => hd.elim
  | .spinPoll => exact fun hd => hd.elim
  | .clock => exact fun hd => hd.elim
  | .waiting => exact ⟨id, trivial⟩
  | .pump => exact fun hd => hd.elim
  | .reading processed nudge =>
    by_cases hroom : processed < maxEventsPerPump
    · rw [code_reading_of_lt browser hroom]
      exact fun hd => hd.elim
    · rw [code_reading_of_not_lt browser hroom]
      exact fun hd => hd.elim
  | .enabled _ _ _ => exact fun hd => hd.elim
  | .skipping _ _ _ => exact fun hd => hd.elim
  | .dispatching _ _ _ => exact fun hd => hd.elim
  | .nudging _ => exact fun hd => hd.elim
  | .finishing true => exact fun hd => hd.elim
  | .finishing false => exact fun hd => hd.elim
  | .returned => trivial

/-- Only the loop of the thread has an edge to the exit. -/
theorem exitsByFlag : ExitsByFlag (code (some browser)) := by
  have hnot : ∀ {p : InputPc}, p ≠ .returned → code (some browser) p ≠ .exit := fun hp =>
    (code_eq_exit_iff browser).not.mpr hp
  intro p
  match p with
  | .loop => exact hnot nofun
  | .poll =>
    rintro (_ | _ | _) _
    exacts [hnot nofun, hnot nofun, hnot nofun]
  | .start => exact fun _ => hnot nofun
  | .spin => exact hnot nofun
  | .spinPoll =>
    rintro (_ | _ | _) _
    exacts [hnot nofun, hnot nofun, hnot nofun]
  | .clock =>
    rintro (_ | _)
    exacts [hnot nofun, hnot nofun]
  | .waiting => exact hnot nofun
  | .pump => exact fun _ => hnot nofun
  | .reading processed nudge =>
    by_cases hroom : processed < maxEventsPerPump
    · rw [code_reading_of_lt browser hroom]
      rintro (_ | _ | _) _
      exacts [hnot nofun, hnot nofun, hnot nofun]
    · rw [code_reading_of_not_lt browser hroom]
      exact fun _ => hnot nofun
  | .enabled _ _ _ =>
    rintro (_ | _)
    exacts [hnot nofun, hnot nofun]
  | .skipping _ _ _ => exact hnot nofun
  | .dispatching _ _ _ =>
    show code (some browser) (if _ then _ else _) ≠ .exit
    split
    exacts [hnot nofun, hnot nofun]
  | .nudging _ => exact hnot nofun
  | .finishing true => exact hnot nofun
  | .finishing false => exact fun _ => hnot nofun
  | .returned => trivial

theorem accounts : Accounts (code (some browser)) InputAct.event? hand := by
  intro p
  match p with
  | .loop => exact ⟨rfl, rfl⟩
  | .poll =>
    rintro (_ | _ | _) hgives
    exacts [hgives.elim, rfl, rfl]
  | .start => exact fun _ => rfl
  | .spin => exact ⟨rfl, rfl⟩
  | .spinPoll =>
    rintro (_ | _ | _) hgives
    exacts [hgives.elim, rfl, rfl]
  | .clock =>
    rintro (_ | _)
    exacts [rfl, rfl]
  | .waiting => rfl
  | .pump => exact fun _ => rfl
  | .reading processed nudge =>
    by_cases hroom : processed < maxEventsPerPump
    · rw [code_reading_of_lt browser hroom]
      rintro (_ | _ | _) _
      exacts [rfl, rfl, rfl]
    · rw [code_reading_of_not_lt browser hroom]
      exact fun _ => rfl
  | .enabled _ _ _ =>
    rintro (_ | _)
    exacts [rfl, rfl]
  | .skipping _ _ _ => rfl
  | .dispatching processed nudge evt =>
    show [evt] = [evt] ++ hand (if _ then _ else _)
    split
    exacts [rfl, rfl]
  | .nudging _ => rfl
  | .finishing true => rfl
  | .finishing false => exact fun _ => rfl
  | .returned => trivial

theorem serves : Serves (code (some browser)) Drained Leaving InputAct.event? hand :=
  ⟨sound browser, leaves browser, exitsByFlag browser, accounts browser⟩

/-- Stopped, the thread ends the call of the pump it is in and makes no other, so what it reads
costs nothing extra. -/
theorem descends_stopped : Descends (code (some browser)) false stopRank 0 := by
  intro p
  match p with
  | .loop => exact (by decide : 0 < 1)
  | .poll =>
    rintro (_ | _ | _) hgives _
    exacts [hgives.elim, (by decide : roomRank 0 + 1 < roomRank 0 + 2),
      (by decide : 4 < roomRank 0 + 2)]
  | .start => exact fun _ => (by decide : 3 < 4)
  | .spin => exact (by decide : 2 < 3)
  | .spinPoll =>
    rintro (_ | _ | _) hgives _
    exacts [hgives.elim, (by decide : roomRank 0 + 1 < roomRank 0 + 2),
      (by decide : 4 < roomRank 0 + 2)]
  | .clock =>
    rintro (_ | _)
    exacts [(by decide : 3 < 4), (by decide : 2 < 4)]
  | .waiting => exact (by decide : 1 < 2)
  | .pump => exact fun _ => Nat.lt_succ_self (roomRank 0)
  | .reading processed nudge =>
    have hend : 2 < roomRank processed := by rw [roomRank]; omega
    by_cases hroom : processed < maxEventsPerPump
    · rw [code_reading_of_lt browser hroom]
      have hnext : roomRank (processed + 1) + 3 < roomRank processed := by
        rw [roomRank, roomRank]
        omega
      rintro (_ | _ | _) _ _
      exacts [hnext, hend, hend]
    · rw [code_reading_of_not_lt browser hroom]
      exact fun _ => hend
  | .enabled processed _ _ =>
    rintro (_ | _)
    exacts [Nat.lt_succ_self (roomRank processed + 2), Nat.lt_succ_self (roomRank processed + 2)]
  | .skipping processed _ _ => exact (by omega : roomRank processed < roomRank processed + 2)
  | .dispatching processed nudge evt =>
    show stopRank (if _ then _ else _) < roomRank processed + 2
    split
    · exact Nat.lt_succ_self (roomRank processed + 1)
    · exact (by omega : roomRank processed < roomRank processed + 2)
  | .nudging processed => exact Nat.lt_succ_self (roomRank processed)
  | .finishing true => exact (by decide : 1 < 2)
  | .finishing false => exact fun _ => (by decide : 1 < 2)
  | .returned => trivial

theorem readRank_reading_le (processed : ℕ) (nudge : Bool) :
    readRank (.reading processed nudge) ≤ 7 := by
  rw [readRank]
  split
  exacts [Nat.zero_le _, Nat.le_refl _]

/-- Running, the thread comes to its next read unless there is nothing to read. -/
theorem descends_running : Descends (code (some browser)) true readRank 11 := by
  intro p
  match p with
  | .loop => exact (by decide : 4 < 5)
  | .poll =>
    rintro (_ | _ | _) hgives hne
    exacts [hgives.elim, (by decide : 3 < 4), absurd rfl (hne rfl)]
  | .start => exact fun _ => (by decide : 5 < 6)
  | .spin => exact (by decide : 4 < 5)
  | .spinPoll =>
    rintro (_ | _ | _) hgives hne
    exacts [hgives.elim, (by decide : 3 < 4), absurd rfl (hne rfl)]
  | .clock =>
    rintro (_ | _)
    exacts [(by decide : 5 < 7), (by decide : 6 < 7)]
  | .waiting => exact (by decide : 5 < 6)
  | .pump => exact fun _ => (by decide : 0 < 3)
  | .reading processed nudge =>
    by_cases hroom : processed < maxEventsPerPump
    · rw [code_reading_of_lt browser hroom]
      have hread : readRank (.reading processed nudge) = 0 := if_pos hroom
      rintro (_ | _ | _) hgives hne
      · rw [hread]
        exact (by decide : 10 < 11)
      · exact hgives.elim
      · exact absurd rfl (hne rfl)
    · rw [code_reading_of_not_lt browser hroom]
      have hread : readRank (.reading processed nudge) = 7 := if_neg hroom
      intro _
      rw [hread]
      exact (by decide : 6 < 7)
  | .enabled _ _ _ =>
    rintro (_ | _)
    exacts [(by decide : 9 < 10), (by decide : 9 < 10)]
  | .skipping processed nudge _ =>
    exact Nat.lt_of_le_of_lt (readRank_reading_le processed nudge) (by decide : 7 < 9)
  | .dispatching processed nudge evt =>
    show readRank (if _ then _ else _) < 9
    split
    · exact (by decide : 8 < 9)
    · exact Nat.lt_of_le_of_lt (readRank_reading_le processed _) (by decide)
  | .nudging processed =>
    exact Nat.lt_of_le_of_lt (readRank_reading_le processed false) (by decide : 7 < 8)
  | .finishing true => exact (by decide : 5 < 6)
  | .finishing false => exact fun _ => (by decide : 5 < 6)
  | .returned => trivial

/-! ### Whole runs -/

/-- The invariant of the thread. -/
abbrev Ok (s : State) : Prop :=
  Inv mailbox (code (some browser)) Drained Leaving InputAct.event? hand s

/-- In every state of every interleaving. -/
theorem ok_run (events : Fin inputRing.size → InputEvent) (as : List (Action InputEvent)) :
    Ok browser (Runs.run (step (some browser)) (start events) as) :=
  inv_run (serves browser) rfl rfl ((code_eq_exit_iff browser).not.mpr (by simp)) rfl as

variable {browser} {s : State}

/-- The thread sleeps only at its wait, with nothing in hand. -/
theorem Ok.consumed_of_blocked (h : Ok browser s) (hblocked : Blocked (code (some browser)) s) :
    consumed s = returned s := by
  obtain ⟨⟨next, hi⟩, -⟩ := hblocked
  have hpc : s.pc = .waiting := by
    revert hi
    match s.pc with
    | .reading processed nudge =>
      by_cases hroom : processed < maxEventsPerPump
      · rw [code_reading_of_lt browser hroom]
        nofun
      · rw [code_reading_of_not_lt browser hroom]
        nofun
    | .finishing true => nofun
    | .finishing false => nofun
    | .waiting => exact fun _ => rfl
    | .loop | .poll | .start | .spin | .spinPoll | .clock | .pump | .enabled _ _ _
    | .skipping _ _ _ | .dispatching _ _ _ | .nudging _ | .returned => nofun
  have hacc := h.accounted
  rw [Accounted, hpc, show hand .waiting = [] from rfl, List.append_nil] at hacc
  exact hacc

theorem roomRank_le (processed : ℕ) : roomRank processed ≤ 259 := by
  rw [roomRank, maxEventsPerPump]
  omega

theorem stopRank_le (p : InputPc) : stopRank p ≤ 262 := by
  have hroom := roomRank_le
  cases p with
  | reading processed _ => exact Nat.le_trans (hroom processed) (by omega)
  | nudging processed => exact Nat.succ_le_succ (Nat.le_trans (hroom processed) (by omega))
  | skipping processed _ _ =>
    exact Nat.add_le_add_right (Nat.le_trans (hroom processed) (by omega)) 2
  | dispatching processed _ _ =>
    exact Nat.add_le_add_right (Nat.le_trans (hroom processed) (by omega)) 2
  | enabled processed _ _ => exact Nat.add_le_add_right (hroom processed) 3
  | _ => simp [stopRank, roomRank, maxEventsPerPump]

theorem readRank_le (p : InputPc) : readRank p ≤ 10 := by
  cases p with
  | reading processed nudge => exact Nat.le_trans (readRank_reading_le processed nudge) (by omega)
  | _ => simp [readRank]

/-- The measure of a thread that runs: 55 steps for an event that is there, and some for the way
to it. -/
theorem stepsLeft_read_le (s : State) :
    stepsLeft mailbox readRank 11 s
      ≤ 55 * ((published s).length - (returned s).length) + 54 := by
  have hleft : mailbox.left s.mailbox ≤ 4 := mailbox.left_le _
  have hrank := readRank_le s.pc
  show 5 * (readRank s.pc + 11 * ((published s).length - (returned s).length)) + _ ≤ _
  omega

theorem stepsLeft_stop_le (s : State) : stepsLeft mailbox stopRank 0 s ≤ 1314 := by
  have hleft : mailbox.left s.mailbox ≤ 4 := mailbox.left_le _
  have hrank := stopRank_le s.pc
  show 5 * (stopRank s.pc + 0 * _) + _ ≤ _
  omega

/-- **Leaving.** After `StopRenderLoop` has set the event, the thread is at its end after 1315 steps
at most, however many events are left or published meanwhile. -/
theorem Ok.exit_of_count (h : Ok browser s) (hrung : s.rung = true)
    {as : List (Action InputEvent)} (hcount : 1314 < as.countP Action.isWork) :
    (Runs.run (step (some browser)) s as).pc = .returned := by
  refine (code_eq_exit_iff browser).mp (EventLoop.Inv.exit_of_count h (serves browser)
    (descends_stopped browser) hrung (Nat.lt_of_le_of_lt ?_ hcount))
  rw [Nat.mul_zero, Nat.zero_mul, Nat.add_zero]
  exact stepsLeft_stop_le s

end InputThread

/-- **The input thread delivers.** In every interleaving of its accesses with those of the consumer
process and of `StopRenderLoop`, and whatever the clock and `m_inputEnabled` say:

* the events dropped or dispatched are those published first, each once and in order;
* while `m_running` is set, a thread that sleeps with every published event announced has consumed
  them all, so that no event waits for a timeout;
* when the consumer has announced its last event, 55 steps of the thread for each event that is
  left, and 55 more, are enough to read them all, timeouts apart. -/
theorem input_thread_delivers (browser : BrowserId)
    (events : Fin inputRing.size → InputEvent) (as : List (Action InputEvent)) :
    let s := Runs.run (InputThread.step (some browser)) (InputThread.start events) as
    InputThread.consumed s <+: InputThread.published s ∧
      (s.running = true → s.owed = false → Blocked (InputThread.code (some browser)) s →
        InputThread.consumed s = InputThread.published s) ∧
      (s.running = true → s.owed = false → ∀ values : List Bool,
        55 * ((InputThread.published s).length - (InputThread.returned s).length) + 54
          < values.length →
        let t := Runs.run (InputThread.step (some browser)) s (values.map .work)
        InputThread.returned t = InputThread.published t) := by
  intro s
  have h := InputThread.ok_run browser events as
  have hserves := InputThread.serves browser
  refine ⟨h.logged_prefix, fun hrun howed hblocked => ?_, fun hrun howed values hcount => ?_⟩
  · rw [h.consumed_of_blocked hblocked]
    exact h.drained_of_blocked hserves hrun howed hblocked
  · exact h.drained_of_count hserves (InputThread.descends_running browser) hrun howed
      (Nat.lt_of_le_of_lt (InputThread.stepsLeft_read_le s) hcount)

end CefHost
