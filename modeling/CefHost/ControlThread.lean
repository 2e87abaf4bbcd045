import CefHost.OsrHandler
import CefHost.RingMailbox

/-!
# The control thread

`ControlThreadMain` and the `PumpControl` it calls, one access at a time: the loads of `m_running`,
the wait for the control event, the accesses of `ReadEvent`, and `HandleControlEvent` as one step.
Around it are the consumer process, which produces commands and sets the event, and
`StopRenderLoop`, which clears `m_running` and sets the event as well.

A handled command is logged. What it does to the handler and to CEF depends on nothing but the
command, so the log says it all.

## Main results

* `control_thread_serves` — the conditions of `EventLoop` hold of the program
* `control_thread_delivers` — commands are handled in order, once, and no wakeup is lost
* `ControlThread.exit_of_count` — how a stopped thread leaves
-/

namespace CefHost

open EventLoop

/-- Where the control thread is. -/
inductive ControlPc
  /-- `while (m_running)`. -/
  | loop
  /-- In `WaitForSingleObject`. -/
  | waiting
  /-- `if (m_running)`. -/
  | woken
  /-- At the start of `PumpControl`. -/
  | pump
  /-- `while (m_controlBuffer.ReadEvent(evt))`. -/
  | reading
  /-- With an event read, in front of `HandleControlEvent`. -/
  | handling (evt : ControlEvent)
  | returned

namespace ControlThread

/-- The program of the thread. `ReadEvent` never answers `pending`. -/
def code (browser : Option BrowserId) : ControlPc → Instr ControlPc ControlEvent ControlEvent
  | .loop => .running .waiting .returned
  | .waiting => .wait .woken
  | .woken => .running .pump .loop
  | .pump => .own fun _ => if browser.isSome then .reading else .loop
  | .reading => .call .take fun
    | .entry evt => .handling evt
    | .pending => .loop
    | .nothing => .loop
  | .handling evt => .act evt .reading
  | .returned => .exit

/-- The thread on its ring. -/
abbrev State := EventLoop.State (OrderlyChannel controlRing ControlEvent) ControlPc ControlEvent

/-- The ring as a mailbox. -/
abbrev mailbox : Mailbox (OrderlyChannel controlRing ControlEvent) ControlEvent ControlEvent :=
  ringMailbox controlRing ControlEvent

def step (browser : Option BrowserId) : State → Action ControlEvent → State :=
  EventLoop.step mailbox (code browser)

/-- After `Init` and `StartRenderLoop`. -/
def start (events : Fin controlRing.size → ControlEvent) : State := .start (.init events) .loop

/-- The commands whose `write_index` has been stored. -/
def published (s : State) : List ControlEvent := s.mailbox.1.published

/-- The commands `ReadEvent` has returned. -/
def returned (s : State) : List ControlEvent := s.mailbox.1.returned

/-- The commands handled so far. -/
def handled (s : State) : List ControlEvent := s.log

/-! ### The conditions -/

/-- Where an empty ring was seen after the last wait, or nothing has happened yet. -/
def Drained : ControlPc → Prop
  | .loop => True
  | .waiting => True
  | _ => False

/-- Where a stopped thread is past its last wait. -/
def Leaving : ControlPc → Prop
  | .woken => True
  | .loop => True
  | .returned => True
  | _ => False

/-- The command in hand. -/
def hand : ControlPc → List ControlEvent
  | .handling evt => [evt]
  | _ => []

/-- The rank for a thread that is stopped: without a browser event it only goes down. -/
def stopRank : ControlPc → ℕ
  | .returned => 0
  | .loop => 1
  | .woken => 2
  | .reading => 2
  | .waiting => 3
  | .handling _ => 3
  | .pump => 3

/-- The rank for a thread that has something to read. -/
def readRank : ControlPc → ℕ
  | .reading => 0
  | .handling _ => 1
  | .pump => 1
  | .woken => 2
  | .waiting => 3
  | .loop => 4
  | .returned => 5

variable (browser : BrowserId)

theorem sound : Sound (code (some browser)) Drained := by
  intro p
  match p with
  | .loop => exact fun _ => trivial
  | .waiting => exact ⟨trivial, id⟩
  | .woken => exact id
  | .pump => exact fun _ => id
  | .reading =>
    intro a hgives hne hc
    match a with
    | .entry _ => exact hc
    | .pending => exact hgives
    | .nothing => exact hne rfl
  | .handling _ => exact id
  | .returned => trivial

theorem leaves : Leaves (code (some browser)) Leaving := by
  intro p
  match p with
  | .loop => exact fun _ => trivial
  | .waiting => exact ⟨id, trivial⟩
  | .woken => exact fun _ => trivial
  | .pump => exact fun hd => hd.elim
  | .reading => exact fun hd => hd.elim
  | .handling _ => exact fun hd => hd.elim
  | .returned => trivial

theorem code_eq_exit_iff {p : ControlPc} :
    code (some browser) p = .exit ↔ p = .returned := by
  cases p <;> simp [code]

theorem exitsByFlag : ExitsByFlag (code (some browser)) := by
  intro p
  match p with
  | .loop => exact (code_eq_exit_iff browser).not.mpr (by simp)
  | .waiting => exact (code_eq_exit_iff browser).not.mpr (by simp)
  | .woken => exact (code_eq_exit_iff browser).not.mpr (by simp)
  | .pump => exact fun _ => (code_eq_exit_iff browser).not.mpr (by simp)
  | .reading =>
    intro a _
    refine (code_eq_exit_iff browser).not.mpr ?_
    cases a <;> simp
  | .handling _ => exact (code_eq_exit_iff browser).not.mpr (by simp)
  | .returned => trivial

theorem accounts : Accounts (code (some browser)) some hand := by
  intro p
  match p with
  | .loop => exact ⟨rfl, rfl⟩
  | .waiting => rfl
  | .woken => exact ⟨rfl, rfl⟩
  | .pump => exact fun _ => rfl
  | .reading =>
    rintro (_ | _ | _) _
    exacts [rfl, rfl, rfl]
  | .handling _ => rfl
  | .returned => trivial

theorem serves : Serves (code (some browser)) Drained Leaving some hand :=
  ⟨sound browser, leaves browser, exitsByFlag browser, accounts browser⟩

/-- Stopped, every command read may cost two steps more. -/
theorem descends_stopped : Descends (code (some browser)) false stopRank 2 := by
  intro p
  match p with
  | .loop => exact (by decide : 0 < 1)
  | .waiting => exact (by decide : 2 < 3)
  | .woken => exact (by decide : 1 < 2)
  | .pump => exact fun _ => (by decide : 2 < 3)
  | .reading =>
    intro a hgives _
    match a with
    | .entry _ => exact (by decide : 3 < 4)
    | .nothing => exact (by decide : 1 < 2)
  | .handling _ => exact (by decide : 2 < 3)
  | .returned => trivial

theorem descends_running : Descends (code (some browser)) true readRank 2 := by
  intro p
  match p with
  | .loop => exact (by decide : 3 < 4)
  | .waiting => exact (by decide : 2 < 3)
  | .woken => exact (by decide : 1 < 2)
  | .pump => exact fun _ => (by decide : 0 < 1)
  | .reading =>
    intro a hgives hne
    match a with
    | .entry _ => exact (by decide : 1 < 2)
    | .nothing => exact absurd rfl (hne rfl)
  | .handling _ => exact (by decide : 0 < 1)
  | .returned => trivial

/-! ### Whole runs -/

/-- The invariant of the thread. -/
abbrev Ok (s : State) : Prop :=
  Inv mailbox (code (some browser)) Drained Leaving some hand s

/-- In every state of every interleaving. -/
theorem ok_run (events : Fin controlRing.size → ControlEvent) (as : List (Action ControlEvent)) :
    Ok browser (Runs.run (step (some browser)) (start events) as) :=
  inv_run (serves browser) rfl rfl ((code_eq_exit_iff browser).not.mpr (by simp)) rfl as

variable {browser} {s : State}

theorem Ok.handled_prefix (h : Ok browser s) : handled s <+: published s := by
  have hpre := h.logged_prefix
  rwa [List.filterMap_some] at hpre

/-- The thread sleeps only at its wait, with nothing in hand. -/
theorem Ok.handled_of_blocked (h : Ok browser s) (hblocked : Blocked (code (some browser)) s) :
    handled s = returned s := by
  obtain ⟨⟨next, hi⟩, -⟩ := hblocked
  have hpc : s.pc = .waiting := by
    generalize s.pc = p at hi
    cases p <;> first | rfl | cases hi
  have hacc := h.accounted
  rw [Accounted, hpc, List.filterMap_some, show hand .waiting = [] from rfl,
    List.append_nil] at hacc
  exact hacc

theorem readRank_le (p : ControlPc) : readRank p ≤ 5 := by
  cases p <;> simp [readRank]

theorem stopRank_le (p : ControlPc) : stopRank p ≤ 3 := by
  cases p <;> simp [stopRank]

/-- The measure in numbers: ten steps for a command that is there, and some for the way to it. -/
theorem stepsLeft_le {rank : ControlPc → ℕ} {r : ℕ} (hr : rank s.pc ≤ r) :
    stepsLeft mailbox rank 2 s
      ≤ 10 * ((published s).length - (returned s).length) + (5 * r + 4) := by
  have hleft : mailbox.left s.mailbox ≤ 4 := mailbox.left_le _
  show 5 * (rank s.pc + 2 * ((published s).length - (returned s).length)) + _ ≤ _
  omega

/-- **Leaving.** After `StopRenderLoop` has set the event, ten steps for each command that was left
or is published meanwhile, and 19 more, bring the thread to its end. -/
theorem Ok.exit_of_count (h : Ok browser s) (hrung : s.rung = true)
    {as : List (Action ControlEvent)}
    (hcount : 10 * ((published (Runs.run (step (some browser)) s as)).length
      - (returned s).length) + 19 < as.countP Action.isWork) :
    (Runs.run (step (some browser)) s as).pc = .returned := by
  refine (code_eq_exit_iff browser).mp (EventLoop.Inv.exit_of_count h (serves browser)
    (descends_stopped browser) hrung (Nat.lt_of_le_of_lt ?_ hcount))
  have hle := stepsLeft_le (stopRank_le s.pc)
  have htaken : (returned s).length ≤ (published s).length :=
    (mailbox.taken_prefix s.mailbox).length_le
  have hlater : (published s).length ≤ (published (Runs.run (step (some browser)) s as)).length :=
    h.published_run_le (serves browser) as
  show _ + 10 * ((published (Runs.run (step (some browser)) s as)).length
    - (published s).length) ≤ _
  omega

end ControlThread

/-- **The control thread delivers.** In every interleaving of its accesses with those of the
consumer process and of `StopRenderLoop`:

* the commands handled are those published first, each once and in order;
* while `m_running` is set, a thread that sleeps with every published command announced has handled
  them all, so that no command waits for a timeout;
* when the consumer has announced its last command, ten steps of the thread for each command that
  is left, and 29 more, are enough to read them all, timeouts apart. -/
theorem control_thread_delivers (browser : BrowserId)
    (events : Fin controlRing.size → ControlEvent) (as : List (Action ControlEvent)) :
    let s := Runs.run (ControlThread.step (some browser)) (ControlThread.start events) as
    ControlThread.handled s <+: ControlThread.published s ∧
      (s.running = true → s.owed = false → Blocked (ControlThread.code (some browser)) s →
        ControlThread.handled s = ControlThread.published s) ∧
      (s.running = true → s.owed = false → ∀ values : List Bool,
        10 * ((ControlThread.published s).length - (ControlThread.returned s).length) + 29
          < values.length →
        let t := Runs.run (ControlThread.step (some browser)) s (values.map .work)
        ControlThread.returned t = ControlThread.published t) := by
  intro s
  have h := ControlThread.ok_run browser events as
  have hserves := ControlThread.serves browser
  refine ⟨h.handled_prefix, fun hrun howed hblocked => ?_, fun hrun howed values hcount => ?_⟩
  · rw [h.handled_of_blocked hblocked]
    exact h.drained_of_blocked hserves hrun howed hblocked
  · exact h.drained_of_count hserves (ControlThread.descends_running browser) hrun howed
      (Nat.lt_of_le_of_lt (ControlThread.stepsLeft_le (ControlThread.readRank_le _)) hcount)

end CefHost
