import CefHost.Scheduler
import Mathlib.Algebra.Ring.Int.Defs

/-!
# Where the time of the frame scheduler goes

`Scheduler` bounds the begin frames from above, and says that there is no drift where nothing is
late. Here no wait has to be in time, the interval may change from frame to frame and the loop may
be paused: every tick of the counter is accounted for. An iteration spends its interval on a call of
`TrySendBeginFrame`, on a pause, or on nothing if `StopRenderLoop` comes in between; what is left
over after a major stall is given up. At the end of an iteration the counter is ahead of the account
by at most four intervals, so that begin frames are lost to stalls alone.

The other side of it is that the loop goes round: with a counter that advances from one step to the
next, each iteration ends, and after `StopRenderLoop` the thread asks for one more wait at most,
which it does if it has just read `m_running`, and returns. This is what the `join` there is waiting
for.

## Main definitions

* `Entry`, `RenderThread.entries` — what a stretch of time was used for
* `SchedulerPoint.pending` — the interval the thread is in
* `RenderThread.OnTime` — how deadline and counter are related wherever the thread is
* `RenderThread.Going` — the thread runs, with a bound on its interval

## Main results

* `RenderThread.booked_run` — the account
* `RenderThread.OnTime.step` — one step
* `RenderThread.leave_run` — the end of the loop
* `RenderThread.Going.length_le` — the loop goes round
* `render_thread_accounts` — the account, the loop and its end, over whole runs
-/

namespace CefHost

/-- What a stretch of time was used for. -/
inductive Entry
  /-- The interval of an iteration that called `TrySendBeginFrame`. -/
  | called (frameTicks : ℤ)
  /-- The interval of an iteration that found `m_paused`. -/
  | paused (frameTicks : ℤ)
  /-- The interval of the iteration in which `m_running` was cleared. -/
  | abandoned (frameTicks : ℤ)
  /-- The new start of the deadline at the end of an iteration. -/
  | givenUp (frameTicks ticks : ℤ)
deriving DecidableEq

namespace Entry

def ticks : Entry → ℤ
  | .called frameTicks | .paused frameTicks | .abandoned frameTicks => frameTicks
  | .givenUp _ ticks => ticks

def isCall : Entry → Bool
  | .called _ => true
  | .paused _ | .abandoned _ | .givenUp _ _ => false

/-- An iteration that has got to its end. -/
def isTurn : Entry → Bool
  | .called _ | .paused _ => true
  | .abandoned _ | .givenUp _ _ => false

/-- Time goes forward, and no more than four intervals are ever caught up. -/
def Fair : Entry → Prop
  | .called frameTicks | .paused frameTicks | .abandoned frameTicks => 0 < frameTicks
  | .givenUp frameTicks ticks => 0 < frameTicks ∧ frameTicks * 4 < ticks

end Entry

/-- A step of the thread itself. -/
def SchedulerStep.isGo : SchedulerStep → Bool
  | .stop => false
  | .go _ => true

/-- The thread goes on after a tick at least, and an interval that it loads has `F` ticks at
most. -/
def SchedulerStep.Ticks (q : TickRate) (F : ℕ) : SchedulerStep → Prop
  | .stop => False
  | .go m => 0 < m.elapsed ∧ q.frameTicks m.intervalNs ≤ F

/-- The interval the thread is in. -/
def SchedulerPoint.pending : SchedulerPoint → ℤ
  | .waiting frameTicks | .measuring frameTicks | .waited frameTicks | .waking frameTicks
  | .calling frameTicks => frameTicks
  | .frame | .loading | .resync _ | .stopped => 0

/-- The steps the thread has still to make at most once `m_running` is cleared. -/
def SchedulerPoint.stepsToEnd : SchedulerPoint → ℕ
  | .stopped => 0
  | .frame | .waited _ => 1
  | .waiting _ | .resync _ => 2
  | .loading | .measuring _ | .calling _ => 3
  | .waking _ => 4

/-- The requests to wait it may still make then: it has found `m_running` set. -/
def SchedulerPoint.requestsToEnd : SchedulerPoint → ℕ
  | .measuring _ => 1
  | .frame | .loading | .waiting _ | .waited _ | .waking _ | .calling _ | .resync _ | .stopped => 0

/-- The calls it may still make then. -/
def SchedulerPoint.callsToEnd : SchedulerPoint → ℕ
  | .waking _ | .calling _ => 1
  | .frame | .loading | .waiting _ | .measuring _ | .waited _ | .resync _ | .stopped => 0

/-- The steps to the next entry of an iteration while `m_running` is set, if each takes a tick and
no interval has more than `F`. The deadline is `ahead` ticks ahead of the counter. -/
def SchedulerPoint.stepsToTurn (F : ℕ) (ahead : ℤ) : SchedulerPoint → ℕ
  | .calling _ => 0
  | .waking _ => 1
  | .waited _ => 2
  | .measuring _ => 3 + ahead.toNat
  | .waiting _ => 3 + max 1 ahead.toNat
  | .loading => F + 4
  | .frame => F + 5
  | .resync _ | .stopped => F + 6

namespace SchedulerPoint

theorem stepsToEnd_le (p : SchedulerPoint) : p.stepsToEnd ≤ 4 := by
  cases p <;> simp [stepsToEnd]

theorem requestsToEnd_le (p : SchedulerPoint) : p.requestsToEnd ≤ 1 := by
  cases p <;> simp [requestsToEnd]

theorem callsToEnd_le (p : SchedulerPoint) : p.callsToEnd ≤ 1 := by
  cases p <;> simp [callsToEnd]

theorem eq_stopped_of_stepsToEnd {p : SchedulerPoint} (h : p.stepsToEnd = 0) : p = .stopped := by
  cases p <;> first | rfl | cases h

end SchedulerPoint

namespace RenderThread

/-- What a step books. -/
def entries (s : RenderThread) : SchedulerStep → List Entry
  | .stop => []
  | .go m =>
    match s.point with
    | .waited frameTicks => if s.running then [] else [.abandoned frameTicks]
    | .calling frameTicks => if m.paused then [.paused frameTicks] else [.called frameTicks]
    | .resync frameTicks =>
      let afterTick := s.clock + m.elapsed
      if s.nextTick + frameTicks * 4 < afterTick then
        [.givenUp frameTicks (afterTick - s.nextTick)]
      else []
    | .frame | .loading | .waiting _ | .measuring _ | .waking _ | .stopped => []

variable {q : TickRate} {s : RenderThread}

/-! ### The account -/

/-- A step moves the deadline by what it books, and into and out of the interval. It books what it
calls. -/
theorem booked_step (s : RenderThread) (i : SchedulerStep) :
    (step q s i).nextTick - (step q s i).point.pending
        = s.nextTick - s.point.pending + ((s.entries i).map Entry.ticks).sum ∧
      (step q s i).calls.length = s.calls.length + (s.entries i).countP Entry.isCall := by
  cases i with
  | stop => simp [step, entries]
  | go m =>
    rw [step, advance, entries]
    cases hp : s.point <;> simp only
    case frame => split <;> simp [SchedulerPoint.pending]
    case loading =>
      -- the interval as a variable: nothing here depends on how it is computed
      obtain ⟨f, hf⟩ : ∃ f, q.frameTicks m.intervalNs = f := ⟨_, rfl⟩
      rw [hf]
      simp [SchedulerPoint.pending]
    case waiting f => split <;> simp [SchedulerPoint.pending]
    case measuring f => split <;> simp [SchedulerPoint.pending]
    case waited f => split <;> simp [SchedulerPoint.pending, Entry.ticks, Entry.isCall]
    case waking f => simp [SchedulerPoint.pending]
    case calling f => split <;> simp [SchedulerPoint.pending, Entry.ticks, Entry.isCall]
    case resync f => split <;> simp [SchedulerPoint.pending, Entry.ticks, Entry.isCall]
    case stopped => simp

/-- **The account.** -/
theorem booked_run (s : RenderThread) (is : List SchedulerStep) :
    (Runs.run (step q) s is).nextTick - (Runs.run (step q) s is).point.pending
        = s.nextTick - s.point.pending
          + ((Runs.emitted (step q) entries s is).map Entry.ticks).sum ∧
      (Runs.run (step q) s is).calls.length
        = s.calls.length + (Runs.emitted (step q) entries s is).countP Entry.isCall := by
  induction is generalizing s with
  | nil => exact ⟨(Int.add_zero _).symm, rfl⟩
  | cons i is ih =>
    obtain ⟨hticks, hcalls⟩ := booked_step (q := q) s i
    obtain ⟨hticks', hcalls'⟩ := ih (step q s i)
    rw [Runs.run_cons, Runs.emitted, List.map_append, List.sum_append, List.countP_append]
    refine ⟨?_, ?_⟩
    · rw [hticks', hticks, Int.add_assoc]
    · rw [hcalls', hcalls, Nat.add_assoc]

/-! ### Deadline and counter -/

/-- The deadline is at most an interval ahead of the counter, and reached where the thread goes on
behind the wait. -/
def OnTime (s : RenderThread) : Prop :=
  match s.point with
  | .frame | .loading => s.nextTick ≤ s.clock
  | .waiting f | .measuring f => 0 < f ∧ s.nextTick ≤ s.clock + f
  | .waited f => 0 < f ∧ (s.running → s.nextTick ≤ s.clock)
  | .waking f | .calling f | .resync f => 0 < f ∧ s.nextTick ≤ s.clock
  | .stopped => s.running = false

theorem onTime_start (hiResTimer : Bool) (now : ℤ) : (start hiResTimer now).OnTime :=
  Int.le_refl _

namespace OnTime

theorem pass (h : s.OnTime) (n : ℕ) : OnTime { s with clock := s.clock + n } := by
  rw [OnTime] at h ⊢
  cases hp : s.point <;> simp only [hp] at h ⊢
  case waited => exact ⟨h.1, fun hrun => by have := h.2 hrun; omega⟩
  case stopped => exact h
  all_goals omega

theorem stop (h : s.OnTime) : OnTime { s with running := false } := by
  rw [OnTime] at h ⊢
  cases hp : s.point <;> simp only [hp] at h ⊢
  case waited => exact ⟨h.1, by simp⟩
  all_goals exact h

theorem advance (h : s.OnTime) (m : Moment) : (RenderThread.advance q s m).OnTime := by
  rw [OnTime] at h
  rw [RenderThread.advance]
  cases hp : s.point <;> simp only [hp] at h ⊢
  case frame =>
    split
    · exact h
    · next hstop => exact Bool.eq_false_iff.mpr hstop
  case loading =>
    have hpos := q.frameTicks_pos m.intervalNs
    simp only [OnTime]
    omega
  case waiting f =>
    split
    · exact h
    · next hstop => exact ⟨h.1, fun hrun => absurd hrun hstop⟩
  case measuring f =>
    split
    · next hdue => exact ⟨h.1, fun _ => by simp only; omega⟩
    · exact h
  case waited f =>
    split
    · next hrun => exact ⟨h.1, h.2 hrun⟩
    · next hstop => exact Bool.eq_false_iff.mpr hstop
  case waking f => exact h
  case calling f => split <;> exact h
  case resync f =>
    split
    · exact Int.le_refl _
    · exact h.2
  case stopped => rw [OnTime, hp]; exact h

/-- **One step.** -/
theorem step (h : s.OnTime) (i : SchedulerStep) : (RenderThread.step q s i).OnTime := by
  cases i with
  | stop => exact h.stop
  | go m => exact (h.pass m.elapsed).advance m

/-- What is booked is booked fairly. -/
theorem fair (h : s.OnTime) (i : SchedulerStep) : ∀ e ∈ s.entries i, e.Fair := by
  cases i with
  | stop => simp [entries]
  | go m =>
    rw [OnTime] at h
    rw [entries]
    cases hp : s.point <;> simp only [hp] at h ⊢
    case waited f => split <;> simp [Entry.Fair, h.1]
    case calling f => split <;> simp [Entry.Fair, h.1]
    case resync f =>
      split
      · next hlate =>
        simp only [List.mem_singleton, forall_eq, Entry.Fair]
        exact ⟨h.1, by omega⟩
      · simp
    all_goals simp

theorem fair_run (h : s.OnTime) (is : List SchedulerStep) :
    ∀ e ∈ Runs.emitted (RenderThread.step q) entries s is, e.Fair := by
  induction is generalizing s with
  | nil => exact fun _ he => absurd he List.not_mem_nil
  | cons i is ih =>
    intro e he
    rcases List.mem_append.mp he with he | he
    · exact h.fair i e he
    · exact ih (h.step i) e he

/-- The end of an iteration. -/
theorem lag_le (h : s.OnTime) {f : ℤ} (hp : s.point = .resync f) (m : Moment) :
    (RenderThread.step q s (.go m)).nextTick ≤ (RenderThread.step q s (.go m)).clock ∧
      (RenderThread.step q s (.go m)).clock
        ≤ (RenderThread.step q s (.go m)).nextTick + f * 4 := by
  rw [OnTime, hp] at h
  obtain ⟨hf, hle⟩ := h
  rw [RenderThread.step, RenderThread.advance, hp]
  simp only
  split
  · exact ⟨Int.le_refl _, by simp only; omega⟩
  · next htime => exact ⟨by simp only; omega, Int.not_lt.mp htime⟩

end OnTime

/-! ### The end -/

/-- One step after `m_running` is cleared. -/
theorem leave_step (h : s.running = false) (i : SchedulerStep) :
    (step q s i).running = false ∧
      (step q s i).point.stepsToEnd ≤ s.point.stepsToEnd - i.isGo.toNat ∧
      (step q s i).requests.length + (step q s i).point.requestsToEnd
        ≤ s.requests.length + s.point.requestsToEnd ∧
      (step q s i).calls.length + (step q s i).point.callsToEnd
        ≤ s.calls.length + s.point.callsToEnd := by
  cases i with
  | stop => exact ⟨rfl, Nat.le_refl _, Nat.le_refl _, Nat.le_refl _⟩
  | go m =>
    rw [step, advance]
    cases hp : s.point <;>
      simp only [h, Bool.false_eq_true, if_false, SchedulerPoint.stepsToEnd,
        SchedulerPoint.requestsToEnd, SchedulerPoint.callsToEnd, SchedulerStep.isGo,
        Bool.toNat_true]
    case measuring f => split <;> simp
    case calling f => split <;> simp
    case resync f => split <;> simp
    all_goals simp

/-- **The end.** -/
theorem leave_run (h : s.running = false) (is : List SchedulerStep) :
    (Runs.run (step q) s is).point.stepsToEnd
        ≤ s.point.stepsToEnd - is.countP SchedulerStep.isGo ∧
      (Runs.run (step q) s is).requests.length + (Runs.run (step q) s is).point.requestsToEnd
        ≤ s.requests.length + s.point.requestsToEnd ∧
      (Runs.run (step q) s is).calls.length + (Runs.run (step q) s is).point.callsToEnd
        ≤ s.calls.length + s.point.callsToEnd := by
  induction is generalizing s with
  | nil => exact ⟨Nat.le_refl _, Nat.le_refl _, Nat.le_refl _⟩
  | cons i is ih =>
    obtain ⟨hrun, hsteps, hrequests, hcalls⟩ := leave_step (q := q) h i
    obtain ⟨hsteps', hrequests', hcalls'⟩ := ih hrun
    rw [Runs.run_cons]
    refine ⟨?_, Nat.le_trans hrequests' hrequests, Nat.le_trans hcalls' hcalls⟩
    have hcount : (i :: is).countP SchedulerStep.isGo
        = is.countP SchedulerStep.isGo + i.isGo.toNat := by
      rw [List.countP_cons]
      cases i.isGo <;> rfl
    rw [hcount]
    omega

/-! ### The loop goes round -/

/-- The thread runs, and its interval has `F` ticks at most. -/
structure Going (F : ℕ) (s : RenderThread) : Prop where
  onTime : s.OnTime
  running : s.running = true
  pending : s.point.pending ≤ F

/-- The steps to the next entry of an iteration. -/
def stepsToTurn (F : ℕ) (s : RenderThread) : ℕ :=
  s.point.stepsToTurn F (s.nextTick - s.clock)

namespace Going

variable {F : ℕ}

/-- One step: the next entry comes nearer, or it is made. -/
theorem step (h : s.Going F) {i : SchedulerStep} (hi : i.Ticks q F) :
    (RenderThread.step q s i).Going F ∧
      (RenderThread.step q s i).stepsToTurn F + 1
        ≤ s.stepsToTurn F + (F + 7) * (s.entries i).countP Entry.isTurn := by
  cases i with
  | stop => exact hi.elim
  | go m =>
    obtain ⟨helapsed, hle⟩ := hi
    have hrun := h.running
    have htime := h.onTime
    have hpending := h.pending
    suffices hgo : (RenderThread.step q s (.go m)).running = true ∧
        (RenderThread.step q s (.go m)).point.pending ≤ F ∧
        (RenderThread.step q s (.go m)).stepsToTurn F + 1
          ≤ s.stepsToTurn F + (F + 7) * (s.entries (.go m)).countP Entry.isTurn from
      ⟨⟨h.onTime.step _, hgo.1, hgo.2.1⟩, hgo.2.2⟩
    have hpos := q.frameTicks_pos m.intervalNs
    rw [OnTime] at htime
    rw [RenderThread.step, RenderThread.advance, entries, RenderThread.stepsToTurn,
      RenderThread.stepsToTurn]
    obtain ⟨f, hf⟩ : ∃ f, q.frameTicks m.intervalNs = f := ⟨_, rfl⟩
    rw [hf] at hle hpos ⊢
    cases hp : s.point <;>
      simp only [hp, hrun, if_true, SchedulerPoint.pending, SchedulerPoint.stepsToTurn,
        List.countP_nil] at htime hpending ⊢
    case frame => exact ⟨trivial, hpending, by omega⟩
    case loading => exact ⟨trivial, hle, by omega⟩
    case waiting f => exact ⟨trivial, hpending, by omega⟩
    case measuring f =>
      split
      · exact ⟨rfl, hpending, by simp only; omega⟩
      · exact ⟨rfl, hpending, by simp only; omega⟩
    case waited f => exact ⟨trivial, hpending, by omega⟩
    case waking f => exact ⟨trivial, hpending, by omega⟩
    case calling f => split <;> simp [Entry.isTurn]
    case resync f => split <;> simp [Entry.isTurn]
    case stopped => cases htime

theorem stepsToTurn_le (h : s.Going F) : s.stepsToTurn F ≤ F + 6 := by
  have htime := h.onTime
  have hpending := h.pending
  rw [OnTime] at htime
  rw [RenderThread.stepsToTurn]
  cases hp : s.point <;>
    simp only [hp, SchedulerPoint.pending, SchedulerPoint.stepsToTurn] at htime hpending ⊢ <;>
    omega

/-- **The loop goes round**: so many steps, so many entries of iterations. -/
theorem length_le (h : s.Going F) {is : List SchedulerStep} (his : ∀ i ∈ is, i.Ticks q F) :
    is.length ≤ s.stepsToTurn F
      + (F + 7) * (Runs.emitted (RenderThread.step q) entries s is).countP Entry.isTurn := by
  induction is generalizing s with
  | nil => exact Nat.zero_le _
  | cons i is ih =>
    obtain ⟨hgoing, hstep⟩ := h.step (his i List.mem_cons_self)
    have hrest := ih hgoing fun i hi => his i (List.mem_cons_of_mem _ hi)
    rw [List.length_cons, Runs.emitted, List.countP_append, Nat.mul_add]
    omega

end Going

end RenderThread

/-- **Where the time goes**, for every trace of the counter, every choice of the intervals and of
`m_paused`, and however late the waits return.

The deadline is the start of the loop with the intervals of the iterations, and what was given up
after stalls of more than four intervals, added up; there is an entry for each call of
`TrySendBeginFrame`. At the end of an iteration the counter is at the deadline or up to four
intervals behind it, and a wait is for one interval at most. Once `m_running` is cleared there is
one more request to wait at most and one call, and the thread returns after four steps. As long as
it is set, every `F + 7` steps bring an iteration to its entry if the counter advances from one to
the next and no interval has more than `F` ticks. -/
theorem render_thread_accounts (q : TickRate) (hiResTimer : Bool) (now : ℤ)
    (steps : List SchedulerStep) :
    let s := Runs.run (RenderThread.step q) (.start hiResTimer now) steps
    let entries := Runs.emitted (RenderThread.step q) RenderThread.entries
      (.start hiResTimer now) steps
    (s.nextTick = now + (entries.map Entry.ticks).sum + s.point.pending ∧
        (∀ e ∈ entries, e.Fair) ∧ s.calls.length = entries.countP Entry.isCall) ∧
      (∀ f, s.point = .waiting f ∨ s.point = .measuring f → s.nextTick ≤ s.clock + f) ∧
      (∀ f m, s.point = .resync f →
        (s.step q (.go m)).nextTick ≤ (s.step q (.go m)).clock ∧
          (s.step q (.go m)).clock ≤ (s.step q (.go m)).nextTick + f * 4) ∧
      (s.running = false → ∀ more : List SchedulerStep,
        (Runs.run (RenderThread.step q) s more).requests.length ≤ s.requests.length + 1 ∧
          (Runs.run (RenderThread.step q) s more).calls.length ≤ s.calls.length + 1 ∧
          (4 ≤ more.countP SchedulerStep.isGo →
            (Runs.run (RenderThread.step q) s more).point = .stopped)) ∧
      (s.running = true → ∀ (F : ℕ) (more : List SchedulerStep), s.point.pending ≤ F →
        (∀ i ∈ more, i.Ticks q F) →
          more.length ≤ F + 6 + (F + 7) *
            (Runs.emitted (RenderThread.step q) RenderThread.entries s more).countP
              Entry.isTurn) := by
  intro s entries
  have htime : s.OnTime :=
    Runs.invariant (fun _ i h => h.step i) (RenderThread.onTime_start hiResTimer now) steps
  obtain ⟨hbooked, hcalls⟩ := RenderThread.booked_run (q := q) (.start hiResTimer now) steps
  refine ⟨⟨?_, ?_, ?_⟩, fun f hp => ?_, fun f m hp => htime.lag_le hp m, fun hstop more => ?_,
    fun hrun F more hpending hmore => ?_⟩
  · have hstart : (RenderThread.start hiResTimer now).nextTick
        - (RenderThread.start hiResTimer now).point.pending = now := Int.sub_zero now
    rw [hstart] at hbooked
    exact Int.sub_eq_iff_eq_add.mp hbooked
  · exact RenderThread.OnTime.fair_run (RenderThread.onTime_start hiResTimer now) steps
  · exact hcalls.trans (Nat.zero_add _)
  · rw [RenderThread.OnTime] at htime
    rcases hp with hp | hp
    all_goals
      rw [hp] at htime
      exact htime.2
  · obtain ⟨hsteps, hrequests, hcalls⟩ := RenderThread.leave_run (q := q) hstop more
    refine ⟨?_, ?_, fun hfour => ?_⟩
    · have hone := s.point.requestsToEnd_le
      omega
    · have hone := s.point.callsToEnd_le
      omega
    · have hle := s.point.stepsToEnd_le
      exact SchedulerPoint.eq_stopped_of_stepsToEnd (by omega)
  · have hgoing : s.Going F := ⟨htime, hrun, hpending⟩
    exact Nat.le_trans (hgoing.length_le hmore) (Nat.add_le_add_right hgoing.stepsToTurn_le _)

end CefHost
