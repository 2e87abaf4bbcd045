import CefHost.Library.CasLoop
import CefHost.Painter
import CefHost.Scheduler
import Mathlib.Data.UInt

/-!
# The telemetry

The handler counts in fifteen atomics, sums with `fetch_add` and maxima with a loop around
`compare_exchange_weak`. Every two seconds `OnAcceleratedPaint` prints a line: it takes what each of
them holds and leaves zero. The render thread meanwhile goes on counting.

The two threads' accesses come in any order here, and an exchange may fail for no reason. The time
of the last line is read and written in `OnAcceleratedPaint` alone.

## Main definitions

* `Stat`, `StatOp`, `telemetry` — the counters, and what is done to them
* `viewStats`, `publishStats`, `beginToPaintStats`, `latenessStats`, `logStats` — who counts what
* `Telemetry`, `Telemetry.step` — the two threads

## Main results

* `telemetry_lines_exact` — every line has exactly what was counted since the one before
-/

namespace CefHost

open CasLoop Runs

/-- `m_stat…`. -/
inductive Stat
  | producedFrames
  | forcedFullFrames
  | forcedFullManual
  | forcedFullRecreate
  | forcedFullOverflow
  | dirtyRectCountSum
  | dirtyRectAreaSum
  | copySubmitUsSum
  | copySubmitUsMax
  | beginFramesSentWindow
  | beginToPaintUsSum
  | beginToPaintUsMax
  | schedMissCount
  | schedLateUsSum
  | schedLateUsMax
deriving DecidableEq

def Stat.isMax : Stat → Bool
  | .copySubmitUsMax | .beginToPaintUsMax | .schedLateUsMax => true
  | _ => false

inductive StatOp
  | fetchAdd (k : Stat) (n : UInt64)
  /-- `while (n > prevMax && !compare_exchange_weak(prevMax, n)) {}`. -/
  | raise (k : Stat) (n : UInt64)
  /-- `exchange(0)`. -/
  | exchange (k : Stat)
deriving DecidableEq

namespace StatOp

def stat : StatOp → Stat
  | fetchAdd k _ | raise k _ | exchange k => k

def isExchange : StatOp → Bool
  | exchange _ => true
  | _ => false

/-- What is counted. -/
def amount : StatOp → UInt64
  | fetchAdd _ n | raise _ n => n
  | exchange _ => 0

end StatOp

def telemetry : Instructions Stat UInt64 StatOp where
  cell := StatOp.stat
  update
    | .fetchAdd _ n, x => x + n
    | .raise _ n, x => if x < n then n else x
    | .exchange _, _ => 0
  looped
    | .raise .. => true
    | _ => false

/-! ### Who counts what -/

/-- At the start of `OnAcceleratedPaint`. -/
def beginToPaintStats (lastBeginUs copyStartUs : ℕ) : List StatOp :=
  if 0 < lastBeginUs ∧ lastBeginUs ≤ copyStartUs ∧ copyStartUs - lastBeginUs ≤ 1000000 then
    [.fetchAdd .beginToPaintUsSum (UInt64.ofNat (copyStartUs - lastBeginUs)),
      .raise .beginToPaintUsMax (UInt64.ofNat (copyStartUs - lastBeginUs))]
  else []

def dirtyArea (r : DirtyRect) : UInt64 :=
  (if 0 < r.w then r.w else 0).toInt64.toUInt64 * (if 0 < r.h then r.h else 0).toInt64.toUInt64

/-- In a view publish. -/
def Painter.viewStats (s : Painter) (recreated : Bool) (collected : List DirtyRect × Bool) :
    List StatOp :=
  if s.forceFull recreated collected.2 then
    .fetchAdd .forcedFullFrames 1 ::
      ((if s.forceFullFrame then [.fetchAdd .forcedFullManual 1] else []) ++
        ((if recreated then [.fetchAdd .forcedFullRecreate 1] else []) ++
          if collected.2 then [.fetchAdd .forcedFullOverflow 1] else []))
  else
    collected.1.map (fun r => .fetchAdd .dirtyRectAreaSum (dirtyArea r)) ++
      [.fetchAdd .dirtyRectCountSum (UInt64.ofNat collected.1.length)]

/-- Behind a view publish. -/
def publishStats (copySubmitUs : ℕ) : List StatOp :=
  [.fetchAdd .producedFrames 1, .fetchAdd .copySubmitUsSum (UInt64.ofNat copySubmitUs),
    .raise .copySubmitUsMax (UInt64.ofNat copySubmitUs)]

/-- A telemetry line. -/
def logStats : List StatOp :=
  [.exchange .producedFrames, .exchange .forcedFullFrames, .exchange .forcedFullManual,
    .exchange .forcedFullRecreate, .exchange .forcedFullOverflow, .exchange .dirtyRectCountSum,
    .exchange .dirtyRectAreaSum, .exchange .copySubmitUsSum, .exchange .copySubmitUsMax,
    .exchange .beginFramesSentWindow, .exchange .beginToPaintUsSum, .exchange .beginToPaintUsMax,
    .exchange .schedMissCount, .exchange .schedLateUsSum, .exchange .schedLateUsMax]

/-- In `RenderThreadMain`, after a wake-up. -/
def latenessStats (q : TickRate) (nextTick wakeTick : ℤ) : List StatOp :=
  (RenderThread.recordLateness q [] nextTick wakeTick).flatMap fun lateUs =>
    [.fetchAdd .schedMissCount 1, .fetchAdd .schedLateUsSum lateUs, .raise .schedLateUsMax lateUs]

/-! ### The threads -/

inductive StatThread
  | render
  | paint
deriving DecidableEq

/-- The counters with the threads, and what decides about the lines. The times are in microseconds.
The last two fields keep the time from which on there are lines, and the windows of those
printed. -/
structure Telemetry where
  stats : CasLoop.State StatThread Stat UInt64 StatOp
  clock : ℕ
  lastTelemetryLogUs : ℕ
  firstUs : ℕ
  windowsUs : List ℕ

inductive TelemetryEvent
  /-- `OnAcceleratedPaint` begins. -/
  | paint (elapsed lastBeginUs : ℕ)
  /-- A view publish that took `copySubmitUs`; `exchanged` is whether the exchange of
  `m_lastTelemetryLogUs` succeeds. -/
  | view (s : Painter) (recreated : Bool) (collected : List DirtyRect × Bool) (copySubmitUs : ℕ)
      (exchanged : Bool)
  /-- A publish of the popup plane. -/
  | popup
  /-- `RenderThreadMain` wakes up. -/
  | wake (q : TickRate) (nextTick wakeTick : ℤ)
  /-- `TrySendBeginFrame` has sent. -/
  | sent
  /-- The next access of a thread; `spurious` is whether an exchange fails for no reason. -/
  | access (t : StatThread) (spurious : Bool)

namespace Telemetry

def init : Telemetry where
  stats := ⟨fun _ => 0, fun _ => ⟨[], none⟩⟩
  clock := 0
  lastTelemetryLogUs := 0
  firstUs := 0
  windowsUs := []

/-- Whether a publish that ends at `copyEndUs` prints a line. -/
def logs (s : Telemetry) (copyEndUs : ℕ) (exchanged : Bool) : Bool :=
  s.lastTelemetryLogUs ≠ 0 && 2000000 ≤ copyEndUs - s.lastTelemetryLogUs && exchanged

/-- What an event gives the threads to do. -/
def actions (s : Telemetry) : TelemetryEvent → List (Action StatThread StatOp)
  | .paint elapsed lastBeginUs => [.give .paint (beginToPaintStats lastBeginUs (s.clock + elapsed))]
  | .view p recreated collected copySubmitUs exchanged =>
    [.give .paint (p.viewStats recreated collected ++ (publishStats copySubmitUs ++
      if s.logs (s.clock + copySubmitUs) exchanged then logStats else []))]
  | .popup => [.give .paint [.fetchAdd .producedFrames 1]]
  | .wake q nextTick wakeTick => [.give .render (latenessStats q nextTick wakeTick)]
  | .sent => [.give .render [.fetchAdd .beginFramesSentWindow 1]]
  | .access t spurious => [.access t spurious]

def step (s : Telemetry) (e : TelemetryEvent) : Telemetry :=
  let s' := { s with stats := run telemetry.step s.stats (s.actions e) }
  match e with
  | .paint elapsed _ => { s' with clock := s.clock + elapsed }
  | .view _ _ _ copySubmitUs exchanged =>
    let copyEndUs := s.clock + copySubmitUs
    let s' := { s' with clock := copyEndUs }
    if s.lastTelemetryLogUs = 0 then
      { s' with lastTelemetryLogUs := copyEndUs, firstUs := copyEndUs }
    else if s.logs copyEndUs exchanged then
      { s' with
        lastTelemetryLogUs := copyEndUs
        windowsUs := s.windowsUs ++ [copyEndUs - s.lastTelemetryLogUs] }
    else s'
  | _ => s'

/-! ### The counters -/

theorem step_stats (s : Telemetry) (e : TelemetryEvent) :
    (s.step e).stats = run telemetry.step s.stats (s.actions e) := by
  match e with
  | .view _ _ _ _ _ =>
    unfold step
    dsimp only
    split_ifs <;> rfl
  | .paint _ _ => rfl
  | .popup => rfl
  | .wake _ _ _ => rfl
  | .sent => rfl
  | .access _ _ => rfl

theorem run_stats (s : Telemetry) (es : List TelemetryEvent) :
    (run step s es).stats = run telemetry.step s.stats (emitted step actions s es) :=
  project (I := fun _ => True) (f := stats) (fun _ _ _ => trivial)
    (fun s e _ => step_stats s e) trivial es

/-- Sums are only added to, maxima only raised. -/
def Fitting (o : StatOp) : Prop :=
  match o with
  | .fetchAdd k _ => k.isMax = false
  | .raise k _ => k.isMax = true
  | .exchange _ => True

instance (o : StatOp) : Decidable (Fitting o) := by
  unfold Fitting
  split <;> infer_instance

theorem fitting_viewStats (p : Painter) (recreated : Bool) (collected : List DirtyRect × Bool) :
    ∀ o ∈ p.viewStats recreated collected, Fitting o := by
  rw [Painter.viewStats]
  split
  · split_ifs <;> decide
  · intro o ho
    rcases List.mem_append.mp ho with ho | ho
    · obtain ⟨r, -, rfl⟩ := List.mem_map.mp ho
      exact rfl
    · rw [List.mem_singleton.mp ho]
      exact rfl

theorem fitting_latenessStats (q : TickRate) (nextTick wakeTick : ℤ) :
    ∀ o ∈ latenessStats q nextTick wakeTick, Fitting o := by
  intro o ho
  obtain ⟨lateUs, -, ho⟩ := List.mem_flatMap.mp ho
  simp only [List.mem_cons, List.not_mem_nil, or_false] at ho
  rcases ho with rfl | rfl | rfl <;> exact rfl

theorem fitting_beginToPaintStats (lastBeginUs copyStartUs : ℕ) :
    ∀ o ∈ beginToPaintStats lastBeginUs copyStartUs, Fitting o := by
  rw [beginToPaintStats]
  split
  · simp [Fitting, Stat.isMax]
  · simp

/-- What the threads are given to do is fitting. -/
theorem fitting_given (s : Telemetry) (e : TelemetryEvent) (t : StatThread) :
    ∀ o ∈ (s.actions e).flatMap (Action.given t), Fitting o := by
  have hgive : ∀ (t' : StatThread) (ops : List StatOp), (∀ o ∈ ops, Fitting o) →
      ∀ o ∈ [Action.give t' ops].flatMap (Action.given t), Fitting o := by
    intro t' ops hops o ho
    rw [List.flatMap_singleton, Action.given] at ho
    split at ho
    · exact hops o ho
    · exact absurd ho List.not_mem_nil
  cases e with
  | paint elapsed lastBeginUs => exact hgive _ _ (fitting_beginToPaintStats _ _)
  | view p recreated collected copySubmitUs exchanged =>
    refine hgive _ _ fun o ho => ?_
    rcases List.mem_append.mp ho with ho | ho
    · exact fitting_viewStats p recreated collected o ho
    rcases List.mem_append.mp ho with ho | ho
    · simp only [publishStats, List.mem_cons, List.not_mem_nil, or_false] at ho
      rcases ho with rfl | rfl | rfl <;> exact rfl
    · split at ho
      · have hall : ∀ o ∈ logStats, Fitting o := by decide
        exact hall o ho
      · exact absurd ho List.not_mem_nil
  | popup => exact hgive _ _ (by decide)
  | wake q nextTick wakeTick => exact hgive _ _ (fitting_latenessStats _ _ _)
  | sent => exact hgive _ _ (by decide)
  | access t' spurious => exact fun o ho => absurd ho List.not_mem_nil

theorem fitting_run (s : Telemetry) (es : List TelemetryEvent) (t : StatThread) :
    ∀ o ∈ (emitted step actions s es).flatMap (Action.given t), Fitting o := by
  induction es generalizing s with
  | nil => exact fun o ho => absurd ho List.not_mem_nil
  | cons e es ih =>
    intro o ho
    rw [emitted, List.flatMap_append] at ho
    rcases List.mem_append.mp ho with ho | ho
    · exact fitting_given s e t o ho
    · exact ih (s.step e) o ho

/-- What fitting operations make of a counter: a sum or a maximum. -/
theorem total_eq {k : Stat} {w : List StatOp}
    (hw : ∀ o ∈ w, Fitting o ∧ o.stat = k ∧ o.isExchange = false) :
    telemetry.total 0 w
      = if k.isMax then (w.map StatOp.amount).foldl max 0 else (w.map StatOp.amount).sum := by
  have hmax : ∀ x n : UInt64, (if x < n then n else x) = max x n := by
    intro x n
    show _ = if x ≤ n then n else x
    grind
  split
  · next hk =>
    rw [Instructions.total, List.foldl_map]
    refine List.foldl_ext _ _ _ fun x o ho => ?_
    obtain ⟨hfit, hcell, hex⟩ := hw o ho
    cases o with
    | fetchAdd k' n =>
      rw [show k' = k from hcell] at hfit
      exact absurd (hk.symm.trans hfit) (by decide)
    | raise k' n => exact hmax x n
    | exchange k' => cases hex
  · next hk =>
    have hadd : ∀ x, telemetry.total x w = x + (w.map StatOp.amount).sum := by
      induction w with
      | nil => intro x; exact (add_zero x).symm
      | cons o w ih =>
        intro x
        obtain ⟨hfit, hcell, hex⟩ := hw o List.mem_cons_self
        have hrest := ih fun o ho => hw o (List.mem_cons_of_mem _ ho)
        cases o with
        | fetchAdd k' n =>
          rw [List.map_cons, List.sum_cons, ← add_assoc]
          exact hrest (x + n)
        | raise k' n =>
          rw [show k' = k from hcell] at hfit
          exact absurd hfit hk
        | exchange k' => cases hex
    rw [hadd, zero_add]

/-! ### The lines -/

/-- The windows of the lines, one behind the other. -/
structure Tiled (s : Telemetry) : Prop where
  unset : s.lastTelemetryLogUs = 0 → s.windowsUs = []
  sum_eq : s.firstUs + s.windowsUs.sum = s.lastTelemetryLogUs
  le_clock : s.lastTelemetryLogUs ≤ s.clock
  length : ∀ w ∈ s.windowsUs, 2000000 ≤ w

theorem Tiled.init : init.Tiled := ⟨fun _ => rfl, rfl, Nat.le_refl _, by simp [Telemetry.init]⟩

theorem Tiled.step {s : Telemetry} (h : s.Tiled) (e : TelemetryEvent) : (s.step e).Tiled := by
  match e with
  | .view p recreated collected copySubmitUs exchanged =>
    have hclock := h.le_clock
    unfold Telemetry.step
    dsimp only
    split_ifs with hunset hlogs
    · refine ⟨fun _ => h.unset hunset, ?_, Nat.le_refl _, h.length⟩
      show s.clock + copySubmitUs + s.windowsUs.sum = s.clock + copySubmitUs
      rw [h.unset hunset]
      rfl
    · simp only [logs, ne_eq, Bool.and_eq_true, decide_eq_true_eq] at hlogs
      refine ⟨fun hzero => ?_, ?_, Nat.le_refl _, ?_⟩
      · exact absurd (show s.clock + copySubmitUs = 0 from hzero) (by omega)
      · show s.firstUs + (s.windowsUs ++ [_]).sum = _
        have hsum := h.sum_eq
        rw [List.sum_append, List.sum_singleton]
        show s.firstUs + _ = s.clock + copySubmitUs
        omega
      · intro w hw
        rcases List.mem_append.mp hw with hw | hw
        · exact h.length w hw
        · rw [List.mem_singleton.mp hw]
          exact hlogs.1.2
    · exact ⟨h.unset, h.sum_eq, Nat.le_add_right_of_le hclock, h.length⟩
  | .paint elapsed _ =>
    exact ⟨h.unset, h.sum_eq, Nat.le_add_right_of_le h.le_clock, h.length⟩
  | .popup => exact ⟨h.unset, h.sum_eq, h.le_clock, h.length⟩
  | .wake _ _ _ => exact ⟨h.unset, h.sum_eq, h.le_clock, h.length⟩
  | .sent => exact ⟨h.unset, h.sum_eq, h.le_clock, h.length⟩
  | .access _ _ => exact ⟨h.unset, h.sum_eq, h.le_clock, h.length⟩

theorem exchange_notMem_viewStats (p : Painter) (recreated : Bool)
    (collected : List DirtyRect × Bool) (k : Stat) :
    StatOp.exchange k ∉ p.viewStats recreated collected := by
  rw [Painter.viewStats]
  split
  · split_ifs <;> simp
  · simp

theorem count_give (ops : List StatOp) (o : StatOp) :
    ([Action.give StatThread.paint ops].flatMap (Action.given StatThread.paint)).count o
      = ops.count o := by
  rw [List.flatMap_singleton, Action.given, if_pos rfl]

/-- A line exchanges each counter once. -/
theorem count_exchange_step (k : Stat) (s : Telemetry) (e : TelemetryEvent) :
    ((s.actions e).flatMap (Action.given .paint)).count (.exchange k) + s.windowsUs.length
      = (s.step e).windowsUs.length := by
  have hline : logStats.count (.exchange k) = 1 := by cases k <;> decide
  match e with
  | .view p recreated collected copySubmitUs exchanged =>
    have hview := List.count_eq_zero.mpr (exchange_notMem_viewStats p recreated collected k)
    have hpublish : (publishStats copySubmitUs).count (.exchange k) = 0 :=
      List.count_eq_zero.mpr (by simp [publishStats])
    rw [actions, count_give, List.count_append, List.count_append, hview, hpublish]
    unfold Telemetry.step
    dsimp only
    by_cases hlogs : s.logs (s.clock + copySubmitUs) exchanged = true
    · have hset : s.lastTelemetryLogUs ≠ 0 := by
        simp only [logs, ne_eq, Bool.and_eq_true, decide_eq_true_eq] at hlogs
        exact hlogs.1.1
      rw [if_pos hlogs, if_neg hset, if_pos hlogs, hline, List.length_append]
      simp [Nat.add_comm]
    · rw [if_neg hlogs, if_neg hlogs]
      split_ifs <;> simp
  | .paint elapsed lastBeginUs =>
    have hnone : StatOp.exchange k ∉ beginToPaintStats lastBeginUs (s.clock + elapsed) := by
      rw [beginToPaintStats]
      split <;> simp
    rw [actions, count_give, List.count_eq_zero.mpr hnone, zero_add]
    rfl
  | .popup => exact Nat.zero_add _
  | .wake _ _ _ => exact Nat.zero_add _
  | .sent => exact Nat.zero_add _
  | .access _ _ => exact Nat.zero_add _

theorem count_exchange (k : Stat) (s : Telemetry) (es : List TelemetryEvent) :
    ((emitted step actions s es).flatMap (Action.given .paint)).count (.exchange k)
      + s.windowsUs.length = (run step s es).windowsUs.length := by
  induction es generalizing s with
  | nil => exact Nat.zero_add _
  | cons e es ih =>
    rw [emitted, List.flatMap_append, List.count_append, run_cons, ← ih,
      ← count_exchange_step k s e]
    omega

end Telemetry

/-- **The telemetry lines are exact.** In every interleaving of the two threads, with any exchange
failing at any time:

* what a thread counts acts once, in the thread's order;
* a line has for each counter the sum, or the maximum, of what has acted since the line before, and
  the rest is in the counter, so nothing is lost or counted twice;
* each line takes every counter once, and their windows follow one another without a gap, from the
  first publish to the last line, each of two seconds at least;
* a thread gets through what it has to count, with one more access at most for each exchange that
  fails for no reason and each time the other thread changes the very maximum it is raising. -/
theorem telemetry_lines_exact (es : List TelemetryEvent) :
    let s := run Telemetry.step .init es
    let actions := emitted Telemetry.step Telemetry.actions .init es
    let acted := emitted telemetry.step telemetry.effects Telemetry.init.stats actions
    let found := emitted telemetry.step telemetry.found Telemetry.init.stats actions
    (∀ t, (acted.filter fun e => e.1 = t).map Prod.snd ++ (s.stats.threads t).todo
        = actions.flatMap (Action.given t)) ∧
      (∀ k, telemetry.drained StatOp.isExchange k found ++ [s.stats.cells k]
        = (telemetry.windows StatOp.isExchange k (acted.map Prod.snd)).map fun w =>
            if k.isMax then (w.map StatOp.amount).foldl max 0 else (w.map StatOp.amount).sum) ∧
      ((∀ k, (actions.flatMap (Action.given .paint)).count (.exchange k) = s.windowsUs.length) ∧
        s.firstUs + s.windowsUs.sum = s.lastTelemetryLogUs ∧ ∀ w ∈ s.windowsUs, 2000000 ≤ w) ∧
      ∀ t more, (∀ a ∈ more, a.given t = []) →
        telemetry.pending s.stats.cells (s.stats.threads t)
            + Runs.total telemetry.step (telemetry.delays t) s.stats more
          < more.countP (Action.isAccess t) →
        ((run telemetry.step s.stats more).threads t).todo = [] := by
  intro s actions acted found
  have hstats : s.stats = run telemetry.step Telemetry.init.stats actions :=
    Telemetry.run_stats .init es
  have htiled : s.Tiled := Runs.invariant (fun _ e h => h.step e) Telemetry.Tiled.init es
  refine ⟨fun t => ?_, fun k => ?_, ⟨fun k => Telemetry.count_exchange k .init es,
    htiled.sum_eq, htiled.length⟩, fun t more hgive hcount =>
    Instructions.done_of_count hgive hcount⟩
  · rw [hstats]
    exact Instructions.program_order t Telemetry.init.stats actions
  · have hreset : ∀ (o : StatOp) (x : UInt64), o.isExchange = true → telemetry.update o x = 0 := by
      intro o x ho
      match o with
      | .exchange _ => rfl
    have hdrained := Instructions.drained_append hreset (k := k) (s := Telemetry.init.stats) rfl
      actions
    rw [hstats, hdrained]
    refine List.map_congr_left fun w hw => Telemetry.total_eq fun o ho => ?_
    obtain ⟨hmem, hcell, hex⟩ := Instructions.mem_of_mem_windows hw ho
    obtain ⟨e, he, rfl⟩ := List.mem_map.mp hmem
    have hgiven := Instructions.mem_given_of_mem_effects (fun _ => rfl) he
    exact ⟨Telemetry.fitting_run .init es e.1 e.2 hgiven, hcell, hex⟩

end CefHost
