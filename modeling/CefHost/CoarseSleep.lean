import CefHost.Library.Rounding
import CefHost.SchedulerArithmetic
import Mathlib.Order.WithBot

/-!
# The coarse sleep

While more than `spinTicks` remain, `waitUntil` asks the system to wait for the rest, so that the
last half millisecond is left to spin in. Both units it asks in are coarser than a tick. The
requested duration is rounded down, and a result of zero is raised to one.

One unit of the timer is 100 ns and always fits into what remains. One unit of `Sleep` is a
millisecond, twice the margin that is kept for spinning: with between half a millisecond and a whole
one to go, `Sleep(1)` goes past the deadline and there is nothing left to spin. And one of its
values is no duration at all: `Sleep(INFINITE)` does not return.

## Main definitions

* `WaitRequest.duration`, `TickRate.seconds` — a request and a number of ticks as exact times
* `TickRate.SleepFinite` — the sleep is not `INFINITE`

## Main results

* `coarse_sleep_iff` — when a request is no longer than the time that remains
* `sleep_passes_deadline` — 60 Hz without a timer
-/

namespace CefHost

open Checked Rounding

/-- `INFINITE`, as an argument of `Sleep`. -/
def infiniteMs : UInt32 := 0xFFFFFFFF

/-- The duration asked for in seconds, of a relative due time or of a sleep. -/
def WaitRequest.duration : WaitRequest → WithTop ℚ
  | .timer due100ns => ((-due100ns / 10000000 : ℚ) : WithTop ℚ)
  | .sleep ms => if ms = infiniteMs then ⊤ else ((ms.toNat / 1000 : ℚ) : WithTop ℚ)
  | .yield => ((0 : ℚ) : WithTop ℚ)

namespace TickRate

/-- Ticks in seconds. -/
def seconds (q : TickRate) (ticks : ℤ) : ℚ := ticks / q.freq

/-- The milliseconds above the margin are not `INFINITE` in 32 bits. -/
def SleepFinite (q : TickRate) (remaining : ℤ) : Prop :=
  (remaining - q.spinTicks) * 1000 / q.freq % 4294967296 ≠ 4294967295

instance (q : TickRate) (remaining : ℤ) : Decidable (q.SleepFinite remaining) :=
  inferInstanceAs (Decidable (_ ≠ _))

variable (q : TickRate) {ticks remaining : ℤ}

/-! ### The units -/

theorem tdiv_freq_mul_le {x : ℤ} (h : 0 ≤ x) : x.tdiv q.freq * q.freq ≤ x := by
  have hle := Int.tdiv_mul_le x (Int.ne_of_gt q.pos)
  rw [if_pos h] at hle
  simpa using hle

/-- A due time is at least one unit ahead. -/
theorem neg_dueTime (h : 0 ≤ ticks) :
    -q.dueTime ticks = max ((ticks * 10000000).tdiv q.freq) 1 := by
  have hquot := (tdiv_freq_range q (x := ticks * 10000000) (by omega)).1
  rw [dueTime]
  split <;> omega

/-- The truncation to 32 bits makes a sleep shorter, and it is raised after that. -/
theorem sleepMs_eq (h : 0 ≤ ticks) : ∃ n : ℤ, n * q.freq ≤ ticks * 1000 ∧
    ((q.sleepMs ticks).toNat : ℤ) = max n 1 := by
  have hquot := (tdiv_freq_range q (x := ticks * 1000) (by omega)).1
  have htrunc : ((UInt32.ofInt ((ticks * 1000).tdiv q.freq)).toNat : ℤ)
      ≤ (ticks * 1000).tdiv q.freq := by
    rw [UInt32.ofInt, UInt32.toNat_ofNat']
    omega
  refine ⟨(UInt32.ofInt ((ticks * 1000).tdiv q.freq)).toNat, ?_, ?_⟩
  · calc ((UInt32.ofInt ((ticks * 1000).tdiv q.freq)).toNat : ℤ) * q.freq
        ≤ (ticks * 1000).tdiv q.freq * q.freq :=
          Int.mul_le_mul_of_nonneg_right htrunc (Int.le_of_lt q.pos)
      _ ≤ ticks * 1000 := q.tdiv_freq_mul_le (by omega)
  · simp only [sleepMs]
    split
    · next hzero => rw [hzero]; rfl
    · next hne =>
      have hpos : (UInt32.ofInt ((ticks * 1000).tdiv q.freq)).toNat ≠ 0 := fun h0 =>
        hne (UInt32.toNat_inj.mp h0)
      omega

theorem sleepMs_eq_infinite_iff (h : 0 ≤ ticks) :
    q.sleepMs ticks = infiniteMs ↔ ticks * 1000 / q.freq % 4294967296 = 4294967295 := by
  have hquot : (ticks * 1000).tdiv q.freq = ticks * 1000 / q.freq :=
    Int.tdiv_eq_ediv_of_nonneg (by omega)
  have hms : ((UInt32.ofInt (ticks * 1000 / q.freq)).toNat : ℤ)
      = ticks * 1000 / q.freq % 4294967296 := by
    rw [UInt32.ofInt, UInt32.toNat_ofNat']
    omega
  have hinfinite : infiniteMs.toNat = 4294967295 := rfl
  simp only [sleepMs, hquot]
  rw [← UInt32.toNat_inj, hinfinite]
  split
  · next hzero =>
    rw [hzero] at hms
    exact iff_of_false (by decide) (by rw [← hms]; decide)
  · omega

/-- What is left above the margin is more than half a millisecond: a unit of the timer fits. -/
theorem freq_le_of_spinTicks_lt (h : q.spinTicks < remaining) : q.freq ≤ remaining * 10000000 := by
  have hq := q.pos
  have hquot : q.freq.tdiv 2000 = q.freq / 2000 := Int.tdiv_eq_ediv_of_nonneg (Int.le_of_lt hq)
  rw [spinTicks, hquot] at h
  split at h <;> omega

/-! ### The requests -/

/-- **The timer** is never set past the deadline. -/
theorem dueTime_duration_le (h : q.spinTicks < remaining) :
    (WaitRequest.timer (q.dueTime (remaining - q.spinTicks))).duration ≤ q.seconds remaining := by
  have hspin := q.spinTicks_pos
  have hneg : -q.dueTime (remaining - q.spinTicks)
      = max (((remaining - q.spinTicks) * 10000000).tdiv q.freq) 1 := q.neg_dueTime (by omega)
  have hmul : ((remaining - q.spinTicks) * 10000000).tdiv q.freq * q.freq
      ≤ (remaining - q.spinTicks) * 10000000 := q.tdiv_freq_mul_le (by omega)
  have hle := (raised_div_le_div_iff (r := remaining) (by omega) (by decide) q.pos hmul).mpr
    (q.freq_le_of_spinTicks_lt h)
  rw [← hneg] at hle
  rw [WaitRequest.duration, seconds, WithTop.coe_le_coe]
  exact_mod_cast hle

/-- **A sleep** is too long where less than a millisecond remains, and where it does not end. -/
theorem sleepMs_duration_le_iff (h : q.spinTicks < remaining) :
    (WaitRequest.sleep (q.sleepMs (remaining - q.spinTicks))).duration ≤ q.seconds remaining ↔
      q.freq ≤ remaining * 1000 ∧ q.SleepFinite remaining := by
  have hspin := q.spinTicks_pos
  have hticks : 0 ≤ remaining - q.spinTicks := by omega
  rw [WaitRequest.duration, SleepFinite, ne_eq, ← q.sleepMs_eq_infinite_iff hticks]
  by_cases hinfinite : q.sleepMs (remaining - q.spinTicks) = infiniteMs
  · rw [if_pos hinfinite]
    exact iff_of_false (by simp) fun hfinite => hfinite.2 hinfinite
  · obtain ⟨n, hmul, heq⟩ := q.sleepMs_eq hticks
    have hiff := raised_div_le_div_iff (r := remaining) (by omega) (by decide) q.pos hmul
    rw [← heq] at hiff
    rw [if_neg hinfinite, WithTop.coe_le_coe, and_iff_left hinfinite, seconds, ← hiff]
    norm_num

end TickRate

namespace RenderThread

variable {q : TickRate} {remaining : ℤ}

theorem waitRequest_duration_le_iff (hiResTimer timerSet : Bool) (h : q.spinTicks < remaining) :
    (waitRequest q hiResTimer timerSet remaining).duration ≤ q.seconds remaining ↔
      (hiResTimer = true ∧ timerSet = true) ∨
        (q.freq ≤ remaining * 1000 ∧ q.SleepFinite remaining) := by
  rw [waitRequest, if_pos h]
  cases hiResTimer <;> cases timerSet
  case true.true => simpa using q.dueTime_duration_le h
  all_goals simpa using q.sleepMs_duration_le_iff h

end RenderThread

open RenderThread

/-- **When a coarse sleep is short enough.** With more than `spinTicks` to go, the request is
computed and no longer than what remains if and only if its conversion does not overflow, and the
timer is set or at least a millisecond remains and the sleep is not `INFINITE`. -/
theorem coarse_sleep_iff (q : TickRate) (hiResTimer timerSet : Bool) (remaining : ℤ)
    (hcoarse : q.spinTicks < remaining) :
    (∃ r, waitRequest? q hiResTimer timerSet remaining = some r ∧
        r.duration ≤ q.seconds remaining) ↔
      q.sleepFits hiResTimer remaining ∧
        ((hiResTimer = true ∧ timerSet = true) ∨
          (q.freq ≤ remaining * 1000 ∧ q.SleepFinite remaining)) := by
  by_cases hfits : q.sleepFits hiResTimer remaining
  · rw [waitRequest?_eq_some hiResTimer timerSet fun _ => hfits, and_iff_right hfits,
      ← waitRequest_duration_le_iff hiResTimer timerSet hcoarse]
    simp
  · rw [waitRequest?_eq_none hiResTimer timerSet hcoarse hfits]
    exact iff_of_false (by simp) fun h => hfits h.1

theorem coarse_sleep_iff_timer :
    tenMegahertz.spinTicks < 6667 ∧
      ((∃ r, waitRequest? tenMegahertz true true 6667 = some r ∧
          r.duration ≤ tenMegahertz.seconds 6667) ↔
        tenMegahertz.sleepFits true 6667 ∧
          ((true = true ∧ true = true) ∨
            (tenMegahertz.freq ≤ 6667 * 1000 ∧ tenMegahertz.SleepFinite 6667))) :=
  ⟨by decide, coarse_sleep_iff tenMegahertz true true 6667 (by decide)⟩

/-- A frame at 60 Hz whose first sleep, of 16 ms, returns to the tick. -/
def sleptToTheTick : List SchedulerStep :=
  [atSixty 0, atSixty 0, atSixty 0, atSixty 0, atSixty 160000, atSixty 0]

/-- **Two thirds of a millisecond** remain after that, and the thread sleeps for a whole one. -/
theorem sleep_passes_deadline :
    let s := Runs.run (step tenMegahertz) (start false 0) sleptToTheTick
    s.requests = [.sleep 16, .sleep 1] ∧ s.nextTick - s.clock = 6667 ∧
      tenMegahertz.spinTicks < 6667 ∧
      waitRequest? tenMegahertz false true 6667 = some (.sleep 1) ∧
      ¬ (WaitRequest.sleep 1).duration ≤ tenMegahertz.seconds 6667 := by
  decide +kernel

end CefHost
