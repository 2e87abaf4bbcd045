import CefHost.Library.Checked
import CefHost.Scheduler
import Mathlib.Data.Rat.Floor

/-!
# Overflow in the frame scheduler

`RenderThreadMain` once more, with every signed operation checked: a step fails where the source
would overflow a `LONGLONG`. `RenderThread.step` computes with integers instead; the two agree as
long as nothing overflows.

The ranges are those the process can meet: a counter of up to 10 GHz, the intervals that
`UpdateBeginFrameIntervalFromFps` and its sibling can leave behind, and readings from 0 to `2 ^ 62`.

## Main definitions

* `RenderThread.step?` — the checked step
* `RenderThread.InRange` — the domain of a step
* `RenderThread.latenessFits` — the one multiplication that decides

## Main results

* `TickRate.frameTicks_eq_ceil` — the unsigned computation of the interval is exact
* `RenderThread.step?_eq_some`, `step?_eq_none` — when a step overflows
* `scheduler_exact_iff` — a run is exact if and only if no wake-up is later than `latenessMax`
-/

namespace CefHost

open Checked

namespace TickRate

variable (q : TickRate)

def dueTime? (sleepTicks : ℤ) : Option ℤ := do
  let product ← mul sleepTicks 10000000
  let due ← neg (product.tdiv q.freq)
  return if due = 0 then -1 else due

def sleepMs? (sleepTicks : ℤ) : Option UInt32 := do
  let product ← mul sleepTicks 1000
  let ms := UInt32.ofInt (product.tdiv q.freq)
  return if ms = 0 then 1 else ms

def lateUs? (lateTicks : ℤ) : Option UInt64 := do
  let product ← mul lateTicks 1000000
  return UInt64.ofInt (product.tdiv q.freq)

/-- The coarse sleep before a deadline can be converted: with a timer to its units, else to
milliseconds. -/
def sleepFits (hiResTimer : Bool) (remaining : ℤ) : Prop :=
  Fits ((remaining - q.spinTicks) * if hiResTimer then 10000000 else 1000)

instance (hiResTimer : Bool) (remaining : ℤ) : Decidable (q.sleepFits hiResTimer remaining) :=
  inferInstanceAs (Decidable (Fits _))

end TickRate

namespace RenderThread

def waitRequest? (q : TickRate) (hiResTimer timerSet : Bool) (remaining : ℤ) :
    Option WaitRequest :=
  if q.spinTicks < remaining then do
    let sleepTicks ← sub remaining q.spinTicks
    if hiResTimer then
      let due ← q.dueTime? sleepTicks
      if timerSet then return .timer due
      else
        let ms ← q.sleepMs? sleepTicks
        return .sleep ms
    else
      let ms ← q.sleepMs? sleepTicks
      return .sleep ms
  else return .yield

def recordLateness? (q : TickRate) (misses : List UInt64) (nextTick wakeTick : ℤ) :
    Option (List UInt64) :=
  if nextTick < wakeTick then do
    let late ← sub wakeTick nextTick
    let lateUs ← q.lateUs? late
    return if 500 < lateUs then misses ++ [lateUs] else misses
  else return misses

def advance? (q : TickRate) (s : RenderThread) (m : Moment) : Option RenderThread :=
  match s.point with
  | .frame => return { s with point := if s.running then .loading else .stopped }
  | .loading => do
    let frameTicks := q.frameTicks m.intervalNs
    let nextTick ← add s.nextTick frameTicks
    return { s with
      nextTick := nextTick
      deadlines := s.deadlines ++ [nextTick]
      point := .waiting frameTicks }
  | .waiting frameTicks =>
    return { s with point := if s.running then .measuring frameTicks else .waited frameTicks }
  | .measuring frameTicks => do
    let remaining ← sub s.nextTick s.clock
    if remaining ≤ 0 then return { s with point := .waited frameTicks }
    else
      let request ← waitRequest? q s.hiResTimer m.timerSet remaining
      return { s with requests := s.requests ++ [request], point := .waiting frameTicks }
  | .waited frameTicks =>
    return { s with point := if s.running then .waking frameTicks else .stopped }
  | .waking frameTicks => do
    let misses ← recordLateness? q s.misses s.nextTick s.clock
    return { s with misses := misses, point := .calling frameTicks }
  | .calling frameTicks =>
    if m.paused then return { s with point := .resync frameTicks }
    else
      return { s with
        calls := s.calls ++ [⟨s.nextTick, s.clock⟩], point := .resync frameTicks }
  | .resync frameTicks => do
    let slack ← mul frameTicks 4
    let limit ← add s.nextTick slack
    if limit < s.clock then return { s with nextTick := s.clock, point := .frame }
    else return { s with point := .frame }
  | .stopped => return s

def step? (q : TickRate) (s : RenderThread) : SchedulerStep → Option RenderThread
  | .stop => some { s with running := false }
  | .go m => advance? q { s with clock := s.clock + m.elapsed } m

/-- The longest lateness in ticks that a microsecond conversion can take. -/
def latenessMax : ℤ := 9223372036854

/-- Where the thread computes how late it woke, it is not later than `latenessMax`. -/
def latenessFits (s : RenderThread) : SchedulerStep → Bool
  | .stop => true
  | .go m =>
    match s.point with
    | .waking _ => s.clock + m.elapsed - s.nextTick ≤ latenessMax
    | _ => true

/-- The ranges a step is considered in: the interval where it is loaded, and the counter. -/
def InRange (s : RenderThread) : SchedulerStep → Prop
  | .stop => True
  | .go m =>
    (s.point = .loading → 4166666 ≤ m.intervalNs.toNat ∧ m.intervalNs.toNat ≤ 1000000000) ∧
      s.clock + m.elapsed ≤ 2 ^ 62

instance (s : RenderThread) : ∀ i, Decidable (s.InRange i)
  | .stop => isTrue trivial
  | .go _ => inferInstanceAs (Decidable ((_ → _) ∧ _))

end RenderThread

/-! ### The unsigned computation -/

namespace TickRate

variable {q : TickRate} {intervalNs : UInt64}

theorem toNat_ofInt {x : ℤ} (h0 : 0 ≤ x) (h : x < 2 ^ 64) : (UInt64.ofInt x).toNat = x.toNat := by
  rw [UInt64.ofInt, UInt64.toNat_ofNat']
  omega

theorem toInt_toInt64 {n : UInt64} (h : n.toNat < 2 ^ 63) : n.toInt64.toInt = n.toNat := by
  have hbits : n.toInt64.toInt = n.toBitVec.toInt := rfl
  rw [hbits, BitVec.toInt_eq_toNat_cond, UInt64.toNat_toBitVec, if_pos (by omega)]

/-- `frameTicks` over natural numbers: nothing wraps. -/
theorem frameTicks_eq_div (hfreq : q.freq ≤ 10000000000) (hpos : 0 < intervalNs.toNat)
    (hle : intervalNs.toNat ≤ 1000000000) :
    intervalNs.toNat * q.freq.toNat + 999999999 < 2 ^ 64 ∧
      q.frameTicks intervalNs
        = ((intervalNs.toNat * q.freq.toNat + 999999999) / 1000000000 : ℕ) := by
  have hq := q.pos
  have hprod : intervalNs.toNat * q.freq.toNat ≤ 1000000000 * 10000000000 :=
    Nat.mul_le_mul hle (by omega)
  have hone : 1 ≤ intervalNs.toNat * q.freq.toNat := Nat.mul_pos hpos (by omega)
  have hlt : 0 < intervalNs := UInt64.lt_iff_toNat_lt.mpr hpos
  have hns : effectiveNs intervalNs = intervalNs := if_pos hlt
  have hnum : (intervalNs * UInt64.ofInt q.freq + 999999999).toNat
      = intervalNs.toNat * q.freq.toNat + 999999999 := by
    rw [UInt64.toNat_add, UInt64.toNat_mul, toNat_ofInt (by omega) (by omega),
      Nat.mod_eq_of_lt (a := intervalNs.toNat * q.freq.toNat) (by omega)]
    exact Nat.mod_eq_of_lt (by change _ + 999999999 < _; omega)
  have hquot : ((intervalNs * UInt64.ofInt q.freq + 999999999) / 1000000000).toNat
      = (intervalNs.toNat * q.freq.toNat + 999999999) / 1000000000 := by
    rw [UInt64.toNat_div, hnum]
    rfl
  refine ⟨by omega, ?_⟩
  simp only [frameTicks, hns]
  rw [toInt_toInt64 (by rw [hquot]; omega), hquot, if_neg (by omega)]

/-- **The interval in ticks** is exact: the quotient rounded up. -/
theorem frameTicks_eq_ceil (hfreq : q.freq ≤ 10000000000) (hpos : 0 < intervalNs.toNat)
    (hle : intervalNs.toNat ≤ 1000000000) :
    q.frameTicks intervalNs = ⌈(intervalNs.toNat : ℚ) * q.freq / 10 ^ 9⌉ := by
  obtain ⟨-, hdiv⟩ := frameTicks_eq_div hfreq hpos hle
  have hfreq0 : (q.freq.toNat : ℤ) = q.freq := Int.toNat_of_nonneg (Int.le_of_lt q.pos)
  have hceil := Rat.ceil_intCast_div_natCast (intervalNs.toNat * q.freq) 1000000000
  have hcast : ((intervalNs.toNat * q.freq : ℤ) : ℚ) / ((1000000000 : ℕ) : ℚ)
      = (intervalNs.toNat : ℚ) * q.freq / 10 ^ 9 := by
    push_cast
    norm_num
  rw [hdiv, ← hcast, hceil, Int.natCast_ediv, Int.natCast_add, Int.natCast_mul, hfreq0]
  omega

/-! ### The conversions -/

theorem spinTicks_pos : 0 < q.spinTicks := by
  rw [spinTicks]
  split <;> omega

variable {ticks : ℤ}

theorem tdiv_freq_range (q : TickRate) {x : ℤ} (h : 0 ≤ x) :
    0 ≤ x.tdiv q.freq ∧ x.tdiv q.freq ≤ x :=
  ⟨Int.tdiv_nonneg h (Int.le_of_lt q.pos), Int.tdiv_le_self _ h⟩

/-- Within one interval every sleep can be converted. -/
theorem sleepFits_of_le (hiResTimer : Bool) {remaining : ℤ} (h : q.spinTicks < remaining)
    (hle : remaining ≤ 10000000000) : q.sleepFits hiResTimer remaining := by
  have hspin := q.spinTicks_pos
  rw [sleepFits, Fits]
  split <;> omega

/-- The due time is computed if the product fits, -/
theorem dueTime?_eq_some (h0 : 0 ≤ ticks) (h : Fits (ticks * 10000000)) :
    q.dueTime? ticks = some (q.dueTime ticks) := by
  have hquot := tdiv_freq_range q (x := ticks * 10000000) (by omega)
  have hmax := h.2
  have hmul : mul ticks 10000000 = some (ticks * 10000000) := mul_eq_some h
  have hneg : neg ((ticks * 10000000).tdiv q.freq) = some (-(ticks * 10000000).tdiv q.freq) :=
    neg_eq_some ⟨by omega, by omega⟩
  simp only [dueTime?, hmul, Option.bind_eq_bind, Option.bind_some, hneg]
  rfl

/-- and not otherwise. -/
theorem dueTime?_eq_none (h : ¬ Fits (ticks * 10000000)) : q.dueTime? ticks = none := by
  simp only [dueTime?, mul_eq_none h, Option.bind_eq_bind, Option.bind_none]

/-- So is the sleep in milliseconds. -/
theorem sleepMs?_eq_some (h : Fits (ticks * 1000)) :
    q.sleepMs? ticks = some (q.sleepMs ticks) := by
  simp only [sleepMs?, mul_eq_some h, Option.bind_eq_bind, Option.bind_some]
  rfl

theorem sleepMs?_eq_none (h : ¬ Fits (ticks * 1000)) : q.sleepMs? ticks = none := by
  simp only [sleepMs?, mul_eq_none h, Option.bind_eq_bind, Option.bind_none]

/-- The lateness does not overflow up to `latenessMax`, -/
theorem lateUs?_eq_some (h0 : 0 ≤ ticks) (h : ticks ≤ RenderThread.latenessMax) :
    q.lateUs? ticks = some (q.lateUs ticks) := by
  rw [RenderThread.latenessMax] at h
  have hmul : mul ticks 1000000 = some (ticks * 1000000) := mul_eq_some ⟨by omega, by omega⟩
  simp only [lateUs?, hmul, Option.bind_eq_bind, Option.bind_some]
  rfl

/-- and does beyond. -/
theorem lateUs?_eq_none (h : RenderThread.latenessMax < ticks) : q.lateUs? ticks = none := by
  rw [RenderThread.latenessMax] at h
  have hmul : mul ticks 1000000 = none := mul_eq_none fun hfits => by
    have := hfits.2
    omega
  simp only [lateUs?, hmul, Option.bind_eq_bind, Option.bind_none]

end TickRate

/-! ### A step -/

namespace RenderThread

variable {q : TickRate} {s : RenderThread}

/-- The deadline is at most an interval ahead of the counter, and not ahead of it once the wait is
over. -/
def Grounded (s : RenderThread) : Prop :=
  match s.point with
  | .frame | .loading => 0 ≤ s.nextTick ∧ s.nextTick ≤ s.clock
  | .waiting f | .measuring f =>
    0 < f ∧ f ≤ 10000000000 ∧ 0 ≤ s.nextTick ∧ s.nextTick ≤ s.clock + f
  | .waited f => 0 < f ∧ f ≤ 10000000000 ∧ 0 ≤ s.nextTick ∧ (s.running → s.nextTick ≤ s.clock)
  | .waking f | .calling f | .resync f =>
    0 < f ∧ f ≤ 10000000000 ∧ 0 ≤ s.nextTick ∧ s.nextTick ≤ s.clock
  | .stopped => True

theorem grounded_start (hiResTimer : Bool) {now : ℤ} (h : 0 ≤ now) :
    (start hiResTimer now).Grounded := ⟨h, Int.le_refl _⟩

theorem Grounded.pass (h : s.Grounded) (n : ℕ) : Grounded { s with clock := s.clock + n } := by
  rw [Grounded] at h ⊢
  cases hp : s.point <;> simp only [hp] at h ⊢
  case waited => exact ⟨h.1, h.2.1, h.2.2.1, fun hrun => by have := h.2.2.2 hrun; omega⟩
  all_goals omega

theorem Grounded.stop (h : s.Grounded) : Grounded { s with running := false } := by
  rw [Grounded] at h ⊢
  cases hp : s.point <;> simp only [hp] at h ⊢
  case waited => exact ⟨h.1, h.2.1, h.2.2.1, by simp⟩
  all_goals exact h

theorem Grounded.advance (h : s.Grounded) {m : Moment}
    (hticks : s.point = .loading → q.frameTicks m.intervalNs ≤ 10000000000) :
    (RenderThread.advance q s m).Grounded := by
  rw [Grounded] at h
  rw [RenderThread.advance]
  cases hp : s.point <;> simp only [hp] at h ⊢
  case frame =>
    split
    · exact h
    · trivial
  case loading =>
    have hpos := q.frameTicks_pos m.intervalNs
    have hle := hticks hp
    simp only [Grounded]
    omega
  case waiting f =>
    split
    · exact h
    · next hstop => exact ⟨h.1, h.2.1, h.2.2.1, fun hrun => absurd hrun hstop⟩
  case measuring f =>
    split
    · next hdue => simp only [Grounded]; omega
    · exact h
  case waited f =>
    split
    · next hrun => exact ⟨h.1, h.2.1, h.2.2.1, h.2.2.2 hrun⟩
    · trivial
  case waking f => exact h
  case calling f => split <;> exact h
  case resync f =>
    split
    · simp only [Grounded]; omega
    · exact h.2.2
  case stopped => rw [Grounded, hp]; trivial

/-- The sleep is converted to milliseconds too if the timer is not set, which takes less room. -/
theorem waitRequest?_eq_some (hiResTimer timerSet : Bool) {remaining : ℤ}
    (h : q.spinTicks < remaining → q.sleepFits hiResTimer remaining) :
    waitRequest? q hiResTimer timerSet remaining
      = some (waitRequest q hiResTimer timerSet remaining) := by
  have hspin := q.spinTicks_pos
  rw [waitRequest?, waitRequest]
  split
  · next hcoarse =>
    have hfits := h hcoarse
    rw [TickRate.sleepFits, Fits] at hfits
    have hsub : sub remaining q.spinTicks = some (remaining - q.spinTicks) :=
      sub_eq_some ⟨by omega, by split at hfits <;> omega⟩
    have hms : q.sleepMs? (remaining - q.spinTicks)
        = some (q.sleepMs (remaining - q.spinTicks)) :=
      q.sleepMs?_eq_some ⟨by omega, by split at hfits <;> omega⟩
    cases hiResTimer with
    | false => simp only [hsub, hms, Option.bind_eq_bind, Option.bind_some]; rfl
    | true =>
      have hdue : q.dueTime? (remaining - q.spinTicks)
          = some (q.dueTime (remaining - q.spinTicks)) := q.dueTime?_eq_some (by omega) hfits
      simp only [hsub, hdue, hms, Option.bind_eq_bind, Option.bind_some]
      cases timerSet <;> rfl
  · rfl

theorem waitRequest?_eq_none (hiResTimer timerSet : Bool) {remaining : ℤ}
    (hcoarse : q.spinTicks < remaining) (h : ¬ q.sleepFits hiResTimer remaining) :
    waitRequest? q hiResTimer timerSet remaining = none := by
  rw [waitRequest?, if_pos hcoarse]
  by_cases hfits : Fits (remaining - q.spinTicks)
  · simp only [sub_eq_some hfits, Option.bind_eq_bind, Option.bind_some]
    cases hiResTimer with
    | false => rw [if_neg Bool.false_ne_true, q.sleepMs?_eq_none h]; rfl
    | true => rw [if_pos rfl, q.dueTime?_eq_none h]; rfl
  · simp only [sub_eq_none hfits, Option.bind_eq_bind, Option.bind_none]

theorem recordLateness?_eq_some (misses : List UInt64) {nextTick wakeTick : ℤ}
    (h0 : 0 ≤ nextTick) (hwake : wakeTick ≤ 2 ^ 62) (h : wakeTick - nextTick ≤ latenessMax) :
    recordLateness? q misses nextTick wakeTick
      = some (recordLateness q misses nextTick wakeTick) := by
  rw [recordLateness?, recordLateness]
  split
  · have hsub : sub wakeTick nextTick = some (wakeTick - nextTick) :=
      sub_eq_some ⟨by omega, by omega⟩
    simp only [hsub, q.lateUs?_eq_some (by omega) h, Option.bind_eq_bind, Option.bind_some]
    rfl
  · rfl

theorem recordLateness?_eq_none (misses : List UInt64) {nextTick wakeTick : ℤ}
    (h0 : 0 ≤ nextTick) (hwake : wakeTick ≤ 2 ^ 62) (h : latenessMax < wakeTick - nextTick) :
    recordLateness? q misses nextTick wakeTick = none := by
  have hlate : nextTick < wakeTick := by rw [latenessMax] at h; omega
  have hsub : sub wakeTick nextTick = some (wakeTick - nextTick) :=
    sub_eq_some ⟨by omega, by omega⟩
  rw [recordLateness?, if_pos hlate]
  simp only [hsub, q.lateUs?_eq_none h, Option.bind_eq_bind, Option.bind_some, Option.bind_none]

/-- A step that does not compute too great a lateness is exact. -/
theorem advance?_eq_some (h : s.Grounded) {m : Moment} (hclock : s.clock ≤ 2 ^ 62)
    (hticks : s.point = .loading → q.frameTicks m.intervalNs ≤ 10000000000)
    (hlate : ∀ f, s.point = .waking f → s.clock - s.nextTick ≤ latenessMax) :
    advance? q s m = some (advance q s m) := by
  rw [Grounded] at h
  rw [advance?, advance]
  cases hp : s.point <;> simp only [hp] at h ⊢
  case frame => rfl
  case loading =>
    have hpos := q.frameTicks_pos m.intervalNs
    have hle := hticks hp
    have hadd : add s.nextTick (q.frameTicks m.intervalNs)
        = some (s.nextTick + q.frameTicks m.intervalNs) := add_eq_some ⟨by omega, by omega⟩
    simp only [hadd, Option.bind_eq_bind, Option.bind_some]
    rfl
  case waiting f => rfl
  case measuring f =>
    have hsub : sub s.nextTick s.clock = some (s.nextTick - s.clock) :=
      sub_eq_some ⟨by omega, by omega⟩
    have hwait : waitRequest? q s.hiResTimer m.timerSet (s.nextTick - s.clock)
        = some (waitRequest q s.hiResTimer m.timerSet (s.nextTick - s.clock)) :=
      waitRequest?_eq_some _ _ fun hcoarse => q.sleepFits_of_le _ hcoarse (by omega)
    simp only [hsub, hwait, Option.bind_eq_bind, Option.bind_some]
    split <;> rfl
  case waited f => rfl
  case waking f =>
    rw [recordLateness?_eq_some s.misses h.2.2.1 hclock (hlate f hp)]
    rfl
  case calling f => split <;> rfl
  case resync f =>
    have hmul : mul f 4 = some (f * 4) := mul_eq_some ⟨by omega, by omega⟩
    have hadd : add s.nextTick (f * 4) = some (s.nextTick + f * 4) :=
      add_eq_some ⟨by omega, by omega⟩
    simp only [hmul, hadd, Option.bind_eq_bind, Option.bind_some]
    split <;> rfl
  case stopped => rfl

theorem advance?_eq_none (h : s.Grounded) {m : Moment} (hclock : s.clock ≤ 2 ^ 62) {f : ℤ}
    (hp : s.point = .waking f) (hlate : latenessMax < s.clock - s.nextTick) :
    advance? q s m = none := by
  have h0 : 0 ≤ s.nextTick := by
    rw [Grounded, hp] at h
    exact h.2.2.1
  simp only [advance?, hp, recordLateness?_eq_none s.misses h0 hclock hlate,
    Option.bind_eq_bind, Option.bind_none]

/-! ### Runs -/

/-- The interval a step loads has at most `10 ^ 10` ticks. -/
theorem InRange.frameTicks_le {m : Moment} (hfreq : q.freq ≤ 10000000000)
    (h : s.InRange (.go m)) (hp : s.point = .loading) :
    q.frameTicks m.intervalNs ≤ 10000000000 := by
  obtain ⟨hlow, hhigh⟩ := h.1 hp
  obtain ⟨hwrap, hdiv⟩ := q.frameTicks_eq_div hfreq (by omega) hhigh
  have hprod : m.intervalNs.toNat * q.freq.toNat ≤ 1000000000 * 10000000000 :=
    Nat.mul_le_mul hhigh (by have := q.pos; omega)
  omega

theorem Grounded.step (hfreq : q.freq ≤ 10000000000) (h : s.Grounded) {i : SchedulerStep}
    (hi : s.InRange i) : (RenderThread.step q s i).Grounded := by
  cases i with
  | stop => exact h.stop
  | go m => exact (h.pass m.elapsed).advance fun hp => hi.frameTicks_le hfreq hp

theorem step?_eq_some (hfreq : q.freq ≤ 10000000000) (h : s.Grounded) {i : SchedulerStep}
    (hi : s.InRange i) (hfits : s.latenessFits i = true) :
    step? q s i = some (RenderThread.step q s i) := by
  cases i with
  | stop => rfl
  | go m =>
    refine advance?_eq_some (h.pass m.elapsed) hi.2 (fun hp => hi.frameTicks_le hfreq hp) ?_
    intro f hp
    simp only at hp ⊢
    rw [latenessFits, hp] at hfits
    simpa using hfits

theorem step?_eq_none (h : s.Grounded) {i : SchedulerStep} (hi : s.InRange i)
    (hfits : ¬ s.latenessFits i = true) : step? q s i = none := by
  cases i with
  | stop => exact absurd rfl hfits
  | go m =>
    cases hp : s.point with
    | waking f =>
      simp only [latenessFits, hp, decide_eq_true_eq, Int.not_le] at hfits
      exact advance?_eq_none (h.pass m.elapsed) hi.2 hp hfits
    | _ => simp [latenessFits, hp] at hfits

end RenderThread

/-- **When the scheduler's arithmetic is exact.** Over the ranges the process can meet, the interval
in ticks is the exact quotient rounded up and nothing wraps; and a run computes what it would over
the integers, with no signed overflow anywhere, if and only if no wake-up is more than
`latenessMax` ticks late. -/
theorem scheduler_exact_iff (q : TickRate) (hfreq : q.freq ≤ 10 ^ 10) (hiResTimer : Bool) (now : ℤ)
    (hnow : 0 ≤ now) (is : List SchedulerStep)
    (hrange : Runs.Along (RenderThread.step q) RenderThread.InRange
      (RenderThread.start hiResTimer now) is) :
    ((∀ intervalNs : UInt64, 4166666 ≤ intervalNs.toNat → intervalNs.toNat ≤ 1000000000 →
        intervalNs.toNat * q.freq.toNat + 999999999 < 2 ^ 64 ∧
          q.frameTicks intervalNs = ⌈(intervalNs.toNat : ℚ) * q.freq / 10 ^ 9⌉ ∧
          1 ≤ q.frameTicks intervalNs) ∧
      Checked.run? (RenderThread.step? q) (RenderThread.start hiResTimer now) is
        = some (Runs.run (RenderThread.step q) (RenderThread.start hiResTimer now) is)) ↔
      Runs.Along (RenderThread.step q) (fun s i => s.latenessFits i = true)
        (RenderThread.start hiResTimer now) is := by
  have hfreq' : q.freq ≤ 10000000000 := hfreq
  have hticks : ∀ intervalNs : UInt64, 4166666 ≤ intervalNs.toNat →
      intervalNs.toNat ≤ 1000000000 → intervalNs.toNat * q.freq.toNat + 999999999 < 2 ^ 64 ∧
        q.frameTicks intervalNs = ⌈(intervalNs.toNat : ℚ) * q.freq / 10 ^ 9⌉ ∧
        1 ≤ q.frameTicks intervalNs := by
    intro intervalNs hlow hhigh
    refine ⟨(q.frameTicks_eq_div hfreq' (by omega) hhigh).1, ?_, q.frameTicks_pos intervalNs⟩
    exact q.frameTicks_eq_ceil hfreq' (by omega) hhigh
  rw [and_iff_right hticks]
  refine Checked.run?_eq_some_iff ?_ ?_ ?_ (RenderThread.grounded_start hiResTimer hnow) hrange
  · intro s i hs hi
    exact hs.step hfreq' hi
  · intro s i hs hi hfits
    exact RenderThread.step?_eq_some hfreq' hs hi hfits
  · intro s i hs hi hfits
    exact RenderThread.step?_eq_none hs hi hfits

theorem scheduler_exact_stalled :
    megahertz.freq ≤ 10 ^ 10 ∧ (0 : ℤ) ≤ 0 ∧
      Runs.Along (RenderThread.step megahertz) RenderThread.InRange (RenderThread.start true 0)
        stalledRun ∧
      (((∀ intervalNs : UInt64, 4166666 ≤ intervalNs.toNat → intervalNs.toNat ≤ 1000000000 →
          intervalNs.toNat * megahertz.freq.toNat + 999999999 < 2 ^ 64 ∧
            megahertz.frameTicks intervalNs
              = ⌈(intervalNs.toNat : ℚ) * megahertz.freq / 10 ^ 9⌉ ∧
            1 ≤ megahertz.frameTicks intervalNs) ∧
        Checked.run? (RenderThread.step? megahertz) (RenderThread.start true 0) stalledRun
          = some (Runs.run (RenderThread.step megahertz) (RenderThread.start true 0)
              stalledRun)) ↔
        Runs.Along (RenderThread.step megahertz) (fun s i => s.latenessFits i = true)
          (RenderThread.start true 0) stalledRun) := by
  have hfreq : megahertz.freq ≤ 10 ^ 10 := by decide
  have hrange : Runs.Along (RenderThread.step megahertz) RenderThread.InRange
      (RenderThread.start true 0) stalledRun := by decide +kernel
  exact ⟨hfreq, Int.le_refl 0, hrange,
    scheduler_exact_iff megahertz hfreq true 0 (Int.le_refl 0) stalledRun hrange⟩

/-- A counter of 10 MHz. -/
def tenMegahertz : TickRate := .ofQuery 10000000

/-- A wait that is over in time, and eleven days until the thread runs again. -/
def elevenDays : List SchedulerStep :=
  [atSixty 0, atSixty 0, atSixty 0, atSixty 166667, atSixty 0, atSixty 10000000000000]

/-- **After a stall of eleven days** the lateness overflows. -/
theorem scheduler_overflow :
    tenMegahertz.freq ≤ 10 ^ 10 ∧
      Runs.Along (RenderThread.step tenMegahertz) RenderThread.InRange (RenderThread.start true 0)
        elevenDays ∧
      Checked.run? (RenderThread.step? tenMegahertz) (RenderThread.start true 0) elevenDays
        = none := by
  decide +kernel

end CefHost
