import CefHost.BeginFrameThreads

/-!
# The rate of nudges

`TryInputNudgeFrame` asks for a begin frame when the last one is `nudgeUs` ago, and claims its turn
by exchanging `m_lastBeginFrameUs` for its own clock reading. The difference is one of unsigned
numbers, and the clock is read before `m_lastBeginFrameUs` is loaded: when the render thread stores
a later time in between, the difference wraps around, the gate opens and the exchange turns
`m_lastBeginFrameUs` back.

The render thread stores its clock reading without a test. If it read the clock before a nudge did
and stores it after the nudge's exchange, it turns `m_lastBeginFrameUs` back itself, and the next
nudge is measured against the older of the two begin frames.

## Main definitions

* `NudgeRun` — the threads, and the begin-frame times stored so far
* `NudgeRun.RateKept` — a step of the input thread keeps to the rate
* `NudgeRun.ClockAhead`, `NudgeRun.Latest` — an exchange finds a time that is not later than the
  nudge's clock reading, and the latest one stored

## Main results

* `nudge_rate_kept` — whole runs of the threads, in any order
-/

namespace CefHost

theorem nudgeGap_toNat (intervalNs : UInt64) :
    (nudgeGap intervalNs).toNat = min (max (intervalNs.toNat / 1000) 1) 2000 := by
  have hdiv : (intervalNs / 1000).toNat = intervalNs.toNat / 1000 := by
    rw [UInt64.toNat_div]
    rfl
  have h1 : (1 : UInt64).toNat = 1 := rfl
  have h2000 : (2000 : UInt64).toNat = 2000 := rfl
  rw [nudgeGap]
  by_cases hpos : 0 < intervalNs / 1000
  · have hpos' : 0 < intervalNs.toNat / 1000 := hdiv ▸ UInt64.lt_iff_toNat_lt.mp hpos
    rw [if_pos hpos]
    by_cases hlt : intervalNs / 1000 < 2000
    · have hlt' := UInt64.lt_iff_toNat_lt.mp hlt
      rw [if_pos hlt]
      omega
    · have hle := UInt64.le_iff_toNat_le.mp (UInt64.not_lt.mp hlt)
      rw [if_neg hlt]
      omega
  · have hzero := UInt64.le_iff_toNat_le.mp (UInt64.not_lt.mp hpos)
    have h0 : (0 : UInt64).toNat = 0 := rfl
    rw [if_neg hpos, if_pos (by decide)]
    omega

/-- Without a wrap-around the unsigned difference is the time that has passed. -/
theorem UInt64.toNat_add_le_of_sub {now prev gap : UInt64} (h : ¬ now - prev < gap)
    (hle : prev ≤ now) : prev.toNat + gap.toNat ≤ now.toNat := by
  have hgap := UInt64.le_iff_toNat_le.mp (UInt64.not_lt.mp h)
  have hprev := UInt64.le_iff_toNat_le.mp hle
  rw [UInt64.toNat_sub_of_le _ _ hle] at hgap
  omega

namespace BeginFrameThreads

/-- The clock reading, the interval and the expected value of the exchange that succeeds in this
step, if one does. -/
def exchange (s : BeginFrameThreads) : ThreadStep → Option (UInt64 × UInt64 × UInt64)
  | .input spurious =>
    match s.input with
    | .passed now intervalNs prev =>
      if s.exchanges spurious prev then some (now, intervalNs, prev) else none
    | _ => none
  | _ => none

/-- What the step stores into `m_lastBeginFrameUs`, if it does. -/
def stamp (s : BeginFrameThreads) : ThreadStep → Option UInt64
  | .render =>
    match s.render with
    | .stamping now => some now
    | _ => none
  | a => (s.exchange a).map (·.1)

variable {s : BeginFrameThreads} {spurious : Bool} {now intervalNs prev : UInt64}

theorem exchange_input (h : s.exchange (.input spurious) = some (now, intervalNs, prev)) :
    s.input = .passed now intervalNs prev ∧ s.host.lastBeginFrameUs = prev := by
  rw [exchange] at h
  split at h
  · rename_i now' i' prev' hinput
    split at h
    · rename_i hswap
      cases h
      rw [exchanges, Bool.and_eq_true, beq_iff_eq] at hswap
      exact ⟨hinput, hswap.2⟩
    · cases h
  · cases h

/-- The gate is passed only if the difference is large enough. -/
theorem stepInput_passed (h : (s.stepInput spurious).input = .passed now intervalNs prev) :
    ¬ now - prev < nudgeGap intervalNs := by
  rw [stepInput] at h
  split at h
  · split at h
    · rename_i hidle _
      rw [hidle] at h
      cases h
    · cases h
  · cases h
  · cases h
  · cases h
  · split at h
    · cases h
    · rename_i hgap
      cases h
      exact hgap
  · split at h <;> cases h
  · cases h

/-- A nudge is about to be sent only after an exchange. -/
theorem stepInput_swapped (h : (s.stepInput spurious).input = .swapped now intervalNs) :
    ∃ prev, s.exchange (.input spurious) = some (now, intervalNs, prev) := by
  rw [stepInput] at h
  split at h
  · split at h
    · rename_i hidle _
      rw [hidle] at h
      cases h
    · cases h
  · cases h
  · cases h
  · cases h
  · split at h <;> cases h
  · rename_i now' i' prev' hinput
    split at h
    · rename_i hswap
      cases h
      refine ⟨prev', ?_⟩
      rw [exchange, hinput]
      exact if_pos hswap
    · cases h
  · cases h

/-- The input thread stores into `m_lastBeginFrameUs` in an exchange only. -/
theorem stepInput_lastBeginFrameUs (s : BeginFrameThreads) (spurious : Bool) :
    (s.stepInput spurious).host.lastBeginFrameUs =
      match s.exchange (.input spurious) with
      | some (now, _, _) => now
      | none => s.host.lastBeginFrameUs := by
  cases hinput : s.input with
  | passed now i prev =>
    rw [exchange, hinput]
    dsimp only
    by_cases hswap : s.exchanges spurious prev = true
    · simp [stepInput, hinput, hswap]
    · simp [stepInput, hinput, hswap]
  | idle =>
    simp only [stepInput, exchange, hinput]
    split <;> rfl
  | loaded now i prev =>
    simp only [stepInput, exchange, hinput]
    split <;> rfl
  | _ => simp [stepInput, exchange, hinput]

end BeginFrameThreads

/-- The threads, the times stored into `m_lastBeginFrameUs`, and those that were stored before the
last exchange that succeeded. -/
structure NudgeRun where
  threads : BeginFrameThreads
  stamps : List UInt64
  earlier : List UInt64

namespace NudgeRun

def init (host : OsrHandler) : NudgeRun := ⟨.init host, [], []⟩

def step (r : NudgeRun) (a : ThreadStep) : NudgeRun where
  threads := r.threads.step a
  stamps := r.stamps ++ (r.threads.stamp a).toList
  earlier := if (r.threads.exchange a).isSome then r.stamps else r.earlier

/-- A step of the input thread does not turn `m_lastBeginFrameUs` back, and if it sends a nudge, the
nudge's clock reading is `min (max (interval / 1000) 1) 2000` microseconds later than every time
stored before its exchange. -/
def RateKept (r : NudgeRun) : ThreadStep → Prop
  | .input spurious =>
    r.threads.host.lastBeginFrameUs ≤ (r.threads.stepInput spurious).host.lastBeginFrameUs ∧
      ∀ now intervalNs, r.threads.input = .swapped now intervalNs → r.threads.inputAsks = true →
        ∀ t ∈ r.earlier, t.toNat + min (max (intervalNs.toNat / 1000) 1) 2000 ≤ now.toNat
  | _ => True

/-- An exchange succeeds only on a time that is not later than the nudge's clock reading. -/
def ClockAhead (r : NudgeRun) (a : ThreadStep) : Prop :=
  ∀ now intervalNs prev, r.threads.exchange a = some (now, intervalNs, prev) → prev ≤ now

/-- An exchange succeeds only on the latest time stored so far. -/
def Latest (r : NudgeRun) (a : ThreadStep) : Prop :=
  ∀ now intervalNs prev, r.threads.exchange a = some (now, intervalNs, prev) →
    ∀ t ∈ r.stamps, t ≤ prev

/-- What a nudge knows once it has passed its gate, and once it has exchanged. -/
structure Inv (r : NudgeRun) : Prop where
  passed : ∀ now intervalNs prev, r.threads.input = .passed now intervalNs prev →
    ¬ now - prev < nudgeGap intervalNs
  swapped : ∀ now intervalNs, r.threads.input = .swapped now intervalNs →
    ∀ t ∈ r.earlier, t.toNat + min (max (intervalNs.toNat / 1000) 1) 2000 ≤ now.toNat

theorem inv_init (host : OsrHandler) : (init host).Inv where
  passed _ _ _ h := by cases h
  swapped _ _ h := by cases h

variable {r : NudgeRun}

/-- A step of another thread. -/
theorem Inv.of_same (h : r.Inv) {a : ThreadStep}
    (hinput : (r.threads.step a).input = r.threads.input)
    (hexchange : r.threads.exchange a = none) : (r.step a).Inv := by
  have hearlier : (r.step a).earlier = r.earlier := by
    rw [step, hexchange]
    rfl
  refine ⟨fun now i prev hp => h.passed now i prev (hinput.symm.trans hp), fun now i hp => ?_⟩
  rw [hearlier]
  exact h.swapped now i (hinput.symm.trans hp)

/-- **A step of the input thread** whose exchange, if it makes one, is in order. -/
theorem Inv.input (h : r.Inv) {spurious : Bool} (hahead : r.ClockAhead (.input spurious))
    (hlatest : r.Latest (.input spurious)) : (r.step (.input spurious)).Inv := by
  refine ⟨fun now i prev hp => BeginFrameThreads.stepInput_passed hp, fun now i hp t ht => ?_⟩
  obtain ⟨prev, hexchange⟩ := BeginFrameThreads.stepInput_swapped hp
  have hearlier : (r.step (.input spurious)).earlier = r.stamps := by
    rw [step, hexchange]
    rfl
  rw [hearlier] at ht
  -- the gate was open, and not because of a wrap-around
  have hgate := h.passed now i prev (BeginFrameThreads.exchange_input hexchange).1
  have hgap := UInt64.toNat_add_le_of_sub hgate (hahead now i prev hexchange)
  have hprev := UInt64.le_iff_toNat_le.mp (hlatest now i prev hexchange t ht)
  rw [nudgeGap_toNat] at hgap
  omega

/-- **Any step.** -/
theorem Inv.next (h : r.Inv) {a : ThreadStep} (hahead : r.ClockAhead a) (hlatest : r.Latest a) :
    (r.step a).Inv := by
  cases a with
  | time now => exact h.of_same rfl rfl
  | render => exact h.of_same r.threads.stepRender_frame.1 rfl
  | input spurious => exact h.input hahead hlatest
  | control evt => exact h.of_same (r.threads.stepControl_frame evt).1 rfl
  | callback c => exact h.of_same rfl rfl

theorem Inv.rateKept (h : r.Inv) {a : ThreadStep} (hahead : r.ClockAhead a) : r.RateKept a := by
  cases a with
  | input spurious =>
    refine ⟨?_, fun now i hp _ => h.swapped now i hp⟩
    rw [r.threads.stepInput_lastBeginFrameUs]
    cases hexchange : r.threads.exchange (.input spurious) with
    | none => exact UInt64.le_refl _
    | some reading =>
      obtain ⟨now, i, prev⟩ := reading
      rw [(BeginFrameThreads.exchange_input hexchange).2]
      exact hahead now i prev hexchange
  | _ => trivial

/-- An exchange on a later time turns it back. -/
theorem RateKept.clockAhead {a : ThreadStep} (h : r.RateKept a) : r.ClockAhead a := by
  intro now i prev hexchange
  cases a with
  | input spurious =>
    have hle := h.1
    rw [r.threads.stepInput_lastBeginFrameUs, hexchange,
      (BeginFrameThreads.exchange_input hexchange).2] at hle
    exact hle
  | _ => cases hexchange

end NudgeRun

/-- **Runs of the threads** in any order: the nudges keep to their rate if every exchange finds a
time that is not later than its clock reading and is the latest one stored so far; and the former is
necessary. -/
theorem nudge_rate_kept (host : OsrHandler) (steps : List ThreadStep) :
    let start : NudgeRun := .init host
    (Runs.Along NudgeRun.step (fun r a => r.ClockAhead a ∧ r.Latest a) start steps →
      Runs.Along NudgeRun.step NudgeRun.RateKept start steps) ∧
    (Runs.Along NudgeRun.step NudgeRun.RateKept start steps →
      Runs.Along NudgeRun.step NudgeRun.ClockAhead start steps) := by
  intro start
  constructor
  · exact Runs.along_of_invariant (fun r a h hG => h.next hG.1 hG.2)
      (fun r a h hG => h.rateKept hG.1) (NudgeRun.inv_init host)
  · exact Runs.Along.mono fun r a h => h.clockAhead

/-- The clock is read for a nudge at 10000 us; the render thread sends a begin frame at 20000 us;
the nudge goes on until its gate has opened. -/
def preemptedNudge : List ThreadStep :=
  [.time 10000, .input false, .input false, .time 20000] ++ List.replicate 9 .render ++
    List.replicate 3 (.input false)

/-- The exchange turns `m_lastBeginFrameUs` back from 20000 us to 10000 us. -/
theorem preempted_nudge_turns_back :
    ¬ Runs.Along NudgeRun.step NudgeRun.RateKept
      (.init { OsrHandler.init (buildSharedMemoryNames []) fullD3D 16 16 with browser := some 1 })
      (preemptedNudge ++ [.input false]) := by
  intro h
  obtain ⟨-, ⟨hback, -⟩, -⟩ := Runs.along_append.mp h
  exact absurd hback (by decide +kernel)

end CefHost
