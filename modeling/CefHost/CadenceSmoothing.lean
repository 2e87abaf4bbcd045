import CefHost.Library.Runs
import CefHost.Library.Smoothing
import CefHost.OsrHandler

/-!
# The smoothed cadence

`UpdateBeginFrameIntervalFromConsumerCadenceUs` follows a cadence the consumer reports: the cadence
is clamped, smoothed with the weights 7 and 3, and the begin-frame interval set a percent longer.
`UpdateBeginFrameIntervalFromFps` sets the interval from a rate and forgets the smoothed value. The
next report is then taken as it is.

## Main definitions

* `CadenceCall`, `OsrHandler.cadenceStep` — the two functions as the steps of a machine
* `OsrHandler.CadenceInRange` — the invariant
* `OsrHandler.NoWrap` — the 32-bit products and their sum are exact
* `OsrHandler.SettlesOn` — what a constant cadence leads to

## Main results

* `OsrHandler.cadenceInRange_step` — every call keeps the invariant
* `OsrHandler.smoothed_toNat` — under it, the machine smooths as `Smoothing.smooth` does
* `OsrHandler.exists_dist_smoothedAfter_le` — a constant cadence is reached, up to 3
* `cadence_smoothing_stable` — whole runs
-/

namespace CefHost

open Smoothing

inductive CadenceCall
  | fps (fps : UInt32)
  | consumerCadenceUs (cadenceUs : UInt32)

namespace OsrHandler

def cadenceStep (s : OsrHandler) : CadenceCall → OsrHandler
  | .fps fps => s.updateBeginFrameIntervalFromFps fps
  | .consumerCadenceUs cadenceUs => s.updateBeginFrameIntervalFromConsumerCadenceUs cadenceUs

structure CadenceInRange (s : OsrHandler) : Prop where
  smoothed : s.smoothedConsumerCadenceUs.toNat = 0 ∨
    4166 ≤ s.smoothedConsumerCadenceUs.toNat ∧ s.smoothedConsumerCadenceUs.toNat ≤ 66666
  interval : 4166666 ≤ s.beginFrameIntervalNs.toNat ∧ s.beginFrameIntervalNs.toNat ≤ 1000000000

/-- The 32-bit operations of a call are exact: the sum, and so the two products in it, fit. -/
def NoWrap (s : OsrHandler) : CadenceCall → Prop
  | .fps _ => True
  | .consumerCadenceUs cadenceUs =>
    s.smoothedConsumerCadenceUs.toNat * 7 + (clampCadenceUs cadenceUs).toNat * 3 < UInt32.size

/-- The smoothed cadence after `n` reports of the same cadence. -/
def smoothedAfter (s : OsrHandler) (cadenceUs : UInt32) (n : ℕ) : ℕ :=
  (Runs.run cadenceStep s
    (List.replicate n (.consumerCadenceUs cadenceUs))).smoothedConsumerCadenceUs.toNat

/-- Reports of a constant cadence move the smoothed value towards it, from one side, and in the end
keep it within 3 of it. -/
structure SettlesOn (s : OsrHandler) (cadenceUs : UInt32) : Prop where
  towards : ∀ n, Towards (clampCadenceUs cadenceUs).toNat (s.smoothedAfter cadenceUs n)
    (s.smoothedAfter cadenceUs (n + 1))
  near : ∃ n, ∀ k, n ≤ k →
    Nat.dist (s.smoothedAfter cadenceUs k) (clampCadenceUs cadenceUs).toNat ≤ 3

variable {s : OsrHandler} {cadenceUs : UInt32}

/-! ### One call -/

theorem clampCadenceUs_range (cadenceUs : UInt32) :
    4166 ≤ (clampCadenceUs cadenceUs).toNat ∧ (clampCadenceUs cadenceUs).toNat ≤ 66666 := by
  have hmin : (1000000 / 240 : UInt32) = 4166 := rfl
  have hmax : (1000000 / 15 : UInt32) = 66666 := rfl
  have hrange : 4166 ≤ clampCadenceUs cadenceUs ∧ clampCadenceUs cadenceUs ≤ 66666 := by
    simp only [clampCadenceUs, hmin, hmax]
    split_ifs <;> grind
  exact ⟨UInt32.le_iff_toNat_le.mp hrange.1, UInt32.le_iff_toNat_le.mp hrange.2⟩

theorem CadenceInRange.noWrap (h : s.CadenceInRange) (call : CadenceCall) : s.NoWrap call := by
  cases call with
  | fps fps => trivial
  | consumerCadenceUs cadenceUs =>
    have hsmoothed := h.smoothed
    have hclamp := clampCadenceUs_range cadenceUs
    rw [NoWrap, UInt32.size]
    omega

/-- **The machine smooths as the natural numbers do**, once there is a smoothed value. -/
theorem smoothed_toNat (h : s.CadenceInRange) (hc : cadenceUs ≠ 0) :
    (s.updateBeginFrameIntervalFromConsumerCadenceUs
        cadenceUs).smoothedConsumerCadenceUs.toNat =
      if s.smoothedConsumerCadenceUs.toNat = 0 then (clampCadenceUs cadenceUs).toNat
      else smooth 7 3 (clampCadenceUs cadenceUs).toNat s.smoothedConsumerCadenceUs.toNat := by
  have hfits := h.noWrap (.consumerCadenceUs cadenceUs)
  rw [NoWrap, UInt32.size] at hfits
  rw [updateBeginFrameIntervalFromConsumerCadenceUs, if_neg hc]
  by_cases hprev : s.smoothedConsumerCadenceUs = 0
  · simp [hprev]
  · have hne : s.smoothedConsumerCadenceUs.toNat ≠ 0 := fun hzero =>
      hprev (UInt32.toNat_inj.mp hzero)
    simp only [if_neg hprev, if_neg hne, smooth, UInt32.toNat_div, UInt32.toNat_add,
      UInt32.toNat_mul, UInt32.reduceToNat]
    omega

/-- The interval is a percent longer than the smoothed cadence. -/
theorem interval_toNat (hc : cadenceUs ≠ 0) {p : ℕ}
    (hp : (s.updateBeginFrameIntervalFromConsumerCadenceUs
      cadenceUs).smoothedConsumerCadenceUs.toNat = p) :
    (s.updateBeginFrameIntervalFromConsumerCadenceUs cadenceUs).beginFrameIntervalNs.toNat =
      (p + p / 100) * 1000 := by
  rw [updateBeginFrameIntervalFromConsumerCadenceUs, if_neg hc] at hp ⊢
  dsimp only at hp ⊢
  have hlt := UInt32.toNat_lt (if s.smoothedConsumerCadenceUs = 0 then clampCadenceUs cadenceUs
    else (s.smoothedConsumerCadenceUs * 7 + clampCadenceUs cadenceUs * 3) / 10)
  simp only [UInt64.toNat_mul, UInt64.toNat_add, UInt64.toNat_div, UInt32.toNat_toUInt64,
    UInt64.reduceToNat, hp] at hlt ⊢
  omega

/-- A report moves the smoothed value towards the clamped cadence. -/
theorem towards_step (h : s.CadenceInRange) (hc : cadenceUs ≠ 0) :
    Towards (clampCadenceUs cadenceUs).toNat s.smoothedConsumerCadenceUs.toNat
      (s.cadenceStep (.consumerCadenceUs cadenceUs)).smoothedConsumerCadenceUs.toNat := by
  rw [cadenceStep, smoothed_toNat h hc]
  split_ifs
  · exact towards_target _ _
  · exact towards_smooth (by decide) _ _

/-- A rate gives an interval between a 240th of a second and a second. -/
theorem fpsInterval_range {fps : UInt32} (hpos : 1 ≤ fps) (hle : fps ≤ 240) :
    4166666 ≤ (1000000000 / fps.toUInt64).toNat ∧
      (1000000000 / fps.toUInt64).toNat ≤ 1000000000 := by
  have hone : 1 ≤ fps.toNat := UInt32.le_iff_toNat_le.mp hpos
  have hmax : fps.toNat ≤ 240 := UInt32.le_iff_toNat_le.mp hle
  rw [UInt64.toNat_div, UInt32.toNat_toUInt64]
  constructor
  · rw [Nat.le_div_iff_mul_le hone]
    exact Nat.le_trans (Nat.mul_le_mul_left _ hmax) (by decide)
  · exact Nat.div_le_self _ _

/-- A value that moves towards a target of the range, from 0 in one step, is in the range. -/
theorem smoothed_range (h : s.CadenceInRange) (hc : cadenceUs ≠ 0) :
    4166 ≤ (s.cadenceStep (.consumerCadenceUs cadenceUs)).smoothedConsumerCadenceUs.toNat ∧
      (s.cadenceStep (.consumerCadenceUs cadenceUs)).smoothedConsumerCadenceUs.toNat ≤ 66666 := by
  have hclamp := clampCadenceUs_range cadenceUs
  rcases h.smoothed with hzero | hrange
  · rw [cadenceStep, smoothed_toNat h hc, if_pos hzero]
    exact hclamp
  · obtain ⟨hbelow, habove⟩ := towards_step h hc
    omega

/-- **Every call keeps the invariant.** -/
theorem cadenceInRange_step (s : OsrHandler) (call : CadenceCall) (h : s.CadenceInRange) :
    (s.cadenceStep call).CadenceInRange := by
  cases call with
  | fps fps =>
    refine ⟨Or.inl rfl, ?_⟩
    rw [cadenceStep, updateBeginFrameIntervalFromFps]
    dsimp only
    split_ifs with hlow hhigh
    · decide
    · decide
    · exact fpsInterval_range (by grind) (by grind)
  | consumerCadenceUs cadenceUs =>
    by_cases hc : cadenceUs = 0
    · rwa [cadenceStep, updateBeginFrameIntervalFromConsumerCadenceUs, if_pos hc]
    · have hrange := smoothed_range h hc
      refine ⟨Or.inr hrange, ?_⟩
      rw [cadenceStep] at hrange ⊢
      rw [interval_toNat hc rfl]
      omega

theorem cadenceInRange_create (names : SharedMemoryNames) (d3d : D3DInterfaces)
    (width height targetFps : UInt32) :
    (create names d3d width height targetFps).CadenceInRange := by
  have hinterval : 4166666 ≤ (1000000000 / 60 : UInt64).toNat ∧
      (1000000000 / 60 : UInt64).toNat ≤ 1000000000 := by decide
  exact cadenceInRange_step (init names d3d width height) (.fps targetFps)
    ⟨Or.inl rfl, hinterval⟩

/-! ### A constant cadence -/

/-- A report that leaves the smoothed value farther than 3 from the clamped cadence has brought it
nearer. -/
theorem dist_step_lt (h : s.CadenceInRange) (hc : cadenceUs ≠ 0)
    (hfar : ¬ Nat.dist s.smoothedConsumerCadenceUs.toNat (clampCadenceUs cadenceUs).toNat ≤ 3) :
    Nat.dist (s.cadenceStep (.consumerCadenceUs cadenceUs)).smoothedConsumerCadenceUs.toNat
        (clampCadenceUs cadenceUs).toNat <
      Nat.dist s.smoothedConsumerCadenceUs.toNat (clampCadenceUs cadenceUs).toNat := by
  rw [cadenceStep, smoothed_toNat h hc]
  split_ifs with hzero
  · rw [Nat.dist_self]
    omega
  · exact dist_smooth_lt (by decide) (by omega)

/-- **A constant cadence is reached**, up to 3. -/
theorem exists_dist_smoothedAfter_le (h : s.CadenceInRange) (hc : cadenceUs ≠ 0) :
    ∃ n, ∀ k, n ≤ k →
      Nat.dist (s.smoothedAfter cadenceUs k) (clampCadenceUs cadenceUs).toNat ≤ 3 :=
  Runs.settles
    (P := fun s =>
      Nat.dist s.smoothedConsumerCadenceUs.toNat (clampCadenceUs cadenceUs).toNat ≤ 3)
    (fun s => Nat.dist s.smoothedConsumerCadenceUs.toNat (clampCadenceUs cadenceUs).toNat)
    (fun s => cadenceInRange_step s _)
    (fun _ hs hnear => Nat.le_trans (towards_step hs hc).dist_le hnear)
    (fun _ hs => dist_step_lt hs hc) h

theorem towards_smoothedAfter (h : s.CadenceInRange) (hc : cadenceUs ≠ 0) (n : ℕ) :
    Towards (clampCadenceUs cadenceUs).toNat (s.smoothedAfter cadenceUs n)
      (s.smoothedAfter cadenceUs (n + 1)) := by
  rw [smoothedAfter, smoothedAfter, List.replicate_succ', Runs.run_append]
  exact towards_step (Runs.invariant cadenceInRange_step h _) hc

end OsrHandler

open OsrHandler

/-- **Cadence smoothing is stable.** However the two functions were called since the handler was
created, no 32-bit operation has wrapped, both values are in their ranges, and a constant cadence
would be settled on. -/
theorem cadence_smoothing_stable (names : SharedMemoryNames) (d3d : D3DInterfaces)
    (width height targetFps : UInt32) (calls : List CadenceCall) :
    Runs.Along cadenceStep NoWrap (create names d3d width height targetFps) calls ∧
      (Runs.run cadenceStep (create names d3d width height targetFps) calls).CadenceInRange ∧
      ∀ cadenceUs ≠ 0,
        (Runs.run cadenceStep (create names d3d width height targetFps) calls).SettlesOn
          cadenceUs := by
  have hcreate := cadenceInRange_create names d3d width height targetFps
  have hrun := Runs.invariant cadenceInRange_step hcreate calls
  refine ⟨?_, hrun, fun cadenceUs hc => ?_⟩
  · exact Runs.along_of_invariant (G := fun _ _ => True)
      (fun s call hs _ => cadenceInRange_step s call hs) (fun _ call hs _ => hs.noWrap call)
      hcreate (Runs.along_of_forall_mem (G := fun _ => True) fun _ _ => trivial)
  · exact ⟨towards_smoothedAfter hrun hc, exists_dist_smoothedAfter_le hrun hc⟩

end CefHost
