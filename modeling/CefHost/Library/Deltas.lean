import Mathlib.Data.Nat.Notation

/-!
# Following a picture by its changes

A publisher has a picture and replaces it from time to time. With each version it says either that
the version has to be taken whole, or where it may differ from the version before. A follower looks
when it likes. If it has the version before, it copies where there is a change; if it has missed a
version, it copies everything.

Both pictures are functions from positions to colours. What is asked of the publisher is that it
tells the truth about each step (`Honest`); nothing is asked of the follower's timing.

## Main definitions

* `Deltas.Version`, `Deltas.Copy` — what is published, and what the follower has
* `Deltas.Copy.update` — one look
* `Deltas.InStep` — the copy is good enough for the next look

## Main results

* `Deltas.InStep.replaced` — an honest replacement keeps the copy good enough
* `Deltas.InStep.update`, `Deltas.InStep.update_picture` — after a look it is exact
-/

namespace Deltas

variable {P χ : Type*}

structure Version (P χ : Type*) where
  number : ℕ
  picture : P → χ
  /-- The version has to be taken whole. -/
  full : Bool
  /-- Where it may differ from the version before. -/
  changed : P → Bool

structure Copy (P χ : Type*) where
  number : ℕ
  picture : P → χ

/-- The follower looks at the version that is there. -/
def Copy.update (c : Copy P χ) (v : Version P χ) : Copy P χ :=
  if v.number = c.number then c
  else if v.number = c.number + 1 ∧ v.full = false then
    { number := v.number
      picture := fun p => if v.changed p then v.picture p else c.picture p }
  else
    { number := v.number
      picture := v.picture }

/-- Nothing is replaced, or the next version is there and what it says of its changes is true. -/
inductive Honest (v v' : Version P χ) : Prop
  | kept (number : v'.number = v.number) (picture : v'.picture = v.picture)
      (full : v'.full = v.full) (changed : v'.changed = v.changed)
  | replaced (number : v'.number = v.number + 1)
      (unchanged : v'.full = false → ∀ p, v'.changed p = false → v'.picture p = v.picture p)

/-- A copy of the version that is there is exact; a copy of the version before is wrong only where
there is a change. -/
structure InStep (c : Copy P χ) (v : Version P χ) : Prop where
  le : c.number ≤ v.number
  same : c.number = v.number → c.picture = v.picture
  next : c.number + 1 = v.number → v.full = false →
    ∀ p, v.changed p = false → c.picture p = v.picture p

variable {c : Copy P χ} {v v' : Version P χ}

theorem InStep.replaced (h : InStep c v) (hv : Honest v v') : InStep c v' := by
  cases hv with
  | kept number picture full changed =>
    refine ⟨number ▸ h.le, fun hsame => ?_, fun hnext hfull => ?_⟩
    · rw [picture]
      exact h.same (hsame.trans number)
    · rw [picture, changed]
      exact h.next (hnext.trans number) (full ▸ hfull)
  | replaced number unchanged =>
    have hle := h.le
    refine ⟨by omega, fun hsame => by omega, fun hnext hfull p hp => ?_⟩
    -- the copy was of the version before
    rw [unchanged hfull p hp, h.same (by omega)]

/-- **A look** makes the copy exact. -/
theorem InStep.update_picture (h : InStep c v) : (c.update v).picture = v.picture := by
  rw [Copy.update]
  split
  · next hsame => exact h.same hsame.symm
  · split
    · next hnext =>
      funext p
      show (if v.changed p then v.picture p else c.picture p) = v.picture p
      split
      · rfl
      · next hp => exact h.next hnext.1.symm hnext.2 p (Bool.not_eq_true _ ▸ hp)
    · rfl

theorem Copy.update_number (c : Copy P χ) (v : Version P χ) : (c.update v).number = v.number := by
  rw [Copy.update]
  split
  · next hsame => exact hsame.symm
  · split <;> rfl

theorem InStep.update (h : InStep c v) : InStep (c.update v) v where
  le := Nat.le_of_eq (c.update_number v)
  same _ := h.update_picture
  next hnext _ _ _ := by
    rw [c.update_number] at hnext
    exact absurd hnext (Nat.succ_ne_self _)

end Deltas
