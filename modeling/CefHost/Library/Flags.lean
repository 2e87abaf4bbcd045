import Mathlib.Logic.Basic

/-!
# Words of flags

A 32-bit word that holds a set of keys, one flag for each. The flags of different keys share no
bit, so setting and clearing one leaves the others alone.

## Main definitions

* `Flags.Family` — the flags of the keys, pairwise disjoint
* `Flags.Family.Has` — the flag of a key is in a word

## Main results

* `Flags.Family.has_or`, `Flags.Family.has_and_not` — setting and clearing a flag
-/

namespace Flags

/-- A flag for each key; none is empty and no two share a bit. -/
structure Family (κ : Type*) where
  flag : κ → UInt32
  ne_zero : ∀ k, flag k ≠ 0
  disjoint : ∀ j k, j ≠ k → flag j &&& flag k = 0

theorem or_and (a b c : UInt32) : (a ||| b) &&& c = (a &&& c) ||| (b &&& c) :=
  UInt32.toBitVec_inj.mp BitVec.and_or_distrib_right

namespace Family

variable {κ : Type*} (F : Family κ)

/-- The flag of `k` is in the word. -/
def Has (w : UInt32) (k : κ) : Prop := w &&& F.flag k ≠ 0

instance (w : UInt32) (k : κ) : Decidable (F.Has w k) := inferInstanceAs (Decidable (_ ≠ _))

@[simp] theorem not_has_zero (k : κ) : ¬ F.Has 0 k := by
  simp [Has]

/-- **Setting a flag.** -/
theorem has_or (w : UInt32) (j k : κ) : F.Has (w ||| F.flag j) k ↔ k = j ∨ F.Has w k := by
  rw [Has, or_and]
  by_cases h : k = j
  · subst h
    simp [F.ne_zero k]
  · simp [F.disjoint j k (Ne.symm h), h, Has]

/-- Outside a flag, clearing it changes nothing. -/
theorem not_and_of_ne {j k : κ} (h : k ≠ j) : ~~~F.flag j &&& F.flag k = F.flag k := by
  have hsplit := or_and (F.flag j) (~~~F.flag j) (F.flag k)
  rw [F.disjoint j k (Ne.symm h)] at hsplit
  simpa using hsplit.symm

/-- **Clearing a flag.** -/
theorem has_and_not (w : UInt32) (j k : κ) :
    F.Has (w &&& ~~~F.flag j) k ↔ k ≠ j ∧ F.Has w k := by
  rw [Has, UInt32.and_assoc]
  by_cases h : k = j
  · subst h
    simp
  · simp [F.not_and_of_ne h, h, Has]

end Family

end Flags
