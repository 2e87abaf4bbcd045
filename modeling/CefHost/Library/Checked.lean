import CefHost.Library.Runs
import Mathlib.Data.Int.Notation

/-!
# Checked signed arithmetic

Signed arithmetic whose overflow is undefined, as in C: an operation on integers that fails when
the exact result leaves the range of a signed 64-bit value. A computation written with these
operations either fails somewhere or computes what the same expression means over the integers, so
the way to use them is to show that every intermediate value `Fits`.

Division by a positive number needs no check, and is C's, which truncates.

A machine whose steps are checked refines the machine that computes with integers, until a step
fails. `Checked.run?_eq_some_iff` says this for whole runs.

## Main definitions

* `Checked.Fits` — the range
* `Checked.add`, `sub`, `mul`, `neg` — the operations
* `Checked.run?` — a run of checked steps

## Main results

* `Checked.add_eq_some` and its like — an operation whose exact result fits yields it
* `Checked.run?_eq_some_iff` — a checked run is exact if and only if every step meets the guard
  that decides whether it fails
-/

namespace Checked

/-- The range of `int64_t`. -/
def Fits (x : ℤ) : Prop := -9223372036854775808 ≤ x ∧ x ≤ 9223372036854775807

instance (x : ℤ) : Decidable (Fits x) := inferInstanceAs (Decidable (_ ∧ _))

/-- The exact result, if it fits. -/
def ok (x : ℤ) : Option ℤ := if Fits x then some x else none

def add (a b : ℤ) : Option ℤ := ok (a + b)

def sub (a b : ℤ) : Option ℤ := ok (a - b)

def mul (a b : ℤ) : Option ℤ := ok (a * b)

def neg (a : ℤ) : Option ℤ := ok (-a)

variable {a b : ℤ}

theorem add_eq_some (h : Fits (a + b)) : add a b = some (a + b) := if_pos h

theorem sub_eq_some (h : Fits (a - b)) : sub a b = some (a - b) := if_pos h

theorem sub_eq_none (h : ¬ Fits (a - b)) : sub a b = none := if_neg h

theorem mul_eq_some (h : Fits (a * b)) : mul a b = some (a * b) := if_pos h

theorem mul_eq_none (h : ¬ Fits (a * b)) : mul a b = none := if_neg h

theorem neg_eq_some (h : Fits (-a)) : neg a = some (-a) := if_pos h

/-! ### Runs -/

variable {σ ι : Type*}

/-- The state after the inputs `is`, if no step fails. -/
def run? (step? : σ → ι → Option σ) (s : σ) (is : List ι) : Option σ := is.foldlM step? s

@[simp] theorem run?_nil (step? : σ → ι → Option σ) (s : σ) : run? step? s [] = some s := rfl

@[simp] theorem run?_cons (step? : σ → ι → Option σ) (s : σ) (i : ι) (is : List ι) :
    run? step? s (i :: is) = (step? s i).bind fun t => run? step? t is := rfl

/-- **Exactness.** Among the runs whose steps meet `D`, let a checked step be the exact one where
the guard `G` holds, and fail where it does not. Then a checked run ends where the exact run does
if and only if all its steps meet `G`. -/
theorem run?_eq_some_iff {step : σ → ι → σ} {step? : σ → ι → Option σ} {I : σ → Prop}
    {D G : σ → ι → Prop} (hstep : ∀ s i, I s → D s i → I (step s i))
    (hexact : ∀ s i, I s → D s i → G s i → step? s i = some (step s i))
    (hfail : ∀ s i, I s → D s i → ¬ G s i → step? s i = none) {s : σ} (hI : I s) {is : List ι}
    (hD : Runs.Along step D s is) :
    run? step? s is = some (Runs.run step s is) ↔ Runs.Along step G s is := by
  induction is generalizing s with
  | nil => exact iff_of_true (run?_nil step? s) (Runs.along_nil G s)
  | cons i is ih =>
    rw [run?_cons, Runs.run_cons, Runs.along_cons]
    by_cases hG : G s i
    · rw [hexact s i hI hD.1 hG, Option.bind_some, ih (hstep s i hI hD.1) hD.2]
      exact (and_iff_right hG).symm
    · rw [hfail s i hI hD.1 hG, Option.bind_none]
      exact ⟨fun h => (Option.some_ne_none _ h.symm).elim, fun h => absurd h.1 hG⟩

end Checked
