import Mathlib.Data.List.Basic

/-!
# Lock-step simulation

A machine with output takes a step for every input and emits some outputs with it. Two machines
that read the same inputs are compared by what they emit. If a relation between their states is
kept by every step, and related states emit the same, the machines cannot be told apart.

## Main definitions

* `Simulation.trace` — the last state and everything emitted on the way

## Main results

* `Simulation.trace_eq` — the induction rule
-/

namespace Simulation

variable {σ τ ι ο : Type*}

/-- The state after the inputs `is`, and the outputs on the way. -/
def trace (step : σ → ι → σ × List ο) : σ → List ι → σ × List ο
  | s, [] => (s, [])
  | s, i :: is => ((trace step (step s i).1 is).1, (step s i).2 ++ (trace step (step s i).1 is).2)

/-- A machine whose outputs are passed through a function. -/
theorem trace_map {ω : Type*} (f : ο → ω) (step : σ → ι → σ × List ο) (s : σ) (is : List ι) :
    (trace (fun s i => ((step s i).1, (step s i).2.map f)) s is).2
      = (trace step s is).2.map f := by
  induction is generalizing s with
  | nil => rfl
  | cons i is ih => rw [trace, trace, ih, List.map_append]

/-- **Simulation.** Related machines emit the same, and stay related. -/
theorem trace_eq {f : σ → ι → σ × List ο} {g : τ → ι → τ × List ο} {Rel : σ → τ → Prop}
    (hout : ∀ s t i, Rel s t → (f s i).2 = (g t i).2)
    (hstep : ∀ s t i, Rel s t → Rel (f s i).1 (g t i).1) {s : σ} {t : τ} (h : Rel s t)
    (is : List ι) :
    (trace f s is).2 = (trace g t is).2 ∧ Rel (trace f s is).1 (trace g t is).1 := by
  induction is generalizing s t with
  | nil => exact ⟨rfl, h⟩
  | cons i is ih =>
    obtain ⟨htail, hrel⟩ := ih (hstep s t i h)
    refine ⟨?_, hrel⟩
    rw [trace, trace, hout s t i h, htail]

end Simulation
