import Mathlib.Data.List.Basic

/-!
# Runs of a machine

A machine is a total step function `step : σ → ι → σ`; a run is the list of inputs it is given.
Nothing here knows what a state or an input is.

## Two kinds of property

A safety property speaks either of the states a run goes through (`Always`) or of the steps it
takes (`Along`). The states reached by *all* runs are the values of `run`, so an unconditional
safety property needs neither: it is `∀ is, P (run step s is)`. The two predicates are for the
conditional ones, where the runs of interest are those whose every step meets a guard.

## Main definitions

* `Runs.run` — the state after a list of inputs
* `Runs.Along` — every step of the run meets a guard, in the state it is taken in
* `Runs.Always` — every state of the run satisfies a predicate, both ends included
* `Runs.emitted` — what a run puts out

## Main results

* `Runs.invariant`, `Runs.invariant_of_along` — the induction rule, free and guarded
* `Runs.settles` — an input that is repeated long enough, by a measure
* `Runs.project` — a component of a machine, as a machine
* `Runs.simulates` — a machine and a coarser one
* `Runs.covers` — the runs of the coarser one are runs of the other
* `Runs.done_of_countP` — one party's own steps until it is done, by a measure
* `Runs.along_congr`, `Runs.along_iff_along` — two step properties that agree under an invariant
  agree along every run
* `Runs.always_iff_along_of_along`, `Runs.always_iff_along` — when a guard is *exactly* what keeps
  a predicate alive
-/

namespace Runs

variable {σ ι : Type*} {step : σ → ι → σ}

/-- The state after the inputs `is`, taken in order from `s`. -/
def run (step : σ → ι → σ) (s : σ) (is : List ι) : σ := is.foldl step s

@[simp] theorem run_nil (s : σ) : run step s [] = s := rfl

@[simp] theorem run_cons (s : σ) (i : ι) (is : List ι) :
    run step s (i :: is) = run step (step s i) is := rfl

theorem run_append (s : σ) (is js : List ι) :
    run step s (is ++ js) = run step (run step s is) js := List.foldl_append

/-- Every step of the run meets `G`, in the state it is taken in. -/
def Along (step : σ → ι → σ) (G : σ → ι → Prop) : σ → List ι → Prop
  | _, [] => True
  | s, i :: is => G s i ∧ Along step G (step s i) is

@[simp] theorem along_nil (G : σ → ι → Prop) (s : σ) : Along step G s [] := trivial

@[simp] theorem along_cons {G : σ → ι → Prop} {s : σ} {i : ι} {is : List ι} :
    Along step G s (i :: is) ↔ G s i ∧ Along step G (step s i) is := Iff.rfl

instance Along.instDecidable {G : σ → ι → Prop} [∀ s i, Decidable (G s i)] :
    ∀ (s : σ) (is : List ι), Decidable (Along step G s is)
  | _, [] => isTrue trivial
  | s, i :: is =>
    have := Along.instDecidable (G := G) (step s i) is
    inferInstanceAs (Decidable (G s i ∧ Along step G (step s i) is))

theorem along_append {G : σ → ι → Prop} {s : σ} {is js : List ι} :
    Along step G s (is ++ js) ↔ Along step G s is ∧ Along step G (run step s is) js := by
  induction is generalizing s with
  | nil => simp
  | cons i is ih => simp [ih, and_assoc]

/-- A guard that does not look at the state. -/
theorem along_iff_forall_mem {G : ι → Prop} {s : σ} {is : List ι} :
    Along step (fun _ i => G i) s is ↔ ∀ i ∈ is, G i := by
  induction is generalizing s with
  | nil => simp
  | cons i is ih => rw [along_cons, ih, List.forall_mem_cons]

theorem along_of_forall_mem {G : ι → Prop} {s : σ} {is : List ι} (h : ∀ i ∈ is, G i) :
    Along step (fun _ i => G i) s is := along_iff_forall_mem.mpr h

theorem Along.mono {G G' : σ → ι → Prop} (h : ∀ s i, G s i → G' s i) {s : σ} {is : List ι}
    (hG : Along step G s is) : Along step G' s is := by
  induction is generalizing s with
  | nil => trivial
  | cons i is ih => exact ⟨h _ _ hG.1, ih hG.2⟩

theorem along_and {G G' : σ → ι → Prop} {s : σ} {is : List ι} :
    Along step (fun s i => G s i ∧ G' s i) s is ↔ Along step G s is ∧ Along step G' s is := by
  induction is generalizing s with
  | nil => simp
  | cons i is ih => rw [along_cons, along_cons, along_cons, ih, and_and_and_comm]

/-- Every state of the run satisfies `P`, the first and the last included. -/
def Always (step : σ → ι → σ) (P : σ → Prop) : σ → List ι → Prop
  | s, [] => P s
  | s, i :: is => P s ∧ Always step P (step s i) is

@[simp] theorem always_nil {P : σ → Prop} {s : σ} : Always step P s [] ↔ P s := Iff.rfl

@[simp] theorem always_cons {P : σ → Prop} {s : σ} {i : ι} {is : List ι} :
    Always step P s (i :: is) ↔ P s ∧ Always step P (step s i) is := Iff.rfl

/-- The first state is one of those the run goes through. -/
theorem Always.head {P : σ → Prop} {s : σ} {is : List ι} (h : Always step P s is) : P s := by
  cases is with
  | nil => exact h
  | cons i is => exact h.1

/-- `Always` is what it says: the predicate holds after every initial part of the inputs. -/
theorem always_iff_forall {P : σ → Prop} {s : σ} {is : List ι} :
    Always step P s is ↔ ∀ js, js <+: is → P (run step s js) := by
  induction is generalizing s with
  | nil => simp
  | cons i is ih =>
    rw [always_cons, ih]
    constructor
    · rintro ⟨h0, h⟩ js hjs
      rcases List.prefix_cons_iff.mp hjs with rfl | ⟨ks, rfl, hks⟩
      · exact h0
      · exact h ks hks
    · intro h
      refine ⟨h [] (List.nil_prefix), fun js hjs => ?_⟩
      exact h (i :: js) (List.cons_prefix_cons.mpr ⟨rfl, hjs⟩)

/-! ### The induction rules -/

/-- **Invariants.** What holds at the start and survives every step holds after every run. -/
theorem invariant {I : σ → Prop} (hstep : ∀ s i, I s → I (step s i)) {s : σ} (h0 : I s)
    (is : List ι) : I (run step s is) := by
  induction is generalizing s with
  | nil => exact h0
  | cons i is ih => exact ih (hstep s i h0)

/-- The same for runs whose steps all meet a guard. -/
theorem invariant_of_along {I : σ → Prop} {G : σ → ι → Prop}
    (hstep : ∀ s i, I s → G s i → I (step s i)) {s : σ} (h0 : I s) {is : List ι}
    (hG : Along step G s is) : I (run step s is) := by
  induction is generalizing s with
  | nil => exact h0
  | cons i is ih => exact ih (hstep s i h0 hG.1) hG.2

/-- A step property that follows from an invariant and a guard holds along every guarded run. -/
theorem along_of_invariant {I : σ → Prop} {G Q : σ → ι → Prop}
    (hstep : ∀ s i, I s → G s i → I (step s i)) (hQ : ∀ s i, I s → G s i → Q s i) {s : σ}
    (h0 : I s) {is : List ι} (hG : Along step G s is) : Along step Q s is := by
  induction is generalizing s with
  | nil => trivial
  | cons i is ih => exact ⟨hQ s i h0 hG.1, ih (hstep s i h0 hG.1) hG.2⟩

/-- What an invariant implies holds in every state of a guarded run. -/
theorem always_of_along {I P : σ → Prop} {G : σ → ι → Prop}
    (hstep : ∀ s i, I s → G s i → I (step s i)) (hP : ∀ s, I s → P s) {s : σ} (h0 : I s)
    {is : List ι} (hG : Along step G s is) : Always step P s is := by
  induction is generalizing s with
  | nil => exact hP s h0
  | cons i is ih => exact ⟨hP s h0, ih (hstep s i h0 hG.1) hG.2⟩

/-- **Settling.** Where repeating one input keeps `P`, and a measure falls as long as `P` does not
hold, `P` holds from some repetition on. -/
theorem settles {I P : σ → Prop} (μ : σ → ℕ) {i : ι} (hI : ∀ s, I s → I (step s i))
    (hkeep : ∀ s, I s → P s → P (step s i)) (hfall : ∀ s, I s → ¬ P s → μ (step s i) < μ s)
    {s : σ} (h0 : I s) : ∃ n, ∀ k, n ≤ k → P (run step s (List.replicate k i)) := by
  have hstay : ∀ k (s : σ), I s → P s → P (run step s (List.replicate k i)) := by
    intro k
    induction k with
    | zero => exact fun s _ hP => hP
    | succ k ih => exact fun s hs hP => ih _ (hI s hs) (hkeep s hs hP)
  generalize hm : μ s = m
  induction m using Nat.strongRecOn generalizing s with
  | ind m ih =>
    by_cases hP : P s
    · exact ⟨0, fun k _ => hstay k s h0 hP⟩
    · obtain ⟨n, hn⟩ := ih (μ (step s i)) (hm ▸ hfall s h0 hP) (hI s h0) rfl
      refine ⟨n + 1, fun k hk => ?_⟩
      obtain ⟨k, rfl⟩ := Nat.exists_eq_add_of_le' (Nat.le_of_add_left_le hk)
      exact hn k (by omega)

/-- What the steps of a run add up to. -/
def total (step : σ → ι → σ) (gain : σ → ι → ℕ) : σ → List ι → ℕ
  | _, [] => 0
  | s, i :: is => gain s i + total step gain (step s i) is

/-- A sum of increments is the difference of the ends. -/
theorem add_total {f : σ → ℕ} {gain : σ → ι → ℕ} (h : ∀ s i, f (step s i) = f s + gain s i)
    (s : σ) (is : List ι) : f s + total step gain s is = f (run step s is) := by
  induction is generalizing s with
  | nil => rfl
  | cons i is ih => rw [total, run_cons, ← ih, h, Nat.add_assoc]

/-- What a run puts out, where a step may put out several things. -/
def emitted {ω : Type*} (step : σ → ι → σ) (out : σ → ι → List ω) : σ → List ι → List ω
  | _, [] => []
  | s, i :: is => out s i ++ emitted step out (step s i) is

theorem emitted_append {ω : Type*} {out : σ → ι → List ω} (s : σ) (is js : List ι) :
    emitted step out s (is ++ js) =
      emitted step out s is ++ emitted step out (run step s is) js := by
  induction is generalizing s with
  | nil => rfl
  | cons i is ih => rw [List.cons_append, emitted, emitted, ih, List.append_assoc, run_cons]

/-- **Projection.** A part of the state that is itself a machine runs through the inputs that the
whole passes on to it. -/
theorem project {τ κ : Type*} {step' : τ → κ → τ} {f : σ → τ} {g : σ → ι → List κ} {I : σ → Prop}
    (hI : ∀ s i, I s → I (step s i)) (h : ∀ s i, I s → f (step s i) = run step' (f s) (g s i))
    {s : σ} (h0 : I s) (is : List ι) :
    f (run step s is) = run step' (f s) (emitted step g s is) := by
  induction is generalizing s with
  | nil => rfl
  | cons i is ih => rw [run_cons, ih (hI s i h0), h s i h0, emitted, run_append]

/-- What the whole puts out, where it is what the part puts out. -/
theorem emitted_project {τ κ ω : Type*} {step' : τ → κ → τ} {f : σ → τ} {g : σ → ι → List κ}
    {out : σ → ι → List ω} {out' : τ → κ → List ω} {I : σ → Prop}
    (hI : ∀ s i, I s → I (step s i)) (h : ∀ s i, I s → f (step s i) = run step' (f s) (g s i))
    (hout : ∀ s i, I s → out s i = emitted step' out' (f s) (g s i)) {s : σ} (h0 : I s)
    (is : List ι) : emitted step out s is = emitted step' out' (f s) (emitted step g s is) := by
  induction is generalizing s with
  | nil => rfl
  | cons i is ih =>
    rw [emitted, ih (hI s i h0), hout s i h0, h s i h0, emitted, emitted_append]

/-- **Simulation.** A relation that every step keeps, up to the inputs it passes on to the other
machine, is kept by every run. -/
theorem simulates {τ κ : Type*} {step' : τ → κ → τ} {R : σ → τ → Prop} {g : σ → ι → List κ}
    (h : ∀ s t i, R s t → R (step s i) (run step' t (g s i))) {s : σ} {t : τ} (h0 : R s t)
    (is : List ι) : R (run step s is) (run step' t (emitted step g s is)) := by
  induction is generalizing s t with
  | nil => exact h0
  | cons i is ih =>
    rw [run_cons, emitted, run_append]
    exact ih (h s t i h0)

/-- **Coarser steps.** Where each step of another machine on the same states is a run, so is each
of its runs. -/
theorem covers {κ : Type*} {coarse : σ → κ → σ} {I : σ → Prop}
    (hI : ∀ s k, I s → I (coarse s k)) (h : ∀ s k, I s → ∃ is, run step s is = coarse s k) {s : σ}
    (h0 : I s) (ks : List κ) : ∃ is, run step s is = run coarse s ks := by
  induction ks generalizing s with
  | nil => exact ⟨[], rfl⟩
  | cons k ks ih =>
    obtain ⟨is, his⟩ := h s k h0
    obtain ⟨js, hjs⟩ := ih (hI s k h0)
    refine ⟨is ++ js, ?_⟩
    rw [run_append, his, hjs, run_cons]

/-- What is passed on, counted. -/
theorem countP_emitted {κ : Type*} {g : σ → ι → List κ} {p : κ → Bool} {q : ι → Bool}
    (h : ∀ s i, (g s i).countP p = (q i).toNat) (s : σ) (is : List ι) :
    (emitted step g s is).countP p = is.countP q := by
  induction is generalizing s with
  | nil => rfl
  | cons i is ih =>
    rw [emitted, List.countP_append, h, ih, List.countP_cons, Nat.add_comm]
    cases q i <;> rfl

/-- **Counting steps.** Some inputs belong to one party. Where each of its steps lowers a measure
as long as it is not done, and the steps of the others raise it by a known gain at most, it is done
after as many steps of its own as the measure and the gains allow. -/
theorem done_of_countP {I D : σ → Prop} {G : σ → ι → Prop} {w : ι → Bool} {μ : σ → ℕ}
    {g : σ → ι → ℕ} (hI : ∀ s i, I s → G s i → I (step s i))
    (hdone : ∀ s i, I s → G s i → D s → D (step s i))
    (hfall : ∀ s i, I s → G s i → ¬ D s → μ (step s i) + (w i).toNat ≤ μ s + g s i)
    {s : σ} (h0 : I s) {is : List ι} (hG : Along step G s is)
    (hcount : μ s + total step g s is < is.countP w) : D (run step s is) := by
  induction is generalizing s with
  | nil => exact absurd hcount (Nat.not_lt_zero _)
  | cons i is ih =>
    by_cases hs : D s
    · have hkeep : ∀ s i, (I s ∧ D s) → G s i → I (step s i) ∧ D (step s i) := by
        intro s i h hg
        exact ⟨hI s i h.1 hg, hdone s i h.1 hg h.2⟩
      exact (invariant_of_along hkeep ⟨h0, hs⟩ hG).2
    · refine ih (hI s i h0 hG.1) hG.2 ?_
      have hstep := hfall s i h0 hG.1 hs
      rw [total, List.countP_cons] at hcount
      cases hw : w i <;> simp [hw] at hstep hcount <;> omega

/-- Two step properties that agree wherever an invariant holds agree along every run. -/
theorem along_congr {I : σ → Prop} {G Q : σ → ι → Prop} (hstep : ∀ s i, I s → I (step s i))
    (hQG : ∀ s i, I s → (Q s i ↔ G s i)) {s : σ} (h0 : I s) (is : List ι) :
    Along step Q s is ↔ Along step G s is := by
  induction is generalizing s with
  | nil => simp
  | cons i is ih => rw [along_cons, along_cons, hQG s i h0, ih (hstep s i h0)]

/-- The same when the invariant is kept only by the steps that meet the guard: the first step that
does not is the first to break the property. -/
theorem along_iff_along {I : σ → Prop} {G Q : σ → ι → Prop}
    (hstep : ∀ s i, I s → G s i → I (step s i)) (hQG : ∀ s i, I s → (Q s i ↔ G s i)) {s : σ}
    (h0 : I s) (is : List ι) : Along step Q s is ↔ Along step G s is := by
  induction is generalizing s with
  | nil => simp
  | cons i is ih =>
    rw [along_cons, along_cons, hQG s i h0]
    exact and_congr_right fun hG => ih (hstep s i h0 hG)

/-- **Exactness.** Among the runs whose steps meet `D`, let `I` be kept by the steps that meet `G`,
and suppose that from a state with `I` and `P` a step leads to `P` precisely when it meets `G`.
Then a run stays in `P` if and only if all its steps meet `G`. -/
theorem always_iff_along_of_along {I P : σ → Prop} {D G : σ → ι → Prop}
    (hstep : ∀ s i, I s → P s → D s i → G s i → I (step s i))
    (hPG : ∀ s i, I s → P s → D s i → (P (step s i) ↔ G s i)) {s : σ} (hI : I s) (hP : P s)
    {is : List ι} (hD : Along step D s is) : Always step P s is ↔ Along step G s is := by
  induction is generalizing s with
  | nil => simpa using hP
  | cons i is ih =>
    rw [always_cons, along_cons]
    constructor
    · rintro ⟨-, h⟩
      have hnext : P (step s i) := h.head
      have hG := (hPG s i hI hP hD.1).mp hnext
      exact ⟨hG, (ih (hstep s i hI hP hD.1 hG) hnext hD.2).mp h⟩
    · rintro ⟨hG, h⟩
      have hnext := (hPG s i hI hP hD.1).mpr hG
      exact ⟨hP, (ih (hstep s i hI hP hD.1 hG) hnext hD.2).mpr h⟩

/-- The same for all runs. -/
theorem always_iff_along {I P : σ → Prop} {G : σ → ι → Prop}
    (hstep : ∀ s i, I s → P s → G s i → I (step s i))
    (hPG : ∀ s i, I s → P s → (P (step s i) ↔ G s i)) {s : σ} (hI : I s) (hP : P s)
    (is : List ι) : Always step P s is ↔ Along step G s is :=
  always_iff_along_of_along (fun s i hI hP _ hG => hstep s i hI hP hG)
    (fun s i hI hP _ => hPG s i hI hP) hI hP
    (along_of_forall_mem (G := fun _ => True) fun _ _ => trivial)

end Runs
