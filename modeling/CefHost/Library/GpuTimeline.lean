import Mathlib.Data.List.Induction

/-!
# A command queue with a fence

A queue whose commands execute in the order they were submitted. A command either does some work
or raises a fence to a value; another process that waits for a fence value may then rely on the
work submitted before the signal.

A consumer that has waited for `v` has seen *some* initial part of the queue executed, one whose
last signal reached `v`, and nothing is known about the rest. `WaitCovers` quantifies over that
initial part.

## Main definitions

* `GpuTimeline.fence` — the fence after an initial part of the queue
* `GpuTimeline.WaitCovers` — waiting for a value leaves no work of a kind pending

## Main results

* `GpuTimeline.waitCovers_of_forall_not` — with no such work submitted nothing is pending
* `GpuTimeline.WaitCovers.append` — submitting other work changes nothing
* `GpuTimeline.waitCovers_signal` — a signal above all earlier ones covers all work before it
-/

namespace GpuTimeline

/-- A command of the queue: work, or a fence signal. -/
inductive Command (α : Type*)
  | work (a : α)
  | signal (v : ℕ)
deriving DecidableEq

variable {α : Type*} {q q' : List (Command α)} {v v' : ℕ} {P : α → Prop}

/-- The fence after one command. -/
def Command.raise (f : ℕ) : Command α → ℕ
  | .work _ => f
  | .signal v => v

/-- The fence once all of `q` has executed; it starts at 0. -/
def fence (q : List (Command α)) : ℕ := q.foldl Command.raise 0

theorem fence_concat (q : List (Command α)) (k : Command α) :
    fence (q ++ [k]) = k.raise (fence q) := by
  rw [fence, List.foldl_append]
  rfl

/-- The fence is 0 or a value that was signalled. -/
theorem fence_eq (q : List (Command α)) : fence q = 0 ∨ .signal (fence q) ∈ q := by
  induction q using List.reverseRecOn with
  | nil => exact Or.inl rfl
  | append_singleton q k ih =>
    rw [fence_concat]
    cases k with
    | work a =>
      refine ih.imp_right fun h => ?_
      exact List.mem_append_left _ h
    | signal v => exact Or.inr (List.mem_append_right _ (List.mem_singleton_self _))

/-- Below `v` if every signal is. -/
theorem fence_lt (hv : 0 < v) (h : ∀ u, .signal u ∈ q → u < v) : fence q < v := by
  rcases fence_eq q with h0 | hmem
  · rw [h0]; exact hv
  · exact h _ hmem

/-- However much of the queue has executed, if its fence has reached `v` then no work of kind `P`
is pending. -/
def WaitCovers (q : List (Command α)) (v : ℕ) (P : α → Prop) : Prop :=
  ∀ n, v ≤ fence (q.take n) → ∀ a, .work a ∈ q.drop n → ¬ P a

/-- Waiting for more covers more. -/
theorem WaitCovers.mono (h : WaitCovers q v P) (hv : v ≤ v') : WaitCovers q v' P :=
  fun n hn => h n (Nat.le_trans hv hn)

theorem waitCovers_of_forall_not (h : ∀ a, .work a ∈ q → ¬ P a) : WaitCovers q v P :=
  fun _ _ a ha => h a (List.mem_of_mem_drop ha)

/-- Submitting work of another kind, or signals, changes nothing. -/
theorem WaitCovers.append (h : WaitCovers q v P) (hnot : ∀ a, .work a ∈ q' → ¬ P a) :
    WaitCovers (q ++ q') v P := by
  intro n hn a ha
  rw [List.drop_append] at ha
  rcases List.mem_append.mp ha with hq | hq'
  · -- still pending in `q`, so only a part of `q` has executed
    have hlt : n < q.length := by
      by_contra hge
      rw [List.drop_eq_nil_of_le (Nat.le_of_not_lt hge)] at hq
      cases hq
    rw [List.take_append_of_le_length (Nat.le_of_lt hlt)] at hn
    exact h n hn a hq
  · exact hnot a (List.mem_of_mem_drop hq')

/-- **A signal covers everything before it**, provided its value is new. -/
theorem waitCovers_signal (hv : 0 < v) (h : ∀ u, .signal u ∈ q → u < v) :
    WaitCovers (q ++ [.signal v]) v P := by
  intro n hn a ha
  rcases Nat.lt_or_ge q.length n with hlt | hge
  · rw [List.drop_eq_nil_of_le (by rw [List.length_append]; exact hlt)] at ha
    cases ha
  · rw [List.take_append_of_le_length hge] at hn
    have hbelow : fence (q.take n) < v :=
      fence_lt hv fun u hu => h u (List.mem_of_mem_take hu)
    omega

end GpuTimeline
