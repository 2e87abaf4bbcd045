import CefHost.Library.GpuTimeline

/-!
# A queue that executes behind the submissions

The commands of a queue work on a memory, but later than they are submitted: at any moment some
initial part of the queue has executed. The submitter thinks of the memory as it will be when the
whole queue has; another process reads it as it is.

The two agree on a cell once no work that writes the cell is pending, and that is what waiting for
a fence value can tell (`WaitCovers`).

## Main definitions

* `GpuTimeline.execute` — the memory after a part of the queue
* `GpuTimeline.Frames` — which cells a piece of work may write

## Main results

* `GpuTimeline.execute_of_not_writes` — work leaves the other cells alone
* `GpuTimeline.execute_take` — after the wait a cell holds what it will hold in the end
* `GpuTimeline.execute_take_append` — the same while more work is submitted, elsewhere
* `GpuTimeline.waitCovers_map` — a queue that is known in less detail
-/

namespace GpuTimeline

variable {ι σ α β : Type*}

/-! ### Commands known in less detail -/

def Command.map (g : α → β) : Command α → Command β
  | .work a => .work (g a)
  | .signal v => .signal v

theorem fence_map (g : α → β) (q : List (Command α)) : fence (q.map (Command.map g)) = fence q := by
  have hraise : ∀ (u : ℕ) (k : Command α), (k.map g).raise u = k.raise u := by
    intro u k
    cases k <;> rfl
  induction q using List.reverseRecOn with
  | nil => rfl
  | append_singleton q k ih =>
    rw [List.map_append, List.map_singleton, fence_concat, fence_concat, ih, hraise]

theorem waitCovers_map {g : α → β} {q : List (Command α)} {v : ℕ} {P : β → Prop}
    (h : WaitCovers (q.map (Command.map g)) v P) : WaitCovers q v fun a => P (g a) := by
  intro n hn a ha
  refine h n ?_ (g a) ?_
  · rwa [← List.map_take, fence_map]
  · rw [← List.map_drop]
    exact List.mem_map_of_mem ha

/-! ### Execution -/

variable {f : α → (ι → σ) → ι → σ} {writes : ι → α → Prop} {q q' : List (Command α)} {m : ι → σ}
  {i : ι} {v n : ℕ}

/-- The memory after one command. -/
def Command.execute (f : α → (ι → σ) → ι → σ) (m : ι → σ) : Command α → ι → σ
  | .work a => f a m
  | .signal _ => m

/-- The memory after all of `q`. -/
def execute (f : α → (ι → σ) → ι → σ) (m : ι → σ) (q : List (Command α)) : ι → σ :=
  q.foldl (Command.execute f) m

theorem execute_append : execute f m (q ++ q') = execute f (execute f m q) q' := List.foldl_append

/-- Work that does not write a cell leaves it alone. -/
def Frames (f : α → (ι → σ) → ι → σ) (writes : ι → α → Prop) : Prop :=
  ∀ a m i, ¬ writes i a → f a m i = m i

theorem execute_of_not_writes (hf : Frames f writes) (hnot : ∀ a, .work a ∈ q → ¬ writes i a) :
    execute f m q i = m i := by
  induction q generalizing m with
  | nil => rfl
  | cons k q ih =>
    have hq : execute f (k.execute f m) q i = k.execute f m i :=
      ih fun a ha => hnot a (List.mem_cons_of_mem _ ha)
    refine Eq.trans hq ?_
    cases k with
    | work a => exact hf a m i (hnot a List.mem_cons_self)
    | signal v => rfl

/-- **After the wait**, a cell holds what it will hold when the whole queue has executed. -/
theorem execute_take (hf : Frames f writes) (hcovers : WaitCovers q v (writes i))
    (hn : v ≤ fence (q.take n)) : execute f m (q.take n) i = execute f m q i := by
  have hsplit : execute f m q = execute f (execute f m (q.take n)) (q.drop n) := by
    rw [← execute_append, List.take_append_drop]
  rw [hsplit]
  exact (execute_of_not_writes hf (hcovers n hn)).symm

end GpuTimeline
