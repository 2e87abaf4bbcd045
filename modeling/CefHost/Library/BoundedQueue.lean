import Mathlib.Algebra.GroupWithZero.Nat
import Mathlib.Data.List.Basic

/-!
# Queues that forget

A queue that never holds more than its capacity: an element that finds it full pushes the oldest
one out. What it holds is always the end of what was pushed.

## Main definitions

* `BoundedQueue` — the elements, oldest first, no more than the capacity
* `BoundedQueue.push`, `BoundedQueue.pop`, `BoundedQueue.front`
* `BoundedQueue.step` — the queue as a machine that emits what is popped
-/

/-- A queue of at most `capacity` elements, oldest first. -/
structure BoundedQueue (capacity : ℕ) (α : Type*) where
  items : List α
  length_le : items.length ≤ capacity

/-- What a queue is asked to do. -/
inductive QueueOp (α : Type*)
  | push (x : α)
  | pop
deriving DecidableEq

namespace BoundedQueue

variable {capacity : ℕ} {α : Type*}

def empty (capacity : ℕ) (α : Type*) : BoundedQueue capacity α := ⟨[], Nat.zero_le _⟩

theorem length_pushed_le {l : List α} (hpos : 0 < capacity) (h : l.length ≤ capacity) (x : α) :
    (if l.length < capacity then l ++ [x] else l.tail ++ [x]).length ≤ capacity := by
  split
  · rw [List.length_append, List.length_singleton]
    omega
  · rw [List.length_append, List.length_singleton, List.length_tail]
    omega

/-- Adds an element; the oldest makes room for it if there is none. -/
def push [NeZero capacity] (q : BoundedQueue capacity α) (x : α) : BoundedQueue capacity α where
  items := if q.items.length < capacity then q.items ++ [x] else q.items.tail ++ [x]
  length_le := length_pushed_le (Nat.pos_of_neZero capacity) q.length_le x

/-- The oldest element. -/
def front (q : BoundedQueue capacity α) : Option α := q.items.head?

/-- Without its oldest element; an empty queue stays empty. -/
def pop (q : BoundedQueue capacity α) : BoundedQueue capacity α where
  items := q.items.tail
  length_le := by
    have hle := q.length_le
    rw [List.length_tail]
    omega

/-- The machine: a pop emits the element popped, or that there is none. -/
def step [NeZero capacity] (q : BoundedQueue capacity α) :
    QueueOp α → BoundedQueue capacity α × List (Option α)
  | .push x => (q.push x, [])
  | .pop => (q.pop, [q.front])

@[simp] theorem pop_items (q : BoundedQueue capacity α) : q.pop.items = q.items.tail := rfl

theorem push_of_lt [NeZero capacity] {q : BoundedQueue capacity α} (h : q.items.length < capacity)
    (x : α) : (q.push x).items = q.items ++ [x] := if_pos h

theorem push_of_full [NeZero capacity] {q : BoundedQueue capacity α}
    (h : capacity ≤ q.items.length) (x : α) : (q.push x).items = q.items.tail ++ [x] :=
  if_neg (Nat.not_lt.mpr h)

end BoundedQueue
