import CefHost.ConsoleRing
import CefHost.Library.BoundedQueue
import CefHost.Library.Simulation

/-!
# The console ring as a queue

`WriteEvent` and the reading protocol, each executed without interruption: the ring is then a
queue that discards its oldest element when it is full. The indices are 32-bit counters that are
never reset, so neither the number of events nor where the counters stand makes a difference.

## Main definitions

* `RingBuffer.writeEvent` — the whole call
* `RingBuffer.step` — the ring as a machine that emits what is read
* `RingBuffer.Represents` — the queue a ring stands for

## Main results

* `ConsoleChannel.run_write` — a writer that is not interrupted computes `writeEvent`
* `RingBuffer.Represents.writeEvent`, `RingBuffer.Represents.read` — one call
* `console_ring_queue` — every sequence of calls
-/

namespace CefHost

open FreeRunning

variable {c : Capacity} {α : Type*}

instance : NeZero c.size := ⟨Nat.ne_of_gt c.size_pos⟩

namespace RingBuffer

/-- `WriteEvent` without interruption. -/
def writeEvent (b : RingBuffer c α) (inEvent : α) : RingBuffer c α :=
  let w := b.writeIndex
  let r := b.readIndex
  -- drop oldest to keep newest logs
  let b := if c.sizeU32 ≤ w - r then { b with readIndex := r + 1 } else b
  let writeIndex := b.writeIndex
  { b with
    events := Function.update b.events (c.slot writeIndex) inEvent
    writeIndex := writeIndex + 1 }

/-- One whole call: an event is pushed, or read if there is one. -/
def step (b : RingBuffer c α) : QueueOp α → RingBuffer c α × List (Option α)
  | .push e => (b.writeEvent e, [])
  | .pop =>
    match b.readEvent with
    | some (e, b') => (b', [some e])
    | none => (b, [none])

end RingBuffer

/-- A writer left alone computes `writeEvent`, and publishes the event: in five accesses, or in
six when it finds the ring full. -/
theorem ConsoleChannel.run_write (s : ConsoleChannel c α) (h : s.writer = .idle) (e : α) :
    Runs.run ConsoleChannel.step s (List.replicate
        (if c.sizeU32 ≤ s.ring.writeIndex - s.ring.readIndex then 6 else 5) (.write e))
      = { s with ring := s.ring.writeEvent e, written := s.written ++ [e] } := by
  by_cases hfull : c.sizeU32 ≤ s.ring.writeIndex - s.ring.readIndex <;>
    simp [hfull, h, List.replicate, ConsoleChannel.step, ConsoleWriter.step, RingBuffer.writeEvent]

namespace RingBuffer

/-- The ring stands for the queue: of the events `written` so far, the first `R` are gone, and the
rest are in the queue and in their slots. -/
structure Represents (b : RingBuffer c α) (q : BoundedQueue c.size α) (written : List α)
    (R : ℕ) : Prop where
  writeIndex : b.writeIndex = UInt32.ofNat written.length
  readIndex : b.readIndex = UInt32.ofNat R
  le : R ≤ written.length
  window : Window c b.events written R written.length
  items : q.items = written.drop R

variable {b : RingBuffer c α} {q : BoundedQueue c.size α} {written : List α} {R : ℕ}

theorem represents_init (events : Fin c.size → α) :
    (init events).Represents (.empty c.size α) [] 0 where
  writeIndex := rfl
  readIndex := rfl
  le := Nat.le_refl 0
  window := .empty events [] 0
  items := rfl

/-- The distance of the indices is the length of the queue. -/
theorem Represents.length_eq (h : b.Represents q written R) :
    (b.writeIndex - b.readIndex).toNat = q.items.length := by
  have hlen : q.items.length = written.length - R := by rw [h.items, List.length_drop]
  have hle := q.length_le
  have hlt := c.size_lt
  rw [h.writeIndex, h.readIndex, toNat_ofNat_sub h.le (by omega), hlen]

theorem Represents.full_iff (h : b.Represents q written R) :
    c.sizeU32 ≤ b.writeIndex - b.readIndex ↔ c.size ≤ q.items.length := by
  rw [UInt32.le_iff_toNat_le, c.toNat_sizeU32, h.length_eq]

/-- The copy into the slot and the store of `write_index`. -/
theorem Represents.store (h : b.Represents q written R) {q' : BoundedQueue c.size α}
    (hroom : written.length < R + c.size) (e : α) (hitems : q'.items = q.items ++ [e]) :
    Represents { b with
      events := Function.update b.events (c.slot b.writeIndex) e
      writeIndex := b.writeIndex + 1 } q' (written ++ [e]) R := by
  have hlen : (written ++ [e]).length = written.length + 1 := by simp
  refine ⟨?_, h.readIndex, by rw [hlen]; exact Nat.le_succ_of_le h.le, ?_, ?_⟩
  · change b.writeIndex + 1 = _
    rw [h.writeIndex, ofNat_succ, hlen]
  · change Window c (Function.update b.events (c.slot b.writeIndex) e) _ _ _
    rw [hlen, h.writeIndex]
    exact (h.window.write hroom e).append rfl (Function.update_self ..)
  · rw [hitems, h.items, List.drop_append_of_le_length h.le]

theorem Represents.writeEvent (h : b.Represents q written R) (e : α) :
    ∃ R', (b.writeEvent e).Represents (q.push e) (written ++ [e]) R' := by
  have hlen : q.items.length = written.length - R := by rw [h.items, List.length_drop]
  have hle := h.le
  have hpos := c.size_pos
  rw [RingBuffer.writeEvent]
  by_cases hfull : c.sizeU32 ≤ b.writeIndex - b.readIndex
  · -- the oldest event is dropped first
    rw [if_pos hfull]
    have hsize := h.full_iff.mp hfull
    have hqle := q.length_le
    have hdrop : Represents { b with readIndex := b.readIndex + 1 } q.pop written (R + 1) := by
      refine ⟨h.writeIndex, ?_, by omega, h.window.mono (Nat.le_succ R), ?_⟩
      · change b.readIndex + 1 = _
        rw [h.readIndex, ofNat_succ]
      · rw [BoundedQueue.pop_items, h.items, List.tail_drop]
    exact ⟨R + 1, hdrop.store (by omega) e (BoundedQueue.push_of_full hsize e)⟩
  · rw [if_neg hfull]
    have hroom := Nat.not_le.mp (h.full_iff.not.mp hfull)
    exact ⟨R, h.store (by omega) e (BoundedQueue.push_of_lt hroom e)⟩

/-- A read returns the front of the queue and takes it out. -/
theorem Represents.read (h : b.Represents q written R) :
    (b.step .pop).2 = [q.front] ∧ ∃ R', (b.step .pop).1.Represents q.pop written R' := by
  have hlen : q.items.length = written.length - R := by rw [h.items, List.length_drop]
  have hle := h.le
  have hqle := q.length_le
  have hlt := c.size_lt
  have hempty : b.readIndex = b.writeIndex ↔ R = written.length := by
    rw [h.readIndex, h.writeIndex]
    exact ofNat_inj hle (by omega)
  by_cases heq : R = written.length
  · have hnone : b.readEvent = none := if_pos (hempty.mpr heq)
    have hnil : q.items = [] := by rw [h.items, heq, List.drop_length]
    rw [step, hnone]
    refine ⟨?_, R, h.writeIndex, h.readIndex, hle, h.window, ?_⟩
    · rw [BoundedQueue.front, hnil]
      rfl
    · rw [← h.items, BoundedQueue.pop_items, hnil]
      rfl
  · have hsome : b.readEvent
        = some (b.events (c.slot b.readIndex), { b with readIndex := b.readIndex + 1 }) :=
      if_neg (hempty.not.mpr heq)
    rw [step, hsome]
    refine ⟨?_, R + 1, h.writeIndex, ?_, by omega, h.window.mono (Nat.le_succ R), ?_⟩
    · rw [BoundedQueue.front, h.items, List.head?_drop, h.window.get (Nat.le_refl R) (by omega),
        h.readIndex]
    · change b.readIndex + 1 = _
      rw [h.readIndex, ofNat_succ]
    · rw [BoundedQueue.pop_items, h.items, List.tail_drop]

/-- The ring stands for the queue, whatever has been written and read so far. -/
def StandsFor (b : RingBuffer c α) (q : BoundedQueue c.size α) : Prop :=
  ∃ written R, b.Represents q written R

/-- **One call** of either side: the ring emits what the queue emits, and stands for it again. -/
theorem StandsFor.step (h : b.StandsFor q) (op : QueueOp α) :
    (b.step op).2 = (q.step op).2 ∧ (b.step op).1.StandsFor (q.step op).1 := by
  obtain ⟨written, R, hrep⟩ := h
  cases op with
  | push e =>
    obtain ⟨R', hrep'⟩ := hrep.writeEvent e
    exact ⟨rfl, written ++ [e], R', hrep'⟩
  | pop =>
    obtain ⟨hout, R', hrep'⟩ := hrep.read
    exact ⟨hout, written, R', hrep'⟩

/-- Every sequence of calls. -/
theorem trace_eq_queue (events : Fin c.size → α) (ops : List (QueueOp α)) :
    (Simulation.trace step (init events) ops).2
        = (Simulation.trace BoundedQueue.step (.empty c.size α) ops).2 ∧
      (Simulation.trace step (init events) ops).1.StandsFor
        (Simulation.trace BoundedQueue.step (.empty c.size α) ops).1 :=
  Simulation.trace_eq (fun _ _ op h => (StandsFor.step h op).1)
    (fun _ _ op h => (StandsFor.step h op).2) ⟨[], 0, represents_init events⟩ ops

end RingBuffer

/-- **The console ring is a queue**: from `Init` on, whatever the calls and however many, the ring
returns what a queue of capacity `CONSOLE_RING_CAPACITY` returns that discards its oldest element
when it is full, and the distance of its indices is the length of that queue. -/
theorem console_ring_queue (events : Fin consoleRing.size → ConsoleLogEvent)
    (ops : List (QueueOp ConsoleLogEvent)) :
    let ring := Simulation.trace RingBuffer.step (RingBuffer.init (c := consoleRing) events) ops
    let queue := Simulation.trace BoundedQueue.step
      (BoundedQueue.empty consoleRing.size ConsoleLogEvent) ops
    ring.2 = queue.2 ∧
      (ring.1.writeIndex - ring.1.readIndex).toNat = queue.1.items.length ∧
      queue.1.items.length ≤ consoleRingCapacity := by
  intro ring queue
  obtain ⟨hout, written, R, hrep⟩ := RingBuffer.trace_eq_queue (c := consoleRing) events ops
  exact ⟨hout, hrep.length_eq, queue.1.length_le⟩

end CefHost
