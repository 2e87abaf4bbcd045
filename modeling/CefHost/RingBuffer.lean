import CefHost.SharedMemoryLayout

/-!
# Ring buffers in shared memory

`InputRingBuffer`, `ControlRingBuffer` and `ConsoleRingBuffer` have one layout: two free-running
atomic indices and an array of events. `SharedInputBuffer::ReadEvent`,
`SharedControlBuffer::ReadEvent` and the assumed console consumer follow one reading protocol.
The capacity and the event type are the only differences, so both are parameters here.

## Two granularities

`RingBuffer.readEvent` and `RingBuffer.hasPendingEvents` are the calls executed without
interruption. `Reader.step` is the same code one atomic access at a time, for the interleavings
with a producer in another process. `reader_readEvent_some` and its companions say that a reader
left alone computes the former.

The indices live in another process's reach, so a load is a step of its own, and what it read is
kept in the reader's own state.
-/

namespace CefHost

open FreeRunning

/-- A ring: `write_index`, `read_index` and `events[capacity]`. -/
structure RingBuffer (c : Capacity) (α : Type*) where
  writeIndex : UInt32
  readIndex : UInt32
  events : Fin c.size → α

variable {c : Capacity} {α : Type*}

namespace RingBuffer

/-- The ring after `Init`: both indices zero, the array as it was mapped. -/
def init (events : Fin c.size → α) : RingBuffer c α := ⟨0, 0, events⟩

/-- `ReadEvent` without interruption. -/
def readEvent (b : RingBuffer c α) : Option (α × RingBuffer c α) :=
  let r := b.readIndex
  let w := b.writeIndex
  if r = w then none else some (b.events (c.slot r), { b with readIndex := r + 1 })

/-- `HasPendingEvents` without interruption. -/
def hasPendingEvents (b : RingBuffer c α) : Bool := b.readIndex != b.writeIndex

end RingBuffer

/-! ### The reading protocol, one access at a time -/

/-- The two calls a consumer makes. -/
inductive ReaderCall
  | readEvent
  | hasPendingEvents
deriving DecidableEq

/-- Where the consumer is inside a call, with the values it has loaded. -/
inductive Reader (α : Type*)
  /-- Between two calls. -/
  | idle
  /-- In `ReadEvent`, `read_index` loaded. -/
  | loadedRead (r : UInt32)
  /-- In `ReadEvent`, both loaded and found different. -/
  | nonEmpty (r : UInt32)
  /-- In `ReadEvent`, the event copied out. -/
  | copied (r : UInt32) (e : α)
  /-- In `HasPendingEvents`, `read_index` loaded. -/
  | pollLoadedRead (r : UInt32)
deriving DecidableEq

/-- What a call returns. -/
inductive ReadResult (α : Type*)
  /-- `ReadEvent` returned true with this event. -/
  | event (e : α)
  /-- `ReadEvent` returned false. -/
  | empty
  /-- `HasPendingEvents` returned this. -/
  | pending (answer : Bool)
deriving DecidableEq

/-- The event a result carries. -/
def ReadResult.event? : ReadResult α → Option α
  | .event e => some e
  | _ => none

/-- The next atomic access of the consumer; `call` matters only between two calls. -/
def Reader.step (b : RingBuffer c α) :
    Reader α → ReaderCall → RingBuffer c α × Reader α × Option (ReadResult α)
  | .idle, .readEvent => (b, .loadedRead b.readIndex, none)
  | .idle, .hasPendingEvents => (b, .pollLoadedRead b.readIndex, none)
  | .loadedRead r, _ =>
    if r = b.writeIndex then (b, .idle, some .empty) else (b, .nonEmpty r, none)
  | .nonEmpty r, _ => (b, .copied r (b.events (c.slot r)), none)
  | .copied r e, _ => ({ b with readIndex := r + 1 }, .idle, some (.event e))
  | .pollLoadedRead r, _ => (b, .idle, some (.pending (r != b.writeIndex)))

/-- The consumer left alone for `n` steps inside one call: the ring, its own state and what it
has returned. -/
def Reader.alone (call : ReaderCall) :
    ℕ → RingBuffer c α → Reader α → RingBuffer c α × Reader α × List (ReadResult α)
  | 0, b, rd => (b, rd, [])
  | n + 1, b, rd =>
    let (b', rd', out) := Reader.step b rd call
    let (b'', rd'', outs) := Reader.alone call n b' rd'
    (b'', rd'', out.toList ++ outs)

/-- Left alone on a non-empty ring, the four accesses of `ReadEvent` are `readEvent`. -/
theorem reader_readEvent_some {b b' : RingBuffer c α} {e : α} (h : b.readEvent = some (e, b')) :
    Reader.alone .readEvent 4 b .idle = (b', .idle, [.event e]) := by
  simp only [RingBuffer.readEvent] at h
  split at h
  · cases h
  · rename_i hne
    cases h
    simp [Reader.alone, Reader.step, hne]

/-- On an empty ring it stops after the second load. -/
theorem reader_readEvent_none {b : RingBuffer c α} (h : b.readEvent = none) :
    Reader.alone .readEvent 2 b .idle = (b, .idle, [.empty]) := by
  simp only [RingBuffer.readEvent] at h
  split at h
  · rename_i heq
    simp [Reader.alone, Reader.step, heq]
  · cases h

theorem reader_hasPendingEvents (b : RingBuffer c α) :
    Reader.alone .hasPendingEvents 2 b .idle = (b, .idle, [.pending b.hasPendingEvents]) := by
  simp [Reader.alone, Reader.step, RingBuffer.hasPendingEvents]

/-- The two calls agree on what "empty" is. -/
theorem hasPendingEvents_eq_isSome (b : RingBuffer c α) :
    b.hasPendingEvents = b.readEvent.isSome := by
  by_cases h : b.readIndex = b.writeIndex <;>
    simp [RingBuffer.hasPendingEvents, RingBuffer.readEvent, h]

end CefHost
