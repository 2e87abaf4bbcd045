import CefHost.Library.Runs
import CefHost.RingBuffer

/-!
# The input and control rings

The consumer process produces, the host reads. The producing side is not in this repository; it
is assumed to write `events[w % capacity]` only when it has seen `w - r < capacity`, and to store
`w + 1` afterwards. Each of its loads and stores is a step, and so is each access of `ReadEvent`
and `HasPendingEvents`, in any order.

## The counts behind the indices

The indices are 32-bit and wrap. The proof never looks at them directly: `Inv` says that
`write_index` is the number of events published and `read_index` the number of events returned,
each modulo `2 ^ 32`, and that the second is never more than a capacity behind the first. All
reasoning is then about two natural numbers and the window of the stream between them.

## Main results

* `InputChannel.Inv.next`, `InputChannel.inv_run` — the invariant, one access and whole runs
* `InputChannel.Inv.index_eq_iff` — the indices agree only when everything was returned
* `input_control_rings_fifo` — the three guarantees for both rings
-/

namespace CefHost

open FreeRunning

/-- Where the producing process is, with the values it has loaded. -/
inductive Producer (α : Type*)
  | idle
  /-- `write_index` loaded. -/
  | loadedWrite (e : α) (w : UInt32)
  /-- `read_index` loaded, and there is room. -/
  | hasRoom (e : α) (w : UInt32)
  /-- The slot is written, the index is not. -/
  | wrote (e : α) (w : UInt32)
deriving DecidableEq

/-- A ring with a process on either side. `published` and `results` record what has happened:
the events whose index was stored, and the results of the reader's calls, in order. -/
structure InputChannel (c : Capacity) (α : Type*) where
  ring : RingBuffer c α
  producer : Producer α
  reader : Reader α
  published : List α
  results : List (ReadResult α)

/-- The next access of one side. The event and the call matter only between two calls. -/
inductive RingAction (α : Type*)
  | produce (e : α)
  | consume (call : ReaderCall)
deriving DecidableEq

variable {c : Capacity} {α : Type*}

/-- The assumed producer, one access at a time. A producer that finds no room gives up. -/
def Producer.step (b : RingBuffer c α) :
    Producer α → α → RingBuffer c α × Producer α × Option α
  | .idle, e => (b, .loadedWrite e b.writeIndex, none)
  | .loadedWrite e w, _ =>
    if w - b.readIndex < c.sizeU32 then (b, .hasRoom e w, none) else (b, .idle, none)
  | .hasRoom e w, _ =>
    ({ b with events := Function.update b.events (c.slot w) e }, .wrote e w, none)
  | .wrote e w, _ => ({ b with writeIndex := w + 1 }, .idle, some e)

namespace InputChannel

/-- After `Init`, before any access. -/
def init (events : Fin c.size → α) : InputChannel c α where
  ring := .init events
  producer := .idle
  reader := .idle
  published := []
  results := []

def step (s : InputChannel c α) : RingAction α → InputChannel c α
  | .produce e =>
    let (b, p, out) := s.producer.step s.ring e
    { s with ring := b, producer := p, published := s.published ++ out.toList }
  | .consume call =>
    let (b, rd, out) := s.reader.step s.ring call
    { s with ring := b, reader := rd, results := s.results ++ out.toList }

/-- The events `ReadEvent` has returned, in order. -/
def returned (s : InputChannel c α) : List α := s.results.filterMap ReadResult.event?

end InputChannel

/-! ### The invariant -/

/-- What the producer's loaded values still mean, with `W` events published and `R` returned. -/
def Producer.Ok (c : Capacity) (W R : ℕ) (events : Fin c.size → α) : Producer α → Prop
  | .idle => True
  | .loadedWrite _ w => w = UInt32.ofNat W
  | .hasRoom _ w => w = UInt32.ofNat W ∧ W < R + c.size
  | .wrote e w => w = UInt32.ofNat W ∧ W < R + c.size ∧ events (c.slot (UInt32.ofNat W)) = e

/-- Room does not go away while the reader reads on. -/
theorem Producer.Ok.mono {W R R' : ℕ} {events : Fin c.size → α} {p : Producer α}
    (h : p.Ok c W R events) (hR : R ≤ R') : p.Ok c W R' events := by
  cases p with
  | idle => trivial
  | loadedWrite e w => exact h
  | hasRoom e w => exact ⟨h.1, Nat.lt_of_lt_of_le h.2 (Nat.add_le_add_right hR _)⟩
  | wrote e w => exact ⟨h.1, Nat.lt_of_lt_of_le h.2.1 (Nat.add_le_add_right hR _), h.2.2⟩

/-- What the reader's loaded values still mean after `R` returned events: nobody else moves
`read_index`, so the value it loaded stays current. -/
def Reader.Ok (R : ℕ) (published : List α) : Reader α → Prop
  | .idle => True
  | .loadedRead r => r = UInt32.ofNat R
  | .nonEmpty r => r = UInt32.ofNat R ∧ R < published.length
  | .copied r e => r = UInt32.ofNat R ∧ published[R]? = some e
  | .pollLoadedRead r => r = UInt32.ofNat R

theorem Reader.Ok.append {R : ℕ} {published : List α} {rd : Reader α} (h : rd.Ok R published)
    (e : α) : rd.Ok R (published ++ [e]) := by
  cases rd with
  | idle => trivial
  | loadedRead r => exact h
  | nonEmpty r => exact ⟨h.1, by rw [List.length_append]; exact Nat.lt_add_right _ h.2⟩
  | copied r a =>
    obtain ⟨hlt, -⟩ := List.getElem?_eq_some_iff.mp h.2
    exact ⟨h.1, by rw [List.getElem?_append_left hlt]; exact h.2⟩
  | pollLoadedRead r => exact h

/-- A prefix grows by the element that follows it. -/
theorem prefix_concat {l m : List α} (h : l <+: m) {e : α} (he : m[l.length]? = some e) :
    l ++ [e] <+: m := by
  obtain ⟨t, rfl⟩ := h
  rw [List.getElem?_append_right (Nat.le_refl _), Nat.sub_self] at he
  cases t with
  | nil => simp at he
  | cons a t =>
    obtain rfl : a = e := by simpa using he
    exact ⟨t, by simp⟩

namespace InputChannel

/-- The indices count, the reader is at most a capacity behind, and the slots in between hold the
events they should. -/
structure Inv (s : InputChannel c α) : Prop where
  writeIndex : s.ring.writeIndex = UInt32.ofNat s.published.length
  readIndex : s.ring.readIndex = UInt32.ofNat s.returned.length
  returned_prefix : s.returned <+: s.published
  room : s.published.length ≤ s.returned.length + c.size
  window : Window c s.ring.events s.published s.returned.length s.published.length
  producer : s.producer.Ok c s.published.length s.returned.length s.ring.events
  reader : s.reader.Ok s.returned.length s.published

theorem inv_init (events : Fin c.size → α) : (init events).Inv where
  writeIndex := rfl
  readIndex := rfl
  returned_prefix := List.prefix_rfl
  room := Nat.zero_le _
  window := .empty _ _ _
  producer := trivial
  reader := trivial

theorem Inv.length_le {s : InputChannel c α} (h : s.Inv) :
    s.returned.length ≤ s.published.length := h.returned_prefix.length_le

/-- The two counters are equal only when everything published has been returned. -/
theorem Inv.index_eq_iff {s : InputChannel c α} (h : s.Inv) :
    s.ring.readIndex = s.ring.writeIndex ↔ s.returned = s.published := by
  have hlt := c.size_lt
  rw [h.readIndex, h.writeIndex, ofNat_inj h.length_le (by have := h.room; omega)]
  exact ⟨fun hlen => h.returned_prefix.eq_of_length hlen, fun heq => by rw [heq]⟩

/-! ### One access at a time -/

/-- A step of the producer that stores neither index nor slot only moves the producer. -/
theorem Inv.moveProducer {s : InputChannel c α} (h : s.Inv) {p : Producer α}
    (hp : p.Ok c s.published.length s.returned.length s.ring.events) :
    Inv { s with producer := p } :=
  ⟨h.writeIndex, h.readIndex, h.returned_prefix, h.room, h.window, hp, h.reader⟩

/-- The test for room is about 32-bit numbers; the invariant turns it into one about the counts. -/
theorem Inv.lt_of_room {s : InputChannel c α} (h : s.Inv)
    (hroom : UInt32.ofNat s.published.length - s.ring.readIndex < c.sizeU32) :
    s.published.length < s.returned.length + c.size := by
  have hle := h.length_le
  have hcap := c.size_lt
  rw [UInt32.lt_iff_toNat_lt, c.toNat_sizeU32, h.readIndex,
    toNat_ofNat_sub hle (by have := h.room; omega)] at hroom
  omega

/-- The producer fills the slot behind the published events. -/
theorem Inv.fill {s : InputChannel c α} (h : s.Inv) {e : α} {w : UInt32}
    (hp : s.producer = .hasRoom e w) :
    Inv { s with
      ring := { s.ring with events := Function.update s.ring.events (c.slot w) e }
      producer := .wrote e w } := by
  have hprod := h.producer
  rw [hp] at hprod
  obtain ⟨rfl, hlt⟩ := hprod
  exact ⟨h.writeIndex, h.readIndex, h.returned_prefix, h.room, h.window.write hlt e,
    ⟨rfl, hlt, Function.update_self ..⟩, h.reader⟩

/-- The producer's store of `write_index` publishes the event in that slot. -/
theorem Inv.publish {s : InputChannel c α} (h : s.Inv) {e : α} {w : UInt32}
    (hp : s.producer = .wrote e w) :
    Inv { s with
      ring := { s.ring with writeIndex := w + 1 }
      producer := .idle
      published := s.published ++ [e] } := by
  have hprod := h.producer
  rw [hp] at hprod
  obtain ⟨rfl, hlt, hslot⟩ := hprod
  have hlen : (s.published ++ [e]).length = s.published.length + 1 := by simp
  refine ⟨?_, h.readIndex, h.returned_prefix.trans (List.prefix_append _ _), ?_, ?_, trivial,
    h.reader.append e⟩
  · rw [ofNat_succ, hlen]
  · change (s.published ++ [e]).length ≤ s.returned.length + c.size
    omega
  · change Window c s.ring.events (s.published ++ [e]) s.returned.length
      (s.published ++ [e]).length
    rw [hlen]
    exact h.window.append rfl hslot

theorem Inv.produce {s : InputChannel c α} (h : s.Inv) (e : α) : (s.step (.produce e)).Inv := by
  cases hp : s.producer with
  | idle =>
    rw [show s.step (.produce e) = { s with producer := .loadedWrite e s.ring.writeIndex } by
      simp [step, hp, Producer.step]]
    exact h.moveProducer h.writeIndex
  | loadedWrite e' w =>
    have hw : w = UInt32.ofNat s.published.length := by
      have hprod := h.producer
      rwa [hp] at hprod
    by_cases hroom : w - s.ring.readIndex < c.sizeU32
    · rw [show s.step (.produce e) = { s with producer := .hasRoom e' w } by
        simp [step, hp, Producer.step, hroom]]
      exact h.moveProducer ⟨hw, h.lt_of_room (hw ▸ hroom)⟩
    · rw [show s.step (.produce e) = { s with producer := .idle } by
        simp [step, hp, Producer.step, hroom]]
      exact h.moveProducer trivial
  | hasRoom e' w =>
    rw [show s.step (.produce e) =
        { s with
          ring := { s.ring with events := Function.update s.ring.events (c.slot w) e' }
          producer := .wrote e' w } by
      simp [step, hp, Producer.step]]
    exact h.fill hp
  | wrote e' w =>
    rw [show s.step (.produce e) =
        { s with
          ring := { s.ring with writeIndex := w + 1 }
          producer := .idle
          published := s.published ++ [e'] } by
      simp [step, hp, Producer.step]]
    exact h.publish hp

/-- A step of the reader that returns no event only moves the reader. -/
theorem Inv.moveReader {s : InputChannel c α} (h : s.Inv) {rd : Reader α}
    {out : List (ReadResult α)} (hout : out.filterMap ReadResult.event? = [])
    (hrd : rd.Ok s.returned.length s.published) :
    InputChannel.Inv { s with reader := rd, results := s.results ++ out } := by
  have hret : InputChannel.returned { s with reader := rd, results := s.results ++ out }
      = s.returned := by
    rw [returned, List.filterMap_append, hout, List.append_nil]
    rfl
  refine ⟨h.writeIndex, ?_, ?_, ?_, ?_, ?_, ?_⟩ <;> rw [hret]
  exacts [h.readIndex, h.returned_prefix, h.room, h.window, h.producer, hrd]

/-- The reader's store of `read_index` returns the event it has copied. -/
theorem Inv.readStore {s : InputChannel c α} (h : s.Inv) {e : α} {r : UInt32}
    (hr : s.reader = .copied r e) :
    Inv { s with
      ring := { s.ring with readIndex := r + 1 }
      reader := .idle
      results := s.results ++ [.event e] } := by
  have hread := h.reader
  rw [hr] at hread
  obtain ⟨rfl, hget⟩ := hread
  have hret : InputChannel.returned { s with
      ring := { s.ring with readIndex := UInt32.ofNat s.returned.length + 1 }
      reader := .idle
      results := s.results ++ [.event e] } = s.returned ++ [e] := by
    rw [returned, List.filterMap_append]
    rfl
  have hlen : (s.returned ++ [e]).length = s.returned.length + 1 := by simp
  refine ⟨h.writeIndex, ?_, ?_, ?_, ?_, ?_, trivial⟩
  · rw [hret, hlen, ← ofNat_succ]
  · rw [hret]; exact prefix_concat h.returned_prefix hget
  · rw [hret, hlen]; exact Nat.le_trans h.room (by omega)
  · rw [hret, hlen]; exact h.window.mono (Nat.le_succ _)
  · rw [hret, hlen]; exact h.producer.mono (Nat.le_succ _)

theorem Inv.consume {s : InputChannel c α} (h : s.Inv) (call : ReaderCall) :
    (s.step (.consume call)).Inv := by
  have hread := h.reader
  cases hr : s.reader with
  | idle =>
    cases call with
    | readEvent =>
      rw [show s.step (.consume .readEvent)
          = { s with reader := .loadedRead s.ring.readIndex, results := s.results ++ [] } by
        simp [step, hr, Reader.step]]
      exact h.moveReader rfl h.readIndex
    | hasPendingEvents =>
      rw [show s.step (.consume .hasPendingEvents)
          = { s with reader := .pollLoadedRead s.ring.readIndex, results := s.results ++ [] } by
        simp [step, hr, Reader.step]]
      exact h.moveReader rfl h.readIndex
  | loadedRead r =>
    rw [hr] at hread
    by_cases heq : r = s.ring.writeIndex
    · rw [show s.step (.consume call)
          = { s with reader := .idle, results := s.results ++ [.empty] } by
        simp [step, hr, Reader.step, heq]]
      exact h.moveReader rfl trivial
    · rw [show s.step (.consume call)
          = { s with reader := .nonEmpty r, results := s.results ++ [] } by
        simp [step, hr, Reader.step, heq]]
      refine h.moveReader rfl ⟨hread, ?_⟩
      have hne : s.returned ≠ s.published := fun hall =>
        heq (by rw [hread, ← h.readIndex]; exact h.index_eq_iff.mpr hall)
      exact Nat.lt_of_le_of_ne h.length_le fun hlen => hne (h.returned_prefix.eq_of_length hlen)
  | nonEmpty r =>
    rw [hr] at hread
    obtain ⟨rfl, hlt⟩ := hread
    rw [show s.step (.consume call)
        = { s with
            reader := .copied (UInt32.ofNat s.returned.length)
              (s.ring.events (c.slot (UInt32.ofNat s.returned.length)))
            results := s.results ++ [] } by
      simp [step, hr, Reader.step]]
    exact h.moveReader rfl ⟨rfl, h.window.get (Nat.le_refl _) hlt⟩
  | copied r e =>
    rw [show s.step (.consume call) =
        { s with
          ring := { s.ring with readIndex := r + 1 }
          reader := .idle
          results := s.results ++ [.event e] } by
      simp [step, hr, Reader.step]]
    exact h.readStore hr
  | pollLoadedRead r =>
    rw [show s.step (.consume call)
        = { s with reader := .idle, results := s.results ++ [.pending (r != s.ring.writeIndex)] } by
      simp [step, hr, Reader.step]]
    exact h.moveReader rfl trivial

theorem Inv.next {s : InputChannel c α} (h : s.Inv) (a : RingAction α) : (s.step a).Inv := by
  cases a with
  | produce e => exact h.produce e
  | consume call => exact h.consume call

/-- The invariant holds after every interleaving. -/
theorem inv_run (events : Fin c.size → α) (as : List (RingAction α)) :
    (Runs.run step (init events) as).Inv :=
  Runs.invariant (fun _ a h => h.next a) (inv_init events) as

/-! ### What the reader is promised -/

/-- Everything returned so far is a prefix of everything published. -/
def ReturnsPrefix (s : InputChannel c α) : Prop := s.returned <+: s.published

/-- If the next access of the reader makes `ReadEvent` return false — that access is the load of
`write_index` — then everything published so far has been returned. -/
def EmptyMeansDrained (s : InputChannel c α) : Prop :=
  ∀ call, (s.step (.consume call)).results = s.results ++ [.empty] → s.returned = s.published

/-- `HasPendingEvents` called now, with no access of the producer in between, answers whether the
`ReadEvent` after it succeeds. -/
def PollPredictsRead (s : InputChannel c α) : Prop :=
  s.reader = .idle →
    let t := Runs.run step s (List.replicate 2 (.consume .hasPendingEvents))
    ∃ answer, t.results = s.results ++ [.pending answer] ∧
      (answer = true → ∃ e, (Runs.run step t (List.replicate 4 (.consume .readEvent))).results
        = t.results ++ [.event e]) ∧
      (answer = false → (Runs.run step t (List.replicate 2 (.consume .readEvent))).results
        = t.results ++ [.empty])

theorem Inv.emptyMeansDrained {s : InputChannel c α} (h : s.Inv) : s.EmptyMeansDrained := by
  intro call hempty
  have hread := h.reader
  cases hr : s.reader with
  | loadedRead r =>
    rw [hr] at hread
    by_cases heq : r = s.ring.writeIndex
    · refine h.index_eq_iff.mp ?_
      rw [h.readIndex, ← heq]
      exact hread.symm
    · simp [step, hr, Reader.step, heq] at hempty
  | idle => cases call <;> simp [step, hr, Reader.step] at hempty
  | nonEmpty r => simp [step, hr, Reader.step] at hempty
  | copied r e => simp [step, hr, Reader.step] at hempty
  | pollLoadedRead r => simp [step, hr, Reader.step] at hempty

/-- The consumer's steps in a channel are those of the reader left alone. -/
theorem run_consume (s : InputChannel c α) (call : ReaderCall) (n : ℕ) :
    Runs.run step s (List.replicate n (.consume call)) =
      { s with
        ring := (Reader.alone call n s.ring s.reader).1
        reader := (Reader.alone call n s.ring s.reader).2.1
        results := s.results ++ (Reader.alone call n s.ring s.reader).2.2 } := by
  induction n generalizing s with
  | zero => simp [Reader.alone]
  | succ n ih => simp [List.replicate_succ, ih, step, Reader.alone]

theorem pollPredictsRead (s : InputChannel c α) : s.PollPredictsRead := by
  intro hidle
  have hpoll := run_consume s .hasPendingEvents 2
  rw [hidle, reader_hasPendingEvents] at hpoll
  simp only [hpoll]
  refine ⟨s.ring.hasPendingEvents, rfl, fun hyes => ?_, fun hno => ?_⟩
  · rw [hasPendingEvents_eq_isSome, Option.isSome_iff_exists] at hyes
    obtain ⟨⟨e, b⟩, hread⟩ := hyes
    exact ⟨e, by rw [run_consume, reader_readEvent_some hread]⟩
  · rw [hasPendingEvents_eq_isSome, Option.isSome_eq_false_iff, Option.isNone_iff_eq_none] at hno
    rw [run_consume, reader_readEvent_none hno]

end InputChannel

/-- **The input and control rings are lossless FIFOs**, for every interleaving of the producer's
accesses with the host's, and past any number of wraps of the indices. The control ring has no
`HasPendingEvents`. -/
theorem input_control_rings_fifo :
    (∀ (events : Fin inputRing.size → InputEvent) (as : List (RingAction InputEvent)),
      let s := Runs.run InputChannel.step (InputChannel.init events) as
      s.ReturnsPrefix ∧ s.EmptyMeansDrained ∧ s.PollPredictsRead) ∧
    ∀ (events : Fin controlRing.size → ControlEvent) (as : List (RingAction ControlEvent)),
      let s := Runs.run InputChannel.step (InputChannel.init events) as
      s.ReturnsPrefix ∧ s.EmptyMeansDrained := by
  refine ⟨fun events as => ?_, fun events as => ?_⟩
  · have h := InputChannel.inv_run events as
    exact ⟨h.returned_prefix, h.emptyMeansDrained, InputChannel.pollPredictsRead _⟩
  · have h := InputChannel.inv_run events as
    exact ⟨h.returned_prefix, h.emptyMeansDrained⟩

end CefHost
