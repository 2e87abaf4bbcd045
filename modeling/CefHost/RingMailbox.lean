import CefHost.InputRing
import CefHost.Library.EventLoop

/-!
# A ring as a mailbox

The input and control rings, as their worker threads use them: the consumer process produces, the
thread makes the two calls of the reading protocol, one atomic access at a time. The states are the
channels that satisfy `InputChannel.Inv`, so the laws of a mailbox need no side condition.

## Main definitions

* `ringMailbox` — the mailbox of a ring
-/

namespace CefHost

open EventLoop

variable {c : FreeRunning.Capacity} {α : Type*}

/-- What a result tells the thread. -/
def ReadResult.answer : ReadResult α → Answer α
  | .event e => .entry e
  | .empty => .nothing
  | .pending true => .pending
  | .pending false => .nothing

/-- The call of the reading protocol behind a call of a mailbox. -/
def readerCall : Call → ReaderCall
  | .take => .readEvent
  | .poll => .hasPendingEvents

namespace Reader

/-- The call the reader is in the middle of. -/
def calling : Reader α → Option Call
  | idle => none
  | loadedRead _ => some .take
  | nonEmpty _ => some .take
  | copied _ _ => some .take
  | pollLoadedRead _ => some .poll

/-- The accesses left of a call; four before a call. -/
def left : Reader α → ℕ
  | idle => 4
  | loadedRead _ => 3
  | nonEmpty _ => 2
  | copied _ _ => 1
  | pollLoadedRead _ => 1

theorem left_le (rd : Reader α) : rd.left ≤ 4 := by
  cases rd <;> simp [left]

/-- The answer of an access, if the access is the last of its call. -/
def answer (rd : Reader α) (b : RingBuffer c α) (k : Call) : Option (Answer α) :=
  (rd.step b (readerCall k)).2.2.map ReadResult.answer

variable {rd : Reader α} {b : RingBuffer c α} {k : Call}

/-- An access without an answer brings the call nearer to its end. -/
theorem left_of_none (h : rd.answer b k = none) :
    (rd.step b (readerCall k)).2.1.left < rd.left := by
  rw [answer, Option.map_eq_none_iff] at h
  cases rd with
  | idle => cases k <;> simp [step, readerCall, left]
  | loadedRead r =>
    by_cases hr : r = b.writeIndex
    · simp [step, hr] at h
    · simp [step, hr, left]
  | nonEmpty r => exact Nat.lt_succ_self 1
  | copied r e => simp [step] at h
  | pollLoadedRead r => simp [step] at h

theorem calling_of_none (hk : rd.calling = none ∨ rd.calling = some k)
    (h : rd.answer b k = none) : (rd.step b (readerCall k)).2.1.calling = some k := by
  rw [answer, Option.map_eq_none_iff] at h
  cases rd with
  | idle => cases k <;> rfl
  | loadedRead r =>
    by_cases hr : r = b.writeIndex
    · simp [step, hr] at h
    · simpa [step, hr, calling] using hk
  | nonEmpty r => simpa [step, calling] using hk
  | copied r e => simp [step] at h
  | pollLoadedRead r => simp [step] at h

/-- The last access of a call gives an answer of that call. -/
theorem calling_of_some {a : Answer α} (hk : rd.calling = none ∨ rd.calling = some k)
    (h : rd.answer b k = some a) :
    (rd.step b (readerCall k)).2.1.calling = none ∧ k.Gives a := by
  obtain ⟨r, hr, rfl⟩ := Option.map_eq_some_iff.mp h
  cases rd with
  | idle => cases k <;> simp [step, readerCall] at hr
  | loadedRead r' =>
    obtain rfl : Call.take = k := by simpa [calling] using hk
    by_cases hw : r' = b.writeIndex
    · simp only [step, hw, if_true, Option.some.injEq] at hr ⊢
      subst hr
      exact ⟨rfl, trivial⟩
    · simp [step, hw] at hr
  | nonEmpty r' => simp [step] at hr
  | copied r' e =>
    obtain rfl : Call.take = k := by simpa [calling] using hk
    obtain rfl : ReadResult.event e = r := by simpa [step] using hr
    exact ⟨rfl, trivial⟩
  | pollLoadedRead r' =>
    obtain rfl : Call.poll = k := by simpa [calling] using hk
    obtain rfl : ReadResult.pending (r' != b.writeIndex) = r := by simpa [step] using hr
    refine ⟨rfl, ?_⟩
    cases r' != b.writeIndex <;> trivial

end Reader

/-- A result and its answer carry the same events. -/
theorem ReadResult.answer_entries (r : ReadResult α) : r.answer.entries = r.event?.toList := by
  match r with
  | .event e => rfl
  | .empty => rfl
  | .pending true => rfl
  | .pending false => rfl

/-- A channel that is in order. -/
abbrev OrderlyChannel (c : FreeRunning.Capacity) (α : Type*) := { s : InputChannel c α // s.Inv }

namespace InputChannel

variable {s : InputChannel c α} {call : ReaderCall}

theorem returned_consume (s : InputChannel c α) (call : ReaderCall) :
    (s.step (.consume call)).returned
      = s.returned ++ (s.reader.step s.ring call).2.2.toList.filterMap ReadResult.event? := by
  rw [returned, step, List.filterMap_append]
  rfl

theorem returned_of_none {k : Call} (h : s.reader.answer s.ring k = none) :
    (s.step (.consume (readerCall k))).returned = s.returned := by
  rw [Reader.answer, Option.map_eq_none_iff] at h
  rw [returned_consume, h]
  exact List.append_nil _

theorem returned_of_some {k : Call} {a : Answer α} (h : s.reader.answer s.ring k = some a) :
    (s.step (.consume (readerCall k))).returned = s.returned ++ a.entries := by
  obtain ⟨r, hr, rfl⟩ := Option.map_eq_some_iff.mp h
  rw [returned_consume, hr, ReadResult.answer_entries]
  cases r <;> rfl

/-- Both negative answers come from a load of `write_index` that met the read index. -/
theorem Inv.drained_of_nothing (hs : s.Inv) {k : Call}
    (h : s.reader.answer s.ring k = some .nothing) : s.returned = s.published := by
  obtain ⟨r, hr, ha⟩ := Option.map_eq_some_iff.mp h
  match r with
  | .empty =>
    refine hs.emptyMeansDrained (readerCall k) ?_
    show s.results ++ (s.reader.step s.ring (readerCall k)).2.2.toList = s.results ++ [.empty]
    rw [hr]
    rfl
  | .pending false =>
    have hread := hs.reader
    refine hs.index_eq_iff.mp ?_
    match hrd : s.reader with
    | .pollLoadedRead r =>
      rw [hrd] at hr hread
      have hsame : r = s.ring.writeIndex := by simpa [Reader.step] using hr
      rw [hs.readIndex, ← hsame]
      exact (show r = UInt32.ofNat s.returned.length from hread).symm
    | .loadedRead r =>
      rw [hrd] at hr
      simp only [Reader.step] at hr
      split at hr <;> simp at hr
    | .idle => rw [hrd] at hr; cases k <;> simp [Reader.step, readerCall] at hr
    | .nonEmpty r => rw [hrd] at hr; simp [Reader.step] at hr
    | .copied r e => rw [hrd] at hr; simp [Reader.step] at hr
  | .event e => simp [ReadResult.answer] at ha
  | .pending true => simp [ReadResult.answer] at ha

end InputChannel

/-- **The mailbox of a ring.** -/
def ringMailbox (c : FreeRunning.Capacity) (α : Type*) : Mailbox (OrderlyChannel c α) α α where
  produce s e := ⟨s.1.step (.produce e), s.2.produce e⟩
  consume s k := (⟨s.1.step (.consume (readerCall k)), s.2.consume (readerCall k)⟩,
    s.1.reader.answer s.1.ring k)
  published s := s.1.published
  taken s := s.1.returned
  calling s := s.1.reader.calling
  left s := s.1.reader.left
  maxLeft := 4
  left_le s := s.1.reader.left_le
  taken_prefix s := InputChannel.Inv.returned_prefix s.2
  produce_published _ _ := List.prefix_append _ _
  produce_taken _ _ := rfl
  produce_calling _ _ := rfl
  produce_left _ _ := rfl
  consume_published _ _ := rfl
  consume_none _ _ h := ⟨InputChannel.returned_of_none h, Reader.left_of_none h⟩
  consume_some _ _ _ h := InputChannel.returned_of_some h
  consume_nothing s _ h := s.2.drained_of_nothing h
  calling_none _ _ hk h := Reader.calling_of_none hk h
  calling_some _ _ _ hk h := Reader.calling_of_some hk h

/-- The ring after `Init`. -/
def OrderlyChannel.init (events : Fin c.size → α) : OrderlyChannel c α :=
  ⟨.init events, InputChannel.inv_init events⟩

end CefHost
