import CefHost.InputRing
import CefHost.Library.Codec

/-!
# The rings in bytes

Neither side of a ring writes or reads an event in one access. The producer fills the slot by one
store after the other, `ReadEvent` copies it out byte by byte, and the two processes run at the
same time. The machine here interleaves these accesses with those to the indices, on the bytes of
the mapping.

It refines `InputChannel`, where an event is written at once and read at once: while a slot is
being filled or copied nobody else touches it, so the last store is the one that counts.

## Main definitions

* `ringLayout` — the indices and the bytes of the slots
* `ByteChannel` — a ring with a process on either side, in bytes
* `ByteChannel.Refines` — the ring it stands for

## Main results

* `ByteChannel.refines_run` — runs of the bytes are runs of the ring
* `ByteChannel.Refines.decoded` — what has been copied out of a slot is the event
-/

namespace CefHost

open FreeRunning Footprint

/-! ### The struct -/

/-- The members of `InputRingBuffer` and of its siblings. -/
inductive RingMember
  | writeIndex
  | readIndex
  | capacity
  | reserved
  | events
deriving DecidableEq

def ringMembers : List RingMember := [.writeIndex, .readIndex, .capacity, .reserved, .events]

theorem mem_ringMembers (j : RingMember) : j ∈ ringMembers := by cases j <;> decide

section Layout

variable {α : Type*} (c : Capacity) (K : Codec α)

/-- The scalars of a member: of the events, their bytes. -/
def RingMember.Scalar : RingMember → Type
  | .events => Fin c.size × Fin K.size
  | _ => Unit

def RingMember.layout : ∀ j : RingMember, Layout (j.Scalar c K)
  | .writeIndex => .scalar 2
  | .readIndex => .scalar 2
  | .capacity => .scalar 2
  | .reserved => .scalar 2
  | .events => .array c.size K.bytes

/-- The layout of a ring whose events are coded by `K`. -/
def ringLayout : Layout (Σ j : RingMember, j.Scalar c K) :=
  .struct (RingMember.layout c K) ringMembers mem_ringMembers

/-- Where a member starts. -/
def memberOffset (j : RingMember) : ℕ := Layout.offsetFrom (RingMember.layout c K) 0 ringMembers j

/-- Where a slot starts. -/
def slotOffset (k : Fin c.size) : ℕ := memberOffset c K .events + k * K.size

theorem member_disjoint {j j' : RingMember} (hne : j ≠ j') :
    memberOffset c K j + (j.layout c K).size ≤ memberOffset c K j' ∨
      memberOffset c K j' + (j'.layout c K).size ≤ memberOffset c K j :=
  Layout.offsetFrom_disjoint _ (mem_ringMembers j) (mem_ringMembers j') hne 0

theorem member_inside (j : RingMember) :
    memberOffset c K j + (j.layout c K).size ≤ (ringLayout c K).size :=
  (Layout.offsetFrom_add_size_le _ (mem_ringMembers j) 0).trans (Layout.le_alignUp _ _)

theorem slot_inside (k : Fin c.size) : memberOffset c K .events ≤ slotOffset c K k ∧
    slotOffset c K k + K.size ≤ memberOffset c K .events + c.size * K.size := by
  have hnext := Layout.array_next_le K.size (Nat.lt_succ_self k) k.isLt
  rw [slotOffset]
  omega

theorem slot_disjoint {k k' : Fin c.size} (hne : k ≠ k') :
    slotOffset c K k + K.size ≤ slotOffset c K k' ∨
      slotOffset c K k' + K.size ≤ slotOffset c K k := by
  rw [slotOffset, slotOffset]
  rcases Nat.lt_or_gt_of_ne fun h => hne (Fin.ext h) with h | h
  · have hnext := Layout.array_next_le K.size h (Nat.le_of_lt k'.isLt)
    exact Or.inl (by omega)
  · have hnext := Layout.array_next_le K.size h (Nat.le_of_lt k.isLt)
    exact Or.inr (by omega)

end Layout

/-! ### The machine -/

/-- Where the producing process is. -/
inductive ByteProducer (α : Type*)
  | idle
  /-- `write_index` loaded. -/
  | loadedWrite (e : α) (w : UInt32)
  /-- There is room, and these stores to the slot are left. -/
  | writing (e : α) (w : UInt32) (left : List (ℕ × List UInt8))

/-- Where the host is. -/
inductive ByteReader
  | idle
  /-- In `ReadEvent`, `read_index` loaded. -/
  | loadedRead (r : UInt32)
  /-- In `ReadEvent`, with these bytes of the slot copied. -/
  | copying (r : UInt32) (copied : List UInt8)
  /-- In `HasPendingEvents`, `read_index` loaded. -/
  | pollLoadedRead (r : UInt32)

/-- A mapping with a ring from its start on, and a process on either side. -/
structure ByteChannel (α : Type*) where
  memory : Layout.Memory
  producer : ByteProducer α
  reader : ByteReader
  published : List α
  results : List (ReadResult α)

namespace ByteChannel

variable {α : Type*} (c : Capacity) (K : Codec α)

/-- An index, as it is in memory. -/
def index (m : Layout.Memory) (j : RingMember) : UInt32 :=
  UInt32.ofNat (Layout.load m (memberOffset c K j) 4)

def storeIndex (m : Layout.Memory) (j : RingMember) (v : UInt32) : Layout.Memory :=
  copy (memberOffset c K j) (Layout.bytesOf 4 v.toNat) m

/-- What `ReadEvent` has copied, as a block. -/
def copiedBlock (copied : List UInt8) : Layout.Memory := fun i => copied.getD i 0

/-- After the four assignments of `Init`, on whatever the mapping held. -/
def init (m : Layout.Memory) : ByteChannel α where
  memory := storeIndex c K (storeIndex c K (storeIndex c K (storeIndex c K m .writeIndex 0)
    .readIndex 0) .capacity c.sizeU32) .reserved 0
  producer := .idle
  reader := .idle
  published := []
  results := []

/-- The next access of the producer. -/
def produce (s : ByteChannel α) (e : α) : ByteChannel α :=
  match s.producer with
  | .idle => { s with producer := .loadedWrite e (index c K s.memory .writeIndex) }
  | .loadedWrite e w =>
    if w - index c K s.memory .readIndex < c.sizeU32 then
      { s with producer := .writing e w (K.encode e) }
    else { s with producer := .idle }
  | .writing e w (p :: left) =>
    { s with
      memory := copy (slotOffset c K (c.slot w) + p.1) p.2 s.memory
      producer := .writing e w left }
  | .writing e w [] =>
    { s with
      memory := storeIndex c K s.memory .writeIndex (w + 1)
      producer := .idle
      published := s.published ++ [e] }

/-- The next access of the host. -/
def consume (s : ByteChannel α) (call : ReaderCall) : ByteChannel α :=
  match s.reader with
  | .idle =>
    match call with
    | .readEvent => { s with reader := .loadedRead (index c K s.memory .readIndex) }
    | .hasPendingEvents => { s with reader := .pollLoadedRead (index c K s.memory .readIndex) }
  | .loadedRead r =>
    if r = index c K s.memory .writeIndex then
      { s with reader := .idle, results := s.results ++ [.empty] }
    else { s with reader := .copying r [] }
  | .copying r copied =>
    if copied.length < K.size then
      { s with
        reader := .copying r
          (copied ++ [s.memory (slotOffset c K (c.slot r) + copied.length)]) }
    else
      { s with
        memory := storeIndex c K s.memory .readIndex (r + 1)
        reader := .idle
        results := s.results ++ [.event (K.decode (copiedBlock copied))] }
  | .pollLoadedRead r =>
    { s with
      reader := .idle
      results := s.results ++ [.pending (r != index c K s.memory .writeIndex)] }

def step (s : ByteChannel α) : RingAction α → ByteChannel α
  | .produce e => s.produce c K e
  | .consume call => s.consume c K call

/-- The events `ReadEvent` has returned, in order. -/
def returned (s : ByteChannel α) : List α := s.results.filterMap ReadResult.event?

/-- What the ring that the bytes stand for does meanwhile: nothing as long as the access is neither
the last store to a slot nor the last byte copied out of one. -/
def passedOn (s : ByteChannel α) : RingAction α → List (RingAction α)
  | .produce e =>
    match s.producer with
    | .writing _ _ (_ :: _ :: _) => []
    | _ => [.produce e]
  | .consume call =>
    match s.reader with
    | .copying _ copied => if copied.length + 1 < K.size then [] else [.consume call]
    | _ => [.consume call]

/-! ### What an access leaves alone -/

variable {c : Capacity} {K : Codec α} {m : Layout.Memory}

/-- The members that are one number. -/
def IsIndex (j : RingMember) : Prop := j ≠ .events

theorem isIndex_writeIndex : IsIndex .writeIndex := fun h => RingMember.noConfusion h

theorem isIndex_readIndex : IsIndex .readIndex := fun h => RingMember.noConfusion h

theorem isIndex_capacity : IsIndex .capacity := fun h => RingMember.noConfusion h

theorem isIndex_reserved : IsIndex .reserved := fun h => RingMember.noConfusion h

theorem size_layout {j : RingMember} (hj : IsIndex j) : (j.layout c K).size = 4 := by
  cases j with
  | events => exact absurd rfl hj
  | _ => rfl

theorem index_outside_slot {j : RingMember} (hj : IsIndex j) (k : Fin c.size) :
    memberOffset c K j + 4 ≤ slotOffset c K k ∨
      slotOffset c K k + K.size ≤ memberOffset c K j := by
  have hmember := member_disjoint c K hj
  have hslot := slot_inside c K k
  rw [size_layout hj, show (RingMember.events.layout c K).size = c.size * K.size from rfl]
    at hmember
  omega

/-- A store to a slot spares the indices. -/
theorem index_copy_slot {j : RingMember} (hj : IsIndex j) {k : Fin c.size} {off : ℕ}
    {l : List UInt8} (hl : off + l.length ≤ K.size) :
    index c K (copy (slotOffset c K k + off) l m) j = index c K m j := by
  have hout := index_outside_slot (K := K) hj k
  rw [index, index, Layout.load_copy_of_disjoint (by omega)]

@[simp] theorem index_storeIndex (j : RingMember) (v : UInt32) :
    index c K (storeIndex c K m j v) j = v := by
  have hv : v.toNat < 256 ^ 4 := v.toNat_lt
  rw [index, storeIndex, Layout.load_copy_bytesOf, Nat.mod_eq_of_lt hv, UInt32.ofNat_toNat]

/-- A store to an index spares the other. -/
theorem index_storeIndex_of_ne {j j' : RingMember} (hj : IsIndex j) (hj' : IsIndex j')
    (hne : j ≠ j') (v : UInt32) : index c K (storeIndex c K m j' v) j = index c K m j := by
  have hout := member_disjoint c K hne
  rw [size_layout hj, size_layout hj'] at hout
  rw [index, index, storeIndex, Layout.load_copy_of_disjoint]
  rw [Layout.length_bytesOf]
  exact hout

/-- A store to an index spares what is behind the ring. -/
theorem storeIndex_of_outside {j : RingMember} (hj : IsIndex j) (v : UInt32) {i : ℕ}
    (hi : (ringLayout c K).size ≤ i) : storeIndex c K m j v i = m i := by
  have hin := member_inside c K j
  rw [size_layout hj] at hin
  refine copy_of_outside (Or.inr ?_) _
  rw [Layout.length_bytesOf]
  omega

/-- The bytes of a slot. -/
def slotBlock (c : Capacity) (K : Codec α) (m : Layout.Memory) (k : Fin c.size) : Layout.Memory :=
  Layout.block m (slotOffset c K k)

/-- A store to an index spares the slots. -/
theorem slotBlock_storeIndex {j : RingMember} (hj : IsIndex j) (v : UInt32) (k : Fin c.size)
    {i : ℕ} (hi : i < K.size) :
    slotBlock c K (storeIndex c K m j v) k i = slotBlock c K m k i := by
  have hout := index_outside_slot (K := K) hj k
  refine copy_of_outside ?_ m
  rw [Layout.length_bytesOf]
  omega

/-- A store to a slot spares the others. -/
theorem slotBlock_copy_slot {k k' : Fin c.size} (hne : k ≠ k') {off : ℕ} {l : List UInt8}
    (hl : off + l.length ≤ K.size) {i : ℕ} (hi : i < K.size) :
    slotBlock c K (copy (slotOffset c K k' + off) l m) k i = slotBlock c K m k i := by
  have hout := slot_disjoint c K hne
  exact copy_of_outside (by omega) m

theorem decode_storeIndex {j : RingMember} (hj : IsIndex j) (v : UInt32) (k : Fin c.size) :
    K.decode (slotBlock c K (storeIndex c K m j v) k) = K.decode (slotBlock c K m k) :=
  K.decode_congr _ _ fun _ hi => slotBlock_storeIndex hj v k hi

/-! ### The refinement -/

/-- Where the producer is, seen from the ring: with the last store to the slot it has written the
event. -/
def ProducerRefines (c : Capacity) (K : Codec α) (m : Layout.Memory) :
    ByteProducer α → Producer α → Prop
  | .idle, p => p = .idle
  | .loadedWrite e w, p => p = .loadedWrite e w
  | .writing e w [], p => p = .wrote e w
  | .writing e w (q :: left), p => p = .hasRoom e w ∧
    (∀ q' ∈ q :: left, q'.1 + q'.2.length ≤ K.size) ∧
    K.decode (Layout.block (Layout.storeAll (slotOffset c K (c.slot w)) m (q :: left))
      (slotOffset c K (c.slot w))) = e

/-- Where the host is, seen from the ring: with the last byte it has copied the event. -/
def ReaderRefines (c : Capacity) (K : Codec α) (m : Layout.Memory) : ByteReader → Reader α → Prop
  | .idle, rd => rd = .idle
  | .loadedRead r, rd => rd = .loadedRead r
  | .copying r copied, rd =>
    (copied.length < K.size ∧ rd = .nonEmpty r ∧
      ∀ i, i < copied.length → copiedBlock copied i = slotBlock c K m (c.slot r) i) ∨
    (copied.length = K.size ∧ rd = .copied r (K.decode (copiedBlock copied)))
  | .pollLoadedRead r, rd => rd = .pollLoadedRead r

/-- The slot is being filled. -/
def ByteProducer.Fills (c : Capacity) (k : Fin c.size) : ByteProducer α → Prop
  | .writing _ w (_ :: _) => k = c.slot w
  | _ => False

/-- The bytes stand for the ring. -/
structure Refines (K : Codec α) (s : ByteChannel α) (t : InputChannel c α) : Prop where
  inv : t.Inv
  writeIndex : index c K s.memory .writeIndex = t.ring.writeIndex
  readIndex : index c K s.memory .readIndex = t.ring.readIndex
  slots : ∀ k, ¬ ByteProducer.Fills c k s.producer →
    K.decode (slotBlock c K s.memory k) = t.ring.events k
  producer : ProducerRefines c K s.memory s.producer t.producer
  reader : ReaderRefines c K s.memory s.reader t.reader
  published : s.published = t.published
  results : s.results = t.results

namespace Refines

variable {s : ByteChannel α} {t : InputChannel c α}

/-- Nobody fills the slot that is being copied. -/
theorem not_fills_of_nonEmpty (h : Refines K s t) {r : UInt32} (hr : t.reader = .nonEmpty r) :
    ¬ ByteProducer.Fills c (c.slot r) s.producer := by
  have hproducer := h.producer
  cases hp : s.producer with
  | writing e w left =>
    cases left with
    | nil => exact id
    | cons q left =>
      rw [hp] at hproducer
      have hfill := h.inv.producer
      have hread := h.inv.reader
      rw [hproducer.1] at hfill
      rw [hr] at hread
      obtain ⟨rfl, hroom⟩ := hfill
      obtain ⟨rfl, hlt⟩ := hread
      exact c.slot_ne_of_lt hlt hroom
  | _ => exact id

/-- **What has been copied out of a slot is the event**: the last byte completes it. -/
theorem decoded (h : Refines K s t) {r : UInt32} {copied : List UInt8}
    (hr : t.reader = .nonEmpty r) (hlength : copied.length = K.size)
    (hcopied : ∀ i, i < copied.length →
      copiedBlock copied i = slotBlock c K s.memory (c.slot r) i) :
    K.decode (copiedBlock copied) = t.ring.events (c.slot r) := by
  rw [← h.slots _ (h.not_fills_of_nonEmpty hr)]
  exact K.decode_congr _ _ fun i hi => hcopied i (by omega)

/-! ### The accesses of the producer -/

theorem produce_idle (h : Refines K s t) (hs : s.producer = .idle) (e : α) :
    Refines K (s.produce c K e) (t.step (.produce e)) := by
  have ht : t.producer = .idle := by
    have hproducer := h.producer
    rwa [hs] at hproducer
  have hinv := h.inv.produce e
  rw [show t.step (.produce e) = { t with producer := .loadedWrite e t.ring.writeIndex } by
    simp [InputChannel.step, ht, Producer.step]] at hinv ⊢
  rw [show s.produce c K e
    = { s with producer := .loadedWrite e (index c K s.memory .writeIndex) } by
    simp [ByteChannel.produce, hs]]
  refine ⟨hinv, h.writeIndex, h.readIndex, fun k _ => h.slots k ?_, ?_, h.reader, h.published,
    h.results⟩
  · rw [hs]
    exact id
  · rw [h.writeIndex]
    rfl

theorem produce_loadedWrite (h : Refines K s t) {e' : α} {w : UInt32}
    (hs : s.producer = .loadedWrite e' w) (e : α) :
    Refines K (s.produce c K e) (t.step (.produce e)) := by
  have ht : t.producer = .loadedWrite e' w := by
    have hproducer := h.producer
    rwa [hs] at hproducer
  have hslots : ∀ k, K.decode (slotBlock c K s.memory k) = t.ring.events k := fun k =>
    h.slots k (by rw [hs]; exact id)
  have hinv := h.inv.produce e
  by_cases hroom : w - t.ring.readIndex < c.sizeU32
  · rw [show t.step (.produce e) = { t with producer := .hasRoom e' w } by
      simp [InputChannel.step, ht, Producer.step, hroom]] at hinv ⊢
    rw [show s.produce c K e = { s with producer := .writing e' w (K.encode e') } by
      simp [ByteChannel.produce, hs, h.readIndex, hroom]]
    refine ⟨hinv, h.writeIndex, h.readIndex, fun k _ => hslots k, ?_, h.reader, h.published,
      h.results⟩
    have hinside := K.inside e'
    have hdecode := K.decode_storeAll s.memory (slotOffset c K (c.slot w)) e'
    show ProducerRefines c K s.memory (.writing e' w (K.encode e')) (.hasRoom e' w)
    cases hstores : K.encode e' with
    | nil => exact absurd hstores (K.encode_ne_nil e')
    | cons q left =>
      rw [hstores] at hinside hdecode
      exact ⟨rfl, hinside, hdecode⟩
  · rw [show t.step (.produce e) = { t with producer := .idle } by
      simp [InputChannel.step, ht, Producer.step, hroom]] at hinv ⊢
    rw [show s.produce c K e = { s with producer := .idle } by
      simp [ByteChannel.produce, hs, h.readIndex, hroom]]
    exact ⟨hinv, h.writeIndex, h.readIndex, fun k _ => hslots k, rfl, h.reader, h.published,
      h.results⟩

/-- A store to the slot that is being filled. -/
theorem reader_copy_slot (h : Refines K s t) {e : α} {w : UInt32} {q : ℕ × List UInt8}
    {left : List (ℕ × List UInt8)} (hs : s.producer = .writing e w (q :: left))
    (hq : q.1 + q.2.length ≤ K.size) :
    ReaderRefines c K (copy (slotOffset c K (c.slot w) + q.1) q.2 s.memory) s.reader t.reader := by
  have hreader := h.reader
  cases hr : s.reader with
  | copying r copied =>
    rw [hr] at hreader
    rcases hreader with ⟨hlt, ht, hcopied⟩ | hdone
    · refine Or.inl ⟨hlt, ht, fun i hi => ?_⟩
      have hne : c.slot r ≠ c.slot w := by
        have hfills := h.not_fills_of_nonEmpty ht
        rw [hs] at hfills
        exact hfills
      rw [slotBlock_copy_slot hne hq (hi.trans hlt)]
      exact hcopied i hi
    · exact Or.inr hdone
  | _ =>
    rw [hr] at hreader
    exact hreader

/-- The stores to the slot before the last. -/
theorem produce_writing (h : Refines K s t) {e' : α} {w : UInt32} {q q' : ℕ × List UInt8}
    {left : List (ℕ × List UInt8)} (hs : s.producer = .writing e' w (q :: q' :: left)) (e : α) :
    Refines K (s.produce c K e) t := by
  have hproducer := h.producer
  rw [hs] at hproducer
  obtain ⟨ht, hinside, hdecode⟩ := hproducer
  have hq := hinside q List.mem_cons_self
  rw [show s.produce c K e = { s with
    memory := copy (slotOffset c K (c.slot w) + q.1) q.2 s.memory
    producer := .writing e' w (q' :: left) } by simp [ByteChannel.produce, hs]]
  refine ⟨h.inv, ?_, ?_, fun k hk => ?_, ⟨ht, fun p hp => hinside p (List.mem_cons_of_mem q hp),
    hdecode⟩, h.reader_copy_slot hs hq, h.published, h.results⟩
  · rw [← h.writeIndex]
    exact index_copy_slot isIndex_writeIndex hq
  · rw [← h.readIndex]
    exact index_copy_slot isIndex_readIndex hq
  · rw [← h.slots k (by rw [hs]; exact hk)]
    exact K.decode_congr _ _ fun i hi => slotBlock_copy_slot hk hq hi

/-- The last store to the slot. -/
theorem produce_filled (h : Refines K s t) {e' : α} {w : UInt32} {q : ℕ × List UInt8}
    (hs : s.producer = .writing e' w [q]) (e : α) :
    Refines K (s.produce c K e) (t.step (.produce e)) := by
  have hproducer := h.producer
  rw [hs] at hproducer
  obtain ⟨ht, hinside, hdecode⟩ := hproducer
  have hq := hinside q List.mem_cons_self
  have hinv := h.inv.produce e
  rw [show t.step (.produce e) = { t with
    ring := { t.ring with events := Function.update t.ring.events (c.slot w) e' }
    producer := .wrote e' w } by simp [InputChannel.step, ht, Producer.step]] at hinv ⊢
  rw [show s.produce c K e = { s with
    memory := copy (slotOffset c K (c.slot w) + q.1) q.2 s.memory
    producer := .writing e' w [] } by simp [ByteChannel.produce, hs]]
  refine ⟨hinv, ?_, ?_, fun k _ => ?_, rfl, h.reader_copy_slot hs hq, h.published, h.results⟩
  · rw [← h.writeIndex]
    exact index_copy_slot isIndex_writeIndex hq
  · rw [← h.readIndex]
    exact index_copy_slot isIndex_readIndex hq
  · show _ = Function.update t.ring.events (c.slot w) e' k
    by_cases hk : k = c.slot w
    · subst hk
      rw [Function.update_self]
      exact hdecode
    · rw [Function.update_of_ne hk, ← h.slots k (by rw [hs]; exact hk)]
      exact K.decode_congr _ _ fun i hi => slotBlock_copy_slot hk hq hi

/-- A store to an index. -/
theorem reader_storeIndex (h : Refines K s t) {j : RingMember} (hj : IsIndex j) (v : UInt32) :
    ReaderRefines c K (storeIndex c K s.memory j v) s.reader t.reader := by
  have hreader := h.reader
  cases hr : s.reader with
  | copying r copied =>
    rw [hr] at hreader
    rcases hreader with ⟨hlt, ht, hcopied⟩ | hdone
    · refine Or.inl ⟨hlt, ht, fun i hi => ?_⟩
      rw [slotBlock_storeIndex hj v _ (hi.trans hlt)]
      exact hcopied i hi
    · exact Or.inr hdone
  | _ =>
    rw [hr] at hreader
    exact hreader

/-- The store of `write_index`. -/
theorem produce_publish (h : Refines K s t) {e' : α} {w : UInt32}
    (hs : s.producer = .writing e' w []) (e : α) :
    Refines K (s.produce c K e) (t.step (.produce e)) := by
  have ht : t.producer = .wrote e' w := by
    have hproducer := h.producer
    rwa [hs] at hproducer
  have hinv := h.inv.produce e
  rw [show t.step (.produce e) = { t with
    ring := { t.ring with writeIndex := w + 1 }
    producer := .idle
    published := t.published ++ [e'] } by simp [InputChannel.step, ht, Producer.step]] at hinv ⊢
  rw [show s.produce c K e = { s with
    memory := storeIndex c K s.memory .writeIndex (w + 1)
    producer := .idle
    published := s.published ++ [e'] } by simp [ByteChannel.produce, hs]]
  refine ⟨hinv, index_storeIndex _ _, ?_, fun k _ => ?_, rfl,
    h.reader_storeIndex isIndex_writeIndex _, ?_, h.results⟩
  · rw [← h.readIndex]
    exact index_storeIndex_of_ne isIndex_readIndex isIndex_writeIndex (by decide) _
  · rw [decode_storeIndex isIndex_writeIndex]
    exact h.slots k (by rw [hs]; exact id)
  · rw [h.published]

/-- The store of `read_index` leaves the slot alone that is being filled. -/
theorem producer_storeIndex (h : Refines K s t) (v : UInt32) :
    ProducerRefines c K (storeIndex c K s.memory .readIndex v) s.producer t.producer := by
  have hproducer := h.producer
  cases hs : s.producer with
  | writing e w left =>
    rw [hs] at hproducer
    cases left with
    | nil => exact hproducer
    | cons q left =>
      obtain ⟨ht, hinside, hdecode⟩ := hproducer
      refine ⟨ht, hinside, ?_⟩
      rw [← hdecode, Layout.block_storeAll, Layout.block_storeAll]
      exact K.decode_congr _ _ fun i hi => Layout.storeAll_congr (fun i hi =>
        slotBlock_storeIndex isIndex_readIndex v _ hi) hi
  | _ =>
    rw [hs] at hproducer
    exact hproducer

/-! ### The accesses of the host -/

theorem consume_idle (h : Refines K s t) (hs : s.reader = .idle) (call : ReaderCall) :
    Refines K (s.consume c K call) (t.step (.consume call)) := by
  have ht : t.reader = .idle := by
    have hreader := h.reader
    rwa [hs] at hreader
  have hinv := h.inv.consume call
  cases call with
  | readEvent =>
    rw [show t.step (.consume .readEvent)
      = { t with reader := .loadedRead t.ring.readIndex } by
      simp [InputChannel.step, ht, Reader.step]] at hinv ⊢
    rw [show s.consume c K .readEvent
      = { s with reader := .loadedRead (index c K s.memory .readIndex) } by
      simp [ByteChannel.consume, hs], h.readIndex]
    exact ⟨hinv, h.writeIndex, h.readIndex, h.slots, h.producer, rfl, h.published, h.results⟩
  | hasPendingEvents =>
    rw [show t.step (.consume .hasPendingEvents)
      = { t with reader := .pollLoadedRead t.ring.readIndex } by
      simp [InputChannel.step, ht, Reader.step]] at hinv ⊢
    rw [show s.consume c K .hasPendingEvents
      = { s with reader := .pollLoadedRead (index c K s.memory .readIndex) } by
      simp [ByteChannel.consume, hs], h.readIndex]
    exact ⟨hinv, h.writeIndex, h.readIndex, h.slots, h.producer, rfl, h.published, h.results⟩

theorem consume_loadedRead (h : Refines K s t) {r : UInt32} (hs : s.reader = .loadedRead r)
    (call : ReaderCall) : Refines K (s.consume c K call) (t.step (.consume call)) := by
  have ht : t.reader = .loadedRead r := by
    have hreader := h.reader
    rwa [hs] at hreader
  have hinv := h.inv.consume call
  by_cases hempty : r = t.ring.writeIndex
  · rw [show t.step (.consume call)
      = { t with reader := .idle, results := t.results ++ [.empty] } by
      simp [InputChannel.step, ht, Reader.step, hempty]] at hinv ⊢
    rw [show s.consume c K call = { s with reader := .idle, results := s.results ++ [.empty] } by
      simp [ByteChannel.consume, hs, h.writeIndex, hempty], h.results]
    exact ⟨hinv, h.writeIndex, h.readIndex, h.slots, h.producer, rfl, h.published, rfl⟩
  · rw [show t.step (.consume call) = { t with reader := .nonEmpty r } by
      simp [InputChannel.step, ht, Reader.step, hempty]] at hinv ⊢
    rw [show s.consume c K call = { s with reader := .copying r [] } by
      simp [ByteChannel.consume, hs, h.writeIndex, hempty]]
    exact ⟨hinv, h.writeIndex, h.readIndex, h.slots, h.producer,
      Or.inl ⟨K.size_pos, rfl, fun i hi => absurd hi (Nat.not_lt_zero i)⟩, h.published, h.results⟩

theorem consume_pollLoadedRead (h : Refines K s t) {r : UInt32}
    (hs : s.reader = .pollLoadedRead r) (call : ReaderCall) :
    Refines K (s.consume c K call) (t.step (.consume call)) := by
  have ht : t.reader = .pollLoadedRead r := by
    have hreader := h.reader
    rwa [hs] at hreader
  have hinv := h.inv.consume call
  rw [show t.step (.consume call) = { t with
    reader := .idle
    results := t.results ++ [.pending (r != t.ring.writeIndex)] } by
    simp [InputChannel.step, ht, Reader.step]] at hinv ⊢
  rw [show s.consume c K call = { s with
    reader := .idle
    results := s.results ++ [.pending (r != index c K s.memory .writeIndex)] } by
    simp [ByteChannel.consume, hs], h.writeIndex, h.results]
  exact ⟨hinv, h.writeIndex, h.readIndex, h.slots, h.producer, rfl, h.published, rfl⟩

theorem copiedBlock_append (copied : List UInt8) (b : UInt8) {i : ℕ} (hi : i < copied.length) :
    copiedBlock (copied ++ [b]) i = copiedBlock copied i := by
  rw [copiedBlock, copiedBlock, List.getD_eq_getElem?_getD, List.getElem?_append_left hi,
    List.getD_eq_getElem?_getD]

/-- One more byte of the slot. -/
theorem copied_next {r : UInt32} {copied : List UInt8}
    (hcopied : ∀ i, i < copied.length →
      copiedBlock copied i = slotBlock c K s.memory (c.slot r) i) :
    let copied' := copied ++ [s.memory (slotOffset c K (c.slot r) + copied.length)]
    ∀ i, i < copied'.length → copiedBlock copied' i = slotBlock c K s.memory (c.slot r) i := by
  intro copied' i hi
  rw [List.length_append, List.length_singleton] at hi
  rcases Nat.lt_succ_iff_lt_or_eq.mp hi with hlt | rfl
  · rw [copiedBlock_append _ _ hlt]
    exact hcopied i hlt
  · rw [copiedBlock, List.getD_eq_getElem?_getD, List.getElem?_append_right (Nat.le_refl _),
      Nat.sub_self]
    rfl

theorem consume_copying (h : Refines K s t) {r : UInt32} {copied : List UInt8}
    (hs : s.reader = .copying r copied) (call : ReaderCall) :
    Refines K (s.consume c K call)
      (Runs.run InputChannel.step t (s.passedOn K (.consume call))) := by
  have hreader := h.reader
  have hinv := h.inv.consume call
  rw [hs] at hreader
  rw [show s.passedOn K (.consume call)
    = if copied.length + 1 < K.size then [] else [.consume call] by simp [passedOn, hs]]
  rcases hreader with ⟨hlt, ht, hcopied⟩ | ⟨hdone, ht⟩
  · have hnext := copied_next hcopied
    rw [show s.consume c K call = { s with
      reader := .copying r
        (copied ++ [s.memory (slotOffset c K (c.slot r) + copied.length)]) } by
      simp [ByteChannel.consume, hs, hlt]]
    by_cases hmore : copied.length + 1 < K.size
    · rw [if_pos hmore]
      refine ⟨h.inv, h.writeIndex, h.readIndex, h.slots, h.producer, Or.inl ⟨?_, ht, hnext⟩,
        h.published, h.results⟩
      rwa [List.length_append]
    · have hlength : (copied ++ [s.memory (slotOffset c K (c.slot r) + copied.length)]).length
          = K.size := by
        rw [List.length_append, List.length_singleton]
        omega
      rw [if_neg hmore, Runs.run_cons, Runs.run_nil]
      rw [show t.step (.consume call)
        = { t with reader := .copied r (t.ring.events (c.slot r)) } by
        simp [InputChannel.step, ht, Reader.step]] at hinv ⊢
      refine ⟨hinv, h.writeIndex, h.readIndex, h.slots, h.producer, Or.inr ⟨hlength, ?_⟩,
        h.published, h.results⟩
      rw [h.decoded ht hlength hnext]
  · rw [if_neg (by omega), Runs.run_cons, Runs.run_nil]
    rw [show t.step (.consume call) = { t with
      ring := { t.ring with readIndex := r + 1 }
      reader := .idle
      results := t.results ++ [.event (K.decode (copiedBlock copied))] } by
      simp [InputChannel.step, ht, Reader.step]] at hinv ⊢
    rw [show s.consume c K call = { s with
      memory := storeIndex c K s.memory .readIndex (r + 1)
      reader := .idle
      results := s.results ++ [.event (K.decode (copiedBlock copied))] } by
      simp [ByteChannel.consume, hs, hdone], h.results]
    refine ⟨hinv, ?_, index_storeIndex _ _, fun k hk => ?_, h.producer_storeIndex _, rfl,
      h.published, rfl⟩
    · rw [← h.writeIndex]
      exact index_storeIndex_of_ne isIndex_writeIndex isIndex_readIndex (by decide) _
    · rw [decode_storeIndex isIndex_readIndex]
      exact h.slots k hk

/-- **One access.** -/
theorem step (h : Refines K s t) (a : RingAction α) :
    Refines K (s.step c K a) (Runs.run InputChannel.step t (s.passedOn K a)) := by
  cases a with
  | produce e =>
    show Refines K (s.produce c K e) _
    cases hs : s.producer with
    | idle => simpa [passedOn, hs] using h.produce_idle hs e
    | loadedWrite e' w => simpa [passedOn, hs] using h.produce_loadedWrite hs e
    | writing e' w left =>
      match left with
      | [] => simpa [passedOn, hs] using h.produce_publish hs e
      | [q] => simpa [passedOn, hs] using h.produce_filled hs e
      | q :: q' :: left => simpa [passedOn, hs] using h.produce_writing hs e
  | consume call =>
    show Refines K (s.consume c K call) _
    cases hs : s.reader with
    | idle => simpa [passedOn, hs] using h.consume_idle hs call
    | loadedRead r => simpa [passedOn, hs] using h.consume_loadedRead hs call
    | copying r copied => exact h.consume_copying hs call
    | pollLoadedRead r => simpa [passedOn, hs] using h.consume_pollLoadedRead hs call

/-- No access reaches behind the ring. -/
theorem memory_outside (h : Refines K s t) (a : RingAction α) {i : ℕ}
    (hi : (ringLayout c K).size ≤ i) : (s.step c K a).memory i = s.memory i := by
  cases a with
  | produce e =>
    show (s.produce c K e).memory i = _
    have hproducer := h.producer
    cases hs : s.producer with
    | idle => simp [ByteChannel.produce, hs]
    | loadedWrite e' w =>
      by_cases hroom : w - index c K s.memory .readIndex < c.sizeU32 <;>
        simp [ByteChannel.produce, hs, hroom]
    | writing e' w left =>
      rw [hs] at hproducer
      cases left with
      | nil =>
        simpa [ByteChannel.produce, hs] using
          storeIndex_of_outside isIndex_writeIndex (w + 1) hi
      | cons q left =>
        have hq := hproducer.2.1 q List.mem_cons_self
        have hin : memberOffset c K .events + c.size * K.size ≤ (ringLayout c K).size :=
          member_inside c K .events
        have hslot := slot_inside c K (c.slot w)
        have hcopy : copy (slotOffset c K (c.slot w) + q.1) q.2 s.memory i = s.memory i :=
          copy_of_outside (by omega) _
        simpa [ByteChannel.produce, hs] using hcopy
  | consume call =>
    show (s.consume c K call).memory i = _
    cases hs : s.reader with
    | idle => cases call <;> simp [ByteChannel.consume, hs]
    | loadedRead r =>
      by_cases hempty : r = index c K s.memory .writeIndex <;>
        simp [ByteChannel.consume, hs, hempty]
    | copying r copied =>
      by_cases hlt : copied.length < K.size
      · simp [ByteChannel.consume, hs, hlt]
      · simpa [ByteChannel.consume, hs, hlt] using
          storeIndex_of_outside isIndex_readIndex (r + 1) hi
    | pollLoadedRead r => simp [ByteChannel.consume, hs]

/-- `ReadEvent` returns false only when everything published has been returned. -/
theorem drained_of_empty (h : Refines K s t) (call : ReaderCall)
    (hempty : (s.step c K (.consume call)).results = s.results ++ [.empty]) :
    s.returned = s.published := by
  have hnext := (h.step (.consume call)).results
  rw [hempty, h.results] at hnext
  have hdrained : t.returned = t.published := by
    have hpassed : s.passedOn K (.consume call) = [] ∨
        s.passedOn K (.consume call) = [.consume call] := by
      rw [passedOn]
      cases s.reader with
      | copying r copied =>
        dsimp only
        split
        · exact Or.inl rfl
        · exact Or.inr rfl
      | _ => exact Or.inr rfl
    rcases hpassed with hnone | hone
    · rw [hnone, Runs.run_nil] at hnext
      exact absurd hnext (by simp)
    · rw [hone, Runs.run_cons, Runs.run_nil] at hnext
      exact h.inv.emptyMeansDrained call hnext.symm
  rw [returned, h.results, h.published]
  exact hdrained

/-- After `Init`. -/
theorem init (c : Capacity) (K : Codec α) (m : Layout.Memory) :
    Refines K (init c K m) (.init fun k => K.decode (slotBlock c K (init c K m).memory k)) := by
  refine ⟨InputChannel.inv_init _, ?_, ?_, fun k _ => rfl, rfl, rfl, rfl, rfl⟩
  · show index c K (ByteChannel.init c K m).memory .writeIndex = 0
    rw [ByteChannel.init, index_storeIndex_of_ne isIndex_writeIndex isIndex_reserved (by decide),
      index_storeIndex_of_ne isIndex_writeIndex isIndex_capacity (by decide),
      index_storeIndex_of_ne isIndex_writeIndex isIndex_readIndex (by decide), index_storeIndex]
  · show index c K (ByteChannel.init c K m).memory .readIndex = 0
    rw [ByteChannel.init, index_storeIndex_of_ne isIndex_readIndex isIndex_reserved (by decide),
      index_storeIndex_of_ne isIndex_readIndex isIndex_capacity (by decide), index_storeIndex]

end Refines

/-- **Runs of the bytes are runs of the ring.** -/
theorem refines_run (c : Capacity) (K : Codec α) (m : Layout.Memory) (as : List (RingAction α)) :
    Refines K (Runs.run (step c K) (init c K m) as)
      (Runs.run InputChannel.step
        (.init fun k => K.decode (slotBlock c K (init c K m).memory k))
        (Runs.emitted (step c K) (passedOn K) (init c K m) as)) :=
  Runs.simulates (fun _ _ a h => h.step a) (.init c K m) as

/-- Behind the ring the mapping is as it was. -/
theorem memory_run (m : Layout.Memory) (as : List (RingAction α)) {i : ℕ}
    (hi : (ringLayout c K).size ≤ i) :
    (Runs.run (step c K) (init c K m) as).memory i = m i := by
  have hinit : (init c K m : ByteChannel α).memory i = m i := by
    show storeIndex c K _ .reserved 0 i = m i
    rw [storeIndex_of_outside isIndex_reserved _ hi, storeIndex_of_outside isIndex_capacity _ hi,
      storeIndex_of_outside isIndex_readIndex _ hi, storeIndex_of_outside isIndex_writeIndex _ hi]
  refine (Runs.invariant (I := fun s : ByteChannel α => (∃ t, Refines K s t) ∧
    s.memory i = m i) ?_ ⟨⟨_, .init c K m⟩, hinit⟩ as).2
  rintro s a ⟨⟨t, h⟩, hmemory⟩
  exact ⟨⟨_, h.step a⟩, (h.memory_outside a hi).trans hmemory⟩

/-- What a ring in bytes promises the host, for every interleaving of single accesses. -/
structure Lossless (c : Capacity) (K : Codec α) (m : Layout.Memory) (s : ByteChannel α) :
    Prop where
  /-- No event is torn, lost, doubled or out of order. -/
  returned_prefix : s.returned <+: s.published
  room : s.published.length ≤ s.returned.length + c.size
  drained : ∀ call, (s.step c K (.consume call)).results = s.results ++ [.empty] →
    s.returned = s.published
  outside : ∀ i, (ringLayout c K).size ≤ i → s.memory i = m i

theorem lossless_run (c : Capacity) (K : Codec α) (m : Layout.Memory) (as : List (RingAction α)) :
    Lossless c K m (Runs.run (step c K) (init c K m) as) := by
  have h := refines_run c K m as
  refine ⟨?_, ?_, fun call => h.drained_of_empty call, fun i hi => memory_run m as hi⟩
  · rw [returned, h.results, h.published]
    exact h.inv.returned_prefix
  · rw [returned, h.results, h.published]
    exact h.inv.room

end ByteChannel

end CefHost
