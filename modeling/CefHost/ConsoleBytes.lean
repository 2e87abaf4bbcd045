import CefHost.ConsoleText
import CefHost.EventBytes
import CefHost.Library.Terminated
import Mathlib.Data.List.ProdSigma

/-!
# The console in bytes

`OnConsoleMessage` makes an event of a console message, and `WriteEvent` copies it into the mapping
between the accesses to the indices. A consumer reads the bytes. Here both are whole calls, on the
bytes of the mapping, and what the consumer gets is traced back to what CEF reported: the messages
are those of a queue that forgets its oldest, each cut to the size of its array.

## Main definitions

* `consoleLayout`, `consoleCodec` — a `ConsoleLogEvent` in its slot
* `ConsoleMessage`, `ConsoleBytes.step` — the calls on the mapping

## Main results

* `ConsoleLogEvent.decode_stores` — an event is read back as it was stored
* `console_messages_arrive` — every sequence of calls
-/

namespace CefHost

open FreeRunning

/-! ### The event in its slot -/

/-- The members of `ConsoleLogEvent`. -/
inductive ConsoleMember
  | level
  | reserved
  | line
  | source
  | message
deriving DecidableEq

def ConsoleMember.Scalar : ConsoleMember → Type
  | .level => Unit
  | .reserved => Fin 3 × Unit
  | .line => Unit
  | .source => Fin consoleSourceMax × Unit
  | .message => Fin consoleMessageMax × Unit

def ConsoleMember.layout : ∀ m : ConsoleMember, Layout m.Scalar
  | .level => .scalar 0
  | .reserved => .array 3 (.scalar 0)
  | .line => .scalar 2
  | .source => .array consoleSourceMax (.scalar 1)
  | .message => .array consoleMessageMax (.scalar 1)

def consoleLayout : Layout (Σ m : ConsoleMember, m.Scalar) :=
  .struct ConsoleMember.layout [.level, .reserved, .line, .source, .message]
    (by intro m; cases m <;> decide)

/-- `sizeof(ConsoleLogEvent)`. -/
def sizeofConsoleLogEvent : ℕ := 8 + 2 * consoleSourceMax + 2 * consoleMessageMax

theorem consoleLayout_size : consoleLayout.size = sizeofConsoleLogEvent := by decide

/-- `ConsoleLogLevel` as a byte. -/
def ConsoleLogLevel.value : ConsoleLogLevel → ℕ
  | log => 0
  | warning => 1
  | error => 2

def ConsoleLogLevel.ofValue : ℕ → ConsoleLogLevel
  | 0 => log
  | 1 => warning
  | _ => error

/-- All scalars of a member. -/
def ConsoleMember.all : ∀ m : ConsoleMember, List m.Scalar
  | .level => [()]
  | .reserved => (List.finRange 3).map (·, ())
  | .line => [()]
  | .source => (List.finRange consoleSourceMax).map (·, ())
  | .message => (List.finRange consoleMessageMax).map (·, ())

def consoleScalars : List (Σ m : ConsoleMember, m.Scalar) :=
  [.level, .reserved, .line, .source, .message].sigma ConsoleMember.all

theorem mem_consoleScalars (i : Σ m : ConsoleMember, m.Scalar) : i ∈ consoleScalars := by
  obtain ⟨m, i⟩ := i
  refine List.mem_sigma.mpr ⟨by cases m <;> decide, ?_⟩
  cases m with
  | level => exact List.mem_singleton.mpr rfl
  | line => exact List.mem_singleton.mpr rfl
  | reserved => exact List.mem_map.mpr ⟨i.1, List.mem_finRange _, rfl⟩
  | source => exact List.mem_map.mpr ⟨i.1, List.mem_finRange _, rfl⟩
  | message => exact List.mem_map.mpr ⟨i.1, List.mem_finRange _, rfl⟩

theorem nodup_consoleScalars : consoleScalars.Nodup := by
  have harray : ∀ n : ℕ, ((List.finRange n).map fun i => (i, ())).Nodup := fun n =>
    (List.nodup_finRange n).map fun i j h => congrArg Prod.fst h
  refine List.Nodup.sigma (by decide) fun m => ?_
  cases m with
  | level => exact List.nodup_singleton _
  | line => exact List.nodup_singleton _
  | reserved => exact harray _
  | source => exact harray _
  | message => exact harray _

namespace ConsoleLogEvent

/-- The value of a scalar. `evt{}` leaves the reserved bytes zero. -/
def scalar (e : ConsoleLogEvent) : (Σ m : ConsoleMember, m.Scalar) → ℕ
  | ⟨.level, _⟩ => e.level.value
  | ⟨.reserved, _⟩ => 0
  | ⟨.line, _⟩ => e.line.toUInt32.toNat
  | ⟨.source, (i, _)⟩ => (e.source i).toNat
  | ⟨.message, (i, _)⟩ => (e.message i).toNat

/-- The stores of an event into its slot. -/
def stores (e : ConsoleLogEvent) : List (ℕ × List UInt8) :=
  consoleLayout.byteStores (consoleScalars.map fun i => (i, e.scalar i))

/-- The event with these scalars. -/
def ofScalars (f : (Σ m : ConsoleMember, m.Scalar) → ℕ) : ConsoleLogEvent where
  level := .ofValue (f ⟨.level, ()⟩)
  line := int32OfBits (f ⟨.line, ()⟩)
  source i := UInt16.ofNat (f ⟨.source, (i, ())⟩)
  message i := UInt16.ofNat (f ⟨.message, (i, ())⟩)

/-- The event in the bytes of a slot. -/
def decode (m : Layout.Memory) : ConsoleLogEvent := ofScalars (consoleLayout.read m 0)

theorem ofScalars_scalar (e : ConsoleLogEvent) : ofScalars e.scalar = e := by
  obtain ⟨level, line, source, message⟩ := e
  have hlevel : ConsoleLogLevel.ofValue level.value = level := by cases level <;> rfl
  simp only [ofScalars, scalar, hlevel, int32OfBits_toNat, UInt16.ofNat_toNat]

theorem scalar_lt (e : ConsoleLogEvent) (i : Σ m : ConsoleMember, m.Scalar) :
    e.scalar i < 256 ^ consoleLayout.width i := by
  obtain ⟨m, i⟩ := i
  match m with
  | .level => show e.level.value < 256; cases e.level <;> decide
  | .reserved => exact Nat.two_pow_pos 8
  | .line => exact e.line.toUInt32.toNat_lt
  | .source => exact (e.source i.1).toNat_lt
  | .message => exact (e.message i.1).toNat_lt

/-- **A console event is read back as it was stored.** -/
theorem decode_stores (e : ConsoleLogEvent) (m : Layout.Memory) :
    decode (Layout.storeAll 0 m e.stores) = e := by
  have hkeys : (consoleScalars.map fun i => (i, e.scalar i)).map Prod.fst = consoleScalars := by
    rw [List.map_map]
    exact List.map_id _
  have hnodup : ((consoleScalars.map fun i => (i, e.scalar i)).map Prod.fst).Nodup := by
    rw [hkeys]
    exact nodup_consoleScalars
  have hread : consoleLayout.read
      (consoleLayout.writes 0 m (consoleScalars.map fun i => (i, e.scalar i))) 0 = e.scalar :=
    funext fun i => consoleLayout.read_writes_of_mem hnodup
      (List.mem_map.mpr ⟨i, mem_consoleScalars i, rfl⟩) (e.scalar_lt i)
  rw [stores, Layout.storeAll_byteStores, decode, hread, ofScalars_scalar]

end ConsoleLogEvent

/-- How console events lie in their slots. -/
def consoleCodec : Codec ConsoleLogEvent where
  size := sizeofConsoleLogEvent
  logAlign := 2
  decode := ConsoleLogEvent.decode
  encode := ConsoleLogEvent.stores
  size_pos := by decide
  dvd_size := by decide
  encode_ne_nil e h := by
    rw [ConsoleLogEvent.stores, Layout.byteStores, List.map_eq_nil_iff, List.map_eq_nil_iff] at h
    exact List.ne_nil_of_mem (mem_consoleScalars ⟨.level, ()⟩) h
  inside e p hp := (consoleLayout.byteStores_inside _ p hp).trans_eq consoleLayout_size
  decode_congr m m' h := by
    have hread : consoleLayout.read m 0 = consoleLayout.read m' 0 := by
      refine consoleLayout.read_congr fun i _ hi => h i ?_
      rwa [consoleLayout_size, Nat.zero_add] at hi
    rw [ConsoleLogEvent.decode, hread, ConsoleLogEvent.decode]
  decode_encode := ConsoleLogEvent.decode_stores

/-- `sizeof(ConsoleRingBuffer)`. -/
example : (ringLayout consoleRing consoleCodec).size = 16 + 256 * 2568 ∧
    memberOffset consoleRing consoleCodec .events = 16 := by decide

/-! ### A ring in bytes, by whole calls -/

namespace ByteRing

variable {α : Type*} (c : Capacity) (K : Codec α)

open ByteChannel (index storeIndex slotBlock IsIndex)

/-- `WriteEvent`. -/
def writeEvent (m : Layout.Memory) (inEvent : α) : Layout.Memory :=
  let w := index c K m .writeIndex
  let r := index c K m .readIndex
  -- drop oldest to keep newest logs
  let m := if c.sizeU32 ≤ w - r then storeIndex c K m .readIndex (r + 1) else m
  let writeIndex := index c K m .writeIndex
  let m := Layout.storeAll (slotOffset c K (c.slot writeIndex)) m (K.encode inEvent)
  storeIndex c K m .writeIndex (writeIndex + 1)

/-- The reading protocol. -/
def readEvent (m : Layout.Memory) : Option (α × Layout.Memory) :=
  let r := index c K m .readIndex
  let w := index c K m .writeIndex
  if r = w then none
  else some (K.decode (slotBlock c K m (c.slot r)), storeIndex c K m .readIndex (r + 1))

variable {c K}

/-- The bytes stand for a ring. -/
structure Refines (K : Codec α) (m : Layout.Memory) (b : RingBuffer c α) : Prop where
  writeIndex : index c K m .writeIndex = b.writeIndex
  readIndex : index c K m .readIndex = b.readIndex
  events : ∀ k, K.decode (slotBlock c K m k) = b.events k

variable {m : Layout.Memory} {b : RingBuffer c α}

/-- Stores into a slot spare the indices. -/
theorem index_storeAll {j : RingMember} (hj : IsIndex j) (k : Fin c.size)
    {l : List (ℕ × List UInt8)} (hl : ∀ p ∈ l, p.1 + p.2.length ≤ K.size) :
    index c K (Layout.storeAll (slotOffset c K k) m l) j = index c K m j := by
  induction l generalizing m with
  | nil => rfl
  | cons p l ih =>
    rw [Layout.storeAll_cons, ih fun q hq => hl q (List.mem_cons_of_mem _ hq),
      ByteChannel.index_copy_slot hj (hl p List.mem_cons_self)]

/-- Stores into a slot spare the others. -/
theorem slotBlock_storeAll {k k' : Fin c.size} (hne : k ≠ k') {l : List (ℕ × List UInt8)}
    (hl : ∀ p ∈ l, p.1 + p.2.length ≤ K.size) {i : ℕ} (hi : i < K.size) :
    slotBlock c K (Layout.storeAll (slotOffset c K k') m l) k i = slotBlock c K m k i := by
  induction l generalizing m with
  | nil => rfl
  | cons p l ih =>
    rw [Layout.storeAll_cons, ih fun q hq => hl q (List.mem_cons_of_mem _ hq),
      ByteChannel.slotBlock_copy_slot hne (hl p List.mem_cons_self) hi]

/-- Stores into a slot stay in the ring. -/
theorem storeAll_of_outside (k : Fin c.size) {l : List (ℕ × List UInt8)}
    (hl : ∀ p ∈ l, p.1 + p.2.length ≤ K.size) {i : ℕ} (hi : (ringLayout c K).size ≤ i) :
    Layout.storeAll (slotOffset c K k) m l i = m i := by
  have hslot := slot_inside c K k
  have hring := member_inside c K .events
  rw [show (RingMember.events.layout c K).size = c.size * K.size from rfl] at hring
  induction l generalizing m with
  | nil => rfl
  | cons p l ih =>
    have hp := hl p List.mem_cons_self
    rw [Layout.storeAll_cons, ih fun q hq => hl q (List.mem_cons_of_mem _ hq)]
    exact Footprint.copy_of_outside (by omega) m

/-- After `Init`. -/
theorem Refines.init (m : Layout.Memory) :
    Refines K (ByteChannel.init c K m).memory
      (.init fun k => K.decode (slotBlock c K (ByteChannel.init c K m).memory k)) :=
  ⟨(ByteChannel.Refines.init c K m).writeIndex, (ByteChannel.Refines.init c K m).readIndex,
    fun _ => rfl⟩

theorem Refines.storeReadIndex (h : Refines K m b) (v : UInt32) :
    Refines K (storeIndex c K m .readIndex v) { b with readIndex := v } where
  writeIndex := by
    rw [ByteChannel.index_storeIndex_of_ne ByteChannel.isIndex_writeIndex
      ByteChannel.isIndex_readIndex (by decide), h.writeIndex]
  readIndex := ByteChannel.index_storeIndex _ v
  events k := by rw [ByteChannel.decode_storeIndex ByteChannel.isIndex_readIndex, h.events]

theorem Refines.storeWriteIndex (h : Refines K m b) (v : UInt32) :
    Refines K (storeIndex c K m .writeIndex v) { b with writeIndex := v } where
  writeIndex := ByteChannel.index_storeIndex _ v
  readIndex := by
    rw [ByteChannel.index_storeIndex_of_ne ByteChannel.isIndex_readIndex
      ByteChannel.isIndex_writeIndex (by decide), h.readIndex]
  events k := by rw [ByteChannel.decode_storeIndex ByteChannel.isIndex_writeIndex, h.events]

theorem Refines.storeSlot (h : Refines K m b) (k : Fin c.size) (e : α) :
    Refines K (Layout.storeAll (slotOffset c K k) m (K.encode e))
      { b with events := Function.update b.events k e } where
  writeIndex := by rw [index_storeAll ByteChannel.isIndex_writeIndex k (K.inside e), h.writeIndex]
  readIndex := by rw [index_storeAll ByteChannel.isIndex_readIndex k (K.inside e), h.readIndex]
  events k' := by
    by_cases hk : k' = k
    · subst hk
      show _ = Function.update b.events k' e k'
      rw [Function.update_self]
      exact K.decode_storeAll m _ e
    · show _ = Function.update b.events k e k'
      rw [Function.update_of_ne hk, ← h.events k']
      exact K.decode_congr _ _ fun i hi => slotBlock_storeAll hk (K.inside e) hi

/-- **`WriteEvent`** does to the bytes what it does to the ring. -/
theorem Refines.writeEvent (h : Refines K m b) (e : α) :
    Refines K (ByteRing.writeEvent c K m e) (b.writeEvent e) := by
  have hroom : Refines K
      (if c.sizeU32 ≤ index c K m .writeIndex - index c K m .readIndex then
        storeIndex c K m .readIndex (index c K m .readIndex + 1) else m)
      (if c.sizeU32 ≤ b.writeIndex - b.readIndex then
        { b with readIndex := b.readIndex + 1 } else b) := by
    rw [h.writeIndex, h.readIndex]
    split
    · exact h.storeReadIndex _
    · exact h
  unfold ByteRing.writeEvent RingBuffer.writeEvent
  dsimp only
  generalize (if c.sizeU32 ≤ b.writeIndex - b.readIndex then
    { b with readIndex := b.readIndex + 1 } else b) = b' at hroom ⊢
  rw [hroom.writeIndex]
  exact (hroom.storeSlot _ e).storeWriteIndex _

/-- **A read** finds in the bytes what it finds in the ring. -/
theorem Refines.readEvent (h : Refines K m b) :
    (ByteRing.readEvent c K m = none ∧ b.readEvent = none) ∨
      ∃ e m' b', ByteRing.readEvent c K m = some (e, m') ∧ b.readEvent = some (e, b') ∧
        Refines K m' b' := by
  unfold ByteRing.readEvent RingBuffer.readEvent
  dsimp only
  rw [h.writeIndex, h.readIndex, h.events]
  by_cases hempty : b.readIndex = b.writeIndex
  · rw [if_pos hempty, if_pos hempty]
    exact Or.inl ⟨rfl, rfl⟩
  · rw [if_neg hempty, if_neg hempty]
    exact Or.inr ⟨_, _, _, rfl, rfl, h.storeReadIndex _⟩

theorem writeEvent_of_outside (m : Layout.Memory) (e : α) {i : ℕ}
    (hi : (ringLayout c K).size ≤ i) : ByteRing.writeEvent c K m e i = m i := by
  unfold ByteRing.writeEvent
  rw [ByteChannel.storeIndex_of_outside ByteChannel.isIndex_writeIndex _ hi,
    storeAll_of_outside _ (K.inside e) hi]
  split
  · exact ByteChannel.storeIndex_of_outside ByteChannel.isIndex_readIndex _ hi
  · rfl

end ByteRing

/-! ### The messages -/

/-- What CEF reports to `OnConsoleMessage`. -/
structure ConsoleMessage where
  level : CefLogSeverity
  message : U16String
  source : U16String
  line : Int32

def ConsoleMessage.event (msg : ConsoleMessage) : ConsoleLogEvent :=
  consoleLogEvent msg.level msg.message msg.source msg.line

namespace ConsoleBytes

/-- `OnConsoleMessage`, or a read of the consumer, on the bytes of the mapping. -/
def step (m : Layout.Memory) :
    QueueOp ConsoleMessage → Layout.Memory × List (Option ConsoleLogEvent)
  | .push msg => (ByteRing.writeEvent consoleRing consoleCodec m msg.event, [])
  | .pop =>
    match ByteRing.readEvent consoleRing consoleCodec m with
    | some (e, m') => (m', [some e])
    | none => (m, [none])

/-- The bytes stand for a queue of messages. -/
def StandsFor (m : Layout.Memory) (q : BoundedQueue consoleRing.size ConsoleMessage) : Prop :=
  ∃ (b : RingBuffer consoleRing ConsoleLogEvent)
    (q' : BoundedQueue consoleRing.size ConsoleLogEvent),
    ByteRing.Refines consoleCodec m b ∧ b.StandsFor q' ∧
      q'.items = q.items.map ConsoleMessage.event

/-- **One call.** -/
theorem StandsFor.step {m : Layout.Memory} {q : BoundedQueue consoleRing.size ConsoleMessage}
    (h : StandsFor m q) (op : QueueOp ConsoleMessage) :
    (ConsoleBytes.step m op).2 = (q.step op).2.map (Option.map ConsoleMessage.event) ∧
      StandsFor (ConsoleBytes.step m op).1 (q.step op).1 := by
  obtain ⟨b, q', hbytes, hring, hitems⟩ := h
  match op with
  | .push msg =>
    refine ⟨rfl, b.writeEvent msg.event, q'.push msg.event, hbytes.writeEvent msg.event,
      (hring.step (.push msg.event)).2, ?_⟩
    show (q'.push msg.event).items = (q.push msg).items.map ConsoleMessage.event
    rw [BoundedQueue.push, BoundedQueue.push]
    dsimp only
    rw [hitems, List.length_map]
    split
    · rw [List.map_append]; rfl
    · rw [List.map_append, List.map_tail]; rfl
  | .pop =>
    have hpop := hring.step .pop
    have hfront : q'.front = q.front.map ConsoleMessage.event := by
      rw [BoundedQueue.front, BoundedQueue.front, hitems, List.head?_map]
    have htail : q'.pop.items = q.pop.items.map ConsoleMessage.event := by
      rw [BoundedQueue.pop_items, BoundedQueue.pop_items, hitems, List.map_tail]
    have hout : (ConsoleBytes.step m .pop).2 = (b.step .pop).2 ∧
        ByteRing.Refines consoleCodec (ConsoleBytes.step m .pop).1 (b.step .pop).1 := by
      rw [ConsoleBytes.step, RingBuffer.step]
      obtain ⟨hm, hb⟩ | ⟨e, m', b', hm, hb, hrefines⟩ := hbytes.readEvent
      · rw [hm, hb]
        exact ⟨rfl, hbytes⟩
      · rw [hm, hb]
        exact ⟨rfl, hrefines⟩
    refine ⟨?_, _, q'.pop, hout.2, hpop.2, htail⟩
    rw [hout.1, hpop.1]
    show [q'.front] = [q.front].map (Option.map ConsoleMessage.event)
    rw [hfront, List.map_singleton]

/-- Every sequence of calls. -/
theorem trace_eq (m : Layout.Memory) (calls : List (QueueOp ConsoleMessage)) :
    (Simulation.trace ConsoleBytes.step (ByteChannel.init consoleRing consoleCodec m).memory
        calls).2
      = (Simulation.trace BoundedQueue.step (.empty consoleRing.size ConsoleMessage) calls).2.map
          (Option.map ConsoleMessage.event) := by
  have hinit : StandsFor (ByteChannel.init consoleRing consoleCodec m).memory
      (.empty consoleRing.size ConsoleMessage) :=
    ⟨_, .empty consoleRing.size ConsoleLogEvent, .init m,
      ⟨[], 0, RingBuffer.represents_init _⟩, rfl⟩
  rw [← Simulation.trace_map]
  exact (Simulation.trace_eq (fun _ _ op h => (h.step op).1) (fun _ _ op h => (h.step op).2) hinit
    calls).1

theorem trace_outside (m : Layout.Memory) (calls : List (QueueOp ConsoleMessage)) {i : ℕ}
    (hi : (ringLayout consoleRing consoleCodec).size ≤ i) :
    (Simulation.trace ConsoleBytes.step m calls).1 i = m i := by
  induction calls generalizing m with
  | nil => rfl
  | cons op calls ih =>
    have hstep : (ConsoleBytes.step m op).1 i = m i := by
      match op with
      | .push msg => exact ByteRing.writeEvent_of_outside m msg.event hi
      | .pop =>
        rw [step]
        unfold ByteRing.readEvent
        dsimp only
        split
        · next heq =>
          split at heq
          · cases heq
          · cases heq
            exact ByteChannel.storeIndex_of_outside ByteChannel.isIndex_readIndex _ hi
        · rfl
    rw [Simulation.trace, ih, hstep]

end ConsoleBytes

/-- A text without a zero, as a consumer finds it up to the first zero. -/
theorem content_copyCefStringToUtf16Array {n : ℕ} (hn : 1 ≤ n) {value : U16String}
    (hvalue : 0 ∉ value) :
    Terminated.content 0 (List.ofFn (copyCefStringToUtf16Array n value)) = value.take (n - 1) := by
  have hkeep : ∀ u ∈ value.take (copyCount n value), (decide (u ≠ 0)) = true := by
    intro u hu
    have hne : u ≠ 0 := fun h => hvalue (h ▸ List.mem_of_mem_take hu)
    simpa using hne
  have hcount := copyCount_eq_min n value
  have hpos : n - copyCount n value = n - copyCount n value - 1 + 1 := by omega
  rw [ofFn_copyCefStringToUtf16Array, Terminated.content, List.takeWhile_append_of_pos hkeep, hpos,
    List.replicate_succ, List.takeWhile_cons_of_neg (by simp), List.append_nil, hcount]
  rcases Nat.le_total value.length (n - 1) with hle | hle
  · rw [Nat.min_eq_left hle, List.take_length, List.take_of_length_le hle]
  · rw [Nat.min_eq_right hle]

/-- **Console messages arrive**, in every sequence of `OnConsoleMessage` calls and reads of the
consumer, whatever the mapping held before `Init`.

* The consumer reads the messages in order, of which at most 256 wait for it: one more pushes the
  oldest out.
* A text without a zero is read as far as it fits in front of the terminating zero.
* Nothing behind the ring is written to. -/
theorem console_messages_arrive (m : Layout.Memory) (calls : List (QueueOp ConsoleMessage)) :
    let bytes := Simulation.trace ConsoleBytes.step
      (ByteChannel.init consoleRing consoleCodec m).memory calls
    let queue := Simulation.trace BoundedQueue.step
      (BoundedQueue.empty consoleRing.size ConsoleMessage) calls
    bytes.2 = queue.2.map (Option.map ConsoleMessage.event) ∧
      (∀ msg : ConsoleMessage, 0 ∉ msg.message → 0 ∉ msg.source →
        Terminated.content 0 (List.ofFn msg.event.message)
            = msg.message.take (consoleMessageMax - 1) ∧
          Terminated.content 0 (List.ofFn msg.event.source)
            = msg.source.take (consoleSourceMax - 1)) ∧
      ∀ i, (ringLayout consoleRing consoleCodec).size ≤ i → bytes.1 i = m i := by
  intro bytes queue
  refine ⟨ConsoleBytes.trace_eq m calls, fun msg hmessage hsource => ?_, fun i hi => ?_⟩
  · exact ⟨content_copyCefStringToUtf16Array (by decide) hmessage,
      content_copyCefStringToUtf16Array (by decide) hsource⟩
  · rw [ConsoleBytes.trace_outside _ _ hi]
    exact ByteChannel.memory_run m [] hi

end CefHost
