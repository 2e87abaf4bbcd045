import CefHost.Library.Runs
import CefHost.RingBuffer
import Mathlib.Data.List.Nodup

/-!
# The console ring

The host writes, the consumer reads with the protocol of `ReadEvent`. `WriteEvent` drops the
oldest event when it finds the ring full: it stores `read_index + 1` itself, so *both* sides
store `read_index`, each from a value it loaded earlier.

## What can go wrong, and when it does not

Three accesses are dangerous: the two stores of `read_index`, because the other side may have
moved it since the load, and the copy into a slot, because the reader may have chosen that slot
and not copied it yet. `RaceFree` says of each that it does no harm: a store of `read_index`
finds the loaded value or the one after it, and the slot written is not exactly one ring ahead
of the one the reader holds. Runs whose accesses are all race-free keep the ring a queue that
only forgets.

## Main results

* `ConsoleChannel.Inv.write`, `ConsoleChannel.Inv.read` — one access of either side
* `console_ring_subsequence` — race-free runs return a subsequence and never turn back
* `console_ring_repeats` — three events read between the full test and the drop are enough to
  make the ring return one of them twice
-/

namespace CefHost

open FreeRunning

variable {c : Capacity} {α : Type*}

/-- Where `WriteEvent` is, with the values it has loaded. -/
inductive ConsoleWriter (α : Type*)
  | idle
  /-- `write_index` loaded. -/
  | loadedWrite (e : α) (w : UInt32)
  /-- `read_index` loaded and the ring found full. -/
  | full (e : α) (r : UInt32)
  /-- There is room, or the oldest event has been dropped. -/
  | ready (e : α)
  /-- `write_index` loaded again. -/
  | indexed (e : α) (w : UInt32)
  /-- The slot is written, the index is not. -/
  | stored (e : α) (w : UInt32)
deriving DecidableEq

/-- The next access of `WriteEvent`. -/
def ConsoleWriter.step (b : RingBuffer c α) :
    ConsoleWriter α → α → RingBuffer c α × ConsoleWriter α × Option α
  | .idle, e => (b, .loadedWrite e b.writeIndex, none)
  | .loadedWrite e w, _ =>
    let r := b.readIndex
    if c.sizeU32 ≤ w - r then (b, .full e r, none) else (b, .ready e, none)
  | .full e r, _ => ({ b with readIndex := r + 1 }, .ready e, none)
  | .ready e, _ => (b, .indexed e b.writeIndex, none)
  | .indexed e w, _ =>
    ({ b with events := Function.update b.events (c.slot w) e }, .stored e w, none)
  | .stored e w, _ => ({ b with writeIndex := w + 1 }, .idle, some e)

/-- The console ring with the host on one side and the consumer on the other. -/
structure ConsoleChannel (c : Capacity) (α : Type*) where
  ring : RingBuffer c α
  writer : ConsoleWriter α
  reader : Reader α
  written : List α
  results : List (ReadResult α)

/-- The next access of one side; the event matters only between two calls of `WriteEvent`. -/
inductive ConsoleAction (α : Type*)
  | write (e : α)
  | read
deriving DecidableEq

namespace ConsoleChannel

def init (events : Fin c.size → α) : ConsoleChannel c α where
  ring := .init events
  writer := .idle
  reader := .idle
  written := []
  results := []

def step (s : ConsoleChannel c α) : ConsoleAction α → ConsoleChannel c α
  | .write e =>
    let (b, p, out) := s.writer.step s.ring e
    { s with ring := b, writer := p, written := s.written ++ out.toList }
  | .read =>
    let (b, rd, out) := s.reader.step s.ring .readEvent
    { s with ring := b, reader := rd, results := s.results ++ out.toList }

/-- The events the consumer has returned, in order. -/
def returned (s : ConsoleChannel c α) : List α := s.results.filterMap ReadResult.event?

/-- A step leaves `read_index` where it is or moves it on by one. -/
def NeverBack (s : ConsoleChannel c α) (a : ConsoleAction α) : Prop :=
  (s.step a).ring.readIndex = s.ring.readIndex ∨ (s.step a).ring.readIndex = s.ring.readIndex + 1

end ConsoleChannel

/-- The index the reader has chosen and not copied yet. -/
def Reader.held : Reader α → Option UInt32
  | .loadedRead r => some r
  | .nonEmpty r => some r
  | _ => none

/-- The writer's next access does no harm: its store of `read_index` finds the value it loaded,
or the one after it, and it does not overwrite a slot the reader holds. -/
def ConsoleWriter.RaceFree (b : RingBuffer c α) (rd : Reader α) : ConsoleWriter α → Prop
  | .full _ r => b.readIndex = r ∨ b.readIndex = r + 1
  | .indexed _ w => ∀ r ∈ rd.held, w - r ≠ c.sizeU32
  | _ => True

/-- The reader's next access does no harm: its store of `read_index` finds the value it loaded,
or the one after it. -/
def Reader.RaceFree (b : RingBuffer c α) : Reader α → Prop
  | .copied r _ => b.readIndex = r ∨ b.readIndex = r + 1
  | _ => True

/-- The step is not one of the three harmful ones. -/
def ConsoleChannel.RaceFree (s : ConsoleChannel c α) : ConsoleAction α → Prop
  | .write _ => s.writer.RaceFree s.ring s.reader
  | .read => s.reader.RaceFree s.ring

instance (b : RingBuffer c α) (rd : Reader α) : ∀ p : ConsoleWriter α, Decidable (p.RaceFree b rd)
  | .full _ r => inferInstanceAs (Decidable (b.readIndex = r ∨ b.readIndex = r + 1))
  | .indexed _ _ => Option.decidableForallMem rd.held
  | .idle => inferInstanceAs (Decidable True)
  | .loadedWrite _ _ => inferInstanceAs (Decidable True)
  | .ready _ => inferInstanceAs (Decidable True)
  | .stored _ _ => inferInstanceAs (Decidable True)

instance (b : RingBuffer c α) : ∀ rd : Reader α, Decidable (rd.RaceFree b)
  | .copied r _ => inferInstanceAs (Decidable (b.readIndex = r ∨ b.readIndex = r + 1))
  | .idle => inferInstanceAs (Decidable True)
  | .loadedRead _ => inferInstanceAs (Decidable True)
  | .nonEmpty _ => inferInstanceAs (Decidable True)
  | .pollLoadedRead _ => inferInstanceAs (Decidable True)

instance (s : ConsoleChannel c α) : ∀ a : ConsoleAction α, Decidable (s.RaceFree a)
  | .write _ => inferInstanceAs (Decidable (s.writer.RaceFree s.ring s.reader))
  | .read => inferInstanceAs (Decidable (s.reader.RaceFree s.ring))

/-! ### The invariant -/

/-- The number of slots written, of which the last may not be published yet. -/
def ConsoleWriter.filled (W : ℕ) : ConsoleWriter α → ℕ
  | .stored _ _ => W + 1
  | _ => W

/-- What the writer's loaded values mean, with `W` events written and `read_index` at `R`. -/
def ConsoleWriter.Ok (c : Capacity) (W R : ℕ) (events : Fin c.size → α) :
    ConsoleWriter α → Prop
  | .idle => True
  | .loadedWrite _ w => w = UInt32.ofNat W
  | .full _ r => ∃ k, r = UInt32.ofNat k ∧ k ≤ R ∧ W = k + c.size
  | .ready _ => W < R + c.size
  | .indexed _ w => w = UInt32.ofNat W ∧ W < R + c.size
  | .stored e w => w = UInt32.ofNat W ∧ W < R + c.size ∧ events (c.slot (UInt32.ofNat W)) = e

theorem ConsoleWriter.Ok.mono {W R R' : ℕ} {events : Fin c.size → α} {p : ConsoleWriter α}
    (h : p.Ok c W R events) (hR : R ≤ R') : p.Ok c W R' events := by
  have hroom : R + c.size ≤ R' + c.size := Nat.add_le_add_right hR _
  cases p with
  | idle => trivial
  | loadedWrite e w => exact h
  | full e r =>
    obtain ⟨k, hk, hle, hW⟩ := h
    exact ⟨k, hk, Nat.le_trans hle hR, hW⟩
  | ready e => exact Nat.lt_of_lt_of_le h hroom
  | indexed e w => exact ⟨h.1, Nat.lt_of_lt_of_le h.2 hroom⟩
  | stored e w => exact ⟨h.1, Nat.lt_of_lt_of_le h.2.1 hroom, h.2.2⟩

/-- What the reader's loaded values mean. Its index `k` may lag behind `read_index`, which the
writer moves too, but everything it has returned comes from before entry `k`. -/
def Reader.Fresh (c : Capacity) (written returned : List α) (filled R : ℕ) : Reader α → Prop
  | .idle => returned.Sublist (written.take R)
  | .loadedRead r => ∃ k, r = UInt32.ofNat k ∧ k ≤ R ∧ (k = R ∨ R < written.length) ∧
      filled ≤ k + c.size ∧ returned.Sublist (written.take k)
  | .nonEmpty r => ∃ k, r = UInt32.ofNat k ∧ k ≤ R ∧ R < written.length ∧
      filled ≤ k + c.size ∧ returned.Sublist (written.take k)
  | .copied r e => ∃ k, r = UInt32.ofNat k ∧ k ≤ R ∧ R < written.length ∧
      written[k]? = some e ∧ returned.Sublist (written.take k)
  | .pollLoadedRead _ => False

/-- The writer dropped an event. -/
theorem Reader.Fresh.drop {written returned : List α} {filled R R' : ℕ} {rd : Reader α}
    (h : rd.Fresh c written returned filled R) (hR : R ≤ R') (hlt : R' < written.length) :
    rd.Fresh c written returned filled R' := by
  cases rd with
  | idle => exact h.trans (List.take_sublist_take_left hR)
  | loadedRead r =>
    obtain ⟨k, hk, hle, -, hrest⟩ := h
    exact ⟨k, hk, Nat.le_trans hle hR, Or.inr hlt, hrest⟩
  | nonEmpty r =>
    obtain ⟨k, hk, hle, -, hrest⟩ := h
    exact ⟨k, hk, Nat.le_trans hle hR, hlt, hrest⟩
  | copied r e =>
    obtain ⟨k, hk, hle, -, hrest⟩ := h
    exact ⟨k, hk, Nat.le_trans hle hR, hlt, hrest⟩
  | pollLoadedRead r => exact h

/-- An event was published. -/
theorem Reader.Fresh.append {written returned : List α} {filled R : ℕ} {rd : Reader α}
    (h : rd.Fresh c written returned filled R) (hR : R ≤ written.length) (e : α) :
    rd.Fresh c (written ++ [e]) returned filled R := by
  have htake : ∀ k, k ≤ R → (written ++ [e]).take k = written.take k := fun k hk =>
    List.take_append_of_le_length (Nat.le_trans hk hR)
  have hlen : (written ++ [e]).length = written.length + 1 := by simp
  cases rd with
  | idle =>
    change returned.Sublist ((written ++ [e]).take R)
    rw [htake R (Nat.le_refl R)]
    exact h
  | loadedRead r =>
    obtain ⟨k, hk, hle, hor, hfilled, hsub⟩ := h
    refine ⟨k, hk, hle, hor.imp_right fun hlt => ?_, hfilled, ?_⟩
    · omega
    · rw [htake k hle]; exact hsub
  | nonEmpty r =>
    obtain ⟨k, hk, hle, hlt, hfilled, hsub⟩ := h
    refine ⟨k, hk, hle, by omega, hfilled, ?_⟩
    rw [htake k hle]; exact hsub
  | copied r a =>
    obtain ⟨k, hk, hle, hlt, hget, hsub⟩ := h
    refine ⟨k, hk, hle, by omega, ?_, ?_⟩
    · rw [List.getElem?_append_left (by omega)]; exact hget
    · rw [htake k hle]; exact hsub
  | pollLoadedRead r => exact h

/-- One more slot is written, and it is not the one the reader holds. -/
theorem Reader.Fresh.fill {written returned : List α} {W R : ℕ} {rd : Reader α}
    (h : rd.Fresh c written returned W R) (hR : R ≤ W)
    (hspare : ∀ r ∈ rd.held, UInt32.ofNat W - r ≠ c.sizeU32) :
    rd.Fresh c written returned (W + 1) R := by
  have hcap := c.size_lt
  -- what the reader holds is not one ring behind, so one more entry still fits
  have hroom : ∀ k, k ≤ R → W ≤ k + c.size → UInt32.ofNat k ∈ rd.held → W + 1 ≤ k + c.size := by
    intro k hk hW hheld
    have hne : W ≠ k + c.size := by
      intro heq
      refine hspare _ hheld (UInt32.toNat_inj.mp ?_)
      rw [toNat_ofNat_sub (by omega) (by omega), c.toNat_sizeU32]
      omega
    omega
  cases rd with
  | idle => exact h
  | loadedRead r =>
    obtain ⟨k, rfl, hle, hor, hfilled, hsub⟩ := h
    exact ⟨k, rfl, hle, hor, hroom k hle hfilled rfl, hsub⟩
  | nonEmpty r =>
    obtain ⟨k, rfl, hle, hlt, hfilled, hsub⟩ := h
    exact ⟨k, rfl, hle, hlt, hroom k hle hfilled rfl, hsub⟩
  | copied r a => exact h
  | pollLoadedRead r => exact h

namespace ConsoleChannel

/-- With `read_index` at `R`: the indices count, no more than a ring is filled, the last ring of
slots is intact, and what both sides have loaded still means something. -/
structure Inv (s : ConsoleChannel c α) (R : ℕ) : Prop where
  writeIndex : s.ring.writeIndex = UInt32.ofNat s.written.length
  readIndex : s.ring.readIndex = UInt32.ofNat R
  le : R ≤ s.written.length
  room : s.writer.filled s.written.length ≤ R + c.size
  window : Window c s.ring.events s.written
    (s.writer.filled s.written.length - c.size) s.written.length
  writer : s.writer.Ok c s.written.length R s.ring.events
  reader : s.reader.Fresh c s.written s.returned (s.writer.filled s.written.length) R

theorem inv_init (events : Fin c.size → α) : (init events).Inv 0 where
  writeIndex := rfl
  readIndex := rfl
  le := Nat.le_refl 0
  room := Nat.zero_le _
  window := by
    have : (ConsoleWriter.idle : ConsoleWriter α).filled 0 - c.size = 0 := Nat.zero_sub _
    change Window c events [] (ConsoleWriter.filled 0 (.idle : ConsoleWriter α) - c.size) 0
    rw [this]
    exact .empty _ _ _
  writer := trivial
  reader := List.Sublist.refl []

/-! ### One access at a time -/

/-- The writer's store of `read_index` drops at most the oldest event. -/
theorem Inv.writeDrop {s : ConsoleChannel c α} {R : ℕ} (h : s.Inv R) (hc : 1 < c.size) {e : α}
    {r : UInt32} (hp : s.writer = .full e r)
    (hrace : s.ring.readIndex = r ∨ s.ring.readIndex = r + 1) :
    ∃ R', Inv { s with ring := { s.ring with readIndex := r + 1 }, writer := .ready e } R' ∧
      (R' = R ∨ R' = R + 1) := by
  have hwriter := h.writer
  have hreader := h.reader
  have hroom := h.room
  have hwindow := h.window
  rw [hp] at hwriter hreader hroom hwindow
  obtain ⟨k, rfl, hkR, hW⟩ := hwriter
  have hle := h.le
  have hcap := c.size_lt
  rcases hrace with hr | hr
  · -- nobody has moved `read_index`: the oldest event goes
    obtain rfl : k = R := by
      rw [h.readIndex] at hr
      exact (ofNat_inj hkR (by omega)).mp hr.symm
    refine ⟨k + 1, ⟨h.writeIndex, ofNat_succ k, ?_, ?_, hwindow, ?_, ?_⟩, Or.inr rfl⟩
    · change k + 1 ≤ s.written.length
      omega
    · exact Nat.le_trans hroom (by omega)
    · change s.written.length < k + 1 + c.size
      omega
    · exact hreader.drop (Nat.le_succ k) (by omega)
  · -- the reader has just returned that event: the store changes nothing
    have hne : k ≠ R := by
      rintro rfl
      rw [h.readIndex, ofNat_succ, ofNat_inj (Nat.le_succ k) (by omega)] at hr
      omega
    refine ⟨R, ⟨h.writeIndex, ?_, hle, hroom, hwindow, ?_, hreader⟩, Or.inl rfl⟩
    · change UInt32.ofNat k + 1 = UInt32.ofNat R
      rw [← hr, h.readIndex]
    · change s.written.length < R + c.size
      omega

/-- A step of the writer that stores neither index nor slot only moves the writer. -/
theorem Inv.moveWriter {s : ConsoleChannel c α} {R : ℕ} (h : s.Inv R) {p : ConsoleWriter α}
    (hfilled : p.filled s.written.length = s.writer.filled s.written.length)
    (hp : p.Ok c s.written.length R s.ring.events) : Inv { s with writer := p } R := by
  refine ⟨h.writeIndex, h.readIndex, h.le, ?_, ?_, hp, ?_⟩
  · change p.filled s.written.length ≤ R + c.size
    rw [hfilled]; exact h.room
  · change Window c s.ring.events s.written (p.filled s.written.length - c.size) s.written.length
    rw [hfilled]; exact h.window
  · change s.reader.Fresh c s.written s.returned (p.filled s.written.length) R
    rw [hfilled]; exact h.reader

/-- The writer fills its slot: the entry overwritten is the oldest of a full ring, which the window
no longer counts. -/
theorem Inv.writeFill {s : ConsoleChannel c α} {R : ℕ} (h : s.Inv R) {e : α} {w : UInt32}
    (hp : s.writer = .indexed e w) (hrace : ∀ r ∈ s.reader.held, w - r ≠ c.sizeU32) :
    Inv { s with
      ring := { s.ring with events := Function.update s.ring.events (c.slot w) e }
      writer := .stored e w } R := by
  have hwriter := h.writer
  have hwindow := h.window
  have hreader := h.reader
  rw [hp] at hwriter hwindow hreader
  obtain ⟨rfl, hlt⟩ := hwriter
  refine ⟨h.writeIndex, h.readIndex, h.le, hlt, ?_, ?_, hreader.fill h.le hrace⟩
  · have hlow : s.written.length - c.size ≤ s.written.length + 1 - c.size := by omega
    exact (hwindow.mono hlow).write (by omega) e
  · exact ⟨rfl, hlt, Function.update_self ..⟩

/-- The writer's store of `write_index` publishes the event in its slot. -/
theorem Inv.writePublish {s : ConsoleChannel c α} {R : ℕ} (h : s.Inv R) {e : α} {w : UInt32}
    (hp : s.writer = .stored e w) :
    Inv { s with
      ring := { s.ring with writeIndex := w + 1 }
      writer := .idle
      written := s.written ++ [e] } R := by
  have hwriter := h.writer
  have hwindow := h.window
  have hreader := h.reader
  have hroom := h.room
  have hle := h.le
  rw [hp] at hwriter hwindow hreader hroom
  obtain ⟨rfl, hlt, hslot⟩ := hwriter
  have hlen : (s.written ++ [e]).length = s.written.length + 1 := by simp
  refine ⟨?_, h.readIndex, ?_, ?_, ?_, trivial, ?_⟩
  · change UInt32.ofNat s.written.length + 1 = UInt32.ofNat (s.written ++ [e]).length
    rw [ofNat_succ, hlen]
  · change R ≤ (s.written ++ [e]).length
    omega
  · change (s.written ++ [e]).length ≤ R + c.size
    rw [hlen]; exact hroom
  · change Window c s.ring.events (s.written ++ [e]) ((s.written ++ [e]).length - c.size)
      (s.written ++ [e]).length
    rw [hlen]
    exact hwindow.append rfl hslot
  · change s.reader.Fresh c (s.written ++ [e]) s.returned (s.written ++ [e]).length R
    rw [hlen]
    exact hreader.append hle e

theorem Inv.write {s : ConsoleChannel c α} {R : ℕ} (h : s.Inv R) (hc : 1 < c.size) (e : α)
    (hrace : s.RaceFree (.write e)) :
    ∃ R', (s.step (.write e)).Inv R' ∧ (R' = R ∨ R' = R + 1) := by
  have hwriter := h.writer
  have hcap := c.size_lt
  have hle := h.le
  cases hp : s.writer with
  | idle =>
    rw [show s.step (.write e) = { s with writer := .loadedWrite e s.ring.writeIndex } by
      simp [step, hp, ConsoleWriter.step]]
    exact ⟨R, h.moveWriter (by rw [hp]; rfl) h.writeIndex, Or.inl rfl⟩
  | loadedWrite e' w =>
    rw [hp] at hwriter
    have hroom : s.written.length ≤ R + c.size := by
      have := h.room
      rwa [hp] at this
    have hdist : (w - s.ring.readIndex).toNat = s.written.length - R := by
      have hw : w = UInt32.ofNat s.written.length := hwriter
      rw [hw, h.readIndex, toNat_ofNat_sub hle (by omega)]
    by_cases hfull : c.sizeU32 ≤ w - s.ring.readIndex
    · rw [show s.step (.write e) = { s with writer := .full e' s.ring.readIndex } by
        simp [step, hp, ConsoleWriter.step, hfull]]
      rw [UInt32.le_iff_toNat_le, c.toNat_sizeU32, hdist] at hfull
      exact ⟨R, h.moveWriter (by rw [hp]; rfl) ⟨R, h.readIndex, Nat.le_refl R, by omega⟩,
        Or.inl rfl⟩
    · rw [show s.step (.write e) = { s with writer := .ready e' } by
        simp [step, hp, ConsoleWriter.step, hfull]]
      rw [UInt32.le_iff_toNat_le, c.toNat_sizeU32, hdist] at hfull
      have hlt : s.written.length < R + c.size := by omega
      exact ⟨R, h.moveWriter (by rw [hp]; rfl) hlt, Or.inl rfl⟩
  | full e' r =>
    rw [show s.step (.write e)
        = { s with ring := { s.ring with readIndex := r + 1 }, writer := .ready e' } by
      simp [step, hp, ConsoleWriter.step]]
    rw [RaceFree, hp, ConsoleWriter.RaceFree] at hrace
    exact h.writeDrop hc hp hrace
  | ready e' =>
    rw [hp] at hwriter
    rw [show s.step (.write e) = { s with writer := .indexed e' s.ring.writeIndex } by
      simp [step, hp, ConsoleWriter.step]]
    exact ⟨R, h.moveWriter (by rw [hp]; rfl) ⟨h.writeIndex, hwriter⟩, Or.inl rfl⟩
  | indexed e' w =>
    rw [show s.step (.write e) =
        { s with
          ring := { s.ring with events := Function.update s.ring.events (c.slot w) e' }
          writer := .stored e' w } by
      simp [step, hp, ConsoleWriter.step]]
    rw [RaceFree, hp, ConsoleWriter.RaceFree] at hrace
    exact ⟨R, h.writeFill hp hrace, Or.inl rfl⟩
  | stored e' w =>
    rw [show s.step (.write e) =
        { s with
          ring := { s.ring with writeIndex := w + 1 }
          writer := .idle
          written := s.written ++ [e'] } by
      simp [step, hp, ConsoleWriter.step]]
    exact ⟨R, h.writePublish hp, Or.inl rfl⟩

/-- A step of the reader that returns no event only moves the reader. -/
theorem Inv.moveReader {s : ConsoleChannel c α} {R : ℕ} (h : s.Inv R) {rd : Reader α}
    {out : List (ReadResult α)} (hout : out.filterMap ReadResult.event? = [])
    (hrd : rd.Fresh c s.written s.returned (s.writer.filled s.written.length) R) :
    Inv { s with reader := rd, results := s.results ++ out } R := by
  have hret : ConsoleChannel.returned { s with reader := rd, results := s.results ++ out }
      = s.returned := by
    rw [returned, List.filterMap_append, hout, List.append_nil]
    rfl
  refine ⟨h.writeIndex, h.readIndex, h.le, h.room, h.window, h.writer, ?_⟩
  rw [hret]
  exact hrd

/-- The reader's store of `read_index` returns the event it has copied. -/
theorem Inv.readStore {s : ConsoleChannel c α} {R : ℕ} (h : s.Inv R) {e : α} {r : UInt32}
    (hr : s.reader = .copied r e) (hrace : s.ring.readIndex = r ∨ s.ring.readIndex = r + 1) :
    ∃ R', Inv { s with
        ring := { s.ring with readIndex := r + 1 }
        reader := .idle
        results := s.results ++ [.event e] } R' ∧ (R' = R ∨ R' = R + 1) := by
  have hread := h.reader
  rw [hr] at hread
  obtain ⟨k, rfl, hkR, hRW, hget, hsub⟩ := hread
  -- the event returned is entry `k`, and everything before it came earlier
  have hret : ∀ R', k + 1 ≤ R' → (s.returned ++ [e]).Sublist (s.written.take R') := by
    intro R' hR'
    have htake : s.written.take (k + 1) = s.written.take k ++ [e] := by
      rw [List.take_add_one, hget]; rfl
    have hk := hsub.append (List.Sublist.refl [e])
    rw [← htake] at hk
    exact hk.trans (List.take_sublist_take_left hR')
  have hreturned : ConsoleChannel.returned { s with
      ring := { s.ring with readIndex := UInt32.ofNat k + 1 }
      reader := .idle
      results := s.results ++ [.event e] } = s.returned ++ [e] := by
    rw [returned, List.filterMap_append]; rfl
  rcases hrace with hidx | hidx
  · refine ⟨R + 1, ⟨h.writeIndex, ?_, hRW, ?_, h.window, h.writer.mono (Nat.le_succ R), ?_⟩,
      Or.inr rfl⟩
    · change UInt32.ofNat k + 1 = UInt32.ofNat (R + 1)
      rw [← hidx, h.readIndex, ofNat_succ]
    · exact Nat.le_trans h.room (by omega)
    · rw [hreturned]
      exact hret (R + 1) (Nat.succ_le_succ hkR)
  · have hne : k ≠ R := by
      rintro rfl
      rw [h.readIndex, ofNat_succ, ofNat_inj (Nat.le_succ k) (by omega)] at hidx
      omega
    refine ⟨R, ⟨h.writeIndex, ?_, h.le, h.room, h.window, h.writer, ?_⟩, Or.inl rfl⟩
    · change UInt32.ofNat k + 1 = UInt32.ofNat R
      rw [← hidx, h.readIndex]
    · rw [hreturned]
      exact hret R (by omega)

theorem Inv.read {s : ConsoleChannel c α} {R : ℕ} (h : s.Inv R) (hrace : s.RaceFree .read) :
    ∃ R', (s.step .read).Inv R' ∧ (R' = R ∨ R' = R + 1) := by
  have hread := h.reader
  cases hr : s.reader with
  | idle =>
    rw [hr] at hread
    rw [show s.step .read
        = { s with reader := .loadedRead s.ring.readIndex, results := s.results ++ [] } by
      simp [step, hr, Reader.step]]
    exact ⟨R, h.moveReader rfl ⟨R, h.readIndex, Nat.le_refl R, Or.inl rfl, h.room, hread⟩,
      Or.inl rfl⟩
  | loadedRead r =>
    rw [hr] at hread
    obtain ⟨k, rfl, hkR, hor, hfilled, hsub⟩ := hread
    by_cases heq : UInt32.ofNat k = s.ring.writeIndex
    · rw [show s.step .read = { s with reader := .idle, results := s.results ++ [.empty] } by
        simp [step, hr, Reader.step, heq]]
      exact ⟨R, h.moveReader rfl (hsub.trans (List.take_sublist_take_left hkR)), Or.inl rfl⟩
    · rw [show s.step .read
          = { s with reader := .nonEmpty (UInt32.ofNat k), results := s.results ++ [] } by
        simp [step, hr, Reader.step, heq]]
      have hlt : R < s.written.length := by
        rcases hor with rfl | hlt
        · exact Nat.lt_of_le_of_ne h.le fun hlen => heq (by rw [h.writeIndex, hlen])
        · exact hlt
      exact ⟨R, h.moveReader rfl ⟨k, rfl, hkR, hlt, hfilled, hsub⟩, Or.inl rfl⟩
  | nonEmpty r =>
    rw [hr] at hread
    obtain ⟨k, rfl, hkR, hlt, hfilled, hsub⟩ := hread
    rw [show s.step .read
        = { s with
            reader := .copied (UInt32.ofNat k) (s.ring.events (c.slot (UInt32.ofNat k)))
            results := s.results ++ [] } by
      simp [step, hr, Reader.step]]
    have hget := h.window.get (i := k) (by omega) (by omega)
    exact ⟨R, h.moveReader rfl ⟨k, rfl, hkR, hlt, hget, hsub⟩, Or.inl rfl⟩
  | copied r e =>
    rw [show s.step .read
        = { s with
            ring := { s.ring with readIndex := r + 1 }
            reader := .idle
            results := s.results ++ [.event e] } by
      simp [step, hr, Reader.step]]
    rw [RaceFree, hr, Reader.RaceFree] at hrace
    exact h.readStore hr hrace
  | pollLoadedRead r =>
    rw [hr] at hread
    exact hread.elim

/-- One race-free access of either side keeps the invariant and never turns `read_index` back. -/
theorem Inv.next {s : ConsoleChannel c α} {R : ℕ} (h : s.Inv R) (hc : 1 < c.size)
    {a : ConsoleAction α} (hrace : s.RaceFree a) :
    ∃ R', (s.step a).Inv R' ∧ (R' = R ∨ R' = R + 1) := by
  cases a with
  | write e => exact h.write hc e hrace
  | read => exact h.read hrace

theorem Inv.neverBack {s : ConsoleChannel c α} {R : ℕ} (h : s.Inv R) (hc : 1 < c.size)
    {a : ConsoleAction α} (hrace : s.RaceFree a) : s.NeverBack a := by
  obtain ⟨R', h', rfl | rfl⟩ := h.next hc hrace
  · exact Or.inl (by rw [h'.readIndex, h.readIndex])
  · exact Or.inr (by rw [h'.readIndex, h.readIndex, ofNat_succ])

/-- What the reader has returned is a subsequence of what was written. -/
theorem Inv.sublist {s : ConsoleChannel c α} {R : ℕ} (h : s.Inv R) :
    s.returned.Sublist s.written := by
  have hread := h.reader
  cases hr : s.reader with
  | idle =>
    rw [hr] at hread
    exact hread.trans (List.take_sublist _ _)
  | loadedRead r =>
    rw [hr] at hread
    obtain ⟨k, -, -, -, -, hsub⟩ := hread
    exact hsub.trans (List.take_sublist _ _)
  | nonEmpty r =>
    rw [hr] at hread
    obtain ⟨k, -, -, -, -, hsub⟩ := hread
    exact hsub.trans (List.take_sublist _ _)
  | copied r e =>
    rw [hr] at hread
    obtain ⟨k, -, -, -, -, hsub⟩ := hread
    exact hsub.trans (List.take_sublist _ _)
  | pollLoadedRead r =>
    rw [hr] at hread
    exact hread.elim

end ConsoleChannel

/-- **Race-free runs of the console ring lose events but never repeat, reorder or replace one**,
and `read_index` never turns back, for every interleaving of the two sides and any number of
events. -/
theorem console_ring_subsequence (events : Fin consoleRing.size → ConsoleLogEvent)
    (as : List (ConsoleAction ConsoleLogEvent))
    (hrace : Runs.Along ConsoleChannel.step ConsoleChannel.RaceFree
      (ConsoleChannel.init events) as) :
    (Runs.run ConsoleChannel.step (ConsoleChannel.init events) as).returned.Sublist
        (Runs.run ConsoleChannel.step (ConsoleChannel.init events) as).written ∧
      Runs.Along ConsoleChannel.step ConsoleChannel.NeverBack (ConsoleChannel.init events) as := by
  have hc : 1 < consoleRing.size := by decide
  have hinit : ∃ R, (ConsoleChannel.init events).Inv R := ⟨0, ConsoleChannel.inv_init events⟩
  have hstep : ∀ (s : ConsoleChannel consoleRing ConsoleLogEvent) a, (∃ R, s.Inv R) →
      s.RaceFree a → ∃ R, (s.step a).Inv R := by
    rintro s a ⟨R, h⟩ hr
    obtain ⟨R', h', -⟩ := h.next hc hr
    exact ⟨R', h'⟩
  refine ⟨?_, ?_⟩
  · obtain ⟨R, h⟩ := Runs.invariant_of_along hstep hinit hrace
    exact h.sublist
  · refine Runs.along_of_invariant hstep ?_ hinit hrace
    rintro s a ⟨R, h⟩ hr
    exact h.neverBack hc hr

/-- A message from line `n` of a page. -/
def lineEvent (n : ℕ) : ConsoleLogEvent := ⟨.log, Int32.ofNat n, fun _ => 0, fun _ => 0⟩

/-- The ring as it was mapped, zeroes. -/
def zeroConsole : ConsoleChannel consoleRing ConsoleLogEvent := .init fun _ => lineEvent 0

/-- The first `n` messages, each written without interruption while there is room. -/
def writeLines (n : ℕ) : List (ConsoleAction ConsoleLogEvent) :=
  (List.range n).flatMap fun i => List.replicate 5 (.write (lineEvent i))

/-- The ring is filled, one more message drops the oldest, and one is read. -/
def dropRun : List (ConsoleAction ConsoleLogEvent) :=
  writeLines 256 ++ List.replicate 6 (.write (lineEvent 256)) ++ List.replicate 4 .read

set_option maxRecDepth 20000 in
theorem console_ring_subsequence_drop :
    Runs.Along ConsoleChannel.step ConsoleChannel.RaceFree zeroConsole dropRun ∧
      (Runs.run ConsoleChannel.step zeroConsole dropRun).returned.Sublist
        (Runs.run ConsoleChannel.step zeroConsole dropRun).written ∧
      Runs.Along ConsoleChannel.step ConsoleChannel.NeverBack zeroConsole dropRun := by
  have hrace : Runs.Along ConsoleChannel.step ConsoleChannel.RaceFree zeroConsole dropRun := by
    decide +kernel
  exact ⟨hrace, console_ring_subsequence _ _ hrace⟩

/-- The ring is filled and the writer of one more message finds it full; before it drops the
oldest, three messages are read. -/
def overtakenRun : List (ConsoleAction ConsoleLogEvent) :=
  writeLines 256 ++ List.replicate 2 (.write (lineEvent 256)) ++ List.replicate 12 .read

/-- The drop then stores `read_index := 1` over 3, and message 1 is read again. -/
def repeatingRun : List (ConsoleAction ConsoleLogEvent) :=
  overtakenRun ++ (.write (lineEvent 256) :: List.replicate 4 .read)

namespace ConsoleChannel

instance (s : ConsoleChannel c α) (a : ConsoleAction α) : Decidable (s.NeverBack a) :=
  inferInstanceAs (Decidable (_ ∨ _))

/-- The event a step publishes. -/
def publishes (s : ConsoleChannel c α) : ConsoleAction α → Option α
  | .write e => (s.writer.step s.ring e).2.2
  | .read => none

/-- The events a run publishes. -/
def publishedBy : ConsoleChannel c α → List (ConsoleAction α) → List α
  | _, [] => []
  | s, a :: as => (s.publishes a).toList ++ publishedBy (s.step a) as

theorem run_written (s : ConsoleChannel c α) (as : List (ConsoleAction α)) :
    (Runs.run step s as).written = s.written ++ publishedBy s as := by
  induction as generalizing s with
  | nil => simp [publishedBy]
  | cons a as ih =>
    rw [Runs.run_cons, ih, publishedBy, ← List.append_assoc]
    congr 1
    cases a <;> simp [step, publishes]

end ConsoleChannel

set_option maxRecDepth 20000 in
/-- **Without the guard** the ring repeats a message and turns `read_index` back. -/
theorem console_ring_repeats :
    ¬ (Runs.run ConsoleChannel.step zeroConsole repeatingRun).returned.Sublist
        (Runs.run ConsoleChannel.step zeroConsole repeatingRun).written ∧
      ¬ Runs.Along ConsoleChannel.step ConsoleChannel.NeverBack zeroConsole repeatingRun := by
  constructor
  · -- message 1 was written once and returned twice
    intro hsub
    have hle := hsub.countP_le (p := fun e => e.line == 1)
    have hreturned : (Runs.run ConsoleChannel.step zeroConsole repeatingRun).returned.countP
        (fun e => e.line == 1) = 2 := by decide +kernel
    have hwritten : (ConsoleChannel.publishedBy zeroConsole repeatingRun).countP
        (fun e => e.line == 1) = 1 := by decide +kernel
    rw [ConsoleChannel.run_written, hreturned, show zeroConsole.written = [] from rfl,
      List.nil_append, hwritten] at hle
    omega
  · intro hback
    have hdrop : ¬ (Runs.run ConsoleChannel.step zeroConsole overtakenRun).NeverBack
        (.write (lineEvent 256)) := by decide +kernel
    rw [repeatingRun, Runs.along_append, Runs.along_cons] at hback
    exact hdrop hback.2.1

end CefHost
