import CefHost.Library.Footprint
import CefHost.PublicationLaw

/-!
# CPU frames

`SharedFrameBuffer::WriteFrame` copies the pixels of a frame into the next of three slots behind
the header, and then publishes that slot. The header lies in memory the consumer can write to. The
slot count found there is repaired, and the new slot is taken modulo the repaired count, so no
header content makes the copy start anywhere but at the beginning of a slot. The copy itself is as
long as the caller says: nothing compares `data_size` with the size of a slot.

## Representation

The mapping is the header at its start and the bytes behind it, by their offset in the mapping.
The offsets go on behind the end of the mapping, where the bytes are somebody else's, or nobody's
and the copy faults.

## Main definitions

* `FrameMapping.writeFrame`, `SharedFrameBuffer.writeFrame` — the source function
* `KeepsToSlot` — the pixels go into one slot, another one than the consumer is reading

## Main results

* `nextSlot_lt`, `nextSlot_ne` — the slot, for any header
* `writeFrame_pixels` — the slot holds the frame afterwards
* `frame_write_in_slot_iff` — a write keeps to its slot exactly if the frame fits in one
* `published_slot_intact` — then what the consumer is reading stays as it is
* `write_frame_publishes` — the whole call
-/

namespace CefHost

open Footprint

instance instNontrivialUInt8 : Nontrivial UInt8 := ⟨0, 1, by decide⟩

structure FrameMapping where
  header : FrameHeader
  bytes : ℕ → UInt8

/-- The mapping, once `Init` has set `m_pData`, and how often the frame event was set. -/
structure SharedFrameBuffer where
  data : Option FrameMapping
  frameEvents : ℕ

/-- The slots in use: the count of the header, if it is one. -/
def slotsInUse (slotCount : UInt32) : UInt32 :=
  if slotCount = 0 ∨ UInt32.ofNat shmFrameSlotCount < slotCount then
    UInt32.ofNat shmFrameSlotCount
  else slotCount

/-- The slot the next frame is written to. -/
def nextSlot (header : FrameHeader) : UInt32 :=
  (header.writeSlot + 1) % slotsInUse header.slotCount

/-- Where the pixels of a slot start. -/
def pixelOffset (slot : ℕ) : ℕ := sizeofFrameHeader + slot * shmFrameSize

/-- The bytes of a slot. -/
def slotBytes (slot : ℕ) : Set ℕ := Set.Ico (pixelOffset slot) (pixelOffset slot + shmFrameSize)

namespace FrameMapping

def writeFrame (m : FrameMapping) (width height : UInt32) (bgraData : List UInt8) :
    FrameMapping :=
  let slotCount := slotsInUse m.header.slotCount
  let writeSlot := (m.header.writeSlot + 1) % slotCount
  let bytes := copy (pixelOffset writeSlot.toNat) bgraData m.bytes
  let header := [.protocolMagic shmProtocolMagic, .version shmProtocolVersion,
    .slotCount slotCount, .width width, .height height, .writeSlot writeSlot].foldl
      FrameHeader.apply m.header
  let header := header.apply (.sequence (header.sequence + 1))
  let header := header.apply (.frameId (header.frameId + 1))
  { header := header.apply (.presentId header.frameId), bytes }

/-- The bytes `writeFrame` stores to, given what the header says. -/
def written (header : FrameHeader) (width height : UInt32) (bgraData : List UInt8) : Set ℕ :=
  footprint fun bytes => (writeFrame ⟨header, bytes⟩ width height bgraData).bytes

end FrameMapping

def SharedFrameBuffer.writeFrame (s : SharedFrameBuffer) (width height : UInt32)
    (bgraData : List UInt8) : SharedFrameBuffer :=
  match s.data with
  | none => s
  | some m =>
    { data := some (m.writeFrame width height bgraData)
      frameEvents := s.frameEvents + 1 }

open FrameMapping

/-- The pixels of a frame go into one slot: not into the one the header named, if that was a slot
and there is another one in use, and not behind the mapping. -/
structure KeepsToSlot (header : FrameHeader) (width height : UInt32) (bgraData : List UInt8)
    (slot : ℕ) : Prop where
  slot_lt : slot < shmFrameSlotCount
  inside : written header width height bgraData ⊆ slotBytes slot
  other : header.writeSlot.toNat < shmFrameSlotCount → 2 ≤ slotsInUse header.slotCount →
    slot ≠ header.writeSlot.toNat
  mapped : ∀ i ∈ written header width height bgraData, i < shmFrameTotal

/-! ### The slot -/

theorem slotsInUse_range (slotCount : UInt32) :
    1 ≤ slotsInUse slotCount ∧ slotsInUse slotCount ≤ 3 := by
  have hcount : UInt32.ofNat shmFrameSlotCount = 3 := rfl
  rw [slotsInUse, hcount]
  split_ifs with h
  · decide
  · grind

theorem slotsInUse_toNat (slotCount : UInt32) :
    1 ≤ (slotsInUse slotCount).toNat ∧ (slotsInUse slotCount).toNat ≤ shmFrameSlotCount := by
  obtain ⟨hpos, hle⟩ := slotsInUse_range slotCount
  exact ⟨UInt32.le_iff_toNat_le.mp hpos, UInt32.le_iff_toNat_le.mp hle⟩

theorem nextSlot_lt_slotsInUse (header : FrameHeader) :
    (nextSlot header).toNat < (slotsInUse header.slotCount).toNat := by
  rw [nextSlot, UInt32.toNat_mod]
  exact Nat.mod_lt _ (slotsInUse_toNat header.slotCount).1

/-- **The slot is one of the three**, whatever the header says. -/
theorem nextSlot_lt (header : FrameHeader) : (nextSlot header).toNat < shmFrameSlotCount :=
  Nat.lt_of_lt_of_le (nextSlot_lt_slotsInUse header) (slotsInUse_toNat header.slotCount).2

/-- It is another one than the header names, as soon as two are in use. -/
theorem nextSlot_ne {header : FrameHeader} (h : 2 ≤ slotsInUse header.slotCount) :
    nextSlot header ≠ header.writeSlot := by
  intro heq
  have hcount : 2 ≤ (slotsInUse header.slotCount).toNat := UInt32.le_iff_toNat_le.mp h
  have hlt := nextSlot_lt_slotsInUse header
  have hle := (slotsInUse_toNat header.slotCount).2
  have hcap : shmFrameSlotCount = 3 := rfl
  have hstep : (nextSlot header).toNat
      = (header.writeSlot.toNat + 1) % (slotsInUse header.slotCount).toNat := by
    rw [heq] at hlt
    have hwrap : (header.writeSlot.toNat + 1) % 2 ^ 32 = header.writeSlot.toNat + 1 :=
      Nat.mod_eq_of_lt (by omega)
    rw [nextSlot, UInt32.toNat_mod, UInt32.toNat_add, UInt32.toNat_one, hwrap]
  rw [heq] at hstep hlt
  by_cases hlast : header.writeSlot.toNat + 1 = (slotsInUse header.slotCount).toNat
  · rw [hlast, Nat.mod_self] at hstep
    omega
  · rw [Nat.mod_eq_of_lt (by omega)] at hstep
    omega

theorem slotBytes_mapped {slot : ℕ} (hslot : slot < shmFrameSlotCount) {i : ℕ}
    (hi : i ∈ slotBytes slot) : i < shmFrameTotal := by
  have hle : (slot + 1) * shmFrameSize ≤ shmFrameSlotCount * shmFrameSize :=
    Nat.mul_le_mul_right _ hslot
  rw [slotBytes, pixelOffset, Set.mem_Ico] at hi
  rw [shmFrameTotal, Nat.mul_comm shmFrameSize]
  rw [Nat.succ_mul] at hle
  omega

/-- The slot a byte belongs to. -/
theorem slot_eq_div {slot i : ℕ} (h : i ∈ slotBytes slot) :
    (i - sizeofFrameHeader) / shmFrameSize = slot := by
  rw [slotBytes, pixelOffset, Set.mem_Ico] at h
  rw [Nat.div_eq_of_lt_le]
  · omega
  · rw [Nat.succ_mul]
    omega

/-- Two slots share no byte. -/
theorem eq_of_mem_slotBytes {slot slot' i : ℕ} (h : i ∈ slotBytes slot)
    (h' : i ∈ slotBytes slot') : slot = slot' := by
  rw [← slot_eq_div h, slot_eq_div h']

/-! ### The write -/

section Write

variable (header : FrameHeader) (width height : UInt32) (bgraData : List UInt8)

/-- The header afterwards names the slot that was written. -/
theorem writeFrame_writeSlot (m : FrameMapping) :
    (m.writeFrame width height bgraData).header.writeSlot = nextSlot m.header := rfl

theorem writeFrame_bytes (m : FrameMapping) :
    (m.writeFrame width height bgraData).bytes =
      copy (pixelOffset (nextSlot m.header).toNat) bgraData m.bytes := rfl

/-- The header is stored to as in the model of the whole producer. -/
theorem writeFrame_header_eq (s : Painter) (bytes : ℕ → UInt8) :
    (writeFrame ⟨s.header, bytes⟩ width height bgraData).header
      = (s.writeFrame width height).header := rfl

theorem written_eq_footprint : written header width height bgraData =
    footprint (copy (pixelOffset (nextSlot header).toNat) bgraData) := rfl

theorem written_eq : written header width height bgraData =
    Set.Ico (pixelOffset (nextSlot header).toNat)
      (pixelOffset (nextSlot header).toNat + bgraData.length) := by
  rw [written_eq_footprint, footprint_copy]

variable {bgraData}

/-- **The slot holds the frame.** -/
theorem writeFrame_pixels (m : FrameMapping) {k : ℕ} (hk : k < bgraData.length) :
    (m.writeFrame width height bgraData).bytes (pixelOffset (nextSlot m.header).toNat + k)
      = bgraData[k] := by
  rw [writeFrame_bytes, copy_add _ hk]

theorem keepsToSlot_of_length_le (hfits : bgraData.length ≤ shmFrameSize) :
    KeepsToSlot header width height bgraData (nextSlot header).toNat := by
  have hinside : written header width height bgraData ⊆ slotBytes (nextSlot header).toNat := by
    rw [written_eq]
    exact Set.Ico_subset_Ico_right (Nat.add_le_add_left hfits _)
  refine ⟨nextSlot_lt header, hinside, fun _ hcount heq => ?_, fun i hi => ?_⟩
  · exact nextSlot_ne hcount (UInt32.toNat_inj.mp heq)
  · exact slotBytes_mapped (nextSlot_lt header) (hinside hi)

theorem KeepsToSlot.length_le {header : FrameHeader} {width height : UInt32} {slot : ℕ}
    (h : KeepsToSlot header width height bgraData slot) : bgraData.length ≤ shmFrameSize := by
  have hinside := h.inside
  rw [written_eq_footprint] at hinside
  exact length_le_of_footprint_copy_subset hinside

end Write

/-- **A write keeps to one slot exactly if the frame fits in it**: `data_size` is at most
`SHM_FRAME_SIZE`. The header does not matter. -/
theorem frame_write_in_slot_iff (header : FrameHeader) (width height : UInt32)
    (bgraData : List UInt8) : (∃ slot, KeepsToSlot header width height bgraData slot) ↔
      bgraData.length ≤ shmFrameSize := by
  constructor
  · rintro ⟨slot, h⟩
    exact h.length_le
  · intro hfits
    exact ⟨_, keepsToSlot_of_length_le header width height hfits⟩

/-- A header the host itself publishes: three slots, the second one shown. -/
def secondSlotShown : FrameHeader := { FrameHeader.cleared with slotCount := 3, writeSlot := 1 }

/-- A frame 4096 pixels wide is longer than a slot. Written to the third slot, it leaves the
mapping. -/
theorem wide_frame_leaves_mapping :
    (¬ ∃ slot, KeepsToSlot secondSlotShown 4096 2160 (List.replicate (4096 * 2160 * 4) 0) slot) ∧
      shmFrameTotal ∈
        written secondSlotShown 4096 2160 (List.replicate (4096 * 2160 * 4) 0) := by
  have hslot : (nextSlot secondSlotShown).toNat = 2 := by decide
  constructor
  · rintro ⟨slot, h⟩
    have hle := h.length_le
    rw [List.length_replicate] at hle
    simp [shmFrameSize, shmMaxWidth, shmMaxHeight] at hle
  · rw [written_eq, hslot, List.length_replicate, Set.mem_Ico]
    simp [shmFrameTotal, pixelOffset, shmFrameSize, shmMaxWidth, shmMaxHeight, shmFrameSlotCount]

/-! ### What a write leaves behind -/

/-- Outside the slot it writes, a frame that fits changes nothing. -/
theorem writeFrame_bytes_of_notMem (m : FrameMapping) (width height : UInt32)
    {bgraData : List UInt8} (hfits : bgraData.length ≤ shmFrameSize) {i : ℕ}
    (hi : i ∉ slotBytes (nextSlot m.header).toNat) :
    (m.writeFrame width height bgraData).bytes i = m.bytes i := by
  have hkeeps := keepsToSlot_of_length_le m.header width height hfits
  have hout : i ∉ written m.header width height bgraData := fun hmem => hi (hkeeps.inside hmem)
  exact eq_of_notMem_footprint hout m.bytes

/-- **The slot the consumer is reading stays as it is**, if the frame fits and there are two slots
in use. -/
theorem published_slot_intact (m : FrameMapping) (width height : UInt32) {bgraData : List UInt8}
    (hfits : bgraData.length ≤ shmFrameSize) (hcount : 2 ≤ slotsInUse m.header.slotCount) {i : ℕ}
    (hi : i ∈ slotBytes m.header.writeSlot.toNat) :
    (m.writeFrame width height bgraData).bytes i = m.bytes i := by
  refine writeFrame_bytes_of_notMem m width height hfits fun hmem => ?_
  have hsame := eq_of_mem_slotBytes hmem hi
  exact nextSlot_ne hcount (UInt32.toNat_inj.mp hsame)

/-- **A write publishes a frame that fits.** Whatever the consumer has left in the header and in the
slots, afterwards the header names a slot that holds the pixels, the other bytes of the mapping are
what they were, those of the slot shown before among them if two slots are in use, and the frame
event is set once. The header is stored to as in the model of the whole producer. Without a mapping
nothing happens. -/
theorem write_frame_publishes (s : SharedFrameBuffer) (width height : UInt32)
    (bgraData : List UInt8) :
    (s.data = none → s.writeFrame width height bgraData = s) ∧
    ∀ m, s.data = some m → bgraData.length ≤ shmFrameSize →
      ∃ m', s.writeFrame width height bgraData =
          { data := some m', frameEvents := s.frameEvents + 1 } ∧
        (∀ painter : Painter, painter.header = m.header →
          m'.header = (painter.writeFrame width height).header) ∧
        m'.header.writeSlot.toNat < shmFrameSlotCount ∧
        (∀ k (hk : k < bgraData.length),
          m'.bytes (pixelOffset m'.header.writeSlot.toNat + k) = bgraData[k]) ∧
        (∀ i ∉ slotBytes m'.header.writeSlot.toNat, m'.bytes i = m.bytes i) ∧
        (2 ≤ slotsInUse m.header.slotCount →
          ∀ i ∈ slotBytes m.header.writeSlot.toNat, m'.bytes i = m.bytes i) := by
  refine ⟨fun hnone => ?_, fun m hm hfits =>
    ⟨m.writeFrame width height bgraData, ?_, ?_, ?_, ?_, ?_, ?_⟩⟩
  · rw [SharedFrameBuffer.writeFrame, hnone]
  · rw [SharedFrameBuffer.writeFrame, hm]
  · rintro painter hheader
    rw [← writeFrame_header_eq width height bgraData painter m.bytes, hheader]
  · rw [writeFrame_writeSlot]
    exact nextSlot_lt m.header
  · intro k hk
    rw [writeFrame_writeSlot]
    exact writeFrame_pixels width height m hk
  · intro i hi
    rw [writeFrame_writeSlot] at hi
    exact writeFrame_bytes_of_notMem m width height hfits hi
  · intro hcount i hi
    exact published_slot_intact m width height hfits hcount hi

end CefHost
