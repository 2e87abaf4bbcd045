import CefHost.Library.Layout

/-!
# Values in blocks of memory

A value of a type is put into a block of memory by some stores, one after the other, and read off
the bytes of the block. The stores need not reach every byte, as with a union, whose members have
different sizes: only what is read back is the value that was stored.

## Main definitions

* `Codec` — how the values of a type lie in a block
* `Layout.storeAll`, `Layout.block` — stores, and the bytes from an address on
* `Layout.byteStores` — the stores of an assignment to scalars

## Main results

* `Layout.read_writes_of_mem` — the scalars after stores to different ones
* `Codec.decode_storeAll` — what was stored is read back, wherever the block is
-/

open Footprint

namespace Layout

/-! ### Stores -/

/-- Stores of some bytes at an offset each. -/
def storeAll (base : ℕ) (m : Memory) (l : List (ℕ × List UInt8)) : Memory :=
  l.foldl (fun m p => copy (base + p.1) p.2 m) m

theorem storeAll_cons (base : ℕ) (m : Memory) (p : ℕ × List UInt8) (l : List (ℕ × List UInt8)) :
    storeAll base m (p :: l) = storeAll base (copy (base + p.1) p.2 m) l := rfl

theorem storeAll_congr {base n : ℕ} {m m' : Memory} (h : ∀ i, i < n → m i = m' i)
    {l : List (ℕ × List UInt8)} {i : ℕ} (hi : i < n) :
    storeAll base m l i = storeAll base m' l i := by
  induction l generalizing m m' with
  | nil => exact h i hi
  | cons p l ih => exact ih fun j hj => copy_congr (h j hj)

/-- The bytes from an address on. -/
def block (m : Memory) (a : ℕ) : Memory := fun i => m (a + i)

theorem block_copy (m : Memory) (a b : ℕ) (l : List UInt8) :
    block (copy (a + b) l m) a = copy b l (block m a) := by
  induction l generalizing b m with
  | nil => rfl
  | cons x l ih =>
    have hupdate : block (Function.update m (a + b) x) a = Function.update (block m a) b x := by
      funext i
      by_cases hi : i = b
      · subst hi
        rw [Function.update_self]
        exact Function.update_self _ _ _
      · rw [Function.update_of_ne hi]
        exact Function.update_of_ne (by omega) _ _
    rw [copy, copy, Nat.add_assoc, ih, hupdate]

theorem block_storeAll (m : Memory) (a : ℕ) (l : List (ℕ × List UInt8)) :
    block (storeAll a m l) a = storeAll 0 (block m a) l := by
  induction l generalizing m with
  | nil => rfl
  | cons p l ih => rw [storeAll_cons, ih, block_copy, storeAll_cons, Nat.zero_add]

variable {ι : Type*} (L : Layout ι)

/-- The stores of an assignment to scalars. -/
def byteStores (l : List (ι × ℕ)) : List (ℕ × List UInt8) :=
  l.map fun p => (L.offset p.1, bytesOf (L.width p.1) p.2)

theorem storeAll_byteStores (base : ℕ) (m : Memory) (l : List (ι × ℕ)) :
    storeAll base m (L.byteStores l) = L.writes base m l := List.foldl_map

theorem byteStores_inside (l : List (ι × ℕ)) :
    ∀ p ∈ L.byteStores l, p.1 + p.2.length ≤ L.size := by
  intro p hp
  obtain ⟨q, -, rfl⟩ := List.mem_map.mp hp
  rw [length_bytesOf]
  exact L.offset_add_width_le q.1

theorem read_writes_of_notMem {m : Memory} {base : ℕ} {l : List (ι × ℕ)} {i : ι}
    (h : i ∉ l.map Prod.fst) : L.read (L.writes base m l) base i = L.read m base i := by
  classical
  induction l generalizing m with
  | nil => rfl
  | cons p l ih =>
    rw [List.map_cons, List.mem_cons, not_or] at h
    rw [writes_cons, ih h.2, read_write, Function.update_of_ne h.1]

/-- **The scalars after stores to different ones.** -/
theorem read_writes_of_mem {m : Memory} {base : ℕ} {l : List (ι × ℕ)} {i : ι} {v : ℕ}
    (hl : (l.map Prod.fst).Nodup) (h : (i, v) ∈ l) (hv : v < 256 ^ L.width i) :
    L.read (L.writes base m l) base i = v := by
  classical
  induction l generalizing m with
  | nil => cases h
  | cons p l ih =>
    rw [List.map_cons, List.nodup_cons] at hl
    rw [writes_cons]
    rcases List.mem_cons.mp h with rfl | h
    · rw [L.read_writes_of_notMem hl.1, read_write, Function.update_self, Nat.mod_eq_of_lt hv]
    · exact ih hl.2 h

end Layout

/-- How the values of a type lie in a block. -/
structure Codec (α : Type*) where
  size : ℕ
  logAlign : ℕ
  decode : Layout.Memory → α
  /-- The stores that put a value into the block, in order. -/
  encode : α → List (ℕ × List UInt8)
  size_pos : 0 < size
  dvd_size : 2 ^ logAlign ∣ size
  encode_ne_nil : ∀ v, encode v ≠ []
  inside : ∀ v, ∀ p ∈ encode v, p.1 + p.2.length ≤ size
  decode_congr : ∀ m m' : Layout.Memory, (∀ i, i < size → m i = m' i) → decode m = decode m'
  decode_encode : ∀ v m, decode (Layout.storeAll 0 m (encode v)) = v

namespace Codec

variable {α : Type*} (K : Codec α)

/-- **Decode after encode**, wherever the block is. -/
theorem decode_storeAll (m : Layout.Memory) (a : ℕ) (v : α) :
    K.decode (Layout.block (Layout.storeAll a m (K.encode v)) a) = v := by
  rw [Layout.block_storeAll]
  exact K.decode_encode v _

/-- The block, as a row of bytes. -/
def bytes : Layout (Fin K.size) where
  size := K.size
  logAlign := K.logAlign
  offset i := i
  width _ := 1
  dvd_size := K.dvd_size
  width_dvd_align _ := Nat.one_dvd _
  width_dvd_offset _ := Nat.one_dvd _
  offset_add_width_le i := i.isLt
  disjoint i j hne := by
    have hval : (i : ℕ) ≠ j := fun h => hne (Fin.ext h)
    omega

end Codec
