import Mathlib.Logic.Function.Basic
import Mathlib.Data.List.Basic
import Mathlib.Data.Nat.ModEq

/-!
# Free-running 32-bit ring indices

A ring buffer whose two indices are 32-bit counters that are never reset: entry number `n` of
the stream sits in slot `n % size`, but the counters only know `n` modulo `2 ^ 32`. The
arithmetic is exact as long as `size` divides `2 ^ 32` and the two counters stay within `size`
of each other; this file says so once, for every capacity.

Throughout, a counter value is written `UInt32.ofNat n` where `n : ℕ` is the number of entries
it has really counted. The natural numbers are what the proofs compute with.

## Main definitions

* `FreeRunning.Capacity` — a ring size the arithmetic is exact for
* `FreeRunning.Capacity.slot` — the slot of a counter value
* `FreeRunning.Window` — the slots that hold a given stretch of the stream

## Main results

* `FreeRunning.toNat_ofNat_sub` — the distance of two counters is the distance of the counts
* `FreeRunning.Capacity.slot_ne_of_lt` — entries less than a full ring apart never share a slot
* `FreeRunning.Window.write` — writing the next slot spares a window that is not a full ring
-/

namespace FreeRunning

/-! ### Counter values -/

theorem ofNat_succ (n : ℕ) : UInt32.ofNat n + 1 = UInt32.ofNat (n + 1) := by
  simp [UInt32.ofNat_add]

/-- Subtracting two counters gives the distance of the two counts, whatever the counts are,
as long as that distance fits. -/
theorem toNat_ofNat_sub {a b : ℕ} (hle : b ≤ a) (hlt : a - b < 2 ^ 32) :
    (UInt32.ofNat a - UInt32.ofNat b).toNat = a - b := by
  rw [← UInt32.ofNat_sub hle]
  exact UInt32.toNat_ofNat_of_lt' hlt

theorem ofNat_inj {a b : ℕ} (hle : b ≤ a) (hlt : a - b < 2 ^ 32) :
    UInt32.ofNat b = UInt32.ofNat a ↔ b = a := by
  constructor
  · intro h
    have hsub := toNat_ofNat_sub hle hlt
    rw [h, UInt32.sub_self] at hsub
    have hzero : (0 : UInt32).toNat = 0 := rfl
    omega
  · rintro rfl
    rfl

/-! ### Slots -/

/-- A ring size for which 32-bit indices are exact: it divides `2 ^ 32`, so that the slot number
survives the wrap of the counters, and it is smaller, so that a full ring differs from an empty
one. -/
structure Capacity where
  /-- Number of slots. -/
  size : ℕ
  /-- The slot number survives the wrap of a counter. -/
  size_dvd : size ∣ 2 ^ 32
  /-- A full ring and an empty ring are told apart. -/
  size_lt : size < 2 ^ 32

namespace Capacity

variable (c : Capacity)

theorem size_pos : 0 < c.size := Nat.pos_of_dvd_of_pos c.size_dvd (Nat.two_pow_pos 32)

/-- The slot a counter value stands for. -/
def slot (i : UInt32) : Fin c.size := ⟨i.toNat % c.size, Nat.mod_lt _ c.size_pos⟩

/-- The size as a 32-bit number, which is how the code compares distances with it. -/
def sizeU32 : UInt32 := UInt32.ofNat c.size

@[simp] theorem toNat_sizeU32 : c.sizeU32.toNat = c.size := UInt32.toNat_ofNat_of_lt' c.size_lt

theorem slot_ofNat_val (n : ℕ) : (c.slot (UInt32.ofNat n) : ℕ) = n % c.size := by
  change (UInt32.ofNat n).toNat % c.size = n % c.size
  rw [UInt32.toNat_ofNat', Nat.mod_mod_of_dvd _ c.size_dvd]

/-- Two entries of the stream less than a full ring apart sit in different slots. -/
theorem slot_ne_of_lt {i j : ℕ} (hij : i < j) (hj : j < i + c.size) :
    c.slot (UInt32.ofNat i) ≠ c.slot (UInt32.ofNat j) := by
  intro h
  have hmod : i % c.size = j % c.size := by
    rw [← c.slot_ofNat_val, ← c.slot_ofNat_val, h]
  have hdvd : c.size ∣ j - i := (Nat.modEq_iff_dvd' (Nat.le_of_lt hij)).mp hmod
  have := Nat.le_of_dvd (by omega) hdvd
  omega

end Capacity

/-! ### The stretch of the stream a ring still holds -/

variable {α : Type*} {c : Capacity}

/-- Entries `lo, …, hi - 1` of the stream `written` are in their slots. -/
def Window (c : Capacity) (slots : Fin c.size → α) (written : List α) (lo hi : ℕ) : Prop :=
  ∀ i, lo ≤ i → i < hi → written[i]? = some (slots (c.slot (UInt32.ofNat i)))

namespace Window

variable {slots : Fin c.size → α} {written : List α} {lo hi : ℕ}

theorem empty (slots : Fin c.size → α) (written : List α) (lo : ℕ) :
    Window c slots written lo lo := fun _ h1 h2 => absurd h1 (Nat.not_le.mpr h2)

theorem mono (h : Window c slots written lo hi) {lo' : ℕ} (hlo : lo ≤ lo') :
    Window c slots written lo' hi := fun i h1 h2 => h i (Nat.le_trans hlo h1) h2

theorem get (h : Window c slots written lo hi) {i : ℕ} (h1 : lo ≤ i) (h2 : i < hi) :
    written[i]? = some (slots (c.slot (UInt32.ofNat i))) := h i h1 h2

/-- Writing the slot of entry `hi` spares the window as long as the window is not a full ring. -/
theorem write (h : Window c slots written lo hi) (hroom : hi < lo + c.size) (e : α) :
    Window c (Function.update slots (c.slot (UInt32.ofNat hi)) e) written lo hi := by
  intro i h1 h2
  have hne : c.slot (UInt32.ofNat i) ≠ c.slot (UInt32.ofNat hi) := c.slot_ne_of_lt h2 (by omega)
  rw [Function.update_of_ne hne]
  exact h i h1 h2

/-- Once its slot is written, entry `hi` may be appended to the stream. -/
theorem append (h : Window c slots written lo hi) (hlen : written.length = hi) {e : α}
    (he : slots (c.slot (UInt32.ofNat hi)) = e) :
    Window c slots (written ++ [e]) lo (hi + 1) := by
  intro i h1 h2
  rcases Nat.lt_or_ge i hi with hi' | hi'
  · rw [List.getElem?_append_left (by omega)]
    exact h i h1 hi'
  · obtain rfl : i = hi := by omega
    rw [List.getElem?_append_right (by omega), hlen, Nat.sub_self, he]
    rfl

end Window

end FreeRunning
