import Mathlib.Data.List.OfFn
import Mathlib.Data.Nat.Notation

/-!
# Scanning for a terminator

A scan loads one item after the other from the start of a buffer until it finds the terminator. It
does not know where the buffer ends: behind the buffer it goes on in whatever memory is there, and
at the end of that memory it fails.

## Main definitions

* `Terminated.scan` — the scan of a piece of memory
* `Terminated.content` — what a buffer holds in front of its terminator, or all of it

## Main results

* `Terminated.content_scan_of_mem` — a scan that meets a terminator finds the content
* `Terminated.loads_le_iff`, `Terminated.loads_ofFn_le_iff` — it stays in the buffer exactly when
  there is one
-/

namespace Terminated

variable {α : Type*} [DecidableEq α] (z : α)

/-- The items in front of the terminator, or `none` if the scan failed, and the number of loads;
the one that fails is counted. -/
structure Scan (α : Type*) where
  found : Option (List α)
  loads : ℕ

def scan : List α → Scan α
  | [] => ⟨none, 1⟩
  | a :: mem =>
    if a = z then ⟨some [], 1⟩
    else ⟨(scan mem).found.map fun l => a :: l, (scan mem).loads + 1⟩

def content (buffer : List α) : List α := buffer.takeWhile fun a => a ≠ z

variable {z}

theorem content_scan_of_mem {buffer : List α} (h : z ∈ buffer) (beyond : List α) :
    (scan z (buffer ++ beyond)).found = some (content z buffer)
      ∧ (scan z (buffer ++ beyond)).loads ≤ buffer.length := by
  induction buffer with
  | nil => cases h
  | cons a buffer ih =>
    rw [List.cons_append, scan]
    by_cases ha : a = z
    · simp [content, ha]
    · obtain ⟨hfound, hloads⟩ := ih (List.mem_of_ne_of_mem (Ne.symm ha) h)
      rw [if_neg ha, hfound]
      simp only [content, List.takeWhile_cons, ne_eq, ha, not_false_eq_true, decide_true, if_true,
        Option.map_some, List.length_cons, true_and]
      omega

/-- Without a terminator the scan leaves the buffer. -/
theorem length_lt_loads {buffer : List α} (h : z ∉ buffer) (beyond : List α) :
    buffer.length < (scan z (buffer ++ beyond)).loads := by
  induction buffer with
  | nil =>
    cases beyond with
    | nil => exact Nat.one_pos
    | cons b beyond =>
      rw [List.nil_append, scan]
      split <;> simp
  | cons a buffer ih =>
    obtain ⟨ha, hbuffer⟩ := List.ne_and_not_mem_of_not_mem_cons h
    rw [List.cons_append, scan, if_neg (Ne.symm ha)]
    simpa using ih hbuffer

/-- **The scan stays in the buffer** exactly when the buffer has a terminator. -/
theorem loads_le_iff (buffer beyond : List α) :
    (scan z (buffer ++ beyond)).loads ≤ buffer.length ↔ z ∈ buffer := by
  constructor
  · intro h
    by_contra hz
    have hlt := length_lt_loads hz beyond
    omega
  · exact fun h => (content_scan_of_mem h beyond).2

/-! ### Arrays -/

variable {n : ℕ} {array : Fin n → α}

theorem loads_ofFn_le_iff (beyond : List α) :
    (scan z (List.ofFn array ++ beyond)).loads ≤ n ↔ ∃ i, array i = z := by
  have h := loads_le_iff (z := z) (List.ofFn array) beyond
  rwa [List.length_ofFn, List.mem_ofFn] at h

theorem content_scan_ofFn (h : ∃ i, array i = z) (beyond : List α) :
    (scan z (List.ofFn array ++ beyond)).found = some (content z (List.ofFn array)) :=
  (content_scan_of_mem (List.mem_ofFn.mpr h) beyond).1

end Terminated
