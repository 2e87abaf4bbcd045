import Mathlib.Data.List.Chain
import Mathlib.Data.List.Infix
import Mathlib.Data.Nat.ModEq

/-!
# Slots used in turn

`n` slots that are used one after another, starting over after the last. A slot comes up again
only after all the others have, whatever the first one was.

## Main definitions

* `RoundRobin.next` — the slot after this one
* `RoundRobin.Turns` — a list of slots used in turn

## Main results

* `RoundRobin.Turns.nodup` — no slot comes up twice in `n` turns
* `RoundRobin.ne_later` — a slot is not among the `n - 1` that follow it
-/

namespace RoundRobin

variable {n i j : ℕ} {slots : List ℕ}

/-- The slot after slot `i` of `n`. -/
def next (n i : ℕ) : ℕ := (i + 1) % n

/-- The slots that follow `next n i` are those that follow `i`, one turn later. -/
theorem next_add_mod (n i k : ℕ) : (next n i + k) % n = (i + (k + 1)) % n := by
  rw [next, Nat.mod_add_mod, Nat.add_assoc, Nat.add_comm 1]

/-- **Reuse distance.** A slot is not among the `n - 1` slots that follow it. -/
theorem ne_later (hi : i < n) (hj : j + 1 < n) : (i + (j + 1)) % n ≠ i := by
  intro heq
  rcases Nat.lt_or_ge (i + (j + 1)) n with hlt | hge
  · rw [Nat.mod_eq_of_lt hlt] at heq
    omega
  · rw [Nat.mod_eq_sub_mod hge, Nat.mod_eq_of_lt (by omega)] at heq
    omega

/-- Each slot is followed by the next one. -/
def Turns (n : ℕ) (slots : List ℕ) : Prop :=
  slots.IsChain (fun a b => b = next n a) ∧ ∀ a ∈ slots, a < n

namespace Turns

theorem nil : Turns n [] := ⟨List.isChain_nil, by simp⟩

theorem singleton (hi : i < n) : Turns n [i] := ⟨List.isChain_singleton i, by simpa using hi⟩

theorem concat (h : Turns n slots) (hlast : ∀ a ∈ slots.getLast?, i = next n a) (hi : i < n) :
    Turns n (slots ++ [i]) := by
  refine ⟨List.isChain_append.mpr ⟨h.1, List.isChain_singleton i, ?_⟩, fun a ha => ?_⟩
  · intro a ha b hb
    cases hb
    exact hlast a ha
  · rcases List.mem_append.mp ha with ha | ha
    · exact h.2 a ha
    · rw [List.mem_singleton.mp ha]
      exact hi

theorem of_infix {part : List ℕ} (h : Turns n slots) (hpart : part <:+: slots) : Turns n part := by
  obtain ⟨before, after, rfl⟩ := hpart
  exact ⟨h.1.left_of_append.right_of_append, fun a ha =>
    h.2 a (List.mem_append_left after (List.mem_append_right before ha))⟩

/-- In turn number `k` slot `i + k` is used. -/
theorem mem_iff (h : Turns n (i :: slots)) {a : ℕ} (ha : a ∈ slots) :
    ∃ k, k < slots.length ∧ a = (i + (k + 1)) % n := by
  induction slots generalizing i with
  | nil => cases ha
  | cons b slots ih =>
    obtain ⟨rfl, hchain⟩ := List.isChain_cons_cons.mp h.1
    rcases List.mem_cons.mp ha with rfl | ha
    · exact ⟨0, Nat.succ_pos _, rfl⟩
    · obtain ⟨k, hk, rfl⟩ := ih ⟨hchain, fun a ha => h.2 a (List.mem_cons_of_mem _ ha)⟩ ha
      exact ⟨k + 1, Nat.succ_lt_succ hk, next_add_mod n i (k + 1)⟩

/-- **No slot comes up twice in `n` turns.** -/
theorem nodup (h : Turns n slots) (hlen : slots.length ≤ n) : slots.Nodup := by
  induction slots with
  | nil => exact List.nodup_nil
  | cons i slots ih =>
    rw [List.length_cons] at hlen
    refine List.nodup_cons.mpr ⟨fun hi => ?_, ih (h.of_infix (List.suffix_cons _ _).isInfix)
      (by omega)⟩
    obtain ⟨k, hk, heq⟩ := h.mem_iff hi
    exact ne_later (h.2 i List.mem_cons_self) (by omega) heq.symm

end Turns

end RoundRobin
