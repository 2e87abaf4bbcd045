import Mathlib.Data.List.Nodup
import Mathlib.Logic.Function.Basic

/-!
# Places that own resources

Resources are numbered in the order they are issued. A place holds at most one of them, and gives
it back by emptying itself. The books balance when every resource that was issued is held by
exactly one place or was given back exactly once, and nothing else was.

Emptying a place that holds nothing gives nothing back. Putting a resource into a place that still
holds one would lose that one, so the rule for it asks for an empty place.

## Main definitions

* `Ownership.Balanced` — places, what was given back, and how many resources were issued
* `Ownership.Exact` — what that says of the resources

## Main results

* `Ownership.Balanced.empty`, `release`, `issue`, `clear` — the operations keep the balance
* `Ownership.Balanced.open_iff` — the resources not given back are those in the places
-/

namespace Ownership

variable {κ : Type*} {held : κ → Option ℕ} {released : List ℕ} {issued : ℕ}

/-- Every resource issued is in one place, or was given back once. -/
structure Balanced (held : κ → Option ℕ) (released : List ℕ) (issued : ℕ) : Prop where
  held_lt : ∀ p a, held p = some a → a < issued
  released_lt : ∀ a ∈ released, a < issued
  held_inj : ∀ p q a, held p = some a → held q = some a → p = q
  released_nodup : released.Nodup
  held_notMem : ∀ p a, held p = some a → a ∉ released
  covered : ∀ a < issued, a ∉ released → ∃ p, held p = some a

theorem Balanced.empty : Balanced (fun _ : κ => none) [] 0 where
  held_lt _ _ h := by cases h
  released_lt _ h := by cases h
  held_inj _ _ _ h := by cases h
  released_nodup := List.nodup_nil
  held_notMem _ _ h := by cases h
  covered _ h := by omega

/-- **Nothing leaks and nothing dangles.** -/
theorem Balanced.open_iff (h : Balanced held released issued) (a : ℕ) :
    (a < issued ∧ a ∉ released) ↔ ∃ p, held p = some a :=
  ⟨fun ha => h.covered a ha.1 ha.2, fun ⟨p, hp⟩ => ⟨h.held_lt p a hp, h.held_notMem p a hp⟩⟩

/-- Nothing was given back twice, what was not given back is what the places hold, and no two of
them hold the same. -/
structure Exact (held : κ → Option ℕ) (released : List ℕ) (issued : ℕ) : Prop where
  once : released.Nodup
  open_iff : ∀ a, (a < issued ∧ a ∉ released) ↔ ∃ p, held p = some a
  apart : ∀ p q a, held p = some a → held q = some a → p = q

theorem Balanced.exact (h : Balanced held released issued) : Exact held released issued :=
  ⟨h.released_nodup, h.open_iff, h.held_inj⟩

/-- Where the places are empty, everything was given back. -/
theorem Exact.mem_released (h : Exact held released issued) (hempty : ∀ p, held p = none) {a : ℕ}
    (ha : a < issued) : a ∈ released := by
  by_contra hnot
  obtain ⟨p, hp⟩ := (h.open_iff a).mp ⟨ha, hnot⟩
  rw [hempty p] at hp
  cases hp

variable [DecidableEq κ]

/-- A place other than `p` keeps what it holds. -/
theorem ne_of_update_none {p q : κ} {a : ℕ} (h : Function.update held p none q = some a) :
    q ≠ p ∧ held q = some a := by
  by_cases hq : q = p
  · rw [hq, Function.update_self] at h
    cases h
  · exact ⟨hq, by rwa [Function.update_of_ne hq] at h⟩

/-- A place gives back what it holds. -/
theorem Balanced.release (h : Balanced held released issued) (p : κ) :
    Balanced (Function.update held p none) (released ++ (held p).toList) issued where
  held_lt q a hq := h.held_lt q a (ne_of_update_none hq).2
  released_lt a ha := by
    rcases List.mem_append.mp ha with hold | hnew
    · exact h.released_lt a hold
    · exact h.held_lt p a (Option.mem_toList.mp hnew)
  held_inj q r a hq hr := h.held_inj q r a (ne_of_update_none hq).2 (ne_of_update_none hr).2
  released_nodup := by
    cases hp : held p with
    | none => simpa using h.released_nodup
    | some b =>
      refine List.nodup_append.mpr ⟨h.released_nodup, List.nodup_singleton b, ?_⟩
      rintro a ha _ hb rfl
      rw [Option.toList_some, List.mem_singleton] at hb
      exact h.held_notMem p b hp (hb ▸ ha)
  held_notMem q a hq := by
    obtain ⟨hne, hheld⟩ := ne_of_update_none hq
    rw [List.mem_append, not_or]
    refine ⟨h.held_notMem q a hheld, fun hnew => hne ?_⟩
    exact h.held_inj q p a hheld (Option.mem_toList.mp hnew)
  covered a ha hnot := by
    rw [List.mem_append, not_or] at hnot
    obtain ⟨q, hq⟩ := h.covered a ha hnot.1
    have hne : q ≠ p := by
      rintro rfl
      exact hnot.2 (Option.mem_toList.mpr hq)
    exact ⟨q, by rw [Function.update_of_ne hne, hq]⟩

/-- After a place has got `b`, whatever a place holds is `b` there, or was held before. -/
theorem of_update_some {p q : κ} {a b : ℕ} (h : Function.update held p (some b) q = some a) :
    (q = p ∧ a = b) ∨ held q = some a := by
  by_cases hq : q = p
  · rw [hq, Function.update_self, Option.some.injEq] at h
    exact Or.inl ⟨hq, h.symm⟩
  · exact Or.inr (by rwa [Function.update_of_ne hq] at h)

/-- An empty place gets the next resource, whose number none of the others has. -/
theorem Balanced.issue (h : Balanced held released issued) {p : κ} (hp : held p = none) :
    Balanced (Function.update held p (some issued)) released (issued + 1) where
  held_lt q a hq := by
    rcases of_update_some hq with ⟨-, rfl⟩ | hold
    · exact Nat.lt_succ_self _
    · exact Nat.lt_succ_of_lt (h.held_lt q a hold)
  released_lt a ha := Nat.lt_succ_of_lt (h.released_lt a ha)
  held_inj q r a hq hr := by
    rcases of_update_some hq with ⟨hqp, rfl⟩ | hqold <;> rcases of_update_some hr with
      ⟨hrp, ha⟩ | hrold
    · rw [hqp, hrp]
    · exact absurd (h.held_lt r _ hrold) (Nat.lt_irrefl _)
    · exact absurd (h.held_lt q _ (ha ▸ hqold)) (Nat.lt_irrefl _)
    · exact h.held_inj q r a hqold hrold
  released_nodup := h.released_nodup
  held_notMem q a hq hmem := by
    rcases of_update_some hq with ⟨-, rfl⟩ | hold
    · exact absurd (h.released_lt _ hmem) (Nat.lt_irrefl _)
    · exact h.held_notMem q a hold hmem
  covered a ha hnot := by
    rcases Nat.lt_succ_iff_lt_or_eq.mp ha with hlt | rfl
    · obtain ⟨q, hq⟩ := h.covered a hlt hnot
      have hne : q ≠ p := by
        rintro rfl
        rw [hp] at hq
        cases hq
      exact ⟨q, by rw [Function.update_of_ne hne, hq]⟩
    · exact ⟨p, Function.update_self ..⟩

/-- Emptying an empty place changes nothing. -/
theorem Balanced.clear (h : Balanced held released issued) {p : κ} (hp : held p = none) :
    Balanced (Function.update held p none) released issued := by
  rwa [← hp, Function.update_eq_self]

end Ownership
