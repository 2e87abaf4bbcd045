import Mathlib.Data.List.Basic

/-!
# UTF-16

Code points as 16-bit units: one unit, or a high surrogate and a low one. A text is well-formed
if it can be decoded, so every high surrogate has its low one right behind it and no low surrogate
stands alone.

## Main definitions

* `Utf16.decode` — the code points of a text
* `Utf16.WellFormed` — there are some

## Main results

* `Utf16.WellFormed.rec_units` — well-formed texts are built unit by unit and pair by pair
* `Utf16.wellFormed_append_iff`, `Utf16.WellFormed.of_append` — putting texts together, and apart
* `Utf16.wellFormed_take_iff` — which initial parts of a well-formed text are well-formed
-/

namespace Utf16

def isHigh (u : UInt16) : Bool := 0xD800 ≤ u && u < 0xDC00

def isLow (u : UInt16) : Bool := 0xDC00 ≤ u && u < 0xE000

/-- The code point of a pair. -/
def pairValue (hi lo : UInt16) : ℕ := 0x10000 + (hi.toNat - 0xD800) * 0x400 + (lo.toNat - 0xDC00)

def decode : List UInt16 → Option (List ℕ)
  | [] => some []
  | [u] => if isHigh u || isLow u then none else some [u.toNat]
  | u :: l :: rest =>
    if isHigh u then
      if isLow l then (decode rest).map fun t => pairValue u l :: t else none
    else if isLow u then none
    else (decode (l :: rest)).map fun t => u.toNat :: t

/-- The text can be decoded. -/
def WellFormed (s : List UInt16) : Prop := (decode s).isSome

instance (s : List UInt16) : Decidable (WellFormed s) :=
  inferInstanceAs (Decidable ((decode s).isSome = true))

/-- No unit is both. -/
theorem isHigh_of_isLow {u : UInt16} (h : isLow u = true) : isHigh u = false := by
  simp only [isLow, isHigh, Bool.and_eq_true, decide_eq_true_eq, Bool.and_eq_false_iff,
    decide_eq_false_iff_not, UInt16.le_iff_toNat_le, UInt16.lt_iff_toNat_lt] at h ⊢
  omega

theorem wellFormed_nil : WellFormed [] := rfl

/-- A unit that is no surrogate. -/
theorem wellFormed_cons {u : UInt16} (hhigh : isHigh u = false) (hlow : isLow u = false)
    (rest : List UInt16) : WellFormed (u :: rest) ↔ WellFormed rest := by
  cases rest <;> simp [WellFormed, decode, hhigh, hlow]

/-- A surrogate pair. -/
theorem wellFormed_pair {u l : UInt16} (hhigh : isHigh u = true) (hlow : isLow l = true)
    (rest : List UInt16) : WellFormed (u :: l :: rest) ↔ WellFormed rest := by
  simp [WellFormed, decode, hhigh, hlow]

theorem not_wellFormed_high {u : UInt16} (h : isHigh u = true) : ¬ WellFormed [u] := by
  simp [WellFormed, decode, h]

/-- A well-formed text that is not empty begins with a unit that is no surrogate or with a pair. -/
theorem WellFormed.cons_cases {u : UInt16} {rest : List UInt16} (h : WellFormed (u :: rest)) :
    (isHigh u = false ∧ isLow u = false ∧ WellFormed rest) ∨
      ∃ l rest', rest = l :: rest' ∧ isHigh u = true ∧ isLow l = true ∧ WellFormed rest' := by
  cases hhigh : isHigh u with
  | false =>
    cases hlow : isLow u with
    | false => exact Or.inl ⟨rfl, rfl, (wellFormed_cons hhigh hlow rest).mp h⟩
    | true => cases rest <;> simp [WellFormed, decode, hhigh, hlow] at h
  | true =>
    cases rest with
    | nil => exact absurd h (not_wellFormed_high hhigh)
    | cons l rest =>
      cases hlow : isLow l with
      | false => simp [WellFormed, decode, hhigh, hlow] at h
      | true => exact Or.inr ⟨l, rest, rfl, rfl, hlow, (wellFormed_pair hhigh hlow rest).mp h⟩

/-- **Induction** on a well-formed text. -/
@[elab_as_elim]
theorem WellFormed.rec_units {motive : (s : List UInt16) → WellFormed s → Prop}
    (nil : motive [] wellFormed_nil)
    (unit : ∀ u rest (hhigh : isHigh u = false) (hlow : isLow u = false)
      (hrest : WellFormed rest), motive rest hrest →
        motive (u :: rest) ((wellFormed_cons hhigh hlow rest).mpr hrest))
    (pair : ∀ u l rest (hhigh : isHigh u = true) (hlow : isLow l = true)
      (hrest : WellFormed rest), motive rest hrest →
        motive (u :: l :: rest) ((wellFormed_pair hhigh hlow rest).mpr hrest))
    (s : List UInt16) (h : WellFormed s) : motive s h := by
  match s with
  | [] => exact nil
  | u :: rest =>
    rcases h.cons_cases with ⟨hhigh, hlow, hrest⟩ | ⟨l, rest', rfl, hhigh, hlow, hrest⟩
    · exact unit u rest hhigh hlow hrest (rec_units nil unit pair rest hrest)
    · exact pair u l rest' hhigh hlow hrest (rec_units nil unit pair rest' hrest)
termination_by s.length

/-- What follows a well-formed text decides whether the whole is well-formed. -/
theorem wellFormed_append_iff {s : List UInt16} (h : WellFormed s) (t : List UInt16) :
    WellFormed (s ++ t) ↔ WellFormed t := by
  induction s, h using WellFormed.rec_units with
  | nil => rfl
  | unit u rest hhigh hlow _ ih => exact (wellFormed_cons hhigh hlow _).trans ih
  | pair u l rest hhigh hlow _ ih => exact (wellFormed_pair hhigh hlow _).trans ih

/-- In front of a unit that is no low surrogate a well-formed text may be split. -/
theorem WellFormed.of_append {s t : List UInt16} {u : UInt16} (hu : isLow u = false)
    (h : WellFormed (s ++ u :: t)) : WellFormed s := by
  match s with
  | [] => exact wellFormed_nil
  | a :: s =>
    rcases h.cons_cases with ⟨hhigh, hlow, hrest⟩ | ⟨l, rest', heq, hhigh, hlow, hrest⟩
    · exact (wellFormed_cons hhigh hlow s).mpr (of_append hu hrest)
    · match s with
      | [] =>
        rw [(List.cons.inj heq).1, hlow] at hu
        cases hu
      | b :: s =>
        obtain ⟨rfl, rfl⟩ := List.cons.inj heq
        exact (wellFormed_pair hhigh hlow s).mpr (of_append hu hrest)
termination_by s.length

/-- **Cutting a text.** An initial part of a well-formed text is well-formed unless it ends in a
high surrogate. -/
theorem wellFormed_take_iff {s : List UInt16} (h : WellFormed s) (k : ℕ) :
    WellFormed (s.take k) ↔ ∀ u, (s.take k).getLast? = some u → isHigh u = false := by
  induction s, h using WellFormed.rec_units generalizing k with
  | nil => simp [wellFormed_nil]
  | unit u rest hhigh hlow _ ih =>
    cases k with
    | zero => simp [wellFormed_nil]
    | succ k =>
      rw [List.take_succ_cons, wellFormed_cons hhigh hlow, ih, List.getLast?_cons]
      cases (rest.take k).getLast? <;> simp [hhigh]
  | pair u l rest hhigh hlow _ ih =>
    match k with
    | 0 => simp [wellFormed_nil]
    | 1 => simp [not_wellFormed_high hhigh, hhigh]
    | k + 2 =>
      rw [List.take_succ_cons, List.take_succ_cons, wellFormed_pair hhigh hlow, ih,
        List.getLast?_cons, List.getLast?_cons]
      cases (rest.take k).getLast? <;> simp [isHigh_of_isLow hlow]

end Utf16
