import Mathlib.Data.List.Basic

/-!
# Escaping with an introducer

Some units of an alphabet are written as an introducer and two digits, the others as themselves.
The introducer is always escaped and is never a digit, so in an escaped text an introducer can
only begin an escape. That is the whole reason why the text can be read back.

`decode` reads any text, not only escaped ones: an introducer that no two digits follow is left
alone. What such a text means is not said here.

## Main definitions

* `Escaping` — an introducer, the digits of the units that are escaped, and how digits are read
* `Escaping.encode`, `Escaping.decode`

## Main results

* `Escaping.decode_encode`, `Escaping.encode_injective` — the round trip
* `Escaping.mark_encode` — every introducer in an escaped text is followed by two digits
* `Escaping.mem_encode` — where the units of an escaped text come from
-/

/-- How units are escaped. -/
structure Escaping (α : Type*) where
  /-- The introducer. -/
  mark : α
  /-- The unit that two digits stand for. -/
  value : α → α → Option α
  /-- The digits of a unit that is escaped. -/
  code : α → Option (α × α)
  value_code : ∀ c d, code c = some d → value d.1 d.2 = some c
  mark_escaped : (code mark).isSome
  digits_ne : ∀ c d, code c = some d → d.1 ≠ mark ∧ d.2 ≠ mark

namespace Escaping

variable {α : Type*} (e : Escaping α)

def encodeUnit (c : α) : List α :=
  match e.code c with
  | some d => [e.mark, d.1, d.2]
  | none => [c]

def encode (s : List α) : List α := s.flatMap e.encodeUnit

/-- Every escape becomes the unit it stands for. -/
def decode [DecidableEq α] : List α → List α
  | c :: hi :: lo :: rest =>
    if c = e.mark then
      match e.value hi lo with
      | some v => v :: decode rest
      | none => c :: decode (hi :: lo :: rest)
    else c :: decode (hi :: lo :: rest)
  | rest => rest

variable {e}

@[simp] theorem encode_cons (c : α) (s : List α) :
    e.encode (c :: s) = e.encodeUnit c ++ e.encode s := List.flatMap_cons

theorem encodeUnit_of_some {c : α} {d : α × α} (h : e.code c = some d) :
    e.encodeUnit c = [e.mark, d.1, d.2] := by rw [encodeUnit, h]

theorem encodeUnit_of_none {c : α} (h : e.code c = none) : e.encodeUnit c = [c] := by
  rw [encodeUnit, h]

/-- A unit that stands for itself is not the introducer. -/
theorem ne_mark_of_none {c : α} (h : e.code c = none) : c ≠ e.mark := by
  rintro rfl
  have hmark := e.mark_escaped
  rw [h] at hmark
  cases hmark

section RoundTrip

variable [DecidableEq α]

theorem decode_cons_of_ne {c : α} (h : c ≠ e.mark) (rest : List α) :
    e.decode (c :: rest) = c :: e.decode rest := by
  match rest with
  | [] => rw [decode, decode] <;> simp
  | [a] => rw [decode, decode] <;> simp
  | a :: b :: rest => rw [decode, if_neg h]

theorem decode_escape {c : α} {d : α × α} (h : e.code c = some d) (rest : List α) :
    e.decode (e.mark :: d.1 :: d.2 :: rest) = c :: e.decode rest := by
  rw [decode, if_pos rfl, e.value_code c d h]

/-- **The round trip.** -/
theorem decode_encode (s : List α) : e.decode (e.encode s) = s := by
  induction s with
  | nil => rw [encode, List.flatMap_nil, decode]; simp
  | cons c s ih =>
    rw [encode_cons]
    cases hcode : e.code c with
    | none =>
      rw [encodeUnit_of_none hcode, List.singleton_append,
        decode_cons_of_ne (ne_mark_of_none hcode), ih]
    | some d =>
      rw [encodeUnit_of_some hcode, ← congrArg (List.cons c) ih]
      exact decode_escape hcode _

theorem encode_injective {s t : List α} (h : e.encode s = e.encode t) : s = t := by
  rw [← decode_encode (e := e) s, h, decode_encode]

end RoundTrip

/-- A unit of an escaped text is the introducer, a digit, or a unit that stands for itself. -/
theorem mem_encode {s : List α} {x : α} (h : x ∈ e.encode s) :
    x = e.mark ∨ (∃ c d, e.code c = some d ∧ (x = d.1 ∨ x = d.2)) ∨ e.code x = none := by
  obtain ⟨c, -, hx⟩ := List.mem_flatMap.mp h
  cases hcode : e.code c with
  | none =>
    rw [encodeUnit_of_none hcode, List.mem_singleton] at hx
    rw [hx]
    exact Or.inr (Or.inr hcode)
  | some d =>
    rw [encodeUnit_of_some hcode] at hx
    simp only [List.mem_cons, List.not_mem_nil, or_false] at hx
    rcases hx with rfl | hx
    · exact Or.inl rfl
    · exact Or.inr (Or.inl ⟨c, d, hcode, hx⟩)

/-- **Every introducer begins an escape.** -/
theorem mark_encode {s pre post : List α} (h : e.encode s = pre ++ e.mark :: post) :
    ∃ c d rest, e.code c = some d ∧ post = d.1 :: d.2 :: rest := by
  induction s generalizing pre with
  | nil => simp [encode] at h
  | cons c s ih =>
    rw [encode_cons] at h
    cases hcode : e.code c with
    | none =>
      rw [encodeUnit_of_none hcode] at h
      cases pre with
      | nil =>
        rw [List.nil_append, List.singleton_append, List.cons.injEq] at h
        exact absurd h.1 (ne_mark_of_none hcode)
      | cons x pre =>
        simp only [List.nil_append, List.cons_append, List.cons.injEq] at h
        exact ih h.2
    | some d =>
      obtain ⟨hhi, hlo⟩ := e.digits_ne c d hcode
      rw [encodeUnit_of_some hcode] at h
      -- the introducer is that of this unit, or it comes behind both digits
      rcases pre with _ | ⟨x, _ | ⟨y, _ | ⟨z, pre⟩⟩⟩
      · simp only [List.nil_append, List.cons_append, List.cons.injEq] at h
        exact ⟨c, d, e.encode s, hcode, h.2.symm⟩
      · simp only [List.nil_append, List.cons_append, List.cons.injEq] at h
        exact absurd h.2.1 hhi
      · simp only [List.nil_append, List.cons_append, List.cons.injEq] at h
        exact absurd h.2.2.1 hlo
      · simp only [List.nil_append, List.cons_append, List.cons.injEq] at h
        exact ih h.2.2.2

end Escaping
