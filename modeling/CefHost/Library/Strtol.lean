import Mathlib.Algebra.Group.Int.Defs
import Mathlib.Algebra.Group.Nat.Defs
import Mathlib.Data.List.TakeWhile
import Mathlib.Data.Nat.Digits.Defs

/-!
# `strtoul` and `strtol` in base ten

The two C functions read an integer off the front of a string: blanks, an optional sign, decimal
digits. They report where they stopped and have no way to say that the number was written oddly.

## Conventions

A C string is the list of its bytes without the terminating zero, which `*end` finds behind the
last of them; so a stop at the end of the list and a stop at a zero byte look alike to the caller.
`w` is the width of `long`. Without a digit there is no conversion, the value is zero and `end` is
the start of the string. A value out of range becomes the nearest bound, and in the unsigned case
a minus sign negates modulo `2 ^ w`, after the test for the range.

## Main definitions

* `Strtol.scan` — sign, digits and rest
* `Strtol.strtoul`, `Strtol.strtol` — the value and what `end` points at
* `Strtol.Written` — a string taken apart as the two functions see it
* `Strtol.print` — a number, written as the functions read it

## Main results

* `Strtol.Written.scan_eq` — what is written so is read so
* `Strtol.exists_written` — whenever a digit is read, the string was written so
* `Strtol.decimal_print` — the round trip
-/

namespace Strtol

/-- `isspace` in the C locale. -/
def isSpace (c : UInt8) : Bool := c == 32 || (9 ≤ c && c ≤ 13)

def isDigit (c : UInt8) : Bool := 48 ≤ c && c ≤ 57

/-- The value of a list of digits. -/
def decimal (digits : List UInt8) : ℕ := digits.foldl (fun n c => 10 * n + (c.toNat - 48)) 0

/-- An optional sign, and whether it is a minus. -/
def takeSign : List UInt8 → Bool × List UInt8
  | 45 :: s => (true, s)
  | 43 :: s => (false, s)
  | s => (false, s)

/-- What the two functions find behind the blanks. -/
structure Subject where
  negative : Bool
  digits : List UInt8
  rest : List UInt8

def scan (s : List UInt8) : Subject where
  negative := (takeSign (s.dropWhile isSpace)).1
  digits := (takeSign (s.dropWhile isSpace)).2.takeWhile isDigit
  rest := (takeSign (s.dropWhile isSpace)).2.dropWhile isDigit

/-- Where `end` points. -/
def stop (s : List UInt8) : List UInt8 :=
  if (scan s).digits.isEmpty then s else (scan s).rest

def strtoul (w : ℕ) (s : List UInt8) : ℕ × List UInt8 :=
  let n := decimal (scan s).digits
  (if 2 ^ w ≤ n then 2 ^ w - 1
    else if (scan s).negative then (2 ^ w - n) % 2 ^ w
    else n, stop s)

def strtol (w : ℕ) (s : List UInt8) : ℤ × List UInt8 :=
  let n : ℤ := decimal (scan s).digits
  (if (scan s).negative then max (-2 ^ (w - 1)) (-n) else min (2 ^ (w - 1) - 1) n, stop s)

/-! ### The grammar -/

/-- No sign, a plus or a minus. -/
inductive IsSign : List UInt8 → Bool → Prop
  | absent : IsSign [] false
  | plus : IsSign [43] false
  | minus : IsSign [45] true

/-- `s` is blanks, a sign, at least one digit, and a rest that does not begin with a digit. -/
structure Written (s blanks sign digits rest : List UInt8) (negative : Bool) : Prop where
  parts : s = blanks ++ (sign ++ (digits ++ rest))
  blank : ∀ c ∈ blanks, isSpace c
  isSign : IsSign sign negative
  digit : ∀ c ∈ digits, isDigit c
  digits_ne_nil : digits ≠ []
  rest_head : ∀ c ∈ rest.head?, isDigit c = false

theorem isSpace_of_isDigit {c : UInt8} (h : isDigit c) : isSpace c = false := by
  simp only [isDigit, Bool.and_eq_true, decide_eq_true_eq] at h
  simp only [isSpace, Bool.or_eq_false_iff, Bool.and_eq_false_iff, beq_eq_false_iff_ne,
    decide_eq_false_iff_not]
  grind

theorem dropWhile_of_head {p : UInt8 → Bool} {s : List UInt8} (h : ∀ c ∈ s.head?, p c = false) :
    s.dropWhile p = s := by
  cases s with
  | nil => rfl
  | cons c s => simp [h c (by simp)]

theorem takeWhile_of_head {p : UInt8 → Bool} {s : List UInt8} (h : ∀ c ∈ s.head?, p c = false) :
    s.takeWhile p = [] := by
  cases s with
  | nil => rfl
  | cons c s => simp [h c (by simp)]

/-- Behind the blanks there is none. -/
theorem head?_dropWhile (p : UInt8 → Bool) (s : List UInt8) :
    ∀ c ∈ (s.dropWhile p).head?, p c = false := by
  intro c hc
  have hhead := List.head?_dropWhile_not p s
  rw [hc] at hhead
  exact hhead

/-- A sign is taken off a string that goes on with a digit. -/
theorem takeSign_append {sign t : List UInt8} {negative : Bool} (h : IsSign sign negative)
    (ht : ∀ c ∈ t.head?, isDigit c) (hne : t ≠ []) :
    takeSign (sign ++ t) = (negative, t) := by
  cases h with
  | plus => rfl
  | minus => rfl
  | absent =>
    cases t with
    | nil => exact absurd rfl hne
    | cons c t =>
      have hc : isDigit c := ht c (by simp)
      unfold takeSign
      split
      · rename_i heq
        simp only [List.nil_append, List.cons.injEq] at heq
        rw [heq.1] at hc
        exact absurd hc (by decide)
      · rename_i heq
        simp only [List.nil_append, List.cons.injEq] at heq
        rw [heq.1] at hc
        exact absurd hc (by decide)
      · rfl

/-- Conversely, `takeSign` takes a sign. -/
theorem exists_isSign (s : List UInt8) :
    ∃ sign, IsSign sign (takeSign s).1 ∧ s = sign ++ (takeSign s).2 := by
  unfold takeSign
  split
  · exact ⟨_, .minus, rfl⟩
  · exact ⟨_, .plus, rfl⟩
  · exact ⟨_, .absent, rfl⟩

/-- **What is written is read.** -/
theorem Written.scan_eq {s blanks sign digits rest : List UInt8} {negative : Bool}
    (h : Written s blanks sign digits rest negative) : scan s = ⟨negative, digits, rest⟩ := by
  have hhead : ∀ c ∈ (digits ++ rest).head?, isDigit c := by
    intro c hc
    obtain ⟨d, ds, hd⟩ := List.exists_cons_of_ne_nil h.digits_ne_nil
    simp only [hd, List.cons_append, List.head?_cons, Option.mem_some_iff] at hc
    exact h.digit c (by simp [hd, hc])
  have hne : digits ++ rest ≠ [] := by simp [h.digits_ne_nil]
  -- neither a sign nor a digit is a blank
  have hskip : s.dropWhile isSpace = sign ++ (digits ++ rest) := by
    rw [h.parts, List.dropWhile_append_of_pos h.blank]
    refine dropWhile_of_head fun c hc => ?_
    cases h.isSign with
    | absent => exact isSpace_of_isDigit (hhead c hc)
    | plus =>
      simp only [List.cons_append, List.head?_cons, Option.mem_some_iff] at hc
      subst hc
      rfl
    | minus =>
      simp only [List.cons_append, List.head?_cons, Option.mem_some_iff] at hc
      subst hc
      rfl
  have htake : (digits ++ rest).takeWhile isDigit = digits := by
    rw [List.takeWhile_append_of_pos h.digit, takeWhile_of_head h.rest_head, List.append_nil]
  have hdrop : (digits ++ rest).dropWhile isDigit = rest := by
    rw [List.dropWhile_append_of_pos h.digit, dropWhile_of_head h.rest_head]
  rw [scan, hskip, takeSign_append h.isSign hhead hne]
  simp only [htake, hdrop]

/-- **What is read was written.** -/
theorem exists_written {s : List UInt8} (h : (scan s).digits ≠ []) :
    ∃ blanks sign, Written s blanks sign (scan s).digits (scan s).rest (scan s).negative := by
  obtain ⟨sign, hsign, heq⟩ := exists_isSign (s.dropWhile isSpace)
  refine ⟨s.takeWhile isSpace, sign, ?_, ?_, hsign, ?_, h, head?_dropWhile _ _⟩
  · calc s = s.takeWhile isSpace ++ s.dropWhile isSpace := (List.takeWhile_append_dropWhile).symm
      _ = s.takeWhile isSpace ++ (sign ++ (takeSign (s.dropWhile isSpace)).2) := by rw [← heq]
      _ = _ := by
        rw [← List.takeWhile_append_dropWhile (p := isDigit)
          (l := (takeSign (s.dropWhile isSpace)).2)]
        rfl
  · exact fun c hc => List.mem_takeWhile_imp hc
  · exact fun c hc => List.mem_takeWhile_imp hc

/-! ### Printing -/

/-- A positive number in decimal, the most significant digit first. -/
def print (n : ℕ) : List UInt8 := ((Nat.digits 10 n).map fun d => UInt8.ofNat (48 + d)).reverse

theorem isDigit_ofNat {d : ℕ} (h : d < 10) : isDigit (UInt8.ofNat (48 + d)) := by
  have hall : ∀ d : Fin 10, isDigit (UInt8.ofNat (48 + d.val)) := by decide
  exact hall ⟨d, h⟩

theorem toNat_ofNat_sub {d : ℕ} (h : d < 10) : (UInt8.ofNat (48 + d)).toNat - 48 = d := by
  rw [UInt8.toNat_ofNat_of_lt' (show 48 + d < 256 by omega)]
  omega

theorem isDigit_of_mem_print {n : ℕ} {c : UInt8} (h : c ∈ print n) : isDigit c := by
  rw [print, List.mem_reverse, List.mem_map] at h
  obtain ⟨d, hd, rfl⟩ := h
  exact isDigit_ofNat (Nat.digits_lt_base (by decide) hd)

theorem print_ne_nil {n : ℕ} (h : n ≠ 0) : print n ≠ [] := by
  simp [print, Nat.digits_ne_nil_iff_ne_zero.mpr h]

/-- **Round trip.** -/
theorem decimal_print (n : ℕ) : decimal (print n) = n := by
  have hfold : ∀ ds : List ℕ, (∀ d ∈ ds, d < 10) →
      decimal ((ds.map fun d => UInt8.ofNat (48 + d)).reverse) = Nat.ofDigits 10 ds := by
    intro ds hds
    induction ds with
    | nil => rfl
    | cons d ds ih =>
      have hd : (UInt8.ofNat (48 + d)).toNat - 48 = d := toNat_ofNat_sub (hds d (by simp))
      have htail := ih fun d' hd' => hds d' (by simp [hd'])
      rw [decimal] at htail ⊢
      rw [List.map_cons, List.reverse_cons, List.foldl_append, htail, List.foldl_cons,
        List.foldl_nil, hd, Nat.ofDigits_cons, Nat.add_comm]
  rw [print, hfold _ fun d hd => Nat.digits_lt_base (by decide) hd, Nat.ofDigits_digits]

end Strtol
