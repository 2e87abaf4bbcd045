import Mathlib.Data.List.Infix
import Mathlib.Data.List.Nodup
import Mathlib.Data.List.Pairwise

/-!
# Names with a separator

A name is a base, or a base, a separator and a suffix. The suffix is free: it may contain the
separator, so that a name cannot be taken apart by looking for it.

## What can be recovered

From the whole name and the set of bases in use, base and suffix can be recovered as soon as no
base, followed by the separator, begins another base followed by it (`Apart`). No assumption on
the suffixes is needed. A label put *behind* a free suffix can be recovered when the labels are
without the separator, since the last separator is then the one in front of the label.

## Main definitions

* `Delimited.qualified` — a base with an optional suffix
* `Delimited.labelled` — an optional suffix with a label behind it
* `Delimited.Apart` — neither base is an initial part of a name over the other

## Main results

* `Delimited.qualified_inj_of_pairwise` — base and suffix are determined by the name
* `Delimited.labelled_inj` — suffix and label are determined by the labelled suffix
-/

namespace Delimited

variable {α : Type*} {sep : α}

/-! ### A base and a suffix -/

/-- `base` alone, or `base`, the separator and `suffix`. -/
def qualified (sep : α) (base suffix : List α) : List α :=
  if suffix.isEmpty then base else base ++ [sep] ++ suffix

@[simp] theorem qualified_nil (base : List α) : qualified sep base [] = base := rfl

theorem qualified_of_ne_nil (base : List α) {suffix : List α} (h : suffix ≠ []) :
    qualified sep base suffix = base ++ [sep] ++ suffix := by
  simp [qualified, h]

/-- Over one base, the suffix is determined. -/
theorem qualified_right_injective (sep : α) (base : List α) :
    Function.Injective (qualified sep base) := by
  intro s t h
  by_cases hs : s = [] <;> by_cases ht : t = []
  · rw [hs, ht]
  · simp [qualified, hs, ht] at h
  · simp [qualified, hs, ht] at h
  · simpa [qualified, hs, ht] using h

/-- With a separator behind it, every name over `base` begins with `base` and the separator. -/
theorem base_prefix_qualified (sep : α) (base suffix : List α) :
    base ++ [sep] <+: qualified sep base suffix ++ [sep] := by
  by_cases h : suffix = []
  · rw [h, qualified_nil]
  · rw [qualified_of_ne_nil base h, List.append_assoc]
    exact List.prefix_append _ _

/-- Neither base, with the separator behind it, begins the other one. -/
def Apart (sep : α) (b c : List α) : Prop :=
  ¬ b ++ [sep] <+: c ++ [sep] ∧ ¬ c ++ [sep] <+: b ++ [sep]

instance [DecidableEq α] (b c : List α) : Decidable (Apart sep b c) :=
  inferInstanceAs (Decidable (_ ∧ _))

instance : Std.Symm (Apart sep) where
  symm _ _ h := ⟨h.2, h.1⟩

/-- Names over bases that are apart differ, whatever their suffixes. -/
theorem Apart.qualified_ne {b c : List α} (h : Apart sep b c) (s t : List α) :
    qualified sep b s ≠ qualified sep c t := by
  intro heq
  have hb := base_prefix_qualified sep b s
  have hc := base_prefix_qualified sep c t
  rw [heq] at hb
  -- two initial parts of one name are comparable
  rcases List.prefix_or_prefix_of_prefix hb hc with hbc | hcb
  · exact h.1 hbc
  · exact h.2 hcb

/-- **Base and suffix are determined** by the name, over bases that are pairwise apart. -/
theorem qualified_inj_of_pairwise {bases : List (List α)} (h : bases.Pairwise (Apart sep))
    {b c s t : List α} (hb : b ∈ bases) (hc : c ∈ bases)
    (heq : qualified sep b s = qualified sep c t) : b = c ∧ s = t := by
  have hbase : b = c := by
    by_contra hne
    exact (h.forall hb hc hne).qualified_ne s t heq
  subst hbase
  exact ⟨rfl, qualified_right_injective sep b heq⟩

/-! ### A suffix and a label -/

/-- `label` alone, or `suffix`, the separator and `label`. -/
def labelled (sep : α) (suffix label : List α) : List α :=
  if suffix.isEmpty then label else suffix ++ [sep] ++ label

theorem labelled_ne_nil (suffix : List α) {label : List α} (h : label ≠ []) :
    labelled sep suffix label ≠ [] := by
  unfold labelled
  split <;> simp [h]

/-- A name over a base with a label behind it is a name whose suffix is the labelled suffix. -/
theorem qualified_append_label (base suffix : List α) {label : List α} (h : label ≠ []) :
    qualified sep base suffix ++ [sep] ++ label
      = qualified sep base (labelled sep suffix label) := by
  rw [qualified_of_ne_nil base (labelled_ne_nil suffix h)]
  by_cases hs : suffix = []
  · simp [labelled, hs]
  · simp [labelled, qualified, hs]

/-- What stands behind the last separator, and in front of it. -/
theorem append_cons_inj {s t l m : List α} (hl : sep ∉ l) (hm : sep ∉ m)
    (h : s ++ sep :: l = t ++ sep :: m) : s = t ∧ l = m := by
  rcases List.append_eq_append_iff.mp h with ⟨c, rfl, hc⟩ | ⟨c, rfl, hc⟩
  · cases c with
    | nil => simpa using hc
    | cons x c =>
      -- the separator in front of `m` would stand inside `l`
      obtain ⟨-, rfl⟩ := List.cons_eq_cons.mp hc
      exact absurd (by simp) hl
  · cases c with
    | nil => simpa using hc.symm
    | cons x c =>
      obtain ⟨-, rfl⟩ := List.cons_eq_cons.mp hc
      exact absurd (by simp) hm

/-- **Suffix and label are determined** by the labelled suffix, for labels without the
separator. -/
theorem labelled_inj {s t l m : List α} (hl : sep ∉ l) (hm : sep ∉ m)
    (h : labelled sep s l = labelled sep t m) : s = t ∧ l = m := by
  by_cases hs : s = [] <;> by_cases ht : t = []
  · simp only [labelled, hs, ht, List.isEmpty_nil, if_true] at h
    exact ⟨by rw [hs, ht], h⟩
  · simp only [labelled, hs, ht, List.isEmpty_nil, if_true, List.isEmpty_iff, if_false] at h
    exact absurd (by rw [h]; simp) hl
  · simp only [labelled, hs, ht, List.isEmpty_nil, if_true, List.isEmpty_iff, if_false] at h
    exact absurd (by rw [← h]; simp) hm
  · simp only [labelled, hs, ht, List.isEmpty_iff, if_false, List.append_assoc,
      List.singleton_append] at h
    exact append_cons_inj hl hm h

end Delimited
