import CefHost.HostRuntimeConfig

/-!
# What the numeric options accept

`ParseUInt` hands its string to `strtoul` and looks at nothing but the end pointer. It was to
accept the decimal numerals below `2 ^ 32`, and it does accept those with their values. It accepts
more: `strtoul` skips blanks and a sign in front of the digits, negates modulo `2 ^ 32`, replaces a
number that is too large by the largest one, and stops at a zero byte inside a `std::string` as it
does at the end.

## Main definitions

* `numeral` — the number a string should be read as
* `Misread` — the strings that are read as a number they do not write
* `settings` — the options of a command line with their values

## Main results

* `parseUInt_eq_numeral_iff` — `ParseUInt` reads a string as it should unless it is misread
* `numeric_options_iff` — the same for the sizes on a command line
* `size_fromArgs` — the size, when no value of a size option is misread
-/

namespace CefHost

open Strtol (isDigit decimal Written)

/-! ### Numerals -/

/-- A non-empty sequence of decimal digits with a value below `2 ^ 32`, and that value. -/
def numeral (s : Arg) : Option UInt32 :=
  if s ≠ [] ∧ s.all isDigit ∧ decimal s < 2 ^ 32 then some (UInt32.ofNat (decimal s))
  else none

/-- A string that begins with a zero byte, or that has a numeral up to its end or its first zero
byte and is odd in some way: blanks in front, a sign, the zero byte, or a value too large. -/
def Misread (s : Arg) : Prop :=
  s.head? = some 0
    ∨ ∃ blanks sign digits rest negative, Written s blanks sign digits rest negative
        ∧ rest.headD 0 = 0
        ∧ (blanks ≠ [] ∨ sign ≠ [] ∨ rest ≠ [] ∨ 2 ^ 32 ≤ decimal digits)

/-- A sequence of digits is written without anything else. -/
theorem written_of_isDigit {s : Arg} (hne : s ≠ []) (h : ∀ c ∈ s, isDigit c) :
    Written s [] [] s [] false where
  parts := by simp
  blank := by simp
  isSign := .absent
  digit := h
  digits_ne_nil := hne
  rest_head := by simp

theorem stop_of_written {s blanks sign digits rest : Arg} {negative : Bool}
    (h : Written s blanks sign digits rest negative) : Strtol.stop s = rest := by
  simp [Strtol.stop, h.scan_eq, h.digits_ne_nil]

theorem ne_nil_of_written {s blanks sign digits rest : Arg} {negative : Bool}
    (h : Written s blanks sign digits rest negative) : s ≠ [] := by
  rw [h.parts]
  simp [h.digits_ne_nil]

/-- What `ParseUInt` accepts. -/
theorem parseUInt_isSome_iff (s : Arg) :
    (parseUInt s).isSome ↔ s.head? = some 0
      ∨ ∃ blanks sign digits rest negative, Written s blanks sign digits rest negative
          ∧ rest.headD 0 = 0 := by
  have hsome : (parseUInt s).isSome ↔ s ≠ [] ∧ (Strtol.stop s).headD 0 = 0 := by
    by_cases hs : s = []
    · simp [parseUInt, hs]
    · simp [parseUInt, hs, Strtol.strtoul]
  rw [hsome]
  constructor
  · rintro ⟨hne, hstop⟩
    by_cases hdigits : (Strtol.scan s).digits = []
    · left
      rw [Strtol.stop, hdigits] at hstop
      cases s with
      | nil => exact absurd rfl hne
      | cons c s => simpa using hstop
    · right
      obtain ⟨blanks, sign, h⟩ := Strtol.exists_written hdigits
      exact ⟨_, _, _, _, _, h, by rwa [← stop_of_written h]⟩
  · rintro (h | ⟨blanks, sign, digits, rest, negative, h, hrest⟩)
    · cases s with
      | nil => simp at h
      | cons c s =>
        obtain rfl : c = 0 := by simpa using h
        exact ⟨by simp, rfl⟩
    · exact ⟨ne_nil_of_written h, by rwa [stop_of_written h]⟩

/-- A sequence of digits is accepted, and read as its value if that fits. -/
theorem parseUInt_of_isDigit {s : Arg} (hne : s ≠ []) (h : ∀ c ∈ s, isDigit c) :
    parseUInt s = some (UInt32.ofNat
      (if 2 ^ 32 ≤ decimal s then 2 ^ 32 - 1 else decimal s)) := by
  have hw := written_of_isDigit hne h
  simp [parseUInt, hne, Strtol.strtoul, stop_of_written hw, hw.scan_eq]

/-- A numeral is odd only if its value is too large. -/
theorem misread_of_isDigit_iff {s : Arg} (hne : s ≠ []) (h : ∀ c ∈ s, isDigit c) :
    Misread s ↔ 2 ^ 32 ≤ decimal s := by
  have hw := written_of_isDigit hne h
  constructor
  · rintro (hzero | ⟨blanks, sign, digits, rest, negative, hw', -, hodd⟩)
    · obtain ⟨t, rfl⟩ : ∃ t, s = 0 :: t := by
        cases s with
        | nil => exact absurd rfl hne
        | cons c t => exact ⟨t, by simpa using hzero⟩
      exact absurd (h 0 (by simp)) (by decide)
    · -- the string is its digits, so nothing is left for the other parts
      have hscan := hw'.scan_eq.symm.trans hw.scan_eq
      simp only [Strtol.Subject.mk.injEq] at hscan
      obtain ⟨-, rfl, rfl⟩ := hscan
      have hparts : blanks = [] ∧ sign = [] := by
        have hlength := congrArg List.length hw'.parts
        simp only [List.length_append, List.length_nil] at hlength
        exact ⟨List.eq_nil_of_length_eq_zero (by omega), List.eq_nil_of_length_eq_zero (by omega)⟩
      simpa [hparts] using hodd
  · intro hbig
    exact .inr ⟨_, _, _, _, _, hw, rfl, .inr (.inr (.inr hbig))⟩

/-- **Exactly the misread strings are read wrongly.** -/
theorem parseUInt_eq_numeral_iff (s : Arg) : parseUInt s = numeral s ↔ ¬ Misread s := by
  by_cases hs : s ≠ [] ∧ ∀ c ∈ s, isDigit c
  · obtain ⟨hne, hdigit⟩ := hs
    rw [parseUInt_of_isDigit hne hdigit, misread_of_isDigit_iff hne hdigit]
    by_cases hbig : 2 ^ 32 ≤ decimal s
    · have hnumeral : numeral s = none := if_neg fun h => by omega
      rw [hnumeral]
      exact iff_of_false (Option.some_ne_none _) fun hnot => hnot hbig
    · have hnumeral : numeral s = some (UInt32.ofNat (decimal s)) :=
        if_pos ⟨hne, List.all_eq_true.mpr hdigit, by omega⟩
      rw [hnumeral, if_neg hbig]
      exact iff_of_true rfl hbig
  · have hnumeral : numeral s = none := by
      unfold numeral
      rw [if_neg]
      exact fun h => hs ⟨h.1, List.all_eq_true.mp h.2.1⟩
    rw [hnumeral, ← Option.not_isSome_iff_eq_none, parseUInt_isSome_iff]
    refine not_congr (or_congr_right ⟨?_, ?_⟩)
    · rintro ⟨blanks, sign, digits, rest, negative, hw, hrest⟩
      refine ⟨blanks, sign, digits, rest, negative, hw, hrest, ?_⟩
      by_contra hplain
      simp only [not_or, not_not] at hplain
      obtain ⟨rfl, rfl, rfl, -⟩ := hplain
      have heq : s = digits := by simpa using hw.parts
      exact hs (heq ▸ ⟨hw.digits_ne_nil, hw.digit⟩)
    · rintro ⟨blanks, sign, digits, rest, negative, hw, hrest, -⟩
      exact ⟨blanks, sign, digits, rest, negative, hw, hrest⟩

/-- A numeral that fits is read as it should. -/
theorem parseUInt_of_numeral {s : Arg} {n : UInt32} (h : numeral s = some n) :
    parseUInt s = some n := by
  unfold numeral at h
  split at h
  · rename_i hs
    rw [parseUInt_of_isDigit hs.1 (List.all_eq_true.mp hs.2.1), if_neg (by omega)]
    exact h
  · cases h

/-! ### Sizes on the command line -/

/-- Width and height. -/
abbrev Size := UInt32 × UInt32

def HostRuntimeConfig.size (cfg : HostRuntimeConfig) : Size := (cfg.width, cfg.height)

/-- The option at an argument and the value it takes, from the argument or from the next one. -/
def setting (p : Arg × Option Arg) : Option (ValueOption × Arg) :=
  (optionOf p.1).bind fun o => (takeNext (keyValue p.1).2 p.2).map fun t => (o, t.1)

/-- The options of a command line with their values, in order. -/
def settings (argv : List Arg) : List (ValueOption × Arg) :=
  (visited false argv.tail).filterMap setting

/-- The size that an option with the value `v` should leave: the numbers written, with `0` made
`1`, and for `--size` both or none. -/
def ValueOption.writtenSize (v : Arg) (size : Size) : ValueOption → Size
  | .width =>
    match numeral v with
    | some n => (atLeastOne n, size.2)
    | none => size
  | .height =>
    match numeral v with
    | some n => (size.1, atLeastOne n)
    | none => size
  | .size =>
    match splitAtFirst HostRuntimeConfig.isTimes v with
    | some (w, h) =>
      match numeral w, numeral h with
      | some w, some h => (atLeastOne w, atLeastOne h)
      | _, _ => size
    | none => size
  | _ => size

/-- The values of which the option reads a number that is not written there. Of the two numbers of
`--size`, both have to pass for a number. -/
def ValueOption.MisreadValue (v : Arg) : ValueOption → Prop
  | .width | .height => Misread v
  | .size =>
    ∃ w h, splitAtFirst HostRuntimeConfig.isTimes v = some (w, h)
      ∧ (Misread w ∨ (numeral w).isSome) ∧ (Misread h ∨ (numeral h).isSome)
      ∧ (Misread w ∨ Misread h)
  | _ => False

/-- A misread string is read as some number. -/
theorem parseUInt_of_misread {s : Arg} (h : Misread s) :
    (parseUInt s).isSome ∧ parseUInt s ≠ numeral s := by
  refine ⟨(parseUInt_isSome_iff s).mpr ?_, fun heq => (parseUInt_eq_numeral_iff s).mp heq h⟩
  rcases h with h | ⟨blanks, sign, digits, rest, negative, hw, hrest, -⟩
  · exact .inl h
  · exact .inr ⟨blanks, sign, digits, rest, negative, hw, hrest⟩

theorem numeral_of_misread {s : Arg} (h : Misread s) : numeral s = none := by
  cases hn : numeral s with
  | none => rfl
  | some n => exact absurd (parseUInt_of_numeral hn |>.trans hn.symm) (parseUInt_of_misread h).2

/-- What passes for a number. -/
theorem parseUInt_isSome_iff_counts (s : Arg) :
    (parseUInt s).isSome ↔ Misread s ∨ (numeral s).isSome := by
  by_cases h : Misread s
  · simp [h, (parseUInt_of_misread h).1]
  · simp [h, (parseUInt_eq_numeral_iff s).mpr h]

theorem numeral_of_parseUInt {s : Arg} (h : parseUInt s = none) : numeral s = none := by
  cases hn : numeral s with
  | none => rfl
  | some n => exact absurd (h.symm.trans (parseUInt_of_numeral hn)) (by simp)

/-- What is made of a number shows, so a misread one does too. -/
theorem read_iff {v : Arg} {f : HostRuntimeConfig → UInt32 → Size}
    (hf : ∀ n, ∃ cfg, f cfg n ≠ cfg.size) :
    (∀ cfg, ((parseUInt v).map (f cfg)).getD cfg.size = ((numeral v).map (f cfg)).getD cfg.size)
      ↔ ¬ Misread v := by
  constructor
  · intro hall hmis
    obtain ⟨n, hn⟩ := Option.isSome_iff_exists.mp (parseUInt_of_misread hmis).1
    obtain ⟨cfg, hcfg⟩ := hf n
    have hsize := hall cfg
    rw [hn, numeral_of_misread hmis] at hsize
    exact hcfg hsize
  · intro hmis cfg
    rw [(parseUInt_eq_numeral_iff v).mpr hmis]

open HostRuntimeConfig in
theorem set_width_iff (v : Arg) :
    (∀ cfg, (ValueOption.width.set cfg v).size = ValueOption.width.writtenSize v cfg.size)
      ↔ ¬ Misread v := by
  have hset : ∀ cfg : HostRuntimeConfig, (ValueOption.width.set cfg v).size =
      ((parseUInt v).map fun n => (atLeastOne n, cfg.height)).getD cfg.size := by
    intro cfg
    simp only [ValueOption.set, setWidth]
    cases parseUInt v <;> rfl
  have hwritten : ∀ cfg : HostRuntimeConfig, ValueOption.width.writtenSize v cfg.size =
      ((numeral v).map fun n => (atLeastOne n, cfg.height)).getD cfg.size := by
    intro cfg
    simp only [ValueOption.writtenSize]
    cases numeral v <;> rfl
  simp only [hset, hwritten]
  exact read_iff fun n => ⟨{ width := atLeastOne n + 1 }, by simp [size]⟩

open HostRuntimeConfig in
theorem set_height_iff (v : Arg) :
    (∀ cfg, (ValueOption.height.set cfg v).size = ValueOption.height.writtenSize v cfg.size)
      ↔ ¬ Misread v := by
  have hset : ∀ cfg : HostRuntimeConfig, (ValueOption.height.set cfg v).size =
      ((parseUInt v).map fun n => (cfg.width, atLeastOne n)).getD cfg.size := by
    intro cfg
    simp only [ValueOption.set, setHeight]
    cases parseUInt v <;> rfl
  have hwritten : ∀ cfg : HostRuntimeConfig, ValueOption.height.writtenSize v cfg.size =
      ((numeral v).map fun n => (cfg.width, atLeastOne n)).getD cfg.size := by
    intro cfg
    simp only [ValueOption.writtenSize]
    cases numeral v <;> rfl
  simp only [hset, hwritten]
  exact read_iff fun n => ⟨{ height := atLeastOne n + 1 }, by simp [size]⟩

open HostRuntimeConfig in
/-- For `--size`, one misread number shows only if the other one passes for a number too. -/
theorem set_size_iff (v : Arg) :
    (∀ cfg, (ValueOption.size.set cfg v).size = ValueOption.size.writtenSize v cfg.size)
      ↔ ¬ ValueOption.size.MisreadValue v := by
  cases hsplit : splitAtFirst isTimes v with
  | none =>
    simp [ValueOption.set, ValueOption.writtenSize, ValueOption.MisreadValue, setSize, hsplit]
  | some wh =>
    obtain ⟨w, h⟩ := wh
    constructor
    · rintro hall ⟨w', h', heq, hw, hh, hmis⟩
      obtain ⟨rfl, rfl⟩ : w = w' ∧ h = h' := by simpa [hsplit] using heq
      obtain ⟨n, hn⟩ := Option.isSome_iff_exists.mp ((parseUInt_isSome_iff_counts w).mpr hw)
      obtain ⟨m, hm⟩ := Option.isSome_iff_exists.mp ((parseUInt_isSome_iff_counts h).mpr hh)
      have hset := hall { width := atLeastOne n + 1 }
      rcases hmis with hmis | hmis
      · simp [ValueOption.set, ValueOption.writtenSize, setSize, hsplit, hn, hm,
          numeral_of_misread hmis, size] at hset
      · cases hnw : numeral w <;>
          simp [ValueOption.set, ValueOption.writtenSize, setSize, hsplit, hn, hm, hnw,
            numeral_of_misread hmis, size] at hset
    · intro hmis cfg
      simp only [ValueOption.set, ValueOption.writtenSize, setSize, hsplit]
      cases hw : parseUInt w with
      | none => simp [numeral_of_parseUInt hw, size]
      | some n =>
        cases hh : parseUInt h with
        | none =>
          rw [numeral_of_parseUInt hh]
          cases numeral w <;> rfl
        | some m =>
          -- both pass for numbers, so neither is misread
          have hcw := (parseUInt_isSome_iff_counts w).mp (by simp [hw])
          have hch := (parseUInt_isSome_iff_counts h).mp (by simp [hh])
          have hplain : ¬ Misread w ∧ ¬ Misread h := by
            constructor
            · exact fun hm => hmis ⟨w, h, hsplit, hcw, hch, .inl hm⟩
            · exact fun hm => hmis ⟨w, h, hsplit, hcw, hch, .inr hm⟩
          rw [← (parseUInt_eq_numeral_iff w).mpr hplain.1,
            ← (parseUInt_eq_numeral_iff h).mpr hplain.2, hw, hh]
          rfl

/-- An option leaves the written size exactly when its value is not misread. -/
theorem set_option_size_iff (o : ValueOption) (v : Arg) :
    (∀ cfg, (o.set cfg v).size = o.writtenSize v cfg.size) ↔ ¬ o.MisreadValue v := by
  cases o with
  | width => exact set_width_iff v
  | height => exact set_height_iff v
  | size => exact set_size_iff v
  | url =>
    refine iff_of_true (fun cfg => ?_) (fun h => h)
    simp only [ValueOption.set, HostRuntimeConfig.setUrl]
    split <;> rfl
  | sessionId => exact iff_of_true (fun cfg => rfl) (fun h => h)
  | fps =>
    refine iff_of_true (fun cfg => ?_) (fun h => h)
    simp only [ValueOption.set, HostRuntimeConfig.setFps]
    split <;> rfl

/-! ### The whole command line -/

/-- The size after an argument the loop looks at, as it is written there. -/
def writtenSizeAt (p : Arg × Option Arg) (size : Size) : Size :=
  match setting p with
  | some (o, v) => o.writtenSize v size
  | none => size

/-- An argument without an option and a value does not touch the size. -/
theorem size_visit_of_setting_none {p : Arg × Option Arg} (h : setting p = none)
    (cfg : HostRuntimeConfig) : (visit cfg p).size = cfg.size := by
  cases hopt : optionOf p.1 with
  | none =>
    rw [visit, readArg_of_optionOf_none hopt]
    unfold flagOption
    split_ifs <;> rfl
  | some o =>
    have htake : takeNext (keyValue p.1).2 p.2 = none := by
      simpa [setting, hopt] using h
    simp [visit, readArg_of_optionOf_some hopt, htake]

theorem visit_of_setting_some {p : Arg × Option Arg} {o : ValueOption} {v : Arg}
    (h : setting p = some (o, v)) (cfg : HostRuntimeConfig) : visit cfg p = o.set cfg v := by
  obtain ⟨o', hopt, t, htake, heq⟩ : ∃ o', optionOf p.1 = some o'
      ∧ ∃ t, takeNext (keyValue p.1).2 p.2 = some t ∧ (o', t.1) = (o, v) := by
    simpa [setting, Option.bind_eq_some_iff] using h
  obtain ⟨rfl, rfl⟩ := Prod.mk.inj heq
  simp [visit, readArg_of_optionOf_some hopt, htake]

/-- All options of a command line leave the written size exactly when none of their values is
misread. -/
theorem size_visit_iff (argv : List Arg) :
    (∀ p ∈ visited false argv.tail, ∀ cfg, (visit cfg p).size = writtenSizeAt p cfg.size)
      ↔ ∀ q ∈ settings argv, ¬ q.1.MisreadValue q.2 := by
  simp only [settings, List.mem_filterMap, forall_exists_index, and_imp, Prod.forall]
  constructor
  · intro h o v arg next hmem hset
    rw [← set_option_size_iff o v]
    intro cfg
    have hsize := h arg next hmem cfg
    rwa [visit_of_setting_some hset, writtenSizeAt, hset] at hsize
  · intro h arg next hmem cfg
    cases hset : setting (arg, next) with
    | none => rw [size_visit_of_setting_none hset, writtenSizeAt, hset]
    | some q =>
      rw [visit_of_setting_some hset, writtenSizeAt, hset]
      exact (set_option_size_iff q.1 q.2).mpr (h _ _ _ _ hmem hset) cfg

/-- The size the host starts with, if no value is misread: the defaults, changed by the numbers
that are written. -/
theorem size_fromArgs {argv : List Arg} (h : ∀ q ∈ settings argv, ¬ q.1.MisreadValue q.2) :
    (fromArgs argv).size
      = (visited false argv.tail).foldl (fun size p => writtenSizeAt p size) (1920, 1080) := by
  have hvisit := (size_visit_iff argv).mpr h
  rw [fromArgs_eq_foldl]
  change _ = List.foldl _ (HostRuntimeConfig.size {}) _
  generalize ({} : HostRuntimeConfig) = cfg
  generalize visited false argv.tail = ps at hvisit
  induction ps generalizing cfg with
  | nil => rfl
  | cons p ps ih =>
    rw [List.foldl_cons, List.foldl_cons, ← hvisit p List.mem_cons_self]
    exact ih _ fun q hq => hvisit q (List.mem_cons_of_mem _ hq)

/-- **Numbers on the command line.** `ParseUInt` reads a string as the numeral it is, or rejects
it, exactly when the string is not misread. The options of a command line all leave the size that
is written exactly when none of their values is misread, and then the host starts with the size
that is written. -/
theorem numeric_options_iff (s : Arg) (argv : List Arg) :
    (parseUInt s = numeral s ↔ ¬ Misread s)
      ∧ ((∀ p ∈ visited false argv.tail, ∀ cfg, (visit cfg p).size = writtenSizeAt p cfg.size)
        ↔ ∀ q ∈ settings argv, ¬ q.1.MisreadValue q.2)
      ∧ ((∀ q ∈ settings argv, ¬ q.1.MisreadValue q.2) → (fromArgs argv).size
        = (visited false argv.tail).foldl (fun size p => writtenSizeAt p size) (1920, 1080)) :=
  ⟨parseUInt_eq_numeral_iff s, size_visit_iff argv, size_fromArgs⟩

/-- A minus sign is taken for a number, and wraps around. -/
theorem minus_one_is_a_number :
    parseUInt (ascii "-1") = some 4294967295 ∧ numeral (ascii "-1") = none
      ∧ (fromArgs [ascii "host", ascii "--width", ascii "-1"]).size = (4294967295, 1080) := by
  decide

end CefHost
