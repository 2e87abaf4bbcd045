import CefHost.HostRuntimeConfig

/-!
# The two forms of an option

An option that takes a value may be written `--key=value` or `--key value`. The parser does not
remember which: it splits the argument at `=` and takes the next one if what is left is empty. So
`--key=` is no option with an empty value; it is the same as `--key`, and the argument behind it is
its value.

## Main results

* `readArgs_inline`, `readArgs_following` — the loop at either form
* `readArgs_inline_nil` — `--key=` and `--key` are the same
* `option_forms_iff` — the two forms agree in all surroundings exactly for the values that are not
  empty
-/

namespace CefHost

/-- `--key=value` as one argument. -/
def ValueOption.inline (o : ValueOption) (value : Arg) : Arg := o.key ++ 61 :: value

/-! ### Splitting an argument -/

theorem splitAtFirst_append {p : UInt8 → Bool} {s : Arg} {c : UInt8} (t : Arg)
    (hs : ∀ c ∈ s, p c = false) (hc : p c) : splitAtFirst p (s ++ c :: t) = some (s, t) := by
  have hkeep : ∀ c ∈ s, (!p c) = true := fun c h => by simp [hs c h]
  simp [splitAtFirst, List.dropWhile_append_of_pos hkeep, List.takeWhile_append_of_pos hkeep, hc]

/-- No key contains `=`. -/
theorem equals_notMem_key (o : ValueOption) : ∀ c ∈ o.key, (c == 61) = false := by
  have hall : o.key.all (fun c => !(c == 61)) = true := by cases o <;> decide
  simpa using hall

theorem keyValue_inline (o : ValueOption) (value : Arg) :
    keyValue (o.inline value) = (o.key, value) := by
  simp [keyValue, ValueOption.inline, splitAtFirst_append value (equals_notMem_key o)]

theorem keyValue_key (o : ValueOption) : keyValue o.key = (o.key, []) := by
  cases o <;> decide

/-- The options without a value are written without `=`. -/
theorem flagOption_of_mem {arg : Arg} (h : 61 ∈ arg) (cfg : HostRuntimeConfig) :
    flagOption cfg arg = none := by
  have hne : ∀ s : String, 61 ∉ ascii s → arg ≠ ascii s := fun s hs heq => hs (heq ▸ h)
  simp [flagOption, hne "-h" (by decide), hne "--help" (by decide), hne "/?" (by decide),
    hne "--no-thread-tuning" (by decide), hne "--enable-cadence-feedback" (by decide)]

theorem optionOf_inline (o : ValueOption) (value : Arg) : optionOf (o.inline value) = some o := by
  have hmem : 61 ∈ o.inline value := by simp [ValueOption.inline]
  simp [optionOf, flagOption_of_mem hmem, keyValue_inline, ValueOption.ofKey_key]

theorem optionOf_key (o : ValueOption) : optionOf o.key = some o := by
  cases o <;> decide

/-! ### The loop at an option -/

theorem readArgs_inline (o : ValueOption) {value : Arg} (h : value ≠ [])
    (cfg : HostRuntimeConfig) (after : List Arg) :
    readArgs false cfg (o.inline value :: after) = readArgs false (o.set cfg value) after := by
  have hwants : wantsNext (o.inline value) = false := by
    simp [wantsNext, keyValue_inline, h]
  rw [readArgs_cons, hwants]
  simp [visit, readArg_of_optionOf_some (optionOf_inline o value), keyValue_inline, takeNext, h]

theorem readArgs_following (o : ValueOption) (value : Arg) (cfg : HostRuntimeConfig)
    (after : List Arg) :
    readArgs false cfg (o.key :: value :: after) = readArgs false (o.set cfg value) after := by
  have hwants : wantsNext o.key = true := by
    simp [wantsNext, optionOf_key, keyValue_key]
  rw [readArgs_cons, hwants, readArgs, if_pos rfl]
  simp [visit, readArg_of_optionOf_some (optionOf_key o), keyValue_key, takeNext]

/-- `--key=` is `--key`. -/
theorem readArgs_inline_nil (o : ValueOption) (cfg : HostRuntimeConfig) (after : List Arg) :
    readArgs false cfg (o.inline [] :: after) = readArgs false cfg (o.key :: after) := by
  have hwants : wantsNext (o.inline []) = wantsNext o.key := by
    simp [wantsNext, optionOf_inline, optionOf_key, keyValue_inline, keyValue_key]
  rw [readArgs_cons, readArgs_cons, hwants]
  simp [visit, readArg_of_optionOf_some (optionOf_inline o []),
    readArg_of_optionOf_some (optionOf_key o), keyValue_inline, keyValue_key]

/-- Thread tuning is switched by an argument of its own only. -/
theorem set_enableThreadTuning (o : ValueOption) (cfg : HostRuntimeConfig) (v : Arg) :
    (o.set cfg v).enableThreadTuning = cfg.enableThreadTuning := by
  cases o with
  | sessionId => rfl
  | url => simp only [ValueOption.set, HostRuntimeConfig.setUrl]; split <;> rfl
  | width => simp only [ValueOption.set, HostRuntimeConfig.setWidth]; split <;> rfl
  | height => simp only [ValueOption.set, HostRuntimeConfig.setHeight]; split <;> rfl
  | fps => simp only [ValueOption.set, HostRuntimeConfig.setFps]; split <;> rfl
  | size =>
    simp only [ValueOption.set, HostRuntimeConfig.setSize]
    split
    · rfl
    · split <;> rfl

/-! ### The two forms -/

/-- **The two forms of an option.** They give the same configuration, whatever stands before them
(with no option left waiting for its value) and behind them, exactly when the value is not
empty. -/
theorem option_forms_iff (o : ValueOption) (value : Arg) :
    (∀ program before after, pending false before = false →
        fromArgs (program :: (before ++ o.inline value :: after))
          = fromArgs (program :: (before ++ o.key :: value :: after)))
      ↔ value ≠ [] := by
  constructor
  · rintro h rfl
    -- in front of a flag: the one form takes it for its value, the other leaves it
    have heq := h [] [] [ascii "--no-thread-tuning"] rfl
    simp only [List.nil_append, fromArgs, List.tail_cons] at heq
    rw [readArgs_inline_nil, readArgs_following, readArgs_following, readArgs_nil] at heq
    have htuning := congrArg HostRuntimeConfig.enableThreadTuning heq
    rw [set_enableThreadTuning] at htuning
    exact absurd htuning (by simp [readArgs, readArg, flagOption, ascii])
  · intro hvalue program before after hbefore
    simp only [fromArgs, List.tail_cons]
    rw [readArgs_append hbefore, readArgs_append hbefore, readArgs_inline o hvalue,
      readArgs_following]

/-- An empty session id in front of a width. -/
theorem empty_inline_value_swallows :
    fromArgs [ascii "host", ascii "--session-id=", ascii "--width", ascii "7"]
      ≠ fromArgs [ascii "host", ascii "--session-id", [], ascii "--width", ascii "7"] := by
  decide

end CefHost
