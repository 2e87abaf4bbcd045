import CefHost.NumericOptions
import CefHost.OptionForms

/-!
# Which configurations a command line can give

Each option writes its fields through a clamp, and an empty URL is dropped. So not every
configuration is the reading of a command line. Those that are can all be written out, each as the
values followed by the flags, and the written form is read back whatever stands in front of it.
Values that stand in front are overruled; flags are not, since no option takes one back.

## Main definitions

* `commandLine` — a configuration, written out
* `Writable` — what every command line gives
* `HostRuntimeConfig.withFlags` — a configuration and flags that were given before

## Main results

* `readArgs_commandLine` — the written form is read back
* `command_line_range` — exactly the writable configurations are readings
-/

namespace CefHost

open Strtol (print isDigit)

/-! ### Writing -/

/-- `<width>x<height>`. -/
def sizeValue (cfg : HostRuntimeConfig) : Arg :=
  print cfg.width.toNat ++ 120 :: print cfg.height.toNat

def fpsValue (cfg : HostRuntimeConfig) : Arg := print cfg.frameRate.toInt.toNat

def flagArgs (cfg : HostRuntimeConfig) : List Arg :=
  (if cfg.enableThreadTuning then [] else [ascii "--no-thread-tuning"]) ++
    ((if cfg.enableCadenceFeedback then [ascii "--enable-cadence-feedback"] else []) ++
      if cfg.showHelp then [ascii "--help"] else [])

/-- The arguments behind the program. -/
def commandLine (cfg : HostRuntimeConfig) : List Arg :=
  ValueOption.size.key :: sizeValue cfg :: ValueOption.fps.key :: fpsValue cfg ::
    ValueOption.url.key :: cfg.startupUrl :: ValueOption.sessionId.key :: cfg.sessionId ::
      flagArgs cfg

/-- What is sanitized, has a URL, and can be passed as C strings. -/
structure Writable (cfg : HostRuntimeConfig) : Prop where
  sanitized : Sanitized cfg
  url_ne_nil : cfg.startupUrl ≠ []
  url_notMem : 0 ∉ cfg.startupUrl
  sessionId_notMem : 0 ∉ cfg.sessionId

/-- A flag that `old` has stays given. -/
def HostRuntimeConfig.withFlags (cfg old : HostRuntimeConfig) : HostRuntimeConfig :=
  { cfg with
    enableThreadTuning := old.enableThreadTuning && cfg.enableThreadTuning
    enableCadenceFeedback := old.enableCadenceFeedback || cfg.enableCadenceFeedback
    showHelp := old.showHelp || cfg.showHelp }

variable {cfg : HostRuntimeConfig}

/-! ### Reading a written value -/

theorem zero_notMem_print (n : ℕ) : 0 ∉ print n := by
  intro h
  have hzero : isDigit 0 := Strtol.isDigit_of_mem_print h
  exact absurd hzero (by decide)

theorem parseUInt_print {n : UInt32} (h : 0 < n) : parseUInt (print n.toNat) = some n := by
  have hne : n.toNat ≠ 0 := by
    have hpos : 0 < n.toNat := UInt32.lt_iff_toNat_lt.mp h
    omega
  rw [parseUInt_of_isDigit (Strtol.print_ne_nil hne) fun c hc => Strtol.isDigit_of_mem_print hc,
    Strtol.decimal_print, if_neg (by have := n.toNat_lt; omega), UInt32.ofNat_toNat]

theorem atLeastOne_of_pos {n : UInt32} (h : 0 < n) : atLeastOne n = n := by
  unfold atLeastOne
  split
  · rfl
  · grind

theorem clampFps_of_range {n : Int32} (hpos : 1 ≤ n) (hle : n ≤ 240) : clampFps n = n := by
  unfold clampFps
  split_ifs
  · grind
  · grind
  · rfl

theorem parseInt_print {n : Int32} (hpos : 1 ≤ n) (hle : n ≤ 240) :
    parseInt (print n.toInt.toNat) = some n := by
  have hone : 1 ≤ n.toInt := Int32.le_iff_toInt_le.mp hpos
  have htop : n.toInt ≤ 240 := Int32.le_iff_toInt_le.mp hle
  have hne : print n.toInt.toNat ≠ [] := Strtol.print_ne_nil (by omega)
  have hw := written_of_isDigit hne fun c hc => Strtol.isDigit_of_mem_print hc
  have hvalue : min (2 ^ (32 - 1) - 1) ((n.toInt.toNat : ℕ) : ℤ) = n.toInt := by omega
  rw [parseInt, if_neg (by simpa using hne), Strtol.strtol]
  dsimp only
  rw [stop_of_written hw, hw.scan_eq, Strtol.decimal_print, if_neg (by decide),
    if_neg Bool.false_ne_true, hvalue, Int32.ofInt_toInt]

/-- The first `x` is the one between the numbers. -/
theorem splitAtFirst_sizeValue (cfg : HostRuntimeConfig) :
    splitAtFirst HostRuntimeConfig.isTimes (sizeValue cfg)
      = some (print cfg.width.toNat, print cfg.height.toNat) := by
  refine splitAtFirst_append _ (fun c hc => ?_) rfl
  have hdigit : isDigit c := Strtol.isDigit_of_mem_print hc
  simp only [isDigit, Bool.and_eq_true, decide_eq_true_eq] at hdigit
  simp only [HostRuntimeConfig.isTimes, Bool.or_eq_false_iff, beq_eq_false_iff_ne]
  grind

theorem setSize_sizeValue (h : Sanitized cfg) (old : HostRuntimeConfig) :
    old.setSize (sizeValue cfg) = { old with width := cfg.width, height := cfg.height } := by
  rw [HostRuntimeConfig.setSize, splitAtFirst_sizeValue]
  dsimp only
  rw [parseUInt_print h.width, parseUInt_print h.height]
  dsimp only
  rw [atLeastOne_of_pos h.width, atLeastOne_of_pos h.height]

theorem setFps_fpsValue (h : Sanitized cfg) (old : HostRuntimeConfig) :
    old.setFps (fpsValue cfg) = { old with frameRate := cfg.frameRate } := by
  rw [HostRuntimeConfig.setFps, fpsValue, parseInt_print h.frameRate_pos h.frameRate_le]
  dsimp only
  rw [clampFps_of_range h.frameRate_pos h.frameRate_le]

/-! ### Reading it all -/

/-- A flag in front. -/
theorem readArgs_flag {arg : Arg} {old new : HostRuntimeConfig}
    (h : flagOption old arg = some new) (after : List Arg) :
    readArgs false old (arg :: after) = readArgs false new after := by
  rw [readArgs, if_neg Bool.false_ne_true, readArg, h]

theorem readArgs_flagArgs (old : HostRuntimeConfig) :
    readArgs false old (flagArgs cfg)
      = { old with
          enableThreadTuning := old.enableThreadTuning && cfg.enableThreadTuning
          enableCadenceFeedback := old.enableCadenceFeedback || cfg.enableCadenceFeedback
          showHelp := old.showHelp || cfg.showHelp } := by
  have htuning : ∀ old, flagOption old (ascii "--no-thread-tuning")
      = some { old with enableThreadTuning := false } := by
    intro old
    rw [flagOption, if_neg (by decide), if_pos rfl]
  have hcadence : ∀ old, flagOption old (ascii "--enable-cadence-feedback")
      = some { old with enableCadenceFeedback := true } := by
    intro old
    rw [flagOption, if_neg (by decide), if_neg (by decide), if_pos rfl]
  have hhelp : ∀ old, flagOption old (ascii "--help") = some { old with showHelp := true } := by
    intro old
    rw [flagOption, if_pos (Or.inr (Or.inl rfl))]
  rw [flagArgs]
  cases cfg.enableThreadTuning <;> cases cfg.enableCadenceFeedback <;> cases cfg.showHelp <;>
    simp [readArgs_flag (htuning _), readArgs_flag (hcadence _), readArgs_flag (hhelp _)]

/-- **Round trip.** The written form is read back, up to the flags given before. -/
theorem readArgs_commandLine (h : Writable cfg) (old : HostRuntimeConfig) :
    readArgs false old (commandLine cfg) = cfg.withFlags old := by
  have hurl : ∀ old : HostRuntimeConfig,
      old.setUrl cfg.startupUrl = { old with startupUrl := cfg.startupUrl } := by
    intro old
    rw [HostRuntimeConfig.setUrl, if_neg (by simpa using h.url_ne_nil)]
  rw [commandLine, readArgs_following, readArgs_following, readArgs_following, readArgs_following,
    readArgs_flagArgs]
  simp only [ValueOption.set, setSize_sizeValue h.sanitized, setFps_fpsValue h.sanitized, hurl,
    HostRuntimeConfig.setSessionId, HostRuntimeConfig.withFlags]

theorem commandLine_notMem (h : Writable cfg) : ∀ arg ∈ commandLine cfg, 0 ∉ arg := by
  have hflags : ∀ arg ∈ flagArgs cfg, 0 ∉ arg := by
    rw [flagArgs]
    cases cfg.enableThreadTuning <;> cases cfg.enableCadenceFeedback <;> cases cfg.showHelp <;>
      decide
  have hkey : ∀ o : ValueOption, 0 ∉ o.key := by
    intro o
    cases o <;> decide
  have hsize : 0 ∉ sizeValue cfg := by
    rw [sizeValue, List.mem_append, List.mem_cons]
    rintro (hmem | hmem | hmem)
    · exact zero_notMem_print _ hmem
    · exact absurd hmem (by decide)
    · exact zero_notMem_print _ hmem
  simp only [commandLine, List.forall_mem_cons]
  exact ⟨hkey _, hsize, hkey _, zero_notMem_print _, hkey _, h.url_notMem, hkey _,
    h.sessionId_notMem, hflags⟩

/-! ### What every command line gives -/

theorem writable_default : Writable {} :=
  ⟨⟨by decide, by decide, by decide, by decide⟩, by decide, by decide, by decide⟩

/-- An option that gets a C string. -/
theorem Writable.set (h : Writable cfg) (o : ValueOption) {v : Arg} (hv : 0 ∉ v) :
    Writable (o.set cfg v) := by
  have hsanitized : Sanitized (o.set cfg v) := h.sanitized.set o v
  have hkeep : ∀ new : HostRuntimeConfig, Sanitized new → new.startupUrl = cfg.startupUrl →
      new.sessionId = cfg.sessionId → Writable new := by
    intro new hnew hurl hsession
    exact ⟨hnew, hurl ▸ h.url_ne_nil, hurl ▸ h.url_notMem, hsession ▸ h.sessionId_notMem⟩
  match o with
  | .url =>
    simp only [ValueOption.set, HostRuntimeConfig.setUrl] at hsanitized ⊢
    split
    · exact h
    · next hne =>
      exact ⟨by simpa [hne] using hsanitized, by simpa using hne, hv, h.sessionId_notMem⟩
  | .sessionId => exact ⟨hsanitized, h.url_ne_nil, h.url_notMem, hv⟩
  | .width =>
    refine hkeep _ hsanitized ?_ ?_ <;>
      simp only [ValueOption.set, HostRuntimeConfig.setWidth] <;> split <;> rfl
  | .height =>
    refine hkeep _ hsanitized ?_ ?_ <;>
      simp only [ValueOption.set, HostRuntimeConfig.setHeight] <;> split <;> rfl
  | .fps =>
    refine hkeep _ hsanitized ?_ ?_ <;>
      simp only [ValueOption.set, HostRuntimeConfig.setFps] <;> split <;> rfl
  | .size =>
    refine hkeep _ hsanitized ?_ ?_ <;>
      simp only [ValueOption.set, HostRuntimeConfig.setSize] <;> split <;> try split
    all_goals rfl

/-- The value of an argument is a part of it. -/
theorem mem_of_mem_keyValue {arg : Arg} {c : UInt8} (h : c ∈ (keyValue arg).2) : c ∈ arg := by
  rw [keyValue, splitAtFirst] at h
  split at h
  · exact absurd h (List.not_mem_nil)
  · next rest heq =>
    have hsuffix : List.dropWhile (fun c => !c == 61) arg <:+ arg := List.dropWhile_suffix _
    exact hsuffix.mem (heq ▸ List.mem_cons_of_mem _ h)

theorem takeNext_notMem {arg : Arg} {next : Option Arg} {t : Arg × Bool} (harg : 0 ∉ arg)
    (hnext : ∀ n ∈ next, 0 ∉ n) (h : takeNext (keyValue arg).2 next = some t) : 0 ∉ t.1 := by
  rw [takeNext] at h
  split at h
  · obtain ⟨n, hn, rfl⟩ := Option.map_eq_some_iff.mp h
    exact hnext n hn
  · cases h
    exact fun hmem => harg (mem_of_mem_keyValue hmem)

/-- A flag sets no more than the three switches. -/
theorem flagOption_getD (cfg : HostRuntimeConfig) (arg : Arg) :
    ∃ tuning cadence help, (flagOption cfg arg).getD cfg = { cfg with
      enableThreadTuning := tuning
      enableCadenceFeedback := cadence
      showHelp := help } := by
  rw [flagOption]
  by_cases hhelp : arg = ascii "-h" ∨ arg = ascii "--help" ∨ arg = ascii "/?"
  · rw [if_pos hhelp]
    exact ⟨_, _, true, rfl⟩
  · rw [if_neg hhelp]
    by_cases htuning : arg = ascii "--no-thread-tuning"
    · rw [if_pos htuning]
      exact ⟨false, _, _, rfl⟩
    · rw [if_neg htuning]
      by_cases hcadence : arg = ascii "--enable-cadence-feedback"
      · rw [if_pos hcadence]
        exact ⟨_, true, _, rfl⟩
      · rw [if_neg hcadence]
        exact ⟨_, _, _, rfl⟩

theorem Writable.visit (h : Writable cfg) {p : Arg × Option Arg} (harg : 0 ∉ p.1)
    (hnext : ∀ n ∈ p.2, 0 ∉ n) : Writable (visit cfg p) := by
  have hsanitized : Sanitized (CefHost.visit cfg p) := h.sanitized.visit p
  cases hopt : optionOf p.1 with
  | none =>
    rw [CefHost.visit, readArg_of_optionOf_none hopt] at hsanitized ⊢
    obtain ⟨tuning, cadence, help, heq⟩ := flagOption_getD cfg p.1
    rw [heq] at hsanitized ⊢
    exact ⟨hsanitized, h.url_ne_nil, h.url_notMem, h.sessionId_notMem⟩
  | some o =>
    rw [CefHost.visit, readArg_of_optionOf_some hopt]
    cases htake : takeNext (keyValue p.1).2 p.2 with
    | none => exact h
    | some t => exact h.set o (takeNext_notMem harg hnext htake)

/-- What the loop looks at are arguments. -/
theorem mem_of_mem_visited {skip : Bool} {args : List Arg} {p : Arg × Option Arg}
    (h : p ∈ visited skip args) : p.1 ∈ args ∧ ∀ n ∈ p.2, n ∈ args := by
  induction args generalizing skip with
  | nil => cases h
  | cons arg rest ih =>
    have hrest : ∀ {skip : Bool}, p ∈ visited skip rest →
        p.1 ∈ arg :: rest ∧ ∀ n ∈ p.2, n ∈ arg :: rest := by
      intro skip hp
      obtain ⟨hfirst, hnext⟩ := ih hp
      exact ⟨List.mem_cons_of_mem _ hfirst, fun n hn => List.mem_cons_of_mem _ (hnext n hn)⟩
    rw [visited] at h
    split at h
    · exact hrest h
    · rcases List.mem_cons.mp h with rfl | h
      · exact ⟨List.mem_cons_self, fun n hn => List.mem_cons_of_mem _ (List.mem_of_mem_head? hn)⟩
      · exact hrest h

theorem writable_fromArgs {argv : List Arg} (h : ∀ arg ∈ argv, 0 ∉ arg) :
    Writable (fromArgs argv) := by
  rw [fromArgs_eq_foldl]
  refine Runs.invariant_of_along (I := Writable)
    (G := fun _ p => 0 ∉ p.1 ∧ ∀ n ∈ p.2, 0 ∉ n) (fun _ p hcfg hp => hcfg.visit hp.1 hp.2)
    writable_default (Runs.along_of_forall_mem fun p hp => ?_)
  obtain ⟨hfirst, hnext⟩ := mem_of_mem_visited hp
  exact ⟨h _ (List.mem_of_mem_tail hfirst), fun n hn => h n (List.mem_of_mem_tail (hnext n hn))⟩

/-- **The range of the command line.** A configuration is the reading of some command line exactly
when its size is positive, its frame rate lies between 1 and 240, its URL is not empty, and neither
string has a zero byte. Written out, it is read back as it was, behind whatever other options, of
which only the flags stay. -/
theorem command_line_range (cfg : HostRuntimeConfig) :
    ((∃ argv, (∀ arg ∈ argv, 0 ∉ arg) ∧ fromArgs argv = cfg) ↔ Writable cfg) ∧
      (Writable cfg → ∀ program before, pending false before = false →
        fromArgs (program :: (before ++ commandLine cfg))
          = cfg.withFlags (fromArgs (program :: before))) := by
  have hread : Writable cfg → ∀ program before, pending false before = false →
      fromArgs (program :: (before ++ commandLine cfg))
        = cfg.withFlags (fromArgs (program :: before)) := by
    intro h program before hbefore
    rw [fromArgs, List.tail_cons, readArgs_append hbefore, readArgs_commandLine h]
    rfl
  refine ⟨⟨?_, fun h => ⟨[] :: commandLine cfg, ?_, ?_⟩⟩, hread⟩
  · rintro ⟨argv, hargv, rfl⟩
    exact writable_fromArgs hargv
  · rw [List.forall_mem_cons]
    exact ⟨List.not_mem_nil, commandLine_notMem h⟩
  · have hplain := hread h [] [] rfl
    rw [List.nil_append] at hplain
    rw [hplain, HostRuntimeConfig.withFlags]
    rfl

end CefHost
