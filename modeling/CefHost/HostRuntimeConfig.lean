import CefHost.Library.Runs
import CefHost.Library.Strtol

/-!
# The command line

`HostRuntimeConfig::FromArgs`: the options of the host, in the two forms `--key=value` and
`--key value`.

## Representation

An argument is the list of its bytes. The loop over `argv` is a recursion over the list of
arguments; where the source advances its index inside `takeNext`, the recursion passes on a flag
that makes it skip the argument that was taken. `unsigned long` and `long` have 32 bits, as on
Windows. An argument the system passes is never null, and its bytes never zero.

## Main definitions

* `parseUInt`, `parseInt` — a number, as the C library reads it
* `readArg` — one pass through the loop
* `fromArgs` — the whole command line

## Main results

* `fromArgs_eq_foldl` — the loop as a fold over the arguments it looks at
* `fromArgs_sanitized` — sizes and frame rate are in range, whatever the arguments
* `readArgs_append` — the loop over two lists in a row
-/

namespace CefHost

abbrev Arg := List UInt8

/-- The bytes of an ASCII string. -/
def ascii (s : String) : Arg := s.toList.map fun c => UInt8.ofNat c.toNat

/-- The fields with the defaults of the header. -/
structure HostRuntimeConfig where
  width : UInt32 := 1920
  height : UInt32 := 1080
  frameRate : Int32 := 60
  startupUrl : Arg := ascii "https://google.com/"
  sessionId : Arg := []
  enableThreadTuning : Bool := true
  enableCadenceFeedback : Bool := false
  showHelp : Bool := false
deriving DecidableEq

/-! ### Numbers

`*end` behind the last byte is the terminating zero of `c_str()`. -/

def parseUInt (s : Arg) : Option UInt32 :=
  if s.isEmpty then none
  else if (Strtol.strtoul 32 s).2.headD 0 ≠ 0 then none
  else some (UInt32.ofNat (Strtol.strtoul 32 s).1)

def parseInt (s : Arg) : Option Int32 :=
  if s.isEmpty then none
  else if (Strtol.strtol 32 s).2.headD 0 ≠ 0 then none
  else some (Int32.ofInt (Strtol.strtol 32 s).1)

/-- What stands in front of the first byte that meets `p`, and behind it. -/
def splitAtFirst (p : UInt8 → Bool) (s : Arg) : Option (Arg × Arg) :=
  match s.dropWhile fun c => !p c with
  | [] => none
  | _ :: rest => some (s.takeWhile fun c => !p c, rest)

/-! ### The options -/

/-- `std::max<uint32_t>(1, n)`. -/
def atLeastOne (n : UInt32) : UInt32 := if 1 < n then n else 1

/-- `std::clamp(n, 1, 240)`. -/
def clampFps (n : Int32) : Int32 := if n < 1 then 1 else if 240 < n then 240 else n

namespace HostRuntimeConfig

variable (cfg : HostRuntimeConfig) (v : Arg)

def setUrl : HostRuntimeConfig := if v.isEmpty then cfg else { cfg with startupUrl := v }

def setSessionId : HostRuntimeConfig := { cfg with sessionId := v }

def setWidth : HostRuntimeConfig :=
  match parseUInt v with
  | some n => { cfg with width := atLeastOne n }
  | none => cfg

def setHeight : HostRuntimeConfig :=
  match parseUInt v with
  | some n => { cfg with height := atLeastOne n }
  | none => cfg

def setFps : HostRuntimeConfig :=
  match parseInt v with
  | some n => { cfg with frameRate := clampFps n }
  | none => cfg

/-- Whether a byte is `x` or `X`. -/
def isTimes (c : UInt8) : Bool := c == 120 || c == 88

def setSize : HostRuntimeConfig :=
  match splitAtFirst isTimes v with
  | none => cfg
  | some (w, h) =>
    match parseUInt w, parseUInt h with
    | some w, some h => { cfg with width := atLeastOne w, height := atLeastOne h }
    | _, _ => cfg

end HostRuntimeConfig

/-- The options that take a value. -/
inductive ValueOption
  | url
  | sessionId
  | width
  | height
  | fps
  | size
deriving DecidableEq

namespace ValueOption

def key : ValueOption → Arg
  | url => ascii "--url"
  | sessionId => ascii "--session-id"
  | width => ascii "--width"
  | height => ascii "--height"
  | fps => ascii "--fps"
  | size => ascii "--size"

/-- The comparisons of `key`, in the order of the source. -/
def ofKey (key : Arg) : Option ValueOption :=
  [url, sessionId, width, height, fps, size].find? fun o => key == o.key

/-- What the option does with its value. -/
def set (cfg : HostRuntimeConfig) (v : Arg) : ValueOption → HostRuntimeConfig
  | url => cfg.setUrl v
  | sessionId => cfg.setSessionId v
  | width => cfg.setWidth v
  | height => cfg.setHeight v
  | fps => cfg.setFps v
  | size => cfg.setSize v

theorem ofKey_key (o : ValueOption) : ofKey o.key = some o := by
  cases o <;> decide

end ValueOption

/-- The options without a value, which are looked for first. -/
def flagOption (cfg : HostRuntimeConfig) (arg : Arg) : Option HostRuntimeConfig :=
  if arg = ascii "-h" ∨ arg = ascii "--help" ∨ arg = ascii "/?" then
    some { cfg with showHelp := true }
  else if arg = ascii "--no-thread-tuning" then some { cfg with enableThreadTuning := false }
  else if arg = ascii "--enable-cadence-feedback" then
    some { cfg with enableCadenceFeedback := true }
  else none

/-- `key` and `value` of an argument, split at the first `=`. -/
def keyValue (arg : Arg) : Arg × Arg := (splitAtFirst (· == 61) arg).getD (arg, [])

/-- The value of an option and whether it was the next argument. -/
def takeNext (value : Arg) (next : Option Arg) : Option (Arg × Bool) :=
  if value.isEmpty then next.map fun v => (v, true) else some (value, false)

/-- One pass through the loop: the configuration, and whether the next argument was taken. -/
def readArg (cfg : HostRuntimeConfig) (arg : Arg) (next : Option Arg) :
    HostRuntimeConfig × Bool :=
  match flagOption cfg arg with
  | some cfg => (cfg, false)
  | none =>
    match ValueOption.ofKey (keyValue arg).1 with
    | none => (cfg, false)
    | some o =>
      match takeNext (keyValue arg).2 next with
      | none => (cfg, false)
      | some (v, moved) => (o.set cfg v, moved)

/-- The loop. With `skip`, its index has already moved past the first argument. -/
def readArgs (skip : Bool) (cfg : HostRuntimeConfig) : List Arg → HostRuntimeConfig
  | [] => cfg
  | arg :: rest =>
    if skip then readArgs false cfg rest
    else readArgs (readArg cfg arg rest.head?).2 (readArg cfg arg rest.head?).1 rest

/-- `argv[0]` is the program. -/
def fromArgs (argv : List Arg) : HostRuntimeConfig := readArgs false {} argv.tail

/-! ### The arguments at which an option may begin -/

/-- The option of an argument, unless it is one without a value. -/
def optionOf (arg : Arg) : Option ValueOption :=
  if (flagOption {} arg).isSome then none else ValueOption.ofKey (keyValue arg).1

/-- Whether an argument takes the next one, if there is one. -/
def wantsNext (arg : Arg) : Bool := (optionOf arg).isSome && (keyValue arg).2.isEmpty

theorem flagOption_isSome (cfg : HostRuntimeConfig) (arg : Arg) :
    (flagOption cfg arg).isSome = (flagOption {} arg).isSome := by
  unfold flagOption
  split_ifs <;> rfl

/-- An argument that is no value option is a flag or is ignored, and takes nothing. -/
theorem readArg_of_optionOf_none {arg : Arg} (h : optionOf arg = none) (cfg : HostRuntimeConfig)
    (next : Option Arg) : readArg cfg arg next = ((flagOption cfg arg).getD cfg, false) := by
  cases hflag : flagOption cfg arg with
  | some c => simp [readArg, hflag]
  | none =>
    have hnone : (flagOption {} arg).isSome = false := by
      rw [← flagOption_isSome cfg, hflag]
      rfl
    simp only [optionOf, hnone, Bool.false_eq_true, if_false] at h
    simp [readArg, hflag, h]

/-- A value option sets what `takeNext` gives it. -/
theorem readArg_of_optionOf_some {arg : Arg} {o : ValueOption} (h : optionOf arg = some o)
    (cfg : HostRuntimeConfig) (next : Option Arg) :
    readArg cfg arg next
      = ((takeNext (keyValue arg).2 next).map fun p => (o.set cfg p.1, p.2)).getD (cfg, false) := by
  have hnone : (flagOption {} arg).isSome = false := by
    by_contra hsome
    simp [optionOf, hsome] at h
  simp only [optionOf, hnone, Bool.false_eq_true, if_false] at h
  have hflag : flagOption cfg arg = none := by
    rw [← Option.not_isSome_iff_eq_none, flagOption_isSome, hnone]
    simp
  cases htake : takeNext (keyValue arg).2 next with
  | none => simp [readArg, hflag, h, htake]
  | some p => simp [readArg, hflag, h, htake]

/-- Whether the next argument is taken does not depend on the configuration. -/
theorem readArg_moved (cfg : HostRuntimeConfig) (arg : Arg) (next : Option Arg) :
    (readArg cfg arg next).2 = (wantsNext arg && next.isSome) := by
  cases hopt : optionOf arg with
  | none => simp [readArg_of_optionOf_none hopt, wantsNext, hopt]
  | some o =>
    rw [readArg_of_optionOf_some hopt]
    by_cases hv : (keyValue arg).2 = []
    · cases next <;> simp [takeNext, wantsNext, hopt, hv]
    · simp [takeNext, wantsNext, hopt, hv]

/-- Whether the argument behind a list is taken by the last option in it. -/
def pending (skip : Bool) : List Arg → Bool
  | [] => skip
  | arg :: rest => if skip then pending false rest else pending (wantsNext arg) rest

/-- The arguments the loop looks at, each with the one behind it. -/
def visited (skip : Bool) : List Arg → List (Arg × Option Arg)
  | [] => []
  | arg :: rest =>
    if skip then visited false rest
    else (arg, rest.head?) :: visited (wantsNext arg) rest

/-- The configuration after one argument the loop looks at. -/
def visit (cfg : HostRuntimeConfig) (p : Arg × Option Arg) : HostRuntimeConfig :=
  (readArg cfg p.1 p.2).1

@[simp] theorem readArgs_nil (skip : Bool) (cfg : HostRuntimeConfig) :
    readArgs skip cfg [] = cfg := rfl

/-- At the end of the list, nothing is left to be taken. -/
theorem readArgs_cons (cfg : HostRuntimeConfig) (arg : Arg) (rest : List Arg) :
    readArgs false cfg (arg :: rest)
      = readArgs (wantsNext arg) (visit cfg (arg, rest.head?)) rest := by
  rw [readArgs, if_neg Bool.false_ne_true, readArg_moved]
  cases rest with
  | nil => rw [readArgs_nil, readArgs_nil, visit]
  | cons next rest => simp [visit]

/-- **The loop is a fold** over the arguments it looks at. -/
theorem readArgs_eq_foldl (skip : Bool) (cfg : HostRuntimeConfig) (args : List Arg) :
    readArgs skip cfg args = (visited skip args).foldl visit cfg := by
  induction args generalizing skip cfg with
  | nil => rfl
  | cons arg rest ih =>
    by_cases hskip : skip = true
    · subst hskip
      exact ih false cfg
    · obtain rfl : skip = false := by simpa using hskip
      rw [readArgs_cons, ih]
      rfl

theorem fromArgs_eq_foldl (argv : List Arg) :
    fromArgs argv = (visited false argv.tail).foldl visit {} := readArgs_eq_foldl _ _ _

/-! ### Sanitized values -/

/-- What the options see to: a size of at least one pixel each way, and a frame rate from 1 to
240. -/
structure Sanitized (cfg : HostRuntimeConfig) : Prop where
  width : 0 < cfg.width
  height : 0 < cfg.height
  frameRate_pos : 1 ≤ cfg.frameRate
  frameRate_le : cfg.frameRate ≤ 240

theorem atLeastOne_pos (n : UInt32) : 0 < atLeastOne n := by
  unfold atLeastOne
  split
  · grind
  · decide

theorem clampFps_range (n : Int32) : 1 ≤ clampFps n ∧ clampFps n ≤ 240 := by
  unfold clampFps
  split_ifs
  · decide
  · decide
  · grind

theorem Sanitized.set {cfg : HostRuntimeConfig} (h : Sanitized cfg) (o : ValueOption) (v : Arg) :
    Sanitized (o.set cfg v) := by
  cases o with
  | sessionId => exact ⟨h.width, h.height, h.frameRate_pos, h.frameRate_le⟩
  | url =>
    simp only [ValueOption.set, HostRuntimeConfig.setUrl]
    split
    · exact h
    · exact ⟨h.width, h.height, h.frameRate_pos, h.frameRate_le⟩
  | width =>
    simp only [ValueOption.set, HostRuntimeConfig.setWidth]
    split
    · exact ⟨atLeastOne_pos _, h.height, h.frameRate_pos, h.frameRate_le⟩
    · exact h
  | height =>
    simp only [ValueOption.set, HostRuntimeConfig.setHeight]
    split
    · exact ⟨h.width, atLeastOne_pos _, h.frameRate_pos, h.frameRate_le⟩
    · exact h
  | fps =>
    simp only [ValueOption.set, HostRuntimeConfig.setFps]
    split
    · exact ⟨h.width, h.height, (clampFps_range _).1, (clampFps_range _).2⟩
    · exact h
  | size =>
    simp only [ValueOption.set, HostRuntimeConfig.setSize]
    split
    · exact h
    · split
      · exact ⟨atLeastOne_pos _, atLeastOne_pos _, h.frameRate_pos, h.frameRate_le⟩
      · exact h

theorem Sanitized.visit {cfg : HostRuntimeConfig} (h : Sanitized cfg) (p : Arg × Option Arg) :
    Sanitized (visit cfg p) := by
  cases hopt : optionOf p.1 with
  | none =>
    rw [CefHost.visit, readArg_of_optionOf_none hopt]
    unfold flagOption
    split_ifs <;> exact ⟨h.width, h.height, h.frameRate_pos, h.frameRate_le⟩
  | some o =>
    rw [CefHost.visit, readArg_of_optionOf_some hopt]
    cases takeNext (keyValue p.1).2 p.2 with
    | none => exact h
    | some t => exact h.set o t.1

/-- **Every command line is sanitized.** -/
theorem fromArgs_sanitized (argv : List Arg) : Sanitized (fromArgs argv) := by
  rw [fromArgs_eq_foldl]
  exact Runs.invariant (fun cfg p h => h.visit p) ⟨by decide, by decide, by decide, by decide⟩ _

/-! ### Two lists in a row -/

/-- An argument that does not want the next one does not depend on it. -/
theorem visit_congr {arg : Arg} (h : wantsNext arg = false) (cfg : HostRuntimeConfig)
    (next next' : Option Arg) : visit cfg (arg, next) = visit cfg (arg, next') := by
  cases hopt : optionOf arg with
  | none => simp [visit, readArg_of_optionOf_none hopt]
  | some o =>
    have hv : (keyValue arg).2 ≠ [] := by simpa [wantsNext, hopt] using h
    simp [visit, readArg_of_optionOf_some hopt, takeNext, hv]

/-- **Two lists in a row.** If the first leaves no option waiting for a value, the loop goes
through the second from where the first ends. -/
theorem readArgs_append {skip : Bool} {before : List Arg} (h : pending skip before = false)
    (cfg : HostRuntimeConfig) (after : List Arg) :
    readArgs skip cfg (before ++ after) = readArgs false (readArgs skip cfg before) after := by
  induction before generalizing skip cfg with
  | nil =>
    obtain rfl : skip = false := h
    rfl
  | cons arg rest ih =>
    by_cases hskip : skip = true
    · subst hskip
      exact ih h cfg
    · obtain rfl : skip = false := by simpa using hskip
      rw [List.cons_append, readArgs_cons, readArgs_cons, ← ih h]
      cases rest with
      | nil => rw [visit_congr h cfg _ none]; rfl
      | cons next rest => rfl

end CefHost
