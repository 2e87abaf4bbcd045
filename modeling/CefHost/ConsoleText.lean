import CefHost.ConsoleQueue
import CefHost.FileUrl
import CefHost.Library.Utf16
import Mathlib.Data.List.OfFn

/-!
# Console text

`OnConsoleMessage` copies the source and the message of a console message into arrays of fixed
size, of UTF-16 units. `CopyCefStringToUtf16Array` keeps as many units as fit in front of one
terminating zero. It counts units, not characters, so a surrogate pair that lies across the end is
cut in two.

## Main definitions

* `copyCefStringToUtf16Array` — the copy
* `onConsoleMessage` — the callback
* `CutsPair` — the unit at the end of what is kept is a high surrogate, and something is dropped

## Main results

* `ofFn_copyCefStringToUtf16Array` — what the array holds
* `console_text_iff` — the text decodes unless a pair is cut
-/

namespace CefHost

open Utf16

/-- `cef_log_severity_t`. -/
inductive CefLogSeverity
  | default
  | verbose
  | info
  | warning
  | error
  | fatal
  | disable
deriving DecidableEq

def CefLogSeverity.value : CefLogSeverity → ℕ
  | default => 0
  | verbose => 1
  | info => 2
  | warning => 3
  | error => 4
  | fatal => 5
  | disable => 99

/-- The number of units that are kept, for an array of `n`. -/
def copyCount (n : ℕ) (value : U16String) : ℕ :=
  if value.length < n - 1 then value.length else n - 1

def copyCefStringToUtf16Array (n : ℕ) (value : U16String) : Fin n → UInt16 :=
  fun i => if i.val < copyCount n value then value.getD i.val 0 else 0

/-- The event of a console message. -/
def consoleLogEvent (level : CefLogSeverity) (message source : U16String) (line : Int32) :
    ConsoleLogEvent where
  level :=
    if CefLogSeverity.error.value ≤ level.value then .error
    else if level = .warning then .warning
    else .log
  line := line
  source := copyCefStringToUtf16Array consoleSourceMax source
  message := copyCefStringToUtf16Array consoleMessageMax message

/-- `OnConsoleMessage`: the ring afterwards, and the result. -/
def onConsoleMessage (b : RingBuffer consoleRing ConsoleLogEvent) (level : CefLogSeverity)
    (message source : U16String) (line : Int32) : RingBuffer consoleRing ConsoleLogEvent × Bool :=
  (b.writeEvent (consoleLogEvent level message source line), false)

/-- Text is dropped, and the last unit that is kept is a high surrogate. -/
def CutsPair (n : ℕ) (value : U16String) : Prop :=
  2 ≤ n ∧ n ≤ value.length ∧ ∃ u, value[n - 2]? = some u ∧ isHigh u = true

/-! ### What the array holds -/

theorem copyCount_eq_min (n : ℕ) (value : U16String) :
    copyCount n value = min value.length (n - 1) := by
  rw [copyCount]
  split <;> omega

/-- **The array** is the text that is kept, and zeros from there to the end. -/
theorem ofFn_copyCefStringToUtf16Array (n : ℕ) (value : U16String) :
    List.ofFn (copyCefStringToUtf16Array n value)
      = value.take (copyCount n value) ++ List.replicate (n - copyCount n value) 0 := by
  have hcount := copyCount_eq_min n value
  refine List.ext_getElem ?_ fun i hi _ => ?_
  · simp only [List.length_ofFn, List.length_append, List.length_take, List.length_replicate]
    omega
  · rw [List.getElem_ofFn]
    change (if i < copyCount n value then value.getD i 0 else 0) = _
    by_cases hlt : i < copyCount n value
    · rw [if_pos hlt, List.getElem_append_left (by rw [List.length_take]; omega),
        List.getElem_take, List.getD_eq_getElem?_getD, List.getElem?_eq_getElem (by omega)]
      rfl
    · rw [if_neg hlt, List.getElem_append_right (by rw [List.length_take]; omega),
        List.getElem_replicate]

/-- What the copy is meant to leave: a part of the text from its start, zeros from there on and
at least one, the whole text if it fits, and no character cut. -/
structure KeepsText (n : ℕ) (value : U16String) : Prop where
  array : List.ofFn (copyCefStringToUtf16Array n value)
    = value.take (copyCount n value) ++ List.replicate (n - copyCount n value) 0
  terminated : copyCount n value < n
  whole : value.length ≤ n - 1 → value.take (copyCount n value) = value
  wellFormed : WellFormed (value.take (copyCount n value))

/-- The text that is kept is well-formed unless it ends inside a pair. -/
theorem wellFormed_kept_iff {n : ℕ} {value : U16String} (hn : 1 ≤ n) (hvalue : WellFormed value) :
    WellFormed (value.take (copyCount n value)) ↔ ¬ CutsPair n value := by
  rw [copyCount_eq_min]
  rcases Nat.lt_or_ge value.length n with hfits | hlong
  · rw [List.take_of_length_le (by omega)]
    exact iff_of_true hvalue fun hcut => by have := hcut.2.1; omega
  · rw [Nat.min_eq_right (by omega), wellFormed_take_iff hvalue]
    match n with
    | 1 => exact iff_of_true (by simp) fun hcut => by have := hcut.1; omega
    | n + 2 =>
      have hlast : (value.take (n + 1)).getLast? = value[n]? := by
        rw [List.getLast?_take, if_neg (by omega), Nat.add_sub_cancel,
          List.getElem?_eq_getElem (by omega)]
        rfl
      change (∀ u, (value.take (n + 1)).getLast? = some u → isHigh u = false) ↔ _
      rw [hlast]
      constructor
      · rintro hall ⟨-, -, u, hu, hhigh⟩
        rw [hall u hu] at hhigh
        cases hhigh
      · intro hcut u hu
        rw [← Bool.not_eq_true]
        exact fun hhigh => hcut ⟨by omega, hlong, u, hu, hhigh⟩

theorem keepsText_iff {n : ℕ} {value : U16String} (hn : 1 ≤ n) (hvalue : WellFormed value) :
    KeepsText n value ↔ ¬ CutsPair n value := by
  rw [← wellFormed_kept_iff hn hvalue]
  have hcount := copyCount_eq_min n value
  refine ⟨fun h => h.wellFormed, fun h => ⟨ofFn_copyCefStringToUtf16Array n value, ?_, ?_, h⟩⟩
  · omega
  · exact fun hfits => List.take_of_length_le (by omega)

/-- The whole array, its zeros included, decodes exactly if the text that is kept does. -/
theorem wellFormed_array_iff {n : ℕ} {value : U16String} (hn : 1 ≤ n)
    (hvalue : WellFormed value) :
    WellFormed (List.ofFn (copyCefStringToUtf16Array n value)) ↔ ¬ CutsPair n value := by
  have hzeros : ∀ k, WellFormed (List.replicate k 0) := by
    intro k
    induction k with
    | zero => exact wellFormed_nil
    | succ k ih => exact (wellFormed_cons rfl rfl _).mpr ih
  have hcount := copyCount_eq_min n value
  obtain ⟨k, hk⟩ : ∃ k, n - copyCount n value = k + 1 :=
    Nat.exists_eq_add_one_of_ne_zero (by omega)
  rw [← wellFormed_kept_iff hn hvalue, ofFn_copyCefStringToUtf16Array, hk, List.replicate_succ]
  constructor
  · exact WellFormed.of_append rfl
  · exact fun h => (wellFormed_append_iff h _).mpr (hzeros (k + 1))

/-- The event is where the index pointed. -/
theorem onConsoleMessage_events (b : RingBuffer consoleRing ConsoleLogEvent)
    (level : CefLogSeverity) (message source : U16String) (line : Int32) :
    (onConsoleMessage b level message source line).1.events (consoleRing.slot b.writeIndex)
      = consoleLogEvent level message source line := by
  simp only [onConsoleMessage, RingBuffer.writeEvent]
  split <;> exact Function.update_self ..

/-- The message of an event decodes unless it is cut inside a pair. -/
theorem event_wellFormed_iff (b : RingBuffer consoleRing ConsoleLogEvent) (level : CefLogSeverity)
    {message : U16String} (source : U16String) (line : Int32) (hmessage : WellFormed message) :
    WellFormed (List.ofFn ((onConsoleMessage b level message source line).1.events
      (consoleRing.slot b.writeIndex)).message) ↔ ¬ CutsPair consoleMessageMax message := by
  rw [onConsoleMessage_events]
  exact wellFormed_array_iff (by decide) hmessage

/-- **When console text stays text.** The copy of a well-formed string keeps a well-formed part of
it, followed by zeros, if and only if it cuts no pair; and the two texts of an event decode if and
only if neither is cut so. -/
theorem console_text_iff (n : ℕ) (hn : 1 ≤ n) (value : U16String) (hvalue : WellFormed value)
    (b : RingBuffer consoleRing ConsoleLogEvent) (level : CefLogSeverity)
    (message source : U16String) (line : Int32) (hmessage : WellFormed message)
    (hsource : WellFormed source) :
    (KeepsText n value ↔ ¬ CutsPair n value) ∧
      let evt := (onConsoleMessage b level message source line).1.events
        (consoleRing.slot b.writeIndex)
      (WellFormed (List.ofFn evt.source) ∧ WellFormed (List.ofFn evt.message)) ↔
        ¬ CutsPair consoleSourceMax source ∧ ¬ CutsPair consoleMessageMax message := by
  refine ⟨keepsText_iff hn hvalue, ?_⟩
  rw [onConsoleMessage_events]
  exact and_congr (wellFormed_array_iff (by decide) hsource)
    (wellFormed_array_iff (by decide) hmessage)

/-- A ring as `Init` leaves it. -/
def emptyConsole : RingBuffer consoleRing ConsoleLogEvent := .init fun _ => lineEvent 0

theorem console_text_iff_short :
    1 ≤ 3 ∧ WellFormed (u16 "load") ∧ WellFormed (u16 "a.js") ∧
      (KeepsText 3 (u16 "load") ↔ ¬ CutsPair 3 (u16 "load")) ∧
      let evt := (onConsoleMessage emptyConsole .warning (u16 "load") (u16 "a.js") 7).1.events
        (consoleRing.slot emptyConsole.writeIndex)
      (WellFormed (List.ofFn evt.source) ∧ WellFormed (List.ofFn evt.message)) ↔
        ¬ CutsPair consoleSourceMax (u16 "a.js") ∧ ¬ CutsPair consoleMessageMax (u16 "load") :=
  ⟨by decide, by decide, by decide, console_text_iff 3 (by decide) (u16 "load") (by decide)
    emptyConsole .warning (u16 "load") (u16 "a.js") 7 (by decide) (by decide)⟩

/-- A message of 1022 letters and a character outside the basic plane. -/
def longMessage : U16String := List.replicate 1022 97 ++ [0xD83D, 0xDE00]

/-- **A message cut in the middle of a character**: the event ends in half a pair. -/
theorem console_text_cut :
    WellFormed longMessage ∧ ¬ KeepsText consoleMessageMax longMessage ∧
      let evt := (onConsoleMessage emptyConsole .error longMessage (u16 "a.js") 7).1.events
        (consoleRing.slot emptyConsole.writeIndex)
      ¬ WellFormed (List.ofFn evt.message) := by
  have hwell : WellFormed longMessage := by decide +kernel
  have hcut : CutsPair consoleMessageMax longMessage :=
    ⟨by decide, by decide +kernel, 0xD83D, by decide +kernel, by decide⟩
  exact ⟨hwell, fun hkeeps => (keepsText_iff (by decide) hwell).mp hkeeps hcut,
    fun hmessage => (event_wellFormed_iff _ _ _ _ hwell).mp hmessage hcut⟩

end CefHost
