import CefHost.FileUrl
import CefHost.Library.Terminated
import CefHost.SharedMemoryLayout

/-!
# The strings of control events

Four commands carry a string, in an array of `CONTROL_STRING_MAX` units. The event is copied off
the ring whole, and the array handed to `CefString(const char16_t*)`, which looks for a zero unit
from the array's start. The consumer may use up to `CONTROL_STRING_MAX` units. If it uses them all
there is no zero, and the scan goes on in what lies behind the copy on the control thread's stack.

## Representation

`beyond` is the memory behind the array, up to the first address that cannot be read; nothing is
assumed about it. A scan that gets there does not return. The escaping of `CefURIEncode` is a
parameter, since CEF's library is not part of the repository.

## Main definitions

* `handleControlString` — the branches of `HandleControlEvent` for the four commands
* `StringInBounds` — the call gets the string of the array, and nothing else is read

## Main results

* `control_string_in_bounds_iff` — that is so exactly when the array has a zero unit
-/

namespace CefHost

/-- The commands with a string. -/
inductive StringCommand
  | setURL
  | openLocalFile
  | loadHtmlString
  | executeJS
deriving DecidableEq

def StringCommand.event (text : ControlText) : StringCommand → ControlEvent
  | setURL => .setURL text
  | openLocalFile => .openLocalFile text
  | loadHtmlString => .loadHtmlString text
  | executeJS => .executeJS text

/-- A call of the main frame. -/
inductive FrameCall
  | loadURL (url : U16String)
  | executeJavaScript (code : U16String)
deriving DecidableEq

/-- What a command does with its string. -/
def StringCommand.call (cefURIEncode : U16String → U16String) (s : U16String) :
    StringCommand → FrameCall
  | setURL => .loadURL s
  | openLocalFile => .loadURL (makeFileUrlFromPath s)
  | loadHtmlString => .loadURL (u16 "data:text/html;charset=utf-8," ++ cefURIEncode s)
  | executeJS => .executeJavaScript s

/-- `CefString(text)` of the copied array, in front of `beyond`. -/
def cefString (text : ControlText) (beyond : U16String) : Terminated.Scan UInt16 :=
  Terminated.scan 0 (List.ofFn text ++ beyond)

/-- The call that is made, unless the scan fails, and how many units the scan loads. -/
structure StringEffect where
  call : Option FrameCall
  loads : ℕ
deriving DecidableEq

/-- One of the four commands. -/
def passString (cefURIEncode : U16String → U16String) (beyond : U16String) (c : StringCommand)
    (text : ControlText) : StringEffect where
  call := (cefString text beyond).found.map fun s => c.call cefURIEncode s
  loads := (cefString text beyond).loads

/-- `HandleControlEvent`, as far as strings are concerned. -/
def handleControlString (cefURIEncode : U16String → U16String) (beyond : U16String) :
    ControlEvent → Option StringEffect
  | .setURL text => some (passString cefURIEncode beyond .setURL text)
  | .openLocalFile text => some (passString cefURIEncode beyond .openLocalFile text)
  | .loadHtmlString text => some (passString cefURIEncode beyond .loadHtmlString text)
  | .executeJS text => some (passString cefURIEncode beyond .executeJS text)
  | _ => none

/-- The string in an array: the units before the first zero, or all of them. -/
def textString (text : ControlText) : U16String := Terminated.content 0 (List.ofFn text)

/-- The command gets the string of the array, and no unit outside the array is loaded. -/
def StringInBounds (cefURIEncode : U16String → U16String) (beyond : U16String) (c : StringCommand)
    (text : ControlText) : Prop :=
  ∃ effect, handleControlString cefURIEncode beyond (c.event text) = some effect
    ∧ effect.call = some (c.call cefURIEncode (textString text))
    ∧ effect.loads ≤ controlStringMax

/-- Every command goes the same way. -/
theorem handleControlString_event (cefURIEncode : U16String → U16String) (beyond : U16String)
    (c : StringCommand) (text : ControlText) :
    handleControlString cefURIEncode beyond (c.event text)
      = some (passString cefURIEncode beyond c text) := by
  cases c <;> rfl

/-- The loads stay inside the array exactly when it has a zero unit. -/
theorem loads_passString_le_iff (cefURIEncode : U16String → U16String) (beyond : U16String)
    (c : StringCommand) (text : ControlText) :
    (passString cefURIEncode beyond c text).loads ≤ controlStringMax ↔ ∃ i, text i = 0 := by
  simp only [passString, cefString]
  rw [Terminated.loads_ofFn_le_iff (n := controlStringMax)]

theorem found_cefString {text : ControlText} (h : ∃ i, text i = 0) (beyond : U16String) :
    (cefString text beyond).found = some (textString text) :=
  Terminated.content_scan_ofFn h beyond

/-- **Control strings.** Whatever the array of one of the four commands holds and whatever lies
behind it, the string that is passed on is the one in the array, and nothing outside the array is
read, exactly when the array has a zero unit. -/
theorem control_string_in_bounds_iff (cefURIEncode : U16String → U16String) (beyond : U16String)
    (c : StringCommand) (text : ControlText) :
    StringInBounds cefURIEncode beyond c text ↔ ∃ i, text i = 0 := by
  rw [StringInBounds, handleControlString_event]
  constructor
  · rintro ⟨effect, heffect, -, hloads⟩
    rw [← Option.some.inj heffect] at hloads
    exact (loads_passString_le_iff cefURIEncode beyond c text).mp hloads
  · intro hzero
    refine ⟨_, rfl, ?_, (loads_passString_le_iff cefURIEncode beyond c text).mpr hzero⟩
    simp only [passString, found_cefString hzero, Option.map_some]

/-- A URL of `CONTROL_STRING_MAX` units. -/
theorem full_url_out_of_bounds : ¬ StringInBounds id [66, 0] .setURL fun _ => 65 := by
  rintro ⟨effect, heffect, -, hloads⟩
  rw [← Option.some.inj heffect] at hloads
  obtain ⟨i, hi⟩ := (loads_passString_le_iff id [66, 0] .setURL fun _ => 65).mp hloads
  exact absurd hi (by decide)

end CefHost
