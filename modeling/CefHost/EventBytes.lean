import Mathlib.Tactic.IntervalCases
import CefHost.RingBytes

/-!
# Events in bytes

`InputEvent` and `ControlEvent` are a type byte, three reserved bytes and a union. Which member of
the union is meant is said by the type byte; the others have its bytes too. A `View` is the event
with one of the members, and all views have the type byte in one place and one size.

The bytes of a slot are read back as the event that was stored, whatever was in the slot before:
an event may leave most of its slot as it was.

## Main definitions

* `InputEvent.decode`, `InputEvent.stores` — an input event and its bytes
* `ControlEvent.decode`, `ControlEvent.stores` — a control event and its bytes
* `inputCodec`, `controlCodec`

## Main results

* `InputEvent.decode_stores`, `ControlEvent.decode_stores`
* `input_control_rings_in_bytes` — the two rings, byte by byte
-/

namespace CefHost

open FreeRunning

/-! ### The type byte and the union -/

/-- The members of `InputEvent` and `ControlEvent`. -/
inductive EventMember
  | type
  | reserved
  | payload
deriving DecidableEq

def EventMember.Scalar (ι : Type) : EventMember → Type
  | .type => Unit
  | .reserved => Fin 3 × Unit
  | .payload => ι

def EventMember.layout {ι : Type} (P : Layout ι) : ∀ m : EventMember, Layout (m.Scalar ι)
  | .type => .scalar 0
  | .reserved => .array 3 (.scalar 0)
  | .payload => P

/-- The event with the member `P` of the union: the type byte and the scalars of `P`. -/
def View {ι : Type} (P : Layout ι) : Layout (Option ι) :=
  (Layout.struct (EventMember.layout P) [.type, .reserved, .payload]
    (by intro m; cases m <;> decide)).reindex
    (fun | none => ⟨.type, ()⟩ | some i => ⟨.payload, i⟩) (by
      intro i j h
      cases i <;> cases j <;> cases h <;> rfl)

/-- A signed number from its bits. -/
def int32OfBits (n : ℕ) : Int32 := (UInt32.ofNat n).toInt32

theorem int32OfBits_toNat (x : Int32) : int32OfBits x.toUInt32.toNat = x := by
  rw [int32OfBits, UInt32.ofNat_toNat, Int32.toInt32_toUInt32]

/-! ### Input events -/

inductive MouseMember
  | x
  | y
  | button
deriving DecidableEq

inductive ScrollMember
  | x
  | y
  | deltaX
  | deltaY
deriving DecidableEq

inductive KeyMember
  | windowsKeyCode
  | modifiers
deriving DecidableEq

def mouseLayout : Layout MouseMember :=
  .record [.x, .y, .button] (fun | .button => 0 | _ => 2) (by intro m; cases m <;> decide)

def scrollLayout : Layout ScrollMember :=
  .record [.x, .y, .deltaX, .deltaY] (fun _ => 2) (by intro m; cases m <;> decide)

def keyLayout : Layout KeyMember :=
  .record [.windowsKeyCode, .modifiers] (fun _ => 2) (by intro m; cases m <;> decide)

/-- The size of the union: its largest member is `scroll`. -/
def inputUnionSize : ℕ :=
  max (max mouseLayout.size scrollLayout.size) (max keyLayout.size (Layout.scalar 1).size)

def mouseView : Layout (Option MouseMember) :=
  View (mouseLayout.within inputUnionSize 2 (by decide) (by decide))

def scrollView : Layout (Option ScrollMember) :=
  View (scrollLayout.within inputUnionSize 2 (by decide) (by decide))

def keyView : Layout (Option KeyMember) :=
  View (keyLayout.within inputUnionSize 2 (by decide) (by decide))

def charView : Layout (Option Unit) :=
  View ((Layout.scalar 1).within inputUnionSize 2 (by decide) (by decide))

/-- `sizeof(InputEvent)`. -/
def sizeofInputEvent : ℕ := 20

theorem inputView_size : mouseView.size = sizeofInputEvent ∧ scrollView.size = sizeofInputEvent ∧
    keyView.size = sizeofInputEvent ∧ charView.size = sizeofInputEvent := by decide

namespace InputEvent

/-- The type byte of an event the protocol does not define is not one of those it does. -/
def Defined : InputEvent → Prop
  | .unknown type => 7 ≤ type
  | _ => True

def mouseStores (type : ℕ) (x y : Int32) (button : UInt8) : List (Option MouseMember × ℕ) :=
  [(none, type), (some .x, x.toUInt32.toNat), (some .y, y.toUInt32.toNat),
    (some .button, button.toNat)]

def scrollStores (x y : Int32) (deltaX deltaY : UInt32) : List (Option ScrollMember × ℕ) :=
  [(none, 3), (some .x, x.toUInt32.toNat), (some .y, y.toUInt32.toNat),
    (some .deltaX, deltaX.toNat), (some .deltaY, deltaY.toNat)]

def keyStores (type : ℕ) (windowsKeyCode modifiers : UInt32) : List (Option KeyMember × ℕ) :=
  [(none, type), (some .windowsKeyCode, windowsKeyCode.toNat), (some .modifiers, modifiers.toNat)]

def charStores (character : UInt16) : List (Option Unit × ℕ) :=
  [(none, 6), (some (), character.toNat)]

/-- The stores of an event into its slot. -/
def stores : InputEvent → List (ℕ × List UInt8)
  | .mouseMove x y button => mouseView.byteStores (mouseStores 0 x y button)
  | .mouseDown x y button => mouseView.byteStores (mouseStores 1 x y button)
  | .mouseUp x y button => mouseView.byteStores (mouseStores 2 x y button)
  | .mouseScroll x y deltaX deltaY => scrollView.byteStores (scrollStores x y deltaX deltaY)
  | .keyDown code modifiers => keyView.byteStores (keyStores 4 code modifiers)
  | .keyUp code modifiers => keyView.byteStores (keyStores 5 code modifiers)
  | .keyChar character => charView.byteStores (charStores character)
  | .unknown type => charView.byteStores [(none, type.toNat)]

/-- The event with the scalars of the views. -/
def ofScalars (mouse : Option MouseMember → ℕ) (scroll : Option ScrollMember → ℕ)
    (key : Option KeyMember → ℕ) (char : Option Unit → ℕ) : InputEvent :=
  let x := int32OfBits (mouse (some .x))
  let y := int32OfBits (mouse (some .y))
  let button := UInt8.ofNat (mouse (some .button))
  let code := UInt32.ofNat (key (some .windowsKeyCode))
  let modifiers := UInt32.ofNat (key (some .modifiers))
  match char none with
  | 0 => .mouseMove x y button
  | 1 => .mouseDown x y button
  | 2 => .mouseUp x y button
  | 3 => .mouseScroll (int32OfBits (scroll (some .x))) (int32OfBits (scroll (some .y)))
    (UInt32.ofNat (scroll (some .deltaX))) (UInt32.ofNat (scroll (some .deltaY)))
  | 4 => .keyDown code modifiers
  | 5 => .keyUp code modifiers
  | 6 => .keyChar (UInt16.ofNat (char (some ())))
  | type => .unknown (UInt8.ofNat type)

/-- The event in the bytes of a slot. -/
def decode (m : Layout.Memory) : InputEvent :=
  ofScalars (mouseView.read m 0) (scrollView.read m 0) (keyView.read m 0) (charView.read m 0)

/-- All views have the type byte in one place. -/
theorem read_type (m : Layout.Memory) : mouseView.read m 0 none = charView.read m 0 none ∧
    scrollView.read m 0 none = charView.read m 0 none ∧
    keyView.read m 0 none = charView.read m 0 none := ⟨rfl, rfl, rfl⟩

section Read

variable (m : Layout.Memory) {type : ℕ} (htype : type < 256)

include htype

theorem read_mouseStores (x y : Int32) (button : UInt8) :
    let m' := mouseView.writes 0 m (mouseStores type x y button)
    charView.read m' 0 none = type ∧ int32OfBits (mouseView.read m' 0 (some .x)) = x ∧
      int32OfBits (mouseView.read m' 0 (some .y)) = y ∧
      UInt8.ofNat (mouseView.read m' 0 (some .button)) = button := by
  intro m'
  have hnodup : ((mouseStores type x y button).map Prod.fst).Nodup := by
    simp [mouseStores]
  have hread : ∀ {i : Option MouseMember} {v : ℕ}, (i, v) ∈ mouseStores type x y button →
      v < 256 ^ mouseView.width i → mouseView.read m' 0 i = v := fun hi hv =>
    mouseView.read_writes_of_mem hnodup hi hv
  refine ⟨?_, ?_, ?_, ?_⟩
  · rw [← (read_type m').1]
    exact hread (by simp [mouseStores]) htype
  · rw [hread (i := some .x) (by simp [mouseStores]) x.toUInt32.toNat_lt, int32OfBits_toNat]
  · rw [hread (i := some .y) (by simp [mouseStores]) y.toUInt32.toNat_lt, int32OfBits_toNat]
  · rw [hread (i := some .button) (by simp [mouseStores]) button.toNat_lt, UInt8.ofNat_toNat]

theorem read_keyStores (code modifiers : UInt32) :
    let m' := keyView.writes 0 m (keyStores type code modifiers)
    charView.read m' 0 none = type ∧
      UInt32.ofNat (keyView.read m' 0 (some .windowsKeyCode)) = code ∧
      UInt32.ofNat (keyView.read m' 0 (some .modifiers)) = modifiers := by
  intro m'
  have hnodup : ((keyStores type code modifiers).map Prod.fst).Nodup := by
    simp [keyStores]
  have hread : ∀ {i : Option KeyMember} {v : ℕ}, (i, v) ∈ keyStores type code modifiers →
      v < 256 ^ keyView.width i → keyView.read m' 0 i = v := fun hi hv =>
    keyView.read_writes_of_mem hnodup hi hv
  refine ⟨?_, ?_, ?_⟩
  · rw [← (read_type m').2.2]
    exact hread (by simp [keyStores]) htype
  · rw [hread (i := some .windowsKeyCode) (by simp [keyStores]) code.toNat_lt, UInt32.ofNat_toNat]
  · rw [hread (i := some .modifiers) (by simp [keyStores]) modifiers.toNat_lt, UInt32.ofNat_toNat]

end Read

theorem read_scrollStores (m : Layout.Memory) (x y : Int32) (deltaX deltaY : UInt32) :
    let m' := scrollView.writes 0 m (scrollStores x y deltaX deltaY)
    charView.read m' 0 none = 3 ∧ int32OfBits (scrollView.read m' 0 (some .x)) = x ∧
      int32OfBits (scrollView.read m' 0 (some .y)) = y ∧
      UInt32.ofNat (scrollView.read m' 0 (some .deltaX)) = deltaX ∧
      UInt32.ofNat (scrollView.read m' 0 (some .deltaY)) = deltaY := by
  intro m'
  have hnodup : ((scrollStores x y deltaX deltaY).map Prod.fst).Nodup := by
    simp [scrollStores]
  have hread : ∀ {i : Option ScrollMember} {v : ℕ}, (i, v) ∈ scrollStores x y deltaX deltaY →
      v < 256 ^ scrollView.width i → scrollView.read m' 0 i = v := fun hi hv =>
    scrollView.read_writes_of_mem hnodup hi hv
  refine ⟨?_, ?_, ?_, ?_, ?_⟩
  · rw [← (read_type m').2.1]
    exact hread (v := 3) (by simp [scrollStores]) (by decide)
  · rw [hread (i := some .x) (by simp [scrollStores]) x.toUInt32.toNat_lt, int32OfBits_toNat]
  · rw [hread (i := some .y) (by simp [scrollStores]) y.toUInt32.toNat_lt, int32OfBits_toNat]
  · rw [hread (i := some .deltaX) (by simp [scrollStores]) deltaX.toNat_lt, UInt32.ofNat_toNat]
  · rw [hread (i := some .deltaY) (by simp [scrollStores]) deltaY.toNat_lt, UInt32.ofNat_toNat]

theorem read_charStores (m : Layout.Memory) (character : UInt16) :
    let m' := charView.writes 0 m (charStores character)
    charView.read m' 0 none = 6 ∧ UInt16.ofNat (charView.read m' 0 (some ())) = character := by
  intro m'
  have hnodup : ((charStores character).map Prod.fst).Nodup := by simp [charStores]
  have hread : ∀ {i : Option Unit} {v : ℕ}, (i, v) ∈ charStores character →
      v < 256 ^ charView.width i → charView.read m' 0 i = v := fun hi hv =>
    charView.read_writes_of_mem hnodup hi hv
  refine ⟨hread (v := 6) (by simp [charStores]) (by decide), ?_⟩
  rw [hread (i := some ()) (by simp [charStores]) character.toNat_lt, UInt16.ofNat_toNat]

/-- **An input event is read back as it was stored.** -/
theorem decode_stores {e : InputEvent} (he : e.Defined) (m : Layout.Memory) :
    decode (Layout.storeAll 0 m e.stores) = e := by
  cases e with
  | mouseMove x y button =>
    obtain ⟨ht, hx, hy, hb⟩ := read_mouseStores m (show 0 < 256 by decide) x y button
    rw [stores, Layout.storeAll_byteStores, decode, ofScalars, ht, hx, hy, hb]
    rfl
  | mouseDown x y button =>
    obtain ⟨ht, hx, hy, hb⟩ := read_mouseStores m (show 1 < 256 by decide) x y button
    rw [stores, Layout.storeAll_byteStores, decode, ofScalars, ht, hx, hy, hb]
    rfl
  | mouseUp x y button =>
    obtain ⟨ht, hx, hy, hb⟩ := read_mouseStores m (show 2 < 256 by decide) x y button
    rw [stores, Layout.storeAll_byteStores, decode, ofScalars, ht, hx, hy, hb]
    rfl
  | mouseScroll x y deltaX deltaY =>
    obtain ⟨ht, hx, hy, hdx, hdy⟩ := read_scrollStores m x y deltaX deltaY
    rw [stores, Layout.storeAll_byteStores, decode, ofScalars, ht, hx, hy, hdx, hdy]
    rfl
  | keyDown code modifiers =>
    obtain ⟨ht, hc, hm⟩ := read_keyStores m (show 4 < 256 by decide) code modifiers
    rw [stores, Layout.storeAll_byteStores, decode, ofScalars, ht, hc, hm]
    rfl
  | keyUp code modifiers =>
    obtain ⟨ht, hc, hm⟩ := read_keyStores m (show 5 < 256 by decide) code modifiers
    rw [stores, Layout.storeAll_byteStores, decode, ofScalars, ht, hc, hm]
    rfl
  | keyChar character =>
    obtain ⟨ht, hc⟩ := read_charStores m character
    rw [stores, Layout.storeAll_byteStores, decode, ofScalars, ht, hc]
    rfl
  | unknown type =>
    rw [stores, Layout.storeAll_byteStores, decode, ofScalars,
      charView.read_writes_of_mem (l := [(none, type.toNat)]) (by simp) List.mem_cons_self
        type.toNat_lt]
    have hle : 7 ≤ type.toNat := UInt8.le_iff_toNat_le.mp he
    split <;> first | omega | rw [UInt8.ofNat_toNat]

/-- What is read back has a type byte of its own. -/
theorem defined_decode (m : Layout.Memory) : (decode m).Defined := by
  have hbyte : charView.read m 0 none < 256 := Layout.load_lt m _ _
  rw [decode, ofScalars]
  generalize charView.read m 0 none = type at hbyte
  rcases Nat.lt_or_ge type 7 with hlt | hge
  · interval_cases type <;> exact trivial
  · split <;> first | exact trivial | skip
    exact UInt8.le_iff_toNat_le.mpr (by rwa [UInt8.toNat_ofNat', Nat.mod_eq_of_lt hbyte])

end InputEvent

/-! ### Control events -/

inductive PairMember
  | first
  | second
deriving DecidableEq

/-- The members `resize` and `scroll`: two numbers of four bytes. -/
def pairLayout : Layout PairMember :=
  .record [.first, .second] (fun _ => 2) (by intro m; cases m <;> decide)

/-- The member `string`. -/
def stringLayout : Layout (Fin controlStringMax × Unit) := .array controlStringMax (.scalar 1)

/-- The size of the union: its largest member is `string`. -/
def controlUnionSize : ℕ := max pairLayout.size stringLayout.size

def pairView : Layout (Option PairMember) :=
  View (pairLayout.within controlUnionSize 2 (by decide) (by decide))

/-- The event with one of `zoom`, `frame_rate` and `cadence_us`: a number of four bytes. -/
def valueView : Layout (Option Unit) :=
  View ((Layout.scalar 2).within controlUnionSize 2 (by decide) (by decide))

def flagView : Layout (Option Unit) :=
  View ((Layout.scalar 0).within controlUnionSize 2 (by decide) (by decide))

def stringView : Layout (Option (Fin controlStringMax × Unit)) :=
  View (stringLayout.within controlUnionSize 2 (by decide) (by decide))

/-- `sizeof(ControlEvent)`. -/
def sizeofControlEvent : ℕ := 4100

theorem controlView_size : pairView.size = sizeofControlEvent ∧
    valueView.size = sizeofControlEvent ∧ flagView.size = sizeofControlEvent ∧
    stringView.size = sizeofControlEvent := by decide

namespace ControlEvent

/-- The type byte of an event the protocol does not define is not one of those it does. -/
def Defined : ControlEvent → Prop
  | .unknown type => 24 ≤ type
  | _ => True

def pairStores (type first second : ℕ) : List (Option PairMember × ℕ) :=
  [(none, type), (some .first, first), (some .second, second)]

/-- The stores of the type byte and one number. -/
def numberStores (type value : ℕ) : List (Option Unit × ℕ) := [(none, type), (some (), value)]

def stringStores (type : ℕ) (text : ControlText) :
    List (Option (Fin controlStringMax × Unit) × ℕ) :=
  (none, type) :: List.ofFn fun i => (some (i, ()), (text i).toNat)

/-- The stores of an event that is its type. -/
def plain (type : ℕ) : List (ℕ × List UInt8) := flagView.byteStores [(none, type)]

def flag (type : ℕ) (value : Bool) : List (ℕ × List UInt8) :=
  flagView.byteStores (numberStores type value.toNat)

def value (type : ℕ) (v : UInt32) : List (ℕ × List UInt8) :=
  valueView.byteStores (numberStores type v.toNat)

def string (type : ℕ) (text : ControlText) : List (ℕ × List UInt8) :=
  stringView.byteStores (stringStores type text)

/-- The stores of an event into its slot. -/
def stores : ControlEvent → List (ℕ × List UInt8)
  | .goBack => plain 0
  | .goForward => plain 1
  | .stopLoad => plain 2
  | .reload => plain 3
  | .setURL text => string 4 text
  | .setPaused v => flag 5 v
  | .setHidden v => flag 6 v
  | .setFocus v => flag 7 v
  | .setZoomLevel v => value 8 v
  | .setFrameRate v => value 9 v
  | .scrollTo x y => pairView.byteStores (pairStores 10 x.toUInt32.toNat y.toUInt32.toNat)
  | .resize width height => pairView.byteStores (pairStores 11 width.toNat height.toNat)
  | .setMuted v => flag 12 v
  | .openDevTools => plain 13
  | .closeDevTools => plain 14
  | .setInputEnabled v => flag 15 v
  | .executeJS text => string 16 text
  | .clearCookies => plain 17
  | .setConsumerCadenceUs v => value 18 v
  | .setMaxInFlightBeginFrames v => value 19 v
  | .setFlushIntervalFrames v => value 20 v
  | .setKeyframeIntervalUs v => value 21 v
  | .openLocalFile text => string 22 text
  | .loadHtmlString text => string 23 text
  | .unknown type => plain type.toNat

/-- The event with the scalars of the views. -/
def ofScalars (pair : Option PairMember → ℕ) (value : Option Unit → ℕ) (flag : Option Unit → ℕ)
    (string : Option (Fin controlStringMax × Unit) → ℕ) : ControlEvent :=
  let b : Bool := flag (some ()) != 0
  let v := UInt32.ofNat (value (some ()))
  let text : ControlText := fun i => UInt16.ofNat (string (some (i, ())))
  match flag none with
  | 0 => .goBack
  | 1 => .goForward
  | 2 => .stopLoad
  | 3 => .reload
  | 4 => .setURL text
  | 5 => .setPaused b
  | 6 => .setHidden b
  | 7 => .setFocus b
  | 8 => .setZoomLevel v
  | 9 => .setFrameRate v
  | 10 => .scrollTo (int32OfBits (pair (some .first))) (int32OfBits (pair (some .second)))
  | 11 => .resize (UInt32.ofNat (pair (some .first))) (UInt32.ofNat (pair (some .second)))
  | 12 => .setMuted b
  | 13 => .openDevTools
  | 14 => .closeDevTools
  | 15 => .setInputEnabled b
  | 16 => .executeJS text
  | 17 => .clearCookies
  | 18 => .setConsumerCadenceUs v
  | 19 => .setMaxInFlightBeginFrames v
  | 20 => .setFlushIntervalFrames v
  | 21 => .setKeyframeIntervalUs v
  | 22 => .openLocalFile text
  | 23 => .loadHtmlString text
  | type => .unknown (UInt8.ofNat type)

/-- The event in the bytes of a slot. -/
def decode (m : Layout.Memory) : ControlEvent :=
  ofScalars (pairView.read m 0) (valueView.read m 0) (flagView.read m 0) (stringView.read m 0)

/-- All views have the type byte in one place. -/
theorem read_type (m : Layout.Memory) : pairView.read m 0 none = flagView.read m 0 none ∧
    valueView.read m 0 none = flagView.read m 0 none ∧
    stringView.read m 0 none = flagView.read m 0 none := ⟨rfl, rfl, rfl⟩

section Read

variable (m : Layout.Memory) {type : ℕ} (htype : type < 256)

include htype

theorem read_plain : flagView.read (Layout.storeAll 0 m (plain type)) 0 none = type := by
  rw [plain, Layout.storeAll_byteStores]
  exact flagView.read_writes_of_mem (by simp) List.mem_cons_self htype

theorem read_flag (b : Bool) :
    let m' := Layout.storeAll 0 m (flag type b)
    flagView.read m' 0 none = type ∧ (flagView.read m' 0 (some ()) != 0) = b := by
  rw [flag, Layout.storeAll_byteStores]
  have hnodup : ((numberStores type b.toNat).map Prod.fst).Nodup := by simp [numberStores]
  refine ⟨flagView.read_writes_of_mem hnodup List.mem_cons_self htype, ?_⟩
  rw [flagView.read_writes_of_mem (i := some ()) (v := b.toNat) hnodup (by simp [numberStores])
    (by cases b <;> decide)]
  cases b <;> rfl

theorem read_value (v : UInt32) :
    let m' := Layout.storeAll 0 m (value type v)
    flagView.read m' 0 none = type ∧ UInt32.ofNat (valueView.read m' 0 (some ())) = v := by
  rw [value, Layout.storeAll_byteStores]
  have hnodup : ((numberStores type v.toNat).map Prod.fst).Nodup := by simp [numberStores]
  constructor
  · rw [← (read_type _).2.1]
    exact valueView.read_writes_of_mem hnodup List.mem_cons_self htype
  · rw [valueView.read_writes_of_mem (i := some ()) hnodup (by simp [numberStores]) v.toNat_lt,
      UInt32.ofNat_toNat]

theorem read_pair {first second : ℕ} (hfirst : first < 2 ^ 32) (hsecond : second < 2 ^ 32) :
    let m' := Layout.storeAll 0 m (pairView.byteStores (pairStores type first second))
    flagView.read m' 0 none = type ∧ pairView.read m' 0 (some .first) = first ∧
      pairView.read m' 0 (some .second) = second := by
  rw [Layout.storeAll_byteStores]
  have hnodup : ((pairStores type first second).map Prod.fst).Nodup := by simp [pairStores]
  refine ⟨?_, ?_, ?_⟩
  · rw [← (read_type _).1]
    exact pairView.read_writes_of_mem hnodup List.mem_cons_self htype
  · exact pairView.read_writes_of_mem hnodup (by simp [pairStores]) hfirst
  · exact pairView.read_writes_of_mem hnodup (by simp [pairStores]) hsecond

theorem read_string (text : ControlText) :
    let m' := Layout.storeAll 0 m (string type text)
    flagView.read m' 0 none = type ∧
      (fun i => UInt16.ofNat (stringView.read m' 0 (some (i, ())))) = text := by
  rw [string, Layout.storeAll_byteStores]
  have hnodup : ((stringStores type text).map Prod.fst).Nodup := by
    rw [stringStores, List.map_cons, List.map_ofFn, List.nodup_cons]
    refine ⟨?_, List.nodup_ofFn.mpr fun i j h => ?_⟩
    · rw [List.mem_ofFn]
      rintro ⟨i, hi⟩
      cases hi
    · exact congrArg Prod.fst (Option.some.inj h)
  refine ⟨?_, funext fun i => ?_⟩
  · rw [← (read_type _).2.2]
    exact stringView.read_writes_of_mem hnodup List.mem_cons_self htype
  · rw [stringView.read_writes_of_mem (i := some (i, ())) hnodup
      (List.mem_cons_of_mem _ (List.mem_ofFn.mpr ⟨i, rfl⟩)) (text i).toNat_lt, UInt16.ofNat_toNat]

end Read

/-- **A control event is read back as it was stored.** -/
theorem decode_stores {e : ControlEvent} (he : e.Defined) (m : Layout.Memory) :
    decode (Layout.storeAll 0 m e.stores) = e := by
  cases e with
  | goBack =>
    rw [stores, decode, ofScalars, read_plain m (show 0 < 256 by decide)]
    rfl
  | goForward =>
    rw [stores, decode, ofScalars, read_plain m (show 1 < 256 by decide)]
    rfl
  | stopLoad =>
    rw [stores, decode, ofScalars, read_plain m (show 2 < 256 by decide)]
    rfl
  | reload =>
    rw [stores, decode, ofScalars, read_plain m (show 3 < 256 by decide)]
    rfl
  | setURL text =>
    obtain ⟨ht, hv⟩ := read_string m (show 4 < 256 by decide) text
    rw [stores, decode, ofScalars, ht, hv]
    rfl
  | setPaused v =>
    obtain ⟨ht, hv⟩ := read_flag m (show 5 < 256 by decide) v
    rw [stores, decode, ofScalars, ht, hv]
    rfl
  | setHidden v =>
    obtain ⟨ht, hv⟩ := read_flag m (show 6 < 256 by decide) v
    rw [stores, decode, ofScalars, ht, hv]
    rfl
  | setFocus v =>
    obtain ⟨ht, hv⟩ := read_flag m (show 7 < 256 by decide) v
    rw [stores, decode, ofScalars, ht, hv]
    rfl
  | setZoomLevel v =>
    obtain ⟨ht, hv⟩ := read_value m (show 8 < 256 by decide) v
    rw [stores, decode, ofScalars, ht, hv]
    rfl
  | setFrameRate v =>
    obtain ⟨ht, hv⟩ := read_value m (show 9 < 256 by decide) v
    rw [stores, decode, ofScalars, ht, hv]
    rfl
  | scrollTo x y =>
    obtain ⟨ht, hx, hy⟩ := read_pair m (show 10 < 256 by decide) x.toUInt32.toNat_lt
      y.toUInt32.toNat_lt
    rw [stores, decode, ofScalars, ht, hx, hy, int32OfBits_toNat, int32OfBits_toNat]
    rfl
  | resize width height =>
    obtain ⟨ht, hw, hh⟩ := read_pair m (show 11 < 256 by decide) width.toNat_lt height.toNat_lt
    rw [stores, decode, ofScalars, ht, hw, hh, UInt32.ofNat_toNat, UInt32.ofNat_toNat]
    rfl
  | setMuted v =>
    obtain ⟨ht, hv⟩ := read_flag m (show 12 < 256 by decide) v
    rw [stores, decode, ofScalars, ht, hv]
    rfl
  | openDevTools =>
    rw [stores, decode, ofScalars, read_plain m (show 13 < 256 by decide)]
    rfl
  | closeDevTools =>
    rw [stores, decode, ofScalars, read_plain m (show 14 < 256 by decide)]
    rfl
  | setInputEnabled v =>
    obtain ⟨ht, hv⟩ := read_flag m (show 15 < 256 by decide) v
    rw [stores, decode, ofScalars, ht, hv]
    rfl
  | executeJS text =>
    obtain ⟨ht, hv⟩ := read_string m (show 16 < 256 by decide) text
    rw [stores, decode, ofScalars, ht, hv]
    rfl
  | clearCookies =>
    rw [stores, decode, ofScalars, read_plain m (show 17 < 256 by decide)]
    rfl
  | setConsumerCadenceUs v =>
    obtain ⟨ht, hv⟩ := read_value m (show 18 < 256 by decide) v
    rw [stores, decode, ofScalars, ht, hv]
    rfl
  | setMaxInFlightBeginFrames v =>
    obtain ⟨ht, hv⟩ := read_value m (show 19 < 256 by decide) v
    rw [stores, decode, ofScalars, ht, hv]
    rfl
  | setFlushIntervalFrames v =>
    obtain ⟨ht, hv⟩ := read_value m (show 20 < 256 by decide) v
    rw [stores, decode, ofScalars, ht, hv]
    rfl
  | setKeyframeIntervalUs v =>
    obtain ⟨ht, hv⟩ := read_value m (show 21 < 256 by decide) v
    rw [stores, decode, ofScalars, ht, hv]
    rfl
  | openLocalFile text =>
    obtain ⟨ht, hv⟩ := read_string m (show 22 < 256 by decide) text
    rw [stores, decode, ofScalars, ht, hv]
    rfl
  | loadHtmlString text =>
    obtain ⟨ht, hv⟩ := read_string m (show 23 < 256 by decide) text
    rw [stores, decode, ofScalars, ht, hv]
    rfl
  | unknown type =>
    rw [stores, decode, ofScalars, read_plain m type.toNat_lt]
    have hle : 24 ≤ type.toNat := UInt8.le_iff_toNat_le.mp he
    split <;> first | omega | rw [UInt8.ofNat_toNat]

/-- What is read back has a type byte of its own. -/
theorem defined_decode (m : Layout.Memory) : (decode m).Defined := by
  have hbyte : flagView.read m 0 none < 256 := Layout.load_lt m _ _
  rw [decode, ofScalars]
  generalize flagView.read m 0 none = type at hbyte
  rcases Nat.lt_or_ge type 24 with hlt | hge
  · interval_cases type <;> exact trivial
  · split <;> first | exact trivial | skip
    exact UInt8.le_iff_toNat_le.mpr (by rwa [UInt8.toNat_ofNat', Nat.mod_eq_of_lt hbyte])

end ControlEvent

/-! ### The rings -/

/-- The events a slot can hold. -/
abbrev DefinedInput := {e : InputEvent // e.Defined}

abbrev DefinedControl := {e : ControlEvent // e.Defined}

theorem InputEvent.decode_congr {m m' : Layout.Memory}
    (h : ∀ i, i < sizeofInputEvent → m i = m' i) : decode m = decode m' := by
  obtain ⟨hmouse, hscroll, hkey, hchar⟩ := inputView_size
  have hread : ∀ {ι : Type} (L : Layout ι), L.size = sizeofInputEvent →
      L.read m 0 = L.read m' 0 := fun L hL =>
    L.read_congr fun i _ hi => h i (by omega)
  rw [decode, decode, hread _ hmouse, hread _ hscroll, hread _ hkey, hread _ hchar]

theorem ControlEvent.decode_congr {m m' : Layout.Memory}
    (h : ∀ i, i < sizeofControlEvent → m i = m' i) : decode m = decode m' := by
  obtain ⟨hpair, hvalue, hflag, hstring⟩ := controlView_size
  have hread : ∀ {ι : Type} (L : Layout ι), L.size = sizeofControlEvent →
      L.read m 0 = L.read m' 0 := fun L hL =>
    L.read_congr fun i _ hi => h i (by omega)
  rw [decode, decode, hread _ hpair, hread _ hvalue, hread _ hflag, hread _ hstring]

theorem InputEvent.stores_inside (e : InputEvent) :
    ∀ p ∈ e.stores, p.1 + p.2.length ≤ sizeofInputEvent := by
  obtain ⟨hmouse, hscroll, hkey, hchar⟩ := inputView_size
  intro p hp
  cases e <;> first
    | exact (mouseView.byteStores_inside _ p hp).trans_eq hmouse
    | exact (scrollView.byteStores_inside _ p hp).trans_eq hscroll
    | exact (keyView.byteStores_inside _ p hp).trans_eq hkey
    | exact (charView.byteStores_inside _ p hp).trans_eq hchar

theorem ControlEvent.stores_inside (e : ControlEvent) :
    ∀ p ∈ e.stores, p.1 + p.2.length ≤ sizeofControlEvent := by
  obtain ⟨hpair, hvalue, hflag, hstring⟩ := controlView_size
  intro p hp
  cases e <;> first
    | exact (pairView.byteStores_inside _ p hp).trans_eq hpair
    | exact (valueView.byteStores_inside _ p hp).trans_eq hvalue
    | exact (flagView.byteStores_inside _ p hp).trans_eq hflag
    | exact (stringView.byteStores_inside _ p hp).trans_eq hstring

/-- How input events lie in their slots. -/
def inputCodec : Codec DefinedInput where
  size := sizeofInputEvent
  logAlign := 2
  decode m := ⟨InputEvent.decode m, InputEvent.defined_decode m⟩
  encode e := e.1.stores
  size_pos := by decide
  dvd_size := by decide
  encode_ne_nil e := by
    cases e.1 <;> exact List.cons_ne_nil _ _
  inside e := e.1.stores_inside
  decode_congr _ _ h := Subtype.ext (InputEvent.decode_congr h)
  decode_encode e m := Subtype.ext (InputEvent.decode_stores e.2 m)

/-- How control events lie in their slots. -/
def controlCodec : Codec DefinedControl where
  size := sizeofControlEvent
  logAlign := 2
  decode m := ⟨ControlEvent.decode m, ControlEvent.defined_decode m⟩
  encode e := e.1.stores
  size_pos := by decide
  dvd_size := by decide
  encode_ne_nil e := by
    cases e.1 <;> exact List.cons_ne_nil _ _
  inside e := e.1.stores_inside
  decode_congr _ _ h := Subtype.ext (ControlEvent.decode_congr h)
  decode_encode e m := Subtype.ext (ControlEvent.decode_stores e.2 m)

/-- `sizeof(InputRingBuffer)` and `sizeof(ControlRingBuffer)`; the events start behind the four
indices. -/
example : (ringLayout inputRing inputCodec).size = 16 + 256 * 20 ∧
    (ringLayout controlRing controlCodec).size = 16 + 64 * 4100 ∧
    memberOffset inputRing inputCodec .events = 16 ∧
    memberOffset controlRing controlCodec .events = 16 := by decide

/-- **The input and control rings, byte by byte**: in every interleaving of the single stores of
the producing process with the host's reading of the bytes, no event is torn, lost, doubled or out
of order, `ReadEvent` returns false only when everything published has been returned, and nothing
behind the ring is written to. What the mapping held before `Init` does not matter. -/
theorem input_control_rings_in_bytes (m : Layout.Memory)
    (inputs : List (RingAction DefinedInput)) (controls : List (RingAction DefinedControl)) :
    ByteChannel.Lossless inputRing inputCodec m
        (Runs.run (ByteChannel.step inputRing inputCodec) (.init inputRing inputCodec m) inputs) ∧
      ByteChannel.Lossless controlRing controlCodec m
        (Runs.run (ByteChannel.step controlRing controlCodec)
          (.init controlRing controlCodec m) controls) :=
  ⟨ByteChannel.lossless_run _ _ m inputs, ByteChannel.lossless_run _ _ m controls⟩

end CefHost
