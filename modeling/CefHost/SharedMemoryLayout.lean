import CefHost.Library.FreeRunning

/-!
# The shared-memory layout

The binary contract between the host and its consumer: `include/shm/SharedMemoryLayout.h`.
Kernel-object names, the frame header, and the events of the input, control and console rings.

## Representation

* 32-bit and 8-bit unsigned fields are `UInt32` and `UInt8`, `int32_t` is `Int32`.
* The 64-bit counters `frame_id`, `present_id` and `gpu_fence_value` are natural numbers. They
  start at zero and advance by one for each publish.
* A `std::wstring` is a list of characters; every name built here is ASCII.
* A union with its type byte is one inductive type, with a last constructor for the type bytes
  the protocol does not define.
* The `reserved` and `capacity` fields, which no function reads, are left out.

A header store is *data* (`HeaderStore`) rather than a function, so that a publish is a list of
stores that can be inspected and the header a consumer sees after each of them is a fold.
-/

namespace CefHost

/-! ### Constants -/

def shmMaxWidth : ℕ := 3840
def shmMaxHeight : ℕ := 2160
def shmFrameSize : ℕ := shmMaxWidth * shmMaxHeight * 4
def shmFrameSlotCount : ℕ := 3
def shmProtocolVersion : UInt32 := 4
def shmProtocolMagic : UInt32 := 0x43454648
def inputRingCapacity : ℕ := 256
def controlRingCapacity : ℕ := 64
def consoleRingCapacity : ℕ := 256
def consoleMessageMax : ℕ := 1024
def consoleSourceMax : ℕ := 256
def maxDirtyRects : ℕ := 16
def controlStringMax : ℕ := 2048

/-! ### Kernel-object names -/

abbrev WString := List Char

def shmFrameName : WString := "CEFHost_Frame".toList
def shmInputName : WString := "CEFHost_Input".toList
def evtFrameReady : WString := "CEFHost_FrameReady".toList
def evtInputReady : WString := "CEFHost_InputReady".toList
def shmControlName : WString := "CEFHost_Control".toList
def evtControlReady : WString := "CEFHost_ControlReady".toList
def shmConsoleName : WString := "CEFHost_Console".toList
def evtConsoleReady : WString := "CEFHost_ConsoleReady".toList
def evtShutdown : WString := "CEFHost_Shutdown".toList
def shmGpuFenceName : WString := "Global\\CEFHost_SharedFence".toList
def sharedTexBaseName : WString := "Global\\CEFHost_SharedTex".toList
def sharedPopupTexBaseName : WString := "Global\\CEFHost_SharedPopupTex".toList

structure SharedMemoryNames where
  frameMapName : WString
  inputMapName : WString
  frameReadyEventName : WString
  inputReadyEventName : WString
  controlMapName : WString
  controlReadyEventName : WString
  consoleMapName : WString
  consoleReadyEventName : WString
  shutdownEventName : WString
  gpuFenceName : WString
  sharedTexturePrefix : WString
  sharedPopupTextureName : WString
deriving DecidableEq

def makeScopedName (baseName suffix : WString) : WString :=
  if suffix.isEmpty then baseName else baseName ++ ['_'] ++ suffix

/-- The bytes `SanitizeSessionId` keeps. -/
def isSessionIdByte (c : UInt8) : Bool :=
  (48 ≤ c && c ≤ 57) || (65 ≤ c && c ≤ 90) || (97 ≤ c && c ≤ 122) || c == 45 || c == 95

def sanitizeSessionId (sessionId : List UInt8) : WString :=
  (sessionId.filter isSessionIdByte).map fun c => Char.ofNat c.toNat

def buildSharedMemoryNames (sessionIdUtf8 : List UInt8) : SharedMemoryNames :=
  let suffix := sanitizeSessionId sessionIdUtf8
  { frameMapName := makeScopedName shmFrameName suffix
    inputMapName := makeScopedName shmInputName suffix
    frameReadyEventName := makeScopedName evtFrameReady suffix
    inputReadyEventName := makeScopedName evtInputReady suffix
    controlMapName := makeScopedName shmControlName suffix
    controlReadyEventName := makeScopedName evtControlReady suffix
    consoleMapName := makeScopedName shmConsoleName suffix
    consoleReadyEventName := makeScopedName evtConsoleReady suffix
    shutdownEventName := makeScopedName evtShutdown suffix
    gpuFenceName := makeScopedName shmGpuFenceName suffix
    sharedTexturePrefix := makeScopedName sharedTexBaseName suffix
    sharedPopupTextureName := makeScopedName sharedPopupTexBaseName suffix }

/-! ### The frame header -/

/-- The cursor value is passed through; no function of the host tests it. -/
abbrev CefCursorType := UInt8

inductive CefLoadState
  | idle
  | loading
  | ready
  | error
deriving DecidableEq, Repr

structure DirtyRect where
  x : Int32
  y : Int32
  w : Int32
  h : Int32
deriving DecidableEq, Repr

/-- `{ 0, 0, 0, 0 }`. -/
def DirtyRect.zero : DirtyRect := ⟨0, 0, 0, 0⟩

def frameFlagNone : UInt32 := 0
def frameFlagFullFrame : UInt32 := 1
def frameFlagDirtyOnly : UInt32 := 2
def frameFlagOverflow : UInt32 := 4
def frameFlagResized : UInt32 := 8
def frameFlagPopupPlane : UInt32 := 16

/-- Whether the bits of `flag` are set in `flags`. -/
def hasFlag (flags flag : UInt32) : Bool := flags &&& flag == flag

structure FrameHeader where
  protocolMagic : UInt32
  version : UInt32
  slotCount : UInt32
  width : UInt32
  height : UInt32
  frameId : ℕ
  presentId : ℕ
  gpuFenceValue : ℕ
  sequence : UInt32
  writeSlot : UInt32
  flags : UInt32
  cursorType : CefCursorType
  loadState : CefLoadState
  popupVisible : UInt8
  dirtyCount : UInt8
  popupRect : DirtyRect
  dirtyRects : Fin maxDirtyRects → DirtyRect

/-- `sizeof(FrameHeader)`: the 64-bit fields start at 24, behind four bytes of padding, the popup
rectangle at 68 behind two, and the last rectangle ends at 340. -/
def sizeofFrameHeader : ℕ := 344

def shmFrameTotal : ℕ := sizeofFrameHeader + shmFrameSize * shmFrameSlotCount

/-- The mapping after `SharedFrameBuffer::Init`, which clears it. -/
def FrameHeader.cleared : FrameHeader where
  protocolMagic := 0
  version := 0
  slotCount := 0
  width := 0
  height := 0
  frameId := 0
  presentId := 0
  gpuFenceValue := 0
  sequence := 0
  writeSlot := 0
  flags := 0
  cursorType := 0
  loadState := .idle
  popupVisible := 0
  dirtyCount := 0
  popupRect := .zero
  dirtyRects := fun _ => .zero

/-- One assignment to a field of the shared header. -/
inductive HeaderStore
  | protocolMagic (v : UInt32)
  | version (v : UInt32)
  | slotCount (v : UInt32)
  | width (v : UInt32)
  | height (v : UInt32)
  | frameId (v : ℕ)
  | presentId (v : ℕ)
  | gpuFenceValue (v : ℕ)
  | sequence (v : UInt32)
  | writeSlot (v : UInt32)
  | flags (v : UInt32)
  | cursorType (v : CefCursorType)
  | loadState (v : CefLoadState)
  | popupVisible (v : UInt8)
  | dirtyCount (v : UInt8)
  | popupRect (v : DirtyRect)
  | dirtyRects (i : Fin maxDirtyRects) (v : DirtyRect)
deriving DecidableEq

/-- The header after one assignment. -/
def FrameHeader.apply (h : FrameHeader) : HeaderStore → FrameHeader
  | .protocolMagic v => { h with protocolMagic := v }
  | .version v => { h with version := v }
  | .slotCount v => { h with slotCount := v }
  | .width v => { h with width := v }
  | .height v => { h with height := v }
  | .frameId v => { h with frameId := v }
  | .presentId v => { h with presentId := v }
  | .gpuFenceValue v => { h with gpuFenceValue := v }
  | .sequence v => { h with sequence := v }
  | .writeSlot v => { h with writeSlot := v }
  | .flags v => { h with flags := v }
  | .cursorType v => { h with cursorType := v }
  | .loadState v => { h with loadState := v }
  | .popupVisible v => { h with popupVisible := v }
  | .dirtyCount v => { h with dirtyCount := v }
  | .popupRect v => { h with popupRect := v }
  | .dirtyRects i v => { h with dirtyRects := Function.update h.dirtyRects i v }

/-- The dirty rectangles the header names: the first `dirty_count` entries. -/
def FrameHeader.dirtyList (h : FrameHeader) : List DirtyRect :=
  (List.ofFn h.dirtyRects).take h.dirtyCount.toNat

/-! ### Events of the rings -/

/-- `InputEvent`. The two scroll deltas are floats; they are carried as their bits. -/
inductive InputEvent
  | mouseMove (x y : Int32) (button : UInt8)
  | mouseDown (x y : Int32) (button : UInt8)
  | mouseUp (x y : Int32) (button : UInt8)
  | mouseScroll (x y : Int32) (deltaX deltaY : UInt32)
  | keyDown (windowsKeyCode modifiers : UInt32)
  | keyUp (windowsKeyCode modifiers : UInt32)
  | keyChar (character : UInt16)
  | unknown (type : UInt8)
deriving DecidableEq

/-- The text array of a string-based control command. -/
abbrev ControlText := Fin controlStringMax → UInt16

/-- `ControlEvent`. The zoom level is a float, carried as its bits. -/
inductive ControlEvent
  | goBack
  | goForward
  | stopLoad
  | reload
  | setURL (text : ControlText)
  | setPaused (value : Bool)
  | setHidden (value : Bool)
  | setFocus (value : Bool)
  | setZoomLevel (value : UInt32)
  | setFrameRate (value : UInt32)
  | scrollTo (x y : Int32)
  | resize (width height : UInt32)
  | setMuted (value : Bool)
  | openDevTools
  | closeDevTools
  | setInputEnabled (value : Bool)
  | executeJS (text : ControlText)
  | clearCookies
  | setConsumerCadenceUs (value : UInt32)
  | setMaxInFlightBeginFrames (value : UInt32)
  | setFlushIntervalFrames (value : UInt32)
  | setKeyframeIntervalUs (value : UInt32)
  | openLocalFile (text : ControlText)
  | loadHtmlString (text : ControlText)
  | unknown (type : UInt8)

inductive ConsoleLogLevel
  | log
  | warning
  | error
deriving DecidableEq

structure ConsoleLogEvent where
  level : ConsoleLogLevel
  line : Int32
  source : Fin consoleSourceMax → UInt16
  message : Fin consoleMessageMax → UInt16

/-- The capacity of the input ring, as a ring size the 32-bit indices are exact for. -/
def inputRing : FreeRunning.Capacity where
  size := inputRingCapacity
  size_dvd := by decide
  size_lt := by decide

/-- The same for the control ring. -/
def controlRing : FreeRunning.Capacity where
  size := controlRingCapacity
  size_dvd := by decide
  size_lt := by decide

/-- The same for the console ring. -/
def consoleRing : FreeRunning.Capacity where
  size := consoleRingCapacity
  size_dvd := by decide
  size_lt := by decide

end CefHost
