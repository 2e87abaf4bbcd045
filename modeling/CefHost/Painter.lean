import CefHost.SharedTextures

/-!
# Painting

`OsrHandler` as far as CEF's paint, popup, load and cursor callbacks concern it: everything
`OnAcceleratedPaint` reads and writes. The callbacks arrive one at a time on CEF's UI thread; the
model starts after `Init` has succeeded, so the header is mapped, and ends before `Shutdown`.

## What can fail

A `Paint` carries what CEF passes — the element type, the dirty rectangles, the handle value and
the resource this value denotes *during this callback* — and how each Direct3D call of the
callback would go. A failed step leaves its output null.

## What another process can see

Every assignment to a header field goes through `Painter.storeAll`, which also records in `seen`
what was visible right after it: the header, the textures that exist and the commands submitted so
far. No function reads `seen`, `paints` or `textures.nextTexture` back.

Left out, because no modelled function depends on them: the telemetry counters and timestamps, and
the idle-repair and keyframe bookkeeping.

## Main definitions

* `Painter`, `Paint`, `Callback` — the state, one paint callback, any callback
* `Painter.source`, `Painter.ensureSharedTextures` — the texture a paint gets, and those it needs
* `Painter.onAcceleratedPaint`, `Painter.step` — a paint, and any callback
-/

namespace CefHost

/-! ### The state -/

structure CefRect where
  x : Int32
  y : Int32
  width : Int32
  height : Int32
deriving DecidableEq

namespace CefRect

/-- `CefRect{}`. -/
def empty : CefRect := ⟨0, 0, 0, 0⟩

def toDirty (r : CefRect) : DirtyRect := ⟨r.x, r.y, r.width, r.height⟩

theorem toDirty_injective : Function.Injective toDirty := by
  intro r r' h
  cases r
  cases r'
  simpa [toDirty] using h

end CefRect

inductive PaintElementType
  | view
  | popup
deriving DecidableEq

/-- The last handle opened for a paint type and the texture it gave. A null handle is 0. -/
structure HandleCache where
  handle : ℕ
  texture : Option Resource
deriving DecidableEq

/-- One `OnAcceleratedPaint`: its arguments, and how its Direct3D calls go. -/
structure Paint where
  type : PaintElementType
  dirtyRects : List CefRect
  /-- `info.shared_texture_handle`. -/
  handle : ℕ
  /-- The texture that handle value denotes during this callback. -/
  resource : Resource
  openSharedResource1 : Bool
  /-- `CreateTexture2D` of the private popup texture. -/
  createPopupTexture : Bool
  create : Plane → CreateOutcome
  signal : Bool

/-- A paint in which every Direct3D call succeeds. -/
def Paint.succeeding (type : PaintElementType) (dirtyRects : List CefRect) (handle : ℕ)
    (resource : Resource) : Paint where
  type := type
  dirtyRects := dirtyRects
  handle := handle
  resource := resource
  openSharedResource1 := true
  createPopupTexture := true
  create := fun _ => ⟨true, true, true⟩
  signal := true

/-- Which code writes the header. -/
inductive Writer
  | view
  | popup
  /-- `UpdateSharedResizeHeader`, inside a view paint. -/
  | resize
  | load
  | cursor
  /-- `SharedFrameBuffer::WriteFrame`. -/
  | writeFrame
deriving DecidableEq

/-- What another process can observe right after one assignment to the header. -/
structure Observation where
  writer : Writer
  store : HeaderStore
  header : FrameHeader
  textures : SharedTextures
  gpu : GpuQueue

/-- The fields of `OsrHandler` behind the paint callbacks. -/
structure Painter where
  d3d : D3DInterfaces
  width : UInt32
  height : UInt32
  textures : SharedTextures
  cachedView : HandleCache
  cachedPopup : HandleCache
  popupTexture : Option Texture
  popupTexWidth : UInt32
  popupTexHeight : UInt32
  popupRect : CefRect
  popupClearRect : CefRect
  popupVisible : Bool
  usePopupDedicatedPlane : Bool
  writeSlot : UInt32
  nextFrameId : ℕ
  nextGpuFenceValue : ℕ
  framesSinceFlush : ℕ
  flushIntervalFrames : UInt32
  forceFullFrame : Bool
  warmupFullFrames : UInt32
  paintsCompleted : ℕ
  header : FrameHeader
  /-- How often the frame event was set. -/
  frameEvents : ℕ
  gpu : GpuQueue
  /-- Number of paint callbacks so far. -/
  paints : ℕ
  seen : List Observation

/-- `InitFrameHeaderDefaults` on the cleared mapping. -/
def initFrameHeaderDefaults : FrameHeader :=
  [.protocolMagic shmProtocolMagic, .version shmProtocolVersion,
    .slotCount (UInt32.ofNat shmFrameSlotCount), .writeSlot 0, .sequence 0, .frameId 0,
    .presentId 0, .gpuFenceValue 0, .flags frameFlagFullFrame, .popupVisible 0,
    .popupRect .zero, .dirtyCount 0].foldl FrameHeader.apply .cleared

namespace Painter

/-- After the constructor and `Init`. -/
def init (names : SharedMemoryNames) (d3d : D3DInterfaces) (width height : UInt32) : Painter where
  d3d := d3d
  width := width
  height := height
  textures := .init names
  cachedView := ⟨0, none⟩
  cachedPopup := ⟨0, none⟩
  popupTexture := none
  popupTexWidth := 0
  popupTexHeight := 0
  popupRect := .empty
  popupClearRect := .empty
  popupVisible := false
  usePopupDedicatedPlane := true
  writeSlot := 0
  nextFrameId := 1
  nextGpuFenceValue := 1
  framesSinceFlush := 0
  flushIntervalFrames := 1
  forceFullFrame := true
  warmupFullFrames := 3
  paintsCompleted := 0
  header := initFrameHeaderDefaults
  frameEvents := 0
  gpu := []
  paints := 0
  seen := []

/-! ### Writing the header -/

/-- What can be observed during a list of stores. -/
def observe (w : Writer) (t : SharedTextures) (q : GpuQueue) :
    FrameHeader → List HeaderStore → List Observation
  | _, [] => []
  | h, st :: sts => ⟨w, st, h.apply st, t, q⟩ :: observe w t q (h.apply st) sts

/-- The stores of `w`, in order. -/
def storeAll (s : Painter) (w : Writer) (sts : List HeaderStore) : Painter :=
  { s with
    header := sts.foldl FrameHeader.apply s.header
    seen := s.seen ++ observe w s.textures s.gpu s.header sts }

/-- The end of every publication: `sequence` is incremented, then the frame event set. -/
def bumpSequence (s : Painter) (w : Writer) : Painter :=
  let s := s.storeAll w [.sequence (s.header.sequence + 1)]
  { s with frameEvents := s.frameEvents + 1 }

/-- The end of a paint's publication. -/
def finishPublish (s : Painter) (w : Writer) : Painter :=
  let s := { s with nextFrameId := s.nextFrameId + 1 }
  let s := s.bumpSequence w
  { s with paintsCompleted := s.paintsCompleted + 1 }

def updateSharedResizeHeader (s : Painter) (width height : UInt32) : Painter :=
  s.storeAll .resize
    [.protocolMagic shmProtocolMagic, .version shmProtocolVersion,
      .slotCount (UInt32.ofNat shmFrameSlotCount), .width width, .height height,
      .writeSlot s.writeSlot, .gpuFenceValue 0, .flags (frameFlagFullFrame ||| frameFlagResized),
      .popupVisible 0, .popupRect .zero, .dirtyCount 0]

/-! ### Submitting work -/

/-- A copy into a shared texture, if there is one. -/
def copyInto (s : Painter) (p : Plane) (f : Texture → Texture) (src : CopySource) : Painter :=
  { s with
    textures := { s.textures with
      texture := Function.update s.textures.texture p ((s.textures.texture p).map f) }
    gpu := s.gpu ++ ((s.textures.texture p).map fun tx => .work (.copy tx.id src)).toList }

/-- Whether the publish signals the fence. -/
def signaledFence (s : Painter) (p : Paint) : Bool :=
  s.d3d.context4 && s.d3d.sharedFence && p.signal

/-- `gpuFenceValue` as published: the value signalled, or 0. -/
def gpuFenceValue (s : Painter) (p : Paint) : ℕ :=
  if s.signaledFence p then s.nextGpuFenceValue else 0

/-- The value the next publish will signal. A failed `Signal` still uses one up. -/
def nextFenceValue (s : Painter) : ℕ :=
  if s.d3d.context4 && s.d3d.sharedFence then s.nextGpuFenceValue + 1 else s.nextGpuFenceValue

/-- The signal a publish submits. -/
def signalCommands (s : Painter) (p : Paint) : GpuQueue :=
  if s.signaledFence p then [.signal s.nextGpuFenceValue] else []

/-- `context->Flush()` under a condition. -/
def flushCommands (b : Bool) : GpuQueue := if b then [.work .flush] else []

/-! ### `EnsureSharedTextures` -/

/-- The end of `EnsureSharedTextures`, after every step of the recreation has succeeded. -/
def adoptTextures (s : Painter) (t : SharedTextures) (width height : UInt32) : Painter :=
  let s := { s with
    textures := { t with sharedWidth := width, sharedHeight := height }
    writeSlot := 0
    forceFullFrame := true
    warmupFullFrames := 3 }
  s.updateSharedResizeHeader width height

/-- Returns whether the textures are ready, and `outRecreated`. -/
def ensureSharedTextures (s : Painter) (width height : UInt32) (create : Plane → CreateOutcome) :
    Painter × Bool × Bool :=
  if s.textures.alreadyReady width height then (s, true, false)
  else
    let (t, ok) := s.textures.recreate s.d3d.device width height create
    if ok then (s.adoptTextures t width height, true, true)
    else ({ s with textures := t }, false, false)

/-! ### Opening CEF's texture -/

/-- The cache of the paint's type. -/
def cache (s : Painter) : PaintElementType → HandleCache
  | .view => s.cachedView
  | .popup => s.cachedPopup

/-- Whether the handle is served from the cache. -/
def cacheHit (s : Painter) (p : Paint) : Bool :=
  p.handle == (s.cache p.type).handle && (s.cache p.type).texture.isSome

/-- `cefTexture`, if the paint gets one: the two early returns at the top of
`OnAcceleratedPaint`, and the choice between the cache and `OpenSharedResource1`. -/
def source (s : Painter) (p : Paint) : Option Resource :=
  if s.d3d.device1 && s.d3d.context then
    if s.cacheHit p then (s.cache p.type).texture
    else if p.openSharedResource1 then some p.resource else none
  else none

/-- The cache of the paint's type after it got its texture. -/
def remember (s : Painter) (p : Paint) (src : Resource) : Painter :=
  match p.type with
  | .view => { s with cachedView := ⟨p.handle, some src⟩ }
  | .popup => { s with cachedPopup := ⟨p.handle, some src⟩ }

/-! ### Popup paints -/

/-- Creates the private popup texture unless it has the right size; false if that failed. -/
def preparePopupTexture (s : Painter) (p : Paint) (src : Resource) : Painter × Bool :=
  if s.popupTexture.isNone || s.popupTexWidth != src.width || s.popupTexHeight != src.height then
    if p.createPopupTexture then
      ({ s with
          popupTexture := some (.create s.textures.nextTexture src.width src.height)
          popupTexWidth := src.width
          popupTexHeight := src.height
          textures := { s.textures with nextTexture := s.textures.nextTexture + 1 } }, true)
    else ({ s with popupTexture := none }, false)
  else (s, true)

/-- `context->CopyResource` from CEF's texture into the private popup texture. -/
def copyPopup (s : Painter) (src : Resource) : Painter :=
  { s with
    popupTexture := s.popupTexture.map fun tx => tx.copyResource (src.image s.paints)
    gpu := s.gpu ++ (s.popupTexture.map fun tx => .work (.copy tx.id (.cef src))).toList }

/-- `max(0, min(v, size))`, in `int32_t`. -/
def clamp (v : Int32) (size : UInt32) : Int32 :=
  let m := if v ≤ size.toInt32 then v else size.toInt32
  if 0 ≤ m then m else 0

/-- A rectangle by its corners. -/
structure Corners where
  x0 : Int32
  y0 : Int32
  x1 : Int32
  y1 : Int32

namespace Corners

/-- `validRect`. -/
def valid (r : Corners) : Bool := r.x0 < r.x1 && r.y0 < r.y1

def width (r : Corners) : Int32 := r.x1 - r.x0

def height (r : Corners) : Int32 := r.y1 - r.y0

def toDirty (r : Corners) : DirtyRect := ⟨r.x0, r.y0, r.width, r.height⟩

end Corners

/-- The rectangle a popup publish is about, cut to the frame. -/
def clampedPopupRect (s : Painter) : Corners :=
  let pr := if s.popupVisible then s.popupRect else s.popupClearRect
  { x0 := clamp pr.x s.textures.sharedWidth
    y0 := clamp pr.y s.textures.sharedHeight
    x1 := clamp (pr.x + pr.width) s.textures.sharedWidth
    y1 := clamp (pr.y + pr.height) s.textures.sharedHeight }

/-- The region of the private popup texture that starts at its corner. -/
def cornerBox (w h : Int32) : Box := ⟨0, 0, w.toUInt32, h.toUInt32⟩

/-- Copies the corner of the private popup texture to `(x, y)` of a shared one, under a condition
and if there is one. -/
def copyPopupRegion (s : Painter) (cond : Bool) (dst : Plane) (x y w h : Int32) : Painter :=
  match s.popupTexture with
  | some tx =>
    if cond then
      s.copyInto dst (fun d => d.copySubresourceRegion x.toUInt32 y.toUInt32 tx.toImage
        (cornerBox w h)) (.texture tx.id)
    else s
  | none => s

/-- The stores of a popup publish, `sequence` apart. -/
def popupStores (s : Painter) (r : Corners) (fence : ℕ) : List HeaderStore :=
  [.version shmProtocolVersion, .protocolMagic shmProtocolMagic,
    .slotCount (UInt32.ofNat shmFrameSlotCount), .width s.textures.sharedWidth,
    .height s.textures.sharedHeight, .writeSlot s.writeSlot,
    .flags (frameFlagPopupPlane ||| frameFlagDirtyOnly),
    .popupVisible (if s.popupVisible then 1 else 0), .popupRect s.popupRect.toDirty,
    .presentId s.nextFrameId, .gpuFenceValue fence, .frameId s.nextFrameId] ++
    if r.valid then [.dirtyCount 1, .dirtyRects ⟨0, by decide⟩ r.toDirty] else [.dirtyCount 0]

/-- A popup publish after its copy: the signal, or a flush, and the header. -/
def publishPopupPlane (s : Painter) (p : Paint) (r : Corners) : Painter :=
  let s' := { s with
    nextGpuFenceValue := s.nextFenceValue
    gpu := s.gpu ++ s.signalCommands p ++ flushCommands !s.signaledFence p }
  let s' := (s'.storeAll .popup (s.popupStores r (s.gpuFenceValue p))).finishPublish .popup
  { s' with popupClearRect := if s.popupVisible then s.popupClearRect else .empty }

/-- The dedicated-plane half of a popup paint. -/
def publishPopup (s : Painter) (p : Paint) : Painter :=
  let r := s.clampedPopupRect
  let s := s.copyPopupRegion (s.popupVisible && r.valid) .popup r.x0 r.y0 r.width r.height
  s.publishPopupPlane p r

/-- Whether a popup paint that has its texture publishes. -/
def popupPlaneReady (s : Painter) : Bool :=
  s.usePopupDedicatedPlane && (s.textures.texture .popup).isSome && 0 < s.textures.sharedWidth &&
    0 < s.textures.sharedHeight

def paintPopup (s : Painter) (p : Paint) (src : Resource) : Painter :=
  let (s, ok) := s.preparePopupTexture p src
  if ok then
    let s := s.copyPopup src
    if s.popupPlaneReady then s.publishPopup p else s
  else s

/-! ### View paints -/

/-- `(m_writeSlot + 1) % BUFFER_COUNT`. -/
def backSlot (slot : UInt32) : UInt32 := (slot + 1) % UInt32.ofNat shmFrameSlotCount

theorem backSlot_lt (slot : UInt32) : (backSlot slot).toNat < shmFrameSlotCount := by
  rw [backSlot, UInt32.toNat_mod]
  exact Nat.mod_lt _ (by decide)

def backPlane (slot : UInt32) : Plane := .ring ⟨(backSlot slot).toNat, backSlot_lt slot⟩

/-- `addDirty`: at most `MAX_DIRTY_RECTS`, then the overflow flag. -/
def addDirty (c : List DirtyRect × Bool) (r : DirtyRect) : List DirtyRect × Bool :=
  if c.1.length < maxDirtyRects then (c.1 ++ [r], c.2) else (c.1, true)

/-- The popup rectangle a legacy view paint reports as dirty. -/
def legacyPopupDirty (s : Painter) : List DirtyRect :=
  let pr := if s.popupVisible then s.popupRect else s.popupClearRect
  if !s.usePopupDedicatedPlane && 0 < pr.width && 0 < pr.height then [pr.toDirty] else []

/-- `collectedRects` with `nRects`, and `overflow`. -/
def collectDirty (s : Painter) (p : Paint) : List DirtyRect × Bool :=
  (p.dirtyRects.map CefRect.toDirty ++ s.legacyPopupDirty).foldl addDirty ([], false)

/-- In legacy mode the area of a hidden popup is refreshed once. -/
def clearLegacyPopup (s : Painter) : Painter :=
  if s.legacyPopupDirty.isEmpty || s.popupVisible then s
  else { s with popupClearRect := .empty }

/-- A visible popup is copied into the popup plane, or in legacy mode over the back buffer. -/
def compositePopup (s : Painter) : Painter :=
  s.copyPopupRegion (s.popupVisible && 0 < s.popupRect.width && 0 < s.popupRect.height)
    (if s.usePopupDedicatedPlane then .popup else backPlane s.writeSlot)
    s.popupRect.x s.popupRect.y s.popupRect.width s.popupRect.height

/-- `header->dirty_rects[i] = …` from index `i` on. The list has at most `MAX_DIRTY_RECTS`. -/
def dirtyStores : ℕ → List DirtyRect → List HeaderStore
  | _, [] => []
  | i, r :: rs =>
    if h : i < maxDirtyRects then .dirtyRects ⟨i, h⟩ r :: dirtyStores (i + 1) rs else []

/-- Whether a view publish carries the full frame. -/
def forceFull (s : Painter) (recreated overflow : Bool) : Bool :=
  s.forceFullFrame || recreated || 0 < s.warmupFullFrames || overflow

def viewFlags (s : Painter) (recreated overflow : Bool) : UInt32 :=
  frameFlagNone ||| (if recreated then frameFlagResized else 0) |||
    (if s.usePopupDedicatedPlane then frameFlagPopupPlane else 0) |||
    (if overflow then frameFlagOverflow else 0) |||
    (if s.forceFull recreated overflow then frameFlagFullFrame else frameFlagDirtyOnly)

/-- The dirty list of a view publish. -/
def viewDirtyStores (full : Bool) (rects : List DirtyRect) : List HeaderStore :=
  if full then [.dirtyCount 0] else .dirtyCount (UInt8.ofNat rects.length) :: dirtyStores 0 rects

/-- The rest of a view publish, `sequence` apart. -/
def viewStores (s : Painter) (src : Resource) (slot flags : UInt32) (fence : ℕ) :
    List HeaderStore :=
  [.version shmProtocolVersion, .protocolMagic shmProtocolMagic,
    .slotCount (UInt32.ofNat shmFrameSlotCount), .width src.width, .height src.height,
    .writeSlot slot, .flags flags,
    .popupVisible (if s.usePopupDedicatedPlane && s.popupVisible then 1 else 0),
    .popupRect s.popupRect.toDirty, .presentId s.nextFrameId, .gpuFenceValue fence,
    .frameId s.nextFrameId]

/-- `shouldFlush` of a view publish, with this frame counted. -/
def viewFlush (s : Painter) (p : Paint) (recreated full : Bool) : Bool :=
  !s.signaledFence p || recreated || full ||
    (0 < s.flushIntervalFrames && s.flushIntervalFrames.toNat ≤ s.framesSinceFlush + 1)

/-- The publishing half of a view paint: the dirty list, the signal and the flush, the slot, and
the rest of the header. -/
def publishView (s : Painter) (p : Paint) (src : Resource) (recreated : Bool)
    (collected : List DirtyRect × Bool) : Painter :=
  let full := s.forceFull recreated collected.2
  let flushed := s.viewFlush p recreated full
  let s' := { s with
    forceFullFrame := false
    warmupFullFrames := if 0 < s.warmupFullFrames then s.warmupFullFrames - 1 else 0 }
  let s' := s'.storeAll .view (viewDirtyStores full collected.1)
  let s' := { s' with
    nextGpuFenceValue := s.nextFenceValue
    gpu := s'.gpu ++ s.signalCommands p ++ flushCommands flushed
    framesSinceFlush := if flushed then 0 else s.framesSinceFlush + 1
    writeSlot := backSlot s.writeSlot }
  (s'.storeAll .view (s.viewStores src (backSlot s.writeSlot) (s.viewFlags recreated collected.2)
    (s.gpuFenceValue p))).finishPublish .view

def paintView (s : Painter) (p : Paint) (src : Resource) : Painter :=
  let (s, ok, recreated) := s.ensureSharedTextures src.width src.height p.create
  if ok then
    let s := s.copyInto (backPlane s.writeSlot)
      (fun dst => dst.copyResource (src.image s.paints)) (.cef src)
    let collected := s.collectDirty p
    let s := s.clearLegacyPopup.compositePopup
    s.publishView p src recreated collected
  else s

def onAcceleratedPaint (s : Painter) (p : Paint) : Painter :=
  let s := { s with paints := s.paints + 1 }
  match s.source p with
  | none => s
  | some src =>
    let s := s.remember p src
    match p.type with
    | .popup => s.paintPopup p src
    | .view => s.paintView p src

/-! ### The other callbacks -/

/-- A load callback: only the main frame's is passed on. -/
def setLoadState (s : Painter) (isMain : Bool) (v : CefLoadState) : Painter :=
  if isMain then (s.storeAll .load [.loadState v]).bumpSequence .load else s

def onLoadStart (s : Painter) (isMain : Bool) : Painter := s.setLoadState isMain .loading

def onLoadEnd (s : Painter) (isMain : Bool) (httpStatusCode : Int32) : Painter :=
  s.setLoadState isMain (if 400 ≤ httpStatusCode then .error else .ready)

def onLoadError (s : Painter) (isMain : Bool) : Painter := s.setLoadState isMain .error

def onCursorChange (s : Painter) (type : CefCursorType) : Painter :=
  s.storeAll .cursor [.cursorType type]

def onPopupShow (s : Painter) (visible : Bool) : Painter :=
  if visible then { s with popupVisible := true }
  else
    { s with
      popupClearRect := if 0 < s.popupRect.width then s.popupRect else s.popupClearRect
      popupVisible := false
      popupRect := .empty }

def onPopupSize (s : Painter) (rect : CefRect) : Painter := { s with popupRect := rect }

/-- `Resize`, without the notification of CEF. -/
def resize (s : Painter) (width height : UInt32) : Painter :=
  { s with width := width, height := height, forceFullFrame := true, warmupFullFrames := 3 }

end Painter

/-- What can happen to the painter between two paints, and a paint. -/
inductive Callback
  | paint (p : Paint)
  | loadStart (isMain : Bool)
  | loadEnd (isMain : Bool) (httpStatusCode : Int32)
  | loadError (isMain : Bool)
  | cursorChange (type : CefCursorType)
  | popupShow (visible : Bool)
  | popupSize (rect : CefRect)
  | resize (width height : UInt32)
  | setFlushIntervalFrames (frames : UInt32)

def Painter.step (s : Painter) : Callback → Painter
  | .paint p => s.onAcceleratedPaint p
  | .loadStart isMain => s.onLoadStart isMain
  | .loadEnd isMain status => s.onLoadEnd isMain status
  | .loadError isMain => s.onLoadError isMain
  | .cursorChange type => s.onCursorChange type
  | .popupShow visible => s.onPopupShow visible
  | .popupSize rect => s.onPopupSize rect
  | .resize width height => s.resize width height
  | .setFlushIntervalFrames frames => { s with flushIntervalFrames := frames }

end CefHost
