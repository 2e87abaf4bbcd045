import CefHost.SharedHandles

/-!
# What the host holds of the system

A handler holds twelve things of its four shared channels (a mapping, its view and an event each),
the handle of the shared fence, the raised timer period, and the handles of the shared textures.
`Init` acquires the channels and the fence, and any of its steps may fail; `Shutdown` gives
everything back. The destructor of a handler is the one of its members: a channel gives back what
it holds, the fence and the textures stay open.

## Main definitions

* `HostResources` — the members that hold something, and what has been given back
* `HostResources.init`, `HostResources.shutdown`, `HostResources.destroy`

## Main results

* `HostResources.Balanced.step` — one callback
* `host_resources_balanced` — every outcome of `Init`, and every run of callbacks
-/

namespace CefHost

open Ownership

inductive Channel
  | frame
  | input
  | control
  | console
deriving DecidableEq

/-- What a channel holds: `m_hMap`, `m_pData` or `m_pRing`, and `m_hEvent`. -/
inductive ChannelPart
  | map
  | view
  | event
deriving DecidableEq

/-- A member that holds something. -/
inductive Place
  | part (c : Channel) (k : ChannelPart)
  /-- `m_sharedFenceHandle`. -/
  | fence
  /-- `m_timerPeriodRaised`. -/
  | timerPeriod
deriving DecidableEq

/-- What the members hold, by the number of the call that gave it. -/
structure HostResources where
  held : Place → Option ℕ
  released : List ℕ
  issued : ℕ
  textures : SharedTextures

/-- Which calls of `Init` of a channel succeed. -/
structure ChannelOutcome where
  map : Bool
  view : Bool
  event : Bool

/-- Which calls of `InitD3DInterfaces` succeed. -/
structure FenceOutcome where
  device1 : Bool
  device5 : Bool
  context4 : Bool
  createFence : Bool
  createSharedHandle : Bool

structure InitOutcome where
  channel : Channel → ChannelOutcome
  d3d : FenceOutcome

/-- In the order of `InitSharedChannels` and of their declaration. -/
def channels : List Channel := [.frame, .input, .control, .console]

namespace HostResources

/-- After the constructor. -/
def start (names : SharedMemoryNames) : HostResources where
  held := fun _ => none
  released := []
  issued := 0
  textures := .init names

/-- `m = Create…()`: null when the call fails. -/
def acquire (r : HostResources) (p : Place) (ok : Bool) : HostResources :=
  if ok then
    { r with held := Function.update r.held p (some r.issued), issued := r.issued + 1 }
  else { r with held := Function.update r.held p none }

/-- `if (m) { Close…(m); m = nullptr; }`. -/
def giveBack (r : HostResources) (p : Place) : HostResources :=
  { r with
    held := Function.update r.held p none
    released := r.released ++ (r.held p).toList }

/-- `Init` of a channel. -/
def initChannel (r : HostResources) (c : Channel) (o : ChannelOutcome) : HostResources × Bool :=
  let r := r.acquire (.part c .map) o.map
  if !o.map then (r, false)
  else
    let r := r.acquire (.part c .view) o.view
    if !o.view then (r, false)
    else (r.acquire (.part c .event) o.event, o.event)

/-- `Shutdown` of a channel, which is also its destructor. -/
def shutdownChannel (r : HostResources) (c : Channel) : HostResources :=
  ((r.giveBack (.part c .view)).giveBack (.part c .map)).giveBack (.part c .event)

/-- The channels in a row, up to the first that fails. -/
def initChannels (o : Channel → ChannelOutcome) :
    HostResources → List Channel → HostResources × Bool
  | r, [] => (r, true)
  | r, c :: cs =>
    let (r, ok) := r.initChannel c (o c)
    if ok then initChannels o r cs else (r, false)

def initSharedChannels (r : HostResources) (o : Channel → ChannelOutcome) : HostResources × Bool :=
  initChannels o r channels

/-- The fence is kept when all four steps to its handle succeed; without one the host goes on. -/
def initD3DInterfaces (r : HostResources) (o : FenceOutcome) : HostResources × Bool :=
  if !o.device1 then (r, false)
  else if o.device5 && o.context4 && o.createFence && o.createSharedHandle then
    (r.acquire .fence true, true)
  else (r, true)

def init (r : HostResources) (o : InitOutcome) : HostResources × Bool :=
  let (r, ok) := r.initSharedChannels o.channel
  if ok then r.initD3DInterfaces o.d3d else (r, false)

/-- `StartRenderLoop`; `periodSet` is whether `timeBeginPeriod` succeeds. -/
def startRenderLoop (r : HostResources) (periodSet : Bool) : HostResources :=
  if (r.held .timerPeriod).isNone && periodSet then r.acquire .timerPeriod true else r

def stopRenderLoop (r : HostResources) : HostResources := r.giveBack .timerPeriod

def releaseSharedTextureResources (r : HostResources) : HostResources :=
  { r with textures := r.textures.resetSharedTextureRing.resetSharedPopupPlane }

def releaseD3DResources (r : HostResources) : HostResources := r.giveBack .fence

def shutdownSharedChannels (r : HostResources) : HostResources :=
  channels.foldl shutdownChannel r

def shutdown (r : HostResources) : HostResources :=
  r.stopRenderLoop.releaseSharedTextureResources.releaseD3DResources.shutdownSharedChannels

/-- The destructors of the members, in the reverse order of their declaration, once the worker
threads have been joined: the destructor of a thread that runs ends the process. -/
def destroy (r : HostResources) : HostResources := channels.reverse.foldl shutdownChannel r

def ensureSharedTextures (r : HostResources) (device : Bool) (call : EnsureCall) : HostResources :=
  if r.textures.alreadyReady call.width call.height then r
  else { r with textures := (r.textures.recreate device call.width call.height call.create).1 }

end HostResources

/-- What acquires or gives back after `Init`. -/
inductive HostOp
  /-- `OnAfterCreated`. -/
  | afterCreated (periodSet : Bool)
  /-- `OnBeforeClose`. -/
  | beforeClose
  /-- `EnsureSharedTextures`, in a paint. -/
  | ensure (device : Bool) (call : EnsureCall)
  | shutdown

namespace HostResources

def step (r : HostResources) : HostOp → HostResources
  | .afterCreated periodSet => r.startRenderLoop periodSet
  | .beforeClose => r.stopRenderLoop
  | .ensure device call => r.ensureSharedTextures device call
  | .shutdown => r.shutdown

variable {r : HostResources}

/-! ### One member -/

theorem acquire_held_of_ne {p q : Place} (h : q ≠ p) (ok : Bool) :
    (r.acquire p ok).held q = r.held q := by
  cases ok <;> exact Function.update_of_ne h _ _

theorem acquire_textures (r : HostResources) (p : Place) (ok : Bool) :
    (r.acquire p ok).textures = r.textures := by
  cases ok <;> rfl

theorem giveBack_held (r : HostResources) (p q : Place) :
    (r.giveBack p).held q = if q = p then none else r.held q := by
  rw [giveBack]
  exact Function.update_apply _ _ _ _

theorem giveBack_self (r : HostResources) (p : Place) : (r.giveBack p).held p = none := by
  rw [giveBack_held, if_pos rfl]

theorem giveBack_released_of_none {p : Place} (h : r.held p = none) :
    (r.giveBack p).released = r.released := by
  rw [giveBack, h]
  exact List.append_nil _

/-- Everything is held by one member, or was given back once. -/
structure Balanced (r : HostResources) : Prop where
  members : Ownership.Balanced r.held r.released r.issued
  textures : r.textures.HandlesBalanced

namespace Balanced

theorem acquire (h : r.Balanced) {p : Place} (hp : r.held p = none) (ok : Bool) :
    (r.acquire p ok).Balanced := by
  cases ok with
  | true => exact ⟨h.members.issue hp, h.textures⟩
  | false => exact ⟨h.members.clear hp, h.textures⟩

theorem giveBack (h : r.Balanced) (p : Place) : (r.giveBack p).Balanced :=
  ⟨h.members.release p, h.textures⟩

end Balanced

/-! ### Channels -/

/-- What `Init` of a channel leaves of the other members. -/
theorem initChannel_held (r : HostResources) {c : Channel} {p : Place}
    (hp : ∀ k, p ≠ .part c k) (o : ChannelOutcome) : (r.initChannel c o).1.held p = r.held p := by
  rw [initChannel]
  dsimp only
  split
  · exact acquire_held_of_ne (hp .map) _
  · split
    · rw [acquire_held_of_ne (hp .view), acquire_held_of_ne (hp .map)]
    · rw [acquire_held_of_ne (hp .event), acquire_held_of_ne (hp .view),
        acquire_held_of_ne (hp .map)]

theorem initChannel_textures (r : HostResources) (c : Channel) (o : ChannelOutcome) :
    (r.initChannel c o).1.textures = r.textures := by
  rw [initChannel]
  dsimp only
  split
  · exact acquire_textures _ _ _
  · split
    · rw [acquire_textures, acquire_textures]
    · rw [acquire_textures, acquire_textures, acquire_textures]

theorem Balanced.initChannel (h : r.Balanced) {c : Channel}
    (hc : ∀ k, r.held (.part c k) = none) (o : ChannelOutcome) :
    (r.initChannel c o).1.Balanced := by
  have hmap := h.acquire (hc .map) o.map
  have hview : (r.acquire (.part c .map) o.map).held (.part c .view) = none := by
    rw [acquire_held_of_ne (by simp), hc]
  have hevent : ((r.acquire (.part c .map) o.map).acquire (.part c .view) o.view).held
      (.part c .event) = none := by
    rw [acquire_held_of_ne (by simp), acquire_held_of_ne (by simp), hc]
  rw [HostResources.initChannel]
  dsimp only
  split
  · exact hmap
  · split
    · exact hmap.acquire hview o.view
    · exact (hmap.acquire hview o.view).acquire hevent o.event

/-- The channels in a row, while those that are left hold nothing. -/
theorem initChannels_spec (o : Channel → ChannelOutcome) {cs : List Channel} (hnd : cs.Nodup)
    (h : r.Balanced) (hcs : ∀ c ∈ cs, ∀ k, r.held (.part c k) = none) :
    (initChannels o r cs).1.Balanced ∧
      ∀ p, (∀ c ∈ cs, ∀ k, p ≠ .part c k) → (initChannels o r cs).1.held p = r.held p := by
  induction cs generalizing r with
  | nil => exact ⟨h, fun _ _ => rfl⟩
  | cons c cs ih =>
    obtain ⟨hnot, hnd⟩ := List.nodup_cons.mp hnd
    have hfirst := h.initChannel (hcs c List.mem_cons_self) (o c)
    have hframe : ∀ p, (∀ k, p ≠ .part c k) → (r.initChannel c (o c)).1.held p = r.held p :=
      fun p hp => r.initChannel_held hp (o c)
    rw [initChannels]
    dsimp only
    split
    · obtain ⟨hbalanced, hrest⟩ := ih hnd hfirst fun c' hc' k => by
        rw [hframe _ fun k' heq => hnot (by cases heq; exact hc')]
        exact hcs c' (List.mem_cons_of_mem c hc') k
      refine ⟨hbalanced, fun p hp => ?_⟩
      rw [hrest p fun c' hc' => hp c' (List.mem_cons_of_mem c hc'),
        hframe p (hp c List.mem_cons_self)]
    · exact ⟨hfirst, fun p hp => hframe p (hp c List.mem_cons_self)⟩

theorem initChannels_textures (o : Channel → ChannelOutcome) (cs : List Channel)
    (r : HostResources) : (initChannels o r cs).1.textures = r.textures := by
  induction cs generalizing r with
  | nil => rfl
  | cons c cs ih =>
    rw [initChannels]
    dsimp only
    split
    · rw [ih, initChannel_textures]
    · exact initChannel_textures r c (o c)

theorem giveBack_held_of_none {q : Place} (h : r.held q = none) (p : Place) :
    (r.giveBack p).held q = none := by
  rw [giveBack_held, h, ite_self]

/-- What `Shutdown` of a channel leaves of the other members. -/
theorem shutdownChannel_held_of_ne (r : HostResources) {c : Channel} {p : Place}
    (hp : ∀ k, p ≠ .part c k) : (r.shutdownChannel c).held p = r.held p := by
  rw [shutdownChannel, giveBack_held, if_neg (hp .event), giveBack_held, if_neg (hp .map),
    giveBack_held, if_neg (hp .view)]

theorem shutdownChannel_held_of_none {p : Place} (h : r.held p = none) (c : Channel) :
    (r.shutdownChannel c).held p = none :=
  giveBack_held_of_none (giveBack_held_of_none (giveBack_held_of_none h _) _) _

theorem shutdownChannel_part (r : HostResources) (c : Channel) (k : ChannelPart) :
    (r.shutdownChannel c).held (.part c k) = none := by
  match k with
  | .view => exact giveBack_held_of_none (giveBack_held_of_none (giveBack_self r _) _) _
  | .map => exact giveBack_held_of_none (giveBack_self _ _) _
  | .event => exact giveBack_self _ _

/-- A member of none of the channels keeps what it holds. -/
theorem foldl_shutdownChannel_of_ne {cs : List Channel} {p : Place}
    (hp : ∀ c ∈ cs, ∀ k, p ≠ .part c k) (r : HostResources) :
    (cs.foldl shutdownChannel r).held p = r.held p := by
  induction cs generalizing r with
  | nil => rfl
  | cons c cs ih =>
    rw [List.foldl_cons, ih fun c' hc' => hp c' (List.mem_cons_of_mem c hc'),
      shutdownChannel_held_of_ne r (hp c List.mem_cons_self)]

theorem foldl_shutdownChannel_of_none {cs : List Channel} {p : Place} (h : r.held p = none) :
    (cs.foldl shutdownChannel r).held p = none := by
  induction cs generalizing r with
  | nil => exact h
  | cons c cs ih => exact ih (shutdownChannel_held_of_none h c)

/-- The channels hold nothing afterwards. -/
theorem foldl_shutdownChannel_part {cs : List Channel} {c : Channel} (hc : c ∈ cs)
    (k : ChannelPart) (r : HostResources) :
    (cs.foldl shutdownChannel r).held (.part c k) = none := by
  induction cs generalizing r with
  | nil => cases hc
  | cons c' cs ih =>
    rcases List.mem_cons.mp hc with rfl | hc
    · rw [List.foldl_cons]
      exact foldl_shutdownChannel_of_none (r.shutdownChannel_part c k)
    · exact ih hc _

theorem Balanced.shutdownChannels (h : r.Balanced) (cs : List Channel) :
    (cs.foldl shutdownChannel r).Balanced := by
  induction cs generalizing r with
  | nil => exact h
  | cons c cs ih => exact ih (((h.giveBack _).giveBack _).giveBack _)

theorem foldl_shutdownChannel_textures (cs : List Channel) (r : HostResources) :
    (cs.foldl shutdownChannel r).textures = r.textures := by
  induction cs generalizing r with
  | nil => rfl
  | cons c cs ih => exact ih _

/-- Channels that hold nothing give nothing back. -/
theorem foldl_shutdownChannel_released {cs : List Channel}
    (h : ∀ c k, r.held (.part c k) = none) :
    (cs.foldl shutdownChannel r).released = r.released := by
  induction cs generalizing r with
  | nil => rfl
  | cons c cs ih =>
    have hc : (r.shutdownChannel c).released = r.released := by
      rw [shutdownChannel,
        giveBack_released_of_none (giveBack_held_of_none (giveBack_held_of_none (h c .event) _) _),
        giveBack_released_of_none (giveBack_held_of_none (h c .map) _),
        giveBack_released_of_none (h c .view)]
    rw [List.foldl_cons, ih fun c' k => shutdownChannel_held_of_none (h c' k) c, hc]

theorem mem_channels (c : Channel) : c ∈ channels := by cases c <;> decide

/-! ### Init -/

theorem balanced_start (names : SharedMemoryNames) : (start names).Balanced :=
  ⟨.empty, SharedTextures.handlesBalanced_init names⟩

/-- `Init` does not touch the textures. -/
theorem init_textures (r : HostResources) (o : InitOutcome) :
    (r.init o).1.textures = r.textures := by
  have hchannels : (r.initSharedChannels o.channel).1.textures = r.textures :=
    initChannels_textures o.channel channels r
  rw [init]
  dsimp only
  split
  · rw [initD3DInterfaces]
    split
    · exact hchannels
    · split
      · rw [acquire_textures]
        exact hchannels
      · exact hchannels
  · exact hchannels

/-- `Init`, however far it gets: the timer period is not raised, and without success there is no
fence. -/
theorem init_spec (names : SharedMemoryNames) (o : InitOutcome) :
    ((start names).init o).1.Balanced ∧ ((start names).init o).1.held .timerPeriod = none ∧
      (((start names).init o).2 = false → ((start names).init o).1.held .fence = none) := by
  obtain ⟨hbalanced, hframe⟩ := initChannels_spec (r := start names) o.channel
    (show channels.Nodup by decide) (balanced_start names) fun _ _ _ => rfl
  have htimer : ((start names).initSharedChannels o.channel).1.held .timerPeriod = none :=
    hframe _ fun _ _ _ => Place.noConfusion
  have hfence : ((start names).initSharedChannels o.channel).1.held .fence = none :=
    hframe _ fun _ _ _ => Place.noConfusion
  rw [init]
  dsimp only
  split
  · rw [initD3DInterfaces]
    split
    · exact ⟨hbalanced, htimer, fun _ => hfence⟩
    · split
      · refine ⟨hbalanced.acquire hfence true, ?_, fun h => Bool.noConfusion h⟩
        rw [acquire_held_of_ne (by decide), htimer]
      · exact ⟨hbalanced, htimer, fun _ => hfence⟩
  · exact ⟨hbalanced, htimer, fun _ => hfence⟩

/-! ### The callbacks -/

theorem Balanced.shutdown (h : r.Balanced) : r.shutdown.Balanced := by
  have hreleased : r.stopRenderLoop.releaseSharedTextureResources.Balanced :=
    ⟨(h.giveBack .timerPeriod).members, h.textures.cleared⟩
  exact (hreleased.giveBack .fence).shutdownChannels channels

/-- **One callback.** -/
theorem Balanced.step (h : r.Balanced) (op : HostOp) : (r.step op).Balanced := by
  match op with
  | .afterCreated periodSet =>
    show (r.startRenderLoop periodSet).Balanced
    rw [startRenderLoop]
    split
    · next hset =>
      have hnone : r.held .timerPeriod = none := by
        rw [Bool.and_eq_true, Option.isNone_iff_eq_none] at hset
        exact hset.1
      exact h.acquire hnone true
    · exact h
  | .beforeClose => exact h.giveBack .timerPeriod
  | .ensure device call =>
    show (r.ensureSharedTextures device call).Balanced
    rw [ensureSharedTextures]
    split
    · exact h
    · exact ⟨h.members, h.textures.recreate device call.width call.height call.create⟩
  | .shutdown => exact h.shutdown

/-- `Shutdown` leaves nothing. -/
theorem shutdown_held (r : HostResources) (p : Place) : r.shutdown.held p = none := by
  rw [shutdown, shutdownSharedChannels]
  match p with
  | .part c k => exact foldl_shutdownChannel_part (mem_channels c) k _
  | .fence =>
    refine foldl_shutdownChannel_of_none ?_
    rw [releaseD3DResources, giveBack_held, if_pos rfl]
  | .timerPeriod =>
    refine foldl_shutdownChannel_of_none (giveBack_held_of_none ?_ _)
    show r.stopRenderLoop.held .timerPeriod = none
    rw [stopRenderLoop, giveBack_held, if_pos rfl]

theorem shutdown_textures (r : HostResources) :
    r.shutdown.textures = r.textures.resetSharedTextureRing.resetSharedPopupPlane := by
  rw [shutdown, shutdownSharedChannels, foldl_shutdownChannel_textures, releaseD3DResources]
  rfl

/-- The destructors leave the fence and the timer period. -/
theorem destroy_held (r : HostResources) (p : Place) :
    r.destroy.held p = if p = .fence ∨ p = .timerPeriod then r.held p else none := by
  rw [destroy]
  match p with
  | .part c k =>
    rw [if_neg (by simp)]
    exact foldl_shutdownChannel_part (List.mem_reverse.mpr (mem_channels c)) k r
  | .fence =>
    rw [if_pos (Or.inl rfl)]
    exact foldl_shutdownChannel_of_ne (fun _ _ _ => Place.noConfusion) r
  | .timerPeriod =>
    rw [if_pos (Or.inr rfl)]
    exact foldl_shutdownChannel_of_ne (fun _ _ _ => Place.noConfusion) r

theorem foldl_shutdownChannel_issued (cs : List Channel) (r : HostResources) :
    (cs.foldl shutdownChannel r).issued = r.issued := by
  induction cs generalizing r with
  | nil => rfl
  | cons c cs ih => exact ih _

/-- A failed `Init`, and the destructors after it. -/
theorem mem_destroy_released_of_failed {names : SharedMemoryNames} {o : InitOutcome}
    (hfailed : ((start names).init o).2 = false) {a : ℕ}
    (ha : a < ((start names).init o).1.issued) : a ∈ ((start names).init o).1.destroy.released := by
  obtain ⟨hinit, htimer, hfence⟩ := init_spec names o
  have hdestroyed : ((start names).init o).1.destroy.Balanced := hinit.shutdownChannels _
  refine hdestroyed.members.exact.mem_released (fun p => ?_) ?_
  · rw [destroy_held]
    split
    · next hp =>
      rcases hp with rfl | rfl
      · exact hfence hfailed
      · exact htimer
    · rfl
  · rw [destroy, foldl_shutdownChannel_issued]
    exact ha

theorem Balanced.mem_shutdown_released (h : r.Balanced) {a : ℕ} (ha : a < r.issued) :
    a ∈ r.shutdown.released := by
  refine h.shutdown.members.exact.mem_released r.shutdown_held ?_
  rw [HostResources.shutdown, shutdownSharedChannels, foldl_shutdownChannel_issued]
  exact ha

/-- The numbers of the texture handles that have been closed. -/
def closedHandles (r : HostResources) : List ℕ := r.textures.closed.map NtHandle.serial

theorem shutdown_serialOf (r : HostResources) (p : Plane) :
    r.shutdown.textures.serialOf p = none := by
  rw [shutdown_textures]
  exact congrArg (Option.map NtHandle.serial) (r.textures.cleared_empty p).2

theorem Balanced.mem_shutdown_closedHandles (h : r.Balanced) {a : ℕ}
    (ha : a < r.textures.nextHandle) : a ∈ r.shutdown.closedHandles := by
  have hexact := h.shutdown.textures.exact
  refine hexact.mem_released r.shutdown_serialOf ?_
  rw [shutdown_textures]
  exact ha

end HostResources

/-- **Nothing the host acquires is lost or closed twice**, for every outcome of the steps of `Init`
and every run of callbacks in which any step of the textures may fail.

* A failed `Init` leaks nothing: the destructors give back all it has acquired.
* After `Init`, what has not been given back is exactly what the members hold, and nothing has been
  given back twice. This holds of the channels, the fence and the timer period, and of the texture
  handles.
* `Shutdown` gives back all of it, and the destructors after it give back nothing more.
* The destructors alone give nothing back twice, and leave the fence, the timer period and the
  textures. -/
theorem host_resources_balanced (names : SharedMemoryNames) (o : InitOutcome)
    (ops : List HostOp) :
    let i := (HostResources.start names).init o
    let r := Runs.run HostResources.step i.1 ops
    let s := r.shutdown
    (i.2 = false → i.1.textures.nextHandle = 0 ∧ i.1.destroy.released.Nodup ∧
        ∀ a < i.1.issued, a ∈ i.1.destroy.released) ∧
      (Exact r.held r.released r.issued ∧
        Exact r.textures.serialOf r.closedHandles r.textures.nextHandle) ∧
      ((s.released.Nodup ∧ (∀ p, s.held p = none) ∧ ∀ a < r.issued, a ∈ s.released) ∧
        (s.closedHandles.Nodup ∧ (∀ p, s.textures.handle p = none) ∧
          ∀ a < r.textures.nextHandle, a ∈ s.closedHandles) ∧
        s.destroy.released = s.released ∧ s.destroy.closedHandles = s.closedHandles) ∧
      r.destroy.released.Nodup ∧
      (∀ p, r.destroy.held p = if p = .fence ∨ p = .timerPeriod then r.held p else none) ∧
      r.destroy.textures = r.textures := by
  intro i r s
  have hinit := (HostResources.init_spec names o).1
  have hr : r.Balanced :=
    Runs.invariant (I := HostResources.Balanced) (fun _ op h => h.step op) hinit ops
  have hdestroy : ∀ {r : HostResources}, r.Balanced → r.destroy.Balanced :=
    fun h => h.shutdownChannels _
  refine ⟨fun hfailed => ⟨?_, (hdestroy hinit).members.released_nodup, fun a ha =>
      HostResources.mem_destroy_released_of_failed hfailed ha⟩,
    ⟨hr.members.exact, hr.textures.exact⟩, ⟨⟨hr.shutdown.members.released_nodup, r.shutdown_held,
      fun a ha => hr.mem_shutdown_released ha⟩, ⟨hr.shutdown.textures.released_nodup, fun p => ?_,
      fun a ha => hr.mem_shutdown_closedHandles ha⟩, ?_, ?_⟩,
    (hdestroy hr).members.released_nodup, r.destroy_held,
    HostResources.foldl_shutdownChannel_textures _ _⟩
  · rw [HostResources.init_textures]
    rfl
  · rw [r.shutdown_textures]
    exact (r.textures.cleared_empty p).2
  · exact HostResources.foldl_shutdownChannel_released fun c k => r.shutdown_held _
  · exact congrArg (fun t : SharedTextures => t.closed.map NtHandle.serial)
      (HostResources.foldl_shutdownChannel_textures _ _)

end CefHost
