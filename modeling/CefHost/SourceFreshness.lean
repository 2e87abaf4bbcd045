import CefHost.Library.Runs
import CefHost.PaintOutcome

/-!
# Where a published frame comes from

CEF lends the paint callback a texture under a handle that is valid for that callback only.
`OnAcceleratedPaint` keeps the texture it opened last and serves it again when the next callback
of the same type brings an *equal handle value*, whatever that value denotes by then.

The commands a paint submits are inspected for the resources of CEF they read: a published frame
is fresh when they read the resource its own handle denotes, and nothing else of CEF's.

## Main results

* `Painter.onAcceleratedPaint_submits` — a published frame reads exactly the texture the paint got
* `Painter.lastOpened_run` — what the caches hold, in terms of the callbacks
* `Painter.freshSource_iff` — it is the right one unless the cache serves another
* `published_fresh_iff_cacheCurrent` — whole runs of callbacks
* `recycled_handle_stale` — the handle value comes back for another texture
-/

namespace CefHost

open GpuTimeline

/-- The resource of CEF a command reads. -/
def GpuWork.cefSource : Command GpuWork → Option Resource
  | .work (.copy _ (.cef r)) => some r
  | _ => none

/-- The resources of CEF a list of commands reads. -/
def cefSources (q : GpuQueue) : List Resource := q.filterMap GpuWork.cefSource

@[simp] theorem cefSources_append (q q' : GpuQueue) :
    cefSources (q ++ q') = cefSources q ++ cefSources q' := List.filterMap_append

theorem cefSources_eq_nil {q : GpuQueue} (h : ∀ k ∈ q, GpuWork.cefSource k = none) :
    cefSources q = [] := List.filterMap_eq_nil_iff.mpr h

namespace Painter

/-- Between the two states commands were submitted that read the resources `rs` of CEF. -/
def Submits (s s' : Painter) (rs : List Resource) : Prop :=
  ∃ q, s'.gpu = s.gpu ++ q ∧ cefSources q = rs

theorem Submits.trans {s s' s'' : Painter} {rs rs' : List Resource} (h : Submits s s' rs)
    (h' : Submits s' s'' rs') : Submits s s'' (rs ++ rs') := by
  obtain ⟨q, hq, hrs⟩ := h
  obtain ⟨q', hq', hrs'⟩ := h'
  refine ⟨q ++ q', ?_, ?_⟩
  · rw [hq', hq, List.append_assoc]
  · rw [cefSources_append, hrs, hrs']

variable {s : Painter} {p : Paint} {src : Resource}

/-- Signalling and flushing read nothing. -/
theorem cefSources_signal_flush (b : Bool) :
    cefSources (s.signalCommands p ++ flushCommands b) = [] := by
  refine cefSources_eq_nil fun k hk => ?_
  rcases mem_signalCommands_flush hk with ⟨-, rfl⟩ | rfl <;> rfl

theorem publishView_submits (s : Painter) (p : Paint) (src : Resource) (recreated : Bool)
    (collected : List DirtyRect × Bool) :
    Submits s (s.publishView p src recreated collected) [] :=
  ⟨_, publishView_gpu s p src recreated collected, cefSources_signal_flush _⟩

theorem copied_submits (src : Resource) {tx : Texture}
    (htx : s.textures.texture (backPlane s.writeSlot) = some tx) :
    Submits s (s.copied src) [src] := by
  obtain ⟨t, q, rect, heq, -, -, -, hq⟩ := copied_eq src htx
  rw [heq]
  refine ⟨_, rfl, ?_⟩
  have hnil : cefSources q = [] := by
    refine cefSources_eq_nil fun k hk => ?_
    obtain ⟨ptx, ux, r, -, -, -, rfl⟩ := hq k hk
    rfl
  change src :: cefSources q = [src]
  rw [hnil]

/-- A view paint that publishes reads the texture it got. -/
theorem paintView_submits (h : s.texturesReady src.width src.height p.create = true) :
    Submits s (s.paintView p src) [src] := by
  rcases texturesReady_cases h with hready | ⟨hready, hok⟩
  · obtain ⟨tx, htx⟩ := ready_back hready
    rw [paintView_ready hready]
    exact (copied_submits src htx).trans (publishView_submits _ p src false (s.collectDirty p))
  · obtain ⟨tx, htx⟩ := recreated_back hok
    rw [paintView_recreated hready hok]
    -- `adoptTextures` submits nothing
    obtain ⟨q, hq, hsrc⟩ := (copied_submits src htx).trans
      (publishView_submits _ p src true (s.collectDirty p))
    exact ⟨q, hq, hsrc⟩

theorem publishPopup_submits (s : Painter) (p : Paint) : Submits s (s.publishPopup p) [] := by
  obtain ⟨t, q, heq, -, -, hq⟩ := s.publishPopup_eq p
  have hnil : cefSources q = [] := by
    refine cefSources_eq_nil fun k hk => ?_
    obtain ⟨ptx, ux, -, -, rfl⟩ := hq k hk
    rfl
  have hcopy : Submits s { s with textures := t, gpu := s.gpu ++ q } [] := ⟨q, rfl, hnil⟩
  rw [heq]
  exact hcopy.trans ⟨_, publishPopupPlane_gpu _ p _, cefSources_signal_flush _⟩

/-- So does a popup paint. -/
theorem paintPopup_submits (h : s.popupTextureReady p src = true)
    (hplane : s.popupPlaneReady = true) : Submits s (s.paintPopup p src) [src] := by
  obtain ⟨tx, n, heq, -⟩ := paintPopup_ready h
  rw [heq]
  dsimp only
  rw [if_pos hplane]
  obtain ⟨q, hq, hsrc⟩ := ((s.withPopup src tx n).copyPopup src).publishPopup_submits p
  refine ⟨.work (.copy tx.id (.cef src)) :: q, ?_, ?_⟩
  · rw [hq]
    exact List.append_assoc s.gpu [.work (.copy tx.id (.cef src))] q
  · change src :: cefSources q = [src]
    rw [hsrc]

/-- **What a published frame reads** of CEF's is exactly the texture the paint got. -/
theorem onAcceleratedPaint_submits (h : s.publishes p = true) :
    ∃ src, s.source p = some src ∧ Submits s (s.onAcceleratedPaint p) [src] := by
  rw [publishes] at h
  cases hsrc : s.source p with
  | none => rw [hsrc] at h; cases h
  | some src =>
    rw [hsrc] at h
    refine ⟨src, rfl, ?_⟩
    obtain ⟨view, popup, hopened⟩ := s.opened_eq p src
    cases ht : p.type with
    | view =>
      rw [ht] at h
      rw [onAcceleratedPaint_view hsrc ht, hopened]
      exact paintView_submits h
    | popup =>
      rw [ht] at h
      obtain ⟨htex, hplane⟩ := (Bool.and_eq_true _ _).mp h
      rw [onAcceleratedPaint_popup hsrc ht, hopened]
      exact paintPopup_submits htex hplane

/-! ### The caches -/

/-- A paint leaves the caches alone once it has its texture. -/
theorem paintView_cache (s : Painter) (p : Paint) (src : Resource) (type : PaintElementType) :
    (s.paintView p src).cache type = s.cache type := by
  cases h : s.texturesReady src.width src.height p.create with
  | false =>
    rw [paintView_failed h]
    cases type <;> rfl
  | true =>
    rcases texturesReady_cases h with hready | ⟨hready, hok⟩
    · obtain ⟨tx, htx⟩ := ready_back hready
      obtain ⟨t, q, rect, heq, -⟩ := copied_eq src htx
      rw [paintView_ready hready, heq, publishView_eq]
      cases type <;> rfl
    · obtain ⟨tx, htx⟩ := recreated_back hok
      obtain ⟨t, q, rect, heq, -⟩ := copied_eq (s := s.adoptTextures _ src.width src.height) src htx
      rw [paintView_recreated hready hok, heq, publishView_eq, adoptTextures_eq]
      cases type <;> rfl

theorem paintPopup_cache (s : Painter) (p : Paint) (src : Resource) (type : PaintElementType) :
    (s.paintPopup p src).cache type = s.cache type := by
  cases h : s.popupTextureReady p src with
  | false =>
    rw [paintPopup_failed h]
    cases type <;> rfl
  | true =>
    obtain ⟨tx, n, heq, -⟩ := paintPopup_ready h
    rw [heq]
    dsimp only
    split
    · obtain ⟨t, q, hpub, -⟩ := ((s.withPopup src tx n).copyPopup src).publishPopup_eq p
      rw [hpub, publishPopupPlane_eq]
      cases type <;> rfl
    · cases type <;> rfl

theorem setLoadState_cache (s : Painter) (isMain : Bool) (v : CefLoadState)
    (type : PaintElementType) : (s.setLoadState isMain v).cache type = s.cache type := by
  obtain ⟨header, seen, events, heq⟩ := s.setLoadState_eq isMain v
  rw [heq]
  cases type <;> rfl

/-- What the callback makes of the cache of a type: the texture is opened unless the handle value is
the cached one, and replaces what was cached. -/
def reopened (d3d : D3DInterfaces) (type : PaintElementType) (c : HandleCache) :
    Callback → HandleCache
  | .paint p =>
    if p.type = type ∧ (d3d.device1 && d3d.context) = true ∧
        ¬ (p.handle == c.handle && c.texture.isSome) = true ∧ p.openSharedResource1 = true then
      ⟨p.handle, some p.resource⟩
    else c
  | _ => c

/-- A paint that gets a texture remembers it, and one from the cache is remembered already. -/
theorem remember_cache (hsrc : s.source p = some src) (type : PaintElementType) :
    (s.opened p src).cache type = reopened s.d3d type (s.cache type) (.paint p) := by
  have hdevice := device_of_source hsrc
  rw [source, if_pos hdevice] at hsrc
  by_cases htype : p.type = type
  · subst htype
    have hremembered : (s.opened p src).cache p.type = ⟨p.handle, some src⟩ := by
      rw [opened, remember]
      cases p.type <;> rfl
    rw [hremembered, reopened]
    by_cases hhit : s.cacheHit p = true
    · rw [if_pos hhit] at hsrc
      rw [cacheHit] at hhit
      rw [if_neg fun h => h.2.2.1 hhit]
      rw [Bool.and_eq_true, beq_iff_eq] at hhit
      rw [hhit.1, ← hsrc]
    · rw [if_neg hhit] at hsrc
      split at hsrc
      · next hopen =>
        rw [if_pos ⟨rfl, hdevice, hhit, hopen⟩, hsrc]
      · cases hsrc
  · rw [reopened, if_neg fun h => htype h.1, opened, remember]
    cases ht : p.type <;> cases type <;> first | rfl | exact absurd ht htype

/-- **One callback.** -/
theorem step_cache (s : Painter) (c : Callback) (type : PaintElementType) :
    (s.step c).cache type = reopened s.d3d type (s.cache type) c := by
  cases c with
  | paint p =>
    cases hsrc : s.source p with
    | none =>
      have hkept : (s.step (.paint p)).cache type = s.cache type := by
        change (s.onAcceleratedPaint p).cache type = _
        rw [onAcceleratedPaint_none hsrc]
        cases type <;> rfl
      have hclosed : ¬ (p.type = type ∧ (s.d3d.device1 && s.d3d.context) = true ∧
          ¬ (p.handle == (s.cache type).handle && (s.cache type).texture.isSome) = true ∧
          p.openSharedResource1 = true) := by
        rintro ⟨rfl, hdevice, hmiss, hopen⟩
        rw [source, if_pos hdevice, cacheHit, if_neg hmiss, if_pos hopen] at hsrc
        cases hsrc
      rw [hkept, reopened, if_neg hclosed]
    | some src =>
      change (s.onAcceleratedPaint p).cache type = _
      cases ht : p.type with
      | view =>
        rw [onAcceleratedPaint_view hsrc ht, paintView_cache, remember_cache hsrc]
      | popup =>
        rw [onAcceleratedPaint_popup hsrc ht, paintPopup_cache, remember_cache hsrc]
  | loadStart isMain => exact s.setLoadState_cache isMain _ type
  | loadEnd isMain status => exact s.setLoadState_cache isMain _ type
  | loadError isMain => exact s.setLoadState_cache isMain _ type
  | popupShow visible => cases visible <;> cases type <;> rfl
  | _ => cases type <;> rfl

/-- **The last opened** texture of a type and its handle value are in the cache, whatever has been
served from it since. -/
theorem lastOpened_run (s : Painter) (callbacks : List Callback) (type : PaintElementType) :
    (Runs.run Painter.step s callbacks).cache type =
      callbacks.foldl (reopened s.d3d type) (s.cache type) := by
  induction callbacks generalizing s with
  | nil => rfl
  | cons c callbacks ih =>
    rw [Runs.run_cons, List.foldl_cons, ih, (s.step_sameSetup c).1, step_cache]

/-! ### Freshness -/

/-- If the callback publishes a frame, that frame reads of CEF's textures exactly the one its own
handle denotes. -/
def FreshSource (s : Painter) : Callback → Prop
  | .paint p => s.nextFrameId < (s.onAcceleratedPaint p).nextFrameId →
      cefSources ((s.onAcceleratedPaint p).gpu.drop s.gpu.length) = [p.resource]
  | _ => True

/-- If the callback publishes from the cache, the cache holds what the handle denotes. In terms of
the callbacks: the handle value is that of the last paint of the same type whose texture was opened,
rather than served from the cache, and it denotes the same texture as it did then
(`lastOpened_run`). -/
def CacheCurrent (s : Painter) : Callback → Prop
  | .paint p => s.publishes p = true → s.cacheHit p = true →
      (s.cache p.type).texture = some p.resource
  | _ => True

/-- **One callback**: a frame is fresh unless it is published from an outdated cache entry. -/
theorem freshSource_iff (s : Painter) (c : Callback) : s.FreshSource c ↔ s.CacheCurrent c := by
  cases c with
  | paint p =>
    have hpublished : s.nextFrameId < (s.onAcceleratedPaint p).nextFrameId ↔
        s.publishes p = true := by
      rw [(s.onAcceleratedPaint_published p).1]
      cases s.publishes p <;> simp
    rw [FreshSource, CacheCurrent, hpublished]
    refine forall_congr' fun hpub => ?_
    obtain ⟨src, hsrc, q, hq, hread⟩ := onAcceleratedPaint_submits hpub
    rw [hq, List.drop_left, hread]
    -- the texture the paint got is the cached one after a hit and the denoted one after a miss
    rw [source] at hsrc
    split at hsrc
    · cases hhit : s.cacheHit p with
      | true =>
        rw [if_pos hhit] at hsrc
        rw [hsrc]
        simp
      | false =>
        rw [if_neg (by rw [hhit]; exact Bool.false_ne_true)] at hsrc
        split at hsrc
        · cases hsrc
          simp
        · cases hsrc
    · cases hsrc
  | _ => exact Iff.rfl

end Painter

/-- **Runs of callbacks**: every published frame is fresh if and only if no frame is published
from a cache entry that is not what the handle denotes by then. -/
theorem published_fresh_iff_cacheCurrent (names : SharedMemoryNames) (d3d : D3DInterfaces)
    (width height : UInt32) (callbacks : List Callback) :
    Runs.Along Painter.step Painter.FreshSource (.init names d3d width height) callbacks ↔
      Runs.Along Painter.step Painter.CacheCurrent (.init names d3d width height) callbacks :=
  Runs.along_congr (I := fun _ => True) (fun _ _ h => h) (fun s c _ => s.freshSource_iff c) trivial
    callbacks

/-- A view paint of texture number `id` under handle value 7, with nothing failing. -/
def paintOf (id : ℕ) : Paint :=
  .succeeding .view [⟨0, 0, 4, 4⟩] 7 ⟨id, 4, 4, by decide, by decide⟩

/-- The second frame is copied from texture 0, which its handle no longer denotes. -/
theorem recycled_handle_stale :
    ¬ Runs.Along Painter.step Painter.FreshSource
      (.init (buildSharedMemoryNames []) fullD3D 4 4)
      [.paint (paintOf 0), .paint (paintOf 1)] := by
  rintro ⟨-, hsecond, -⟩
  exact absurd (hsecond (by decide +kernel)) (by decide +kernel)

end CefHost
