import CefHost.Library.Runs
import CefHost.PublishedHeader

/-!
# Damage that is reported once

CEF reports each damaged rectangle once. A view frame either carries the whole picture or names
the rectangles that changed since the view frame published before it. `OnAcceleratedPaint` builds
its list from its own callback alone, so a callback that returns early takes its rectangles with
it.

`DamageRun` remembers the rectangles of the view callbacks since the last published view frame.

## Main results

* `Painter.paintView_reported` — what a published view frame says
* `DamageRun.reported_iff` — one callback
* `damage_reported_iff_covered` — whole runs of callbacks
* `damage_lost` — a failed `OpenSharedResource1` between two good paints
-/

namespace CefHost

namespace Painter

variable {s : Painter} {p : Paint} {src : Resource}

/-- The reasons for which a view paint of this texture would carry the full frame. -/
def forcedFull (s : Painter) (p : Paint) (src : Resource) : Bool :=
  s.forceFullFrame || !s.textures.alreadyReady src.width src.height || 0 < s.warmupFullFrames ||
    decide (maxDirtyRects < p.dirtyRects.length)

/-- **A published view frame** is flagged full for one of these reasons, and otherwise names
exactly the rectangles of its own callback. -/
theorem paintView_reported (hmode : s.usePopupDedicatedPlane = true)
    (h : s.texturesReady src.width src.height p.create = true) :
    hasFlag (s.paintView p src).header.flags frameFlagFullFrame = s.forcedFull p src ∧
      (s.forcedFull p src = false →
        (s.paintView p src).header.dirtyList = p.dirtyRects.map CefRect.toDirty) := by
  have hcollect := collectDirty_dedicated hmode p
  rcases texturesReady_cases h with hready | ⟨hready, hok⟩
  · obtain ⟨tx, htx⟩ := ready_back hready
    obtain ⟨t, q, rect, hcopied, -⟩ := copied_eq src htx
    have hforce : s.forcedFull p src =
        s.forceFull false (decide (maxDirtyRects < p.dirtyRects.length)) := by
      rw [forcedFull, hready]
      rfl
    rw [paintView_ready hready, hcopied, publishView_eq, hcollect, hforce]
    refine ⟨hasFlag_viewFlags_full .., fun hfull => ?_⟩
    have hlen : p.dirtyRects.length ≤ maxDirtyRects := by
      simp only [forceFull, Bool.or_eq_false_iff, decide_eq_false_iff_not] at hfull
      exact Nat.not_lt.mp hfull.2
    rw [List.take_of_length_le (by rw [List.length_map]; exact hlen)]
    dsimp only
    rw [publishedHeader_viewStores]
    have hsame : forceFull { s with
        textures := t
        gpu := s.gpu ++ (.work (.copy tx.id (.cef src)) :: q)
        popupClearRect := rect } false (decide (maxDirtyRects < p.dirtyRects.length)) = false :=
      hfull
    rw [hsame]
    exact dirtyList_viewDirtyStores s.header (by rw [List.length_map]; exact hlen)
  · obtain ⟨tx, htx⟩ := recreated_back hok
    obtain ⟨t, q, rect, hcopied, -⟩ := copied_eq src htx
    have hforce : s.forcedFull p src = true := by
      rw [forcedFull, hready]
      simp
    rw [paintView_recreated hready hok, hcopied, publishView_eq, hcollect, hforce]
    refine ⟨?_, fun hfull => by cases hfull⟩
    refine (hasFlag_viewFlags_full _ true _).trans ?_
    simp [forceFull]

theorem onAcceleratedPaint_reported (hmode : s.usePopupDedicatedPlane = true)
    (hsrc : s.source p = some src) (ht : p.type = .view)
    (h : s.texturesReady src.width src.height p.create = true) :
    hasFlag (s.onAcceleratedPaint p).header.flags frameFlagFullFrame = s.forcedFull p src ∧
      (s.forcedFull p src = false →
        (s.onAcceleratedPaint p).header.dirtyList = p.dirtyRects.map CefRect.toDirty) := by
  obtain ⟨view, popup, hopened⟩ := s.opened_eq p src
  have hreported := paintView_reported (s := s.opened p src) (by rw [hopened]; exact hmode)
    (by rw [hopened]; exact h)
  rw [show (s.opened p src).forcedFull p src = s.forcedFull p src by rw [hopened]; rfl]
    at hreported
  rw [onAcceleratedPaint_view hsrc ht]
  exact hreported

end Painter

/-- The painter, and the rectangles CEF has reported for the view since a view frame was last
published. -/
structure DamageRun where
  painter : Painter
  missed : List CefRect

namespace DamageRun

def init (s : Painter) : DamageRun := ⟨s, []⟩

def step (r : DamageRun) (c : Callback) : DamageRun where
  painter := r.painter.step c
  missed :=
    match c with
    | .paint p =>
      if r.painter.PublishesView p then []
      else if p.type = .view then r.missed ++ p.dirtyRects
      else r.missed
    | _ => r.missed

/-- A published view frame is full, or names every rectangle CEF has reported for the view since
the previous one. -/
def Reported (r : DamageRun) : Callback → Prop
  | .paint p => r.painter.PublishesView p →
      hasFlag (r.painter.onAcceleratedPaint p).header.flags frameFlagFullFrame = true ∨
        ∀ rect ∈ r.missed ++ p.dirtyRects,
          rect.toDirty ∈ (r.painter.onAcceleratedPaint p).header.dirtyList
  | _ => True

/-- A view paint that gets its texture and has the shared ones is forced to the full frame, or
repeats every rectangle that was missed. -/
def Covered (r : DamageRun) : Callback → Prop
  | .paint p => p.type = .view → ∀ src, r.painter.source p = some src →
      r.painter.texturesReady src.width src.height p.create = true →
      r.painter.forcedFull p src = true ∨ ∀ rect ∈ r.missed, rect ∈ p.dirtyRects
  | _ => True

variable {r : DamageRun}

/-- **One callback.** -/
theorem reported_iff (hmode : r.painter.usePopupDedicatedPlane = true) (c : Callback) :
    r.Reported c ↔ r.Covered c := by
  cases c with
  | paint p =>
    rw [Reported, Covered, Painter.publishesView_iff]
    -- under the same guard the two conclusions agree
    have hiff : ∀ src, r.painter.source p = some src → p.type = .view →
        r.painter.texturesReady src.width src.height p.create = true →
        ((hasFlag (r.painter.onAcceleratedPaint p).header.flags frameFlagFullFrame = true ∨
          ∀ rect ∈ r.missed ++ p.dirtyRects,
            rect.toDirty ∈ (r.painter.onAcceleratedPaint p).header.dirtyList) ↔
        (r.painter.forcedFull p src = true ∨ ∀ rect ∈ r.missed, rect ∈ p.dirtyRects)) := by
      intro src hsrc ht hready
      obtain ⟨hflag, hlist⟩ := Painter.onAcceleratedPaint_reported hmode hsrc ht hready
      rw [hflag]
      cases hforced : r.painter.forcedFull p src with
      | true => simp
      | false =>
        rw [hlist hforced]
        refine or_congr_right ?_
        simp only [List.mem_append, List.mem_map_of_injective CefRect.toDirty_injective]
        exact ⟨fun h rect hrect => h rect (Or.inl hrect),
          fun h rect hrect => hrect.elim (h rect) id⟩
    constructor
    · intro h ht src hsrc hready
      exact (hiff src hsrc ht hready).mp (h ⟨ht, src, hsrc, hready⟩)
    · rintro h ⟨ht, src, hsrc, hready⟩
      exact (hiff src hsrc ht hready).mpr (h ht src hsrc hready)
  | _ => exact Iff.rfl

end DamageRun

/-- **Runs of callbacks**: every published view frame is full or names everything reported since
the one before, if and only if whenever a view paint publishes without being forced to the full
frame, its own list repeats all that was missed. -/
theorem damage_reported_iff_covered (names : SharedMemoryNames) (d3d : D3DInterfaces)
    (width height : UInt32) (callbacks : List Callback) :
    Runs.Along DamageRun.step DamageRun.Reported (.init (.init names d3d width height)) callbacks ↔
      Runs.Along DamageRun.step DamageRun.Covered (.init (.init names d3d width height))
        callbacks := by
  refine Runs.along_congr (I := fun r => r.painter.usePopupDedicatedPlane = true) ?_
    (fun r c hmode => DamageRun.reported_iff hmode c) rfl callbacks
  intro r c hmode
  exact (r.painter.step_sameSetup c).2.trans hmode

/-- A view paint that reports one rectangle, under a handle value of its own. -/
def damagePaint (handle : ℕ) (rect : CefRect) (opens : Bool) : Paint :=
  { Paint.succeeding .view [rect] handle ⟨handle, 64, 64, by decide, by decide⟩ with
    openSharedResource1 := opens }

/-- Three warm-up frames, a paint whose texture does not open, and a good one. -/
def lostDamage : List Callback :=
  [.paint (damagePaint 1 ⟨0, 0, 8, 8⟩ true), .paint (damagePaint 2 ⟨0, 0, 8, 8⟩ true),
    .paint (damagePaint 3 ⟨0, 0, 8, 8⟩ true), .paint (damagePaint 4 ⟨32, 32, 8, 8⟩ false),
    .paint (damagePaint 5 ⟨0, 0, 8, 8⟩ true)]

/-- The last frame is not full and does not name the rectangle of the failed callback. -/
theorem damage_lost :
    ¬ Runs.Along DamageRun.step DamageRun.Reported
      (.init (.init (buildSharedMemoryNames []) fullD3D 64 64))
      lostDamage := by
  rintro ⟨-, -, -, -, hlast, -⟩
  rcases hlast (by decide +kernel) with hfull | hlist
  · exact absurd hfull (by decide +kernel)
  · exact absurd (hlist ⟨32, 32, 8, 8⟩ (by decide +kernel)) (by decide +kernel)

end CefHost
