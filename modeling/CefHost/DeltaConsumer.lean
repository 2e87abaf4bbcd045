import CefHost.ChannelConsistency
import CefHost.Damage
import CefHost.FrameNumbering
import CefHost.Library.Deltas
import CefHost.SourceFreshness

/-!
# A consumer that copies only what changed

A consumer keeps a picture of the view. When it looks at the header and `frame_id` has moved by
one, on a frame that is not full, it copies the dirty rectangles from the slot the header names;
when `frame_id` has moved by more, or the frame is full, it copies the slot. It looks between
callbacks, whenever it likes, and it may miss frames.

That its picture is then the view takes the whole chain: CEF's dirty rectangles cover what CEF
changed, a published frame shows the texture the callback lent, no damage gets lost with a callback
that publishes nothing, the slot holds the frame the header describes, and the numbers count. The
first is a promise of CEF's (`Repaints`). The others are properties of the host that hold only
under conditions of their own, and these conditions are the hypotheses here, callback by callback.

Colours are given to texels: pixel `(x, y)` of a texture of CEF during one paint callback.

## Main definitions

* `Painter.offered` — what the consumer finds
* `DeltaRun` — callbacks and looks, in any order
* `DeltaRun.Sound` — the conditions on a callback

## Main results

* `DeltaRun.Inv.honest` — what the header says of a frame is true
* `delta_consumer_exact` — whole runs
-/

namespace CefHost

open Deltas

/-- Whether a rectangle has the pixel. -/
def DirtyRect.covers (r : DirtyRect) (p : ℕ × ℕ) : Bool :=
  r.x.toInt ≤ p.1 && p.1 < r.x.toInt + r.w.toInt && r.y.toInt ≤ p.2 && p.2 < r.y.toInt + r.h.toInt

def covered (rects : List DirtyRect) (p : ℕ × ℕ) : Bool := rects.any fun r => r.covers p

theorem covered_eq_false_iff {rects : List DirtyRect} {p : ℕ × ℕ} :
    covered rects p = false ↔ ∀ r ∈ rects, r.covers p = false := by
  simp [covered]

theorem covered_eq_false_of_subset {rects rects' : List DirtyRect} {p : ℕ × ℕ}
    (hsub : ∀ r ∈ rects, r ∈ rects') (h : covered rects' p = false) : covered rects p = false :=
  covered_eq_false_iff.mpr fun r hr => covered_eq_false_iff.mp h r (hsub r hr)

variable {χ : Type*} (color : Texel → χ)

/-- A content in colours. -/
def colors (c : Content) (p : ℕ × ℕ) : Option χ := (c p.1 p.2).map color

/-- What a look finds, if there is a texture in the slot. -/
def Painter.offered (s : Painter) : Option (Version (ℕ × ℕ) (Option χ)) :=
  ((SharedTextures.slotPlane s.header.writeSlot).bind s.textures.texture).map fun tx =>
    { number := s.header.frameId
      picture := colors color tx.content
      full := hasFlag s.header.flags frameFlagFullFrame
      changed := covered s.header.dirtyList }

/-- The painter, the consumer's copy and, for the statements, the view frame published last, CEF's
own picture, and the rectangles of the callbacks since that frame. -/
structure DeltaRun (χ : Type*) where
  painter : Painter
  lastView : Content
  missed : List CefRect
  cef : Content
  copy : Copy (ℕ × ℕ) (Option χ)

inductive DeltaAction
  | callback (c : Callback)
  | look

namespace DeltaRun

/-- After `Init`, with a consumer that has seen nothing. -/
def init (s : Painter) : DeltaRun χ where
  painter := s
  lastView := .blank
  missed := []
  cef := .blank
  copy :=
    { number := 0
      picture := fun _ => none }

/-- As a run of `ChannelConsistency`. -/
def frames (r : DeltaRun χ) : FrameRun := ⟨r.painter, r.lastView⟩

/-- As a run of `Damage`. -/
def damage (r : DeltaRun χ) : DamageRun := ⟨r.painter, r.missed⟩

/-- CEF's picture after a callback. -/
def painted (r : DeltaRun χ) : Callback → Content
  | .paint p =>
    match p.type with
    | .view => (p.resource.image (r.painter.paints + 1)).content
    | .popup => r.cef
  | _ => r.cef

def step (r : DeltaRun χ) : DeltaAction → DeltaRun χ
  | .callback c =>
    { painter := r.painter.step c
      lastView := (r.frames.step c).lastView
      missed := (r.damage.step c).missed
      cef := r.painted c
      copy := r.copy }
  | .look =>
    match r.painter.offered color with
    | some v => { r with copy := r.copy.update v }
    | none => r

/-- **CEF's promise**: a pixel of the new picture that no dirty rectangle covers has the colour it
had in the picture before. -/
def Repaints (r : DeltaRun χ) : Callback → Prop
  | .paint p => p.type = .view → ∀ x y, x < p.resource.width.toNat → y < p.resource.height.toNat →
      covered (p.dirtyRects.map CefRect.toDirty) (x, y) = false →
      colors color (p.resource.image (r.painter.paints + 1)).content (x, y)
        = colors color r.cef (x, y)
  | _ => True

/-- A callback publishes from no outdated cache entry, repeats the damage of callbacks that
published nothing or is full, meets no failure in rebuilding the textures, and keeps CEF's
promise. -/
def Sound (r : DeltaRun χ) : DeltaAction → Prop
  | .callback c => r.painter.CacheCurrent c ∧ r.damage.Covered c ∧ r.frames.RebuildSucceeds c ∧
      r.Repaints color c
  | .look => True

/-- The version on offer, in terms of the frame published last. -/
def version (r : DeltaRun χ) : Version (ℕ × ℕ) (Option χ) where
  number := r.painter.header.frameId
  picture := colors color r.lastView
  full := hasFlag r.painter.header.flags frameFlagFullFrame
  changed := covered r.painter.header.dirtyList

/-! ### The invariant -/

/-- The channel is consistent and numbered, the last frame fills the size in the header and no
more, CEF's picture differs from it only where damage was missed, and the copy is in step. -/
structure Inv (r : DeltaRun χ) : Prop where
  frames : r.frames.Inv
  numbered : ∃ n m, Painter.Numbered n m r.painter
  bounded : ∀ x y, r.lastView x y ≠ none → 0 < r.painter.header.frameId ∧
    x < r.painter.header.width.toNat ∧ y < r.painter.header.height.toNat
  agrees : ∀ p, r.cef p.1 p.2 ≠ none → covered (r.missed.map CefRect.toDirty) p = false →
    colors color r.cef p = colors color r.lastView p
  inStep : InStep r.copy (r.version color)

theorem inv_init (names : SharedMemoryNames) (d3d : D3DInterfaces) (width height : UInt32) :
    (init (.init names d3d width height)).Inv color where
  frames := FrameRun.inv_init names d3d width height
  numbered := ⟨0, 0, Painter.numbered_init names d3d width height⟩
  bounded _ _ h := absurd rfl h
  agrees _ h := absurd rfl h
  inStep := ⟨Nat.le_refl _, fun _ => rfl, fun h => absurd h (Nat.succ_ne_zero 0)⟩

variable {color} {r : DeltaRun χ} {p : Paint} {src : Resource}

/-! ### What a callback publishes -/

theorem publishesView_iff (s : Painter) (p : Paint) :
    s.PublishesView p ↔ p.type = .view ∧ s.publishes p = true := by
  rw [Painter.PublishesView, (s.onAcceleratedPaint_published p).1]
  cases s.publishes p <;> simp

theorem lastView_of_not (h : ¬ r.painter.PublishesView p) :
    (r.frames.step (.paint p)).lastView = r.lastView := by
  cases hsrc : r.painter.source p with
  | some src => rw [FrameRun.step_paint_lastView (r := r.frames) hsrc]; exact if_neg h
  | none => simp only [FrameRun.step, DeltaRun.frames, hsrc]

theorem lastView_of_publishes (h : r.painter.PublishesView p)
    (hsrc : r.painter.source p = some src) :
    (r.frames.step (.paint p)).lastView = (src.image (r.painter.paints + 1)).content := by
  have hlast := FrameRun.step_paint_lastView (r := r.frames) hsrc
  rwa [if_pos (show r.frames.painter.PublishesView p from h)] at hlast

/-- A callback that publishes no view frame leaves the last one standing. -/
theorem lastView_step (c : Callback) (h : ∀ p, c = .paint p → ¬ r.painter.PublishesView p) :
    (r.frames.step c).lastView = r.lastView := by
  cases c with
  | paint p => exact lastView_of_not (h p rfl)
  | _ => rfl

/-- With the cache up to date, the texture a publishing paint gets is the one it was lent. -/
theorem source_eq_resource (hcache : r.painter.CacheCurrent (.paint p))
    (hpub : r.painter.publishes p = true) (hsrc : r.painter.source p = some src) :
    src = p.resource := by
  have hcurrent := hcache hpub
  rw [Painter.source] at hsrc
  split at hsrc
  · split at hsrc
    · next hhit =>
      rw [hcurrent hhit] at hsrc
      exact (Option.some.inj hsrc).symm
    · split at hsrc
      · exact (Option.some.inj hsrc).symm
      · cases hsrc
  · cases hsrc

/-- Inside its frame a resource has every pixel, outside it none. -/
theorem image_ne_none_iff {n x y : ℕ} :
    (src.image n).content x y ≠ none ↔ x < src.width.toNat ∧ y < src.height.toNat := by
  rw [Resource.image]
  dsimp only
  split <;> simp [*]

theorem colors_eq_none_iff {c : Content} {q : ℕ × ℕ} : colors color c q = none ↔ c q.1 q.2 = none :=
  Option.map_eq_none_iff

/-- **A delta tells the truth**: where the dirty list of a published view frame covers nothing, the
frame has the colours of the one before. -/
theorem Inv.unchanged (h : r.Inv color) (hsound : r.Sound color (.callback (.paint p)))
    (hpv : r.painter.PublishesView p)
    (hfull : hasFlag (r.painter.onAcceleratedPaint p).header.flags frameFlagFullFrame = false)
    {q : ℕ × ℕ} (hq : covered (r.painter.onAcceleratedPaint p).header.dirtyList q = false) :
    colors color (r.frames.step (.paint p)).lastView q = colors color r.lastView q := by
  obtain ⟨hcache, hcovered, -, hrepaints⟩ := hsound
  have hpub := ((publishesView_iff _ _).mp hpv).2
  obtain ⟨ht, src, hsrc, hready⟩ := Painter.publishesView_iff.mp hpv
  have hmode : r.painter.usePopupDedicatedPlane = true := h.frames.mode
  obtain ⟨hflag, hlist⟩ := Painter.onAcceleratedPaint_reported hmode hsrc ht hready
  have hforced : r.painter.forcedFull p src = false := hflag.symm.trans hfull
  rw [hlist hforced] at hq
  have hmissed : ∀ rect ∈ r.missed, rect ∈ p.dirtyRects := by
    refine (hcovered ht src hsrc hready).resolve_left fun htrue => ?_
    rw [show r.painter.forcedFull p src = true from htrue] at hforced
    cases hforced
  have hsame := source_eq_resource hcache hpub hsrc
  rw [lastView_of_publishes hpv hsrc, hsame]
  by_cases hin : q.1 < p.resource.width.toNat ∧ q.2 < p.resource.height.toNat
  · have hcef := hrepaints ht q.1 q.2 hin.1 hin.2 hq
    refine hcef.trans (h.agrees q (fun hnone => ?_) ?_)
    · -- the new pixel has a colour, so the old one has
      rw [show colors color r.cef q = none from colors_eq_none_iff.mpr hnone] at hcef
      exact image_ne_none_iff.mpr hin (colors_eq_none_iff.mp hcef)
    · refine covered_eq_false_of_subset (fun rect hrect => ?_) hq
      obtain ⟨rect', hrect', rfl⟩ := List.mem_map.mp hrect
      exact List.mem_map_of_mem (hmissed rect' hrect')
  · -- both frames have the size the textures have
    have hall : r.painter.textures.alreadyReady src.width src.height = true := by
      simp only [Painter.forcedFull, Bool.or_eq_false_iff, Bool.not_eq_false'] at hforced
      exact hforced.1.1.2
    obtain ⟨hwidth, hheight, -⟩ := SharedTextures.alreadyReady_iff.mp hall
    have hold : r.lastView q.1 q.2 = none := by
      by_contra hne
      obtain ⟨hpos, hx, hy⟩ := h.bounded q.1 q.2 hne
      obtain ⟨hw, hh⟩ := h.frames.size hpos
      rw [show r.painter.header.width = r.painter.textures.sharedWidth from hw, hwidth,
        hsame] at hx
      rw [show r.painter.header.height = r.painter.textures.sharedHeight from hh, hheight,
        hsame] at hy
      exact hin ⟨hx, hy⟩
    have hnew : (p.resource.image (r.painter.paints + 1)).content q.1 q.2 = none := by
      by_contra hne
      exact hin (image_ne_none_iff.mp hne)
    rw [colors_eq_none_iff.mpr hnew, colors_eq_none_iff.mpr hold]

/-- **One callback** replaces the version on offer honestly. -/
theorem Inv.honest (h : r.Inv color) {c : Callback} (hsound : r.Sound color (.callback c)) :
    Honest (r.version color) ((r.step color (.callback c)).version color) := by
  obtain ⟨n, m, hnumbered⟩ := h.numbered
  have hnext := Painter.step_numbered hnumbered c
  have hnumber : (r.painter.step c).header.frameId
      = r.painter.header.frameId + (r.painter.publishesFrame c).toNat := by
    rw [hnext.frameId, hnumbered.frameId]
  cases hpub : r.painter.publishesFrame c with
  | false =>
    obtain ⟨hflags, hdirty⟩ := r.painter.step_sameDamage hpub
    have hlast := r.lastView_step c (fun p hc hpv => by
      subst hc
      exact Bool.false_ne_true (hpub.symm.trans ((publishesView_iff _ _).mp hpv).2))
    rw [hpub] at hnumber
    refine .kept hnumber ?_ ?_ ?_
    · exact congrArg (colors color) hlast
    · exact congrArg (fun flags => hasFlag flags frameFlagFullFrame) hflags
    · exact congrArg covered hdirty
  | true =>
    rw [hpub] at hnumber
    refine .replaced hnumber fun hfull q hq => ?_
    match c with
    | .paint p =>
      by_cases hpv : r.painter.PublishesView p
      · exact h.unchanged hsound hpv hfull hq
      · exact congrArg (colors color · q) (lastView_of_not hpv)

/-- A callback that publishes no view frame leaves the size in the header alone. -/
theorem Inv.header_size (h : r.Inv color) (c : Callback)
    (hnot : ∀ p, c = .paint p → ¬ r.painter.PublishesView p)
    (hpos : 0 < r.painter.header.frameId) :
    (r.painter.step c).header.width = r.painter.header.width ∧
      (r.painter.step c).header.height = r.painter.header.height := by
  obtain ⟨hw, hh⟩ := h.frames.size hpos
  by_cases hpaint : ∃ p, c = .paint p
  · obtain ⟨p, rfl⟩ := hpaint
    show (r.painter.onAcceleratedPaint p).header.width = _ ∧
      (r.painter.onAcceleratedPaint p).header.height = _
    rcases r.painter.onAcceleratedPaint_cases p with ⟨-, hprep⟩ | ⟨hpub, ht, -⟩ |
      ⟨-, -, e, -, hsw, hsh, heq⟩
    · rw [hprep.header]
      exact ⟨rfl, rfl⟩
    · exact absurd ((publishesView_iff _ _).mpr ⟨ht, hpub⟩) (hnot p rfl)
    · obtain ⟨rects, hheader⟩ := e.publishPopupPlane_header p r.painter.clampedPopupRect
      rw [heq, hheader]
      exact ⟨hsw.trans hw.symm, hsh.trans hh.symm⟩
  · obtain ⟨load, cursor, n, hheader⟩ := (r.painter.step_quiet fun p hc => hpaint ⟨p, hc⟩).header
    rw [hheader]
    exact ⟨rfl, rfl⟩

/-- A view publish writes the size of its texture. -/
theorem published_size (hpv : r.painter.PublishesView p)
    (hsrc : r.painter.source p = some src) :
    (r.painter.onAcceleratedPaint p).header.width = src.width ∧
      (r.painter.onAcceleratedPaint p).header.height = src.height := by
  obtain ⟨ht, hpub⟩ := (publishesView_iff _ _).mp hpv
  rcases r.painter.onAcceleratedPaint_cases p with ⟨hnot, -⟩ |
    ⟨-, -, src', e, recreated, hsrc', -, -, heq⟩ | ⟨-, hpopup, -⟩
  · exact absurd (hpub.symm.trans hnot) Bool.noConfusion
  · obtain rfl : src = src' := Option.some.inj (hsrc.symm.trans hsrc')
    obtain ⟨count, rects, -, hheader⟩ := e.publishView_header p src recreated
      (r.painter.collectDirty p)
    rw [heq, hheader]
    exact ⟨rfl, rfl⟩
  · exact absurd (ht.symm.trans hpopup) PaintElementType.noConfusion

theorem Inv.bounded_step (h : r.Inv color) (c : Callback) (x y : ℕ)
    (hne : (r.frames.step c).lastView x y ≠ none) : 0 < (r.painter.step c).header.frameId ∧
      x < (r.painter.step c).header.width.toNat ∧
      y < (r.painter.step c).header.height.toNat := by
  obtain ⟨n, m, hnumbered⟩ := h.numbered
  have hframe := (Painter.step_numbered hnumbered c).frameId
  by_cases hview : ∃ p, c = .paint p ∧ r.painter.PublishesView p
  · obtain ⟨p, rfl, hpv⟩ := hview
    obtain ⟨-, src, hsrc, -⟩ := Painter.publishesView_iff.mp hpv
    obtain ⟨hw, hh⟩ := published_size hpv hsrc
    rw [lastView_of_publishes hpv hsrc, image_ne_none_iff] at hne
    have hcount : r.painter.publishesFrame (.paint p) = true := ((publishesView_iff _ _).mp hpv).2
    refine ⟨?_, ?_, ?_⟩
    · rw [hframe, hcount]
      exact Nat.succ_pos n
    · show x < (r.painter.onAcceleratedPaint p).header.width.toNat
      rw [hw]
      exact hne.1
    · show y < (r.painter.onAcceleratedPaint p).header.height.toNat
      rw [hh]
      exact hne.2
  · have hnot : ∀ p, c = .paint p → ¬ r.painter.PublishesView p := fun p hc hpv =>
      hview ⟨p, hc, hpv⟩
    rw [lastView_step c hnot] at hne
    obtain ⟨hpos, hx, hy⟩ := h.bounded x y hne
    obtain ⟨hw, hh⟩ := h.header_size c hnot hpos
    rw [hw, hh, hframe]
    rw [hnumbered.frameId] at hpos
    exact ⟨Nat.add_pos_left hpos _, hx, hy⟩

/-- CEF's picture and the last frame differ only where damage was missed. -/
theorem Inv.agrees_step (h : r.Inv color) {c : Callback}
    (hsound : r.Sound color (.callback c)) (q : ℕ × ℕ) (hne : r.painted c q.1 q.2 ≠ none)
    (hq : covered ((r.damage.step c).missed.map CefRect.toDirty) q = false) :
    colors color (r.painted c) q = colors color (r.frames.step c).lastView q := by
  by_cases hpaint : ∃ p, c = .paint p
  · obtain ⟨p, rfl⟩ := hpaint
    obtain ⟨hcache, -, -, hrepaints⟩ := hsound
    by_cases hpv : r.painter.PublishesView p
    · obtain ⟨ht, src, hsrc, -⟩ := Painter.publishesView_iff.mp hpv
      have hsame := source_eq_resource hcache ((publishesView_iff _ _).mp hpv).2 hsrc
      rw [lastView_of_publishes hpv hsrc, painted, ht, hsame]
    · rw [lastView_of_not hpv]
      have hmissed : (r.damage.step (.paint p)).missed
          = if p.type = .view then r.missed ++ p.dirtyRects else r.missed := if_neg hpv
      rw [hmissed] at hq
      cases ht : p.type with
      | popup =>
        have hsame : r.painted (.paint p) = r.cef := by rw [painted, ht]
        rw [hsame] at hne ⊢
        rw [ht, if_neg PaintElementType.noConfusion] at hq
        exact h.agrees q hne hq
      | view =>
        have himage : r.painted (.paint p)
            = (p.resource.image (r.painter.paints + 1)).content := by rw [painted, ht]
        rw [ht, if_pos rfl, List.map_append] at hq
        rw [himage] at hne ⊢
        obtain ⟨hx, hy⟩ := image_ne_none_iff.mp hne
        have hcef := hrepaints ht q.1 q.2 hx hy
          (covered_eq_false_of_subset (fun _ hr => List.mem_append_right _ hr) hq)
        refine hcef.trans (h.agrees q (fun hnone => ?_)
          (covered_eq_false_of_subset (fun _ hr => List.mem_append_left _ hr) hq))
        rw [show colors color r.cef q = none from colors_eq_none_iff.mpr hnone] at hcef
        exact hne (colors_eq_none_iff.mp hcef)
  · cases c with
    | paint p => exact absurd ⟨p, rfl⟩ hpaint
    | _ => exact h.agrees q hne hq

/-! ### Looks -/

/-- Once a frame is published, a look finds it. -/
theorem Inv.offered_eq (h : r.Inv color) (hpos : 0 < r.painter.header.frameId) :
    r.painter.offered color = some (r.version color) := by
  obtain ⟨plane, tx, hplane, -, htx, -, -, hcontent⟩ := h.frames.consistent hpos
  have hlook : (SharedTextures.slotPlane r.painter.header.writeSlot).bind
      r.painter.textures.texture = some tx := by
    rw [show SharedTextures.slotPlane r.painter.header.writeSlot = some plane from hplane]
    exact htx
  rw [Painter.offered, hlook, Option.map_some, version]
  rw [show tx.content = r.lastView from hcontent]

/-- A look changes nothing but the copy. -/
theorem look_frame (color : Texel → χ) (r : DeltaRun χ) :
    (r.step color .look).painter = r.painter ∧ (r.step color .look).lastView = r.lastView ∧
      (r.step color .look).missed = r.missed ∧ (r.step color .look).cef = r.cef := by
  rw [step]
  split <;> exact ⟨rfl, rfl, rfl, rfl⟩

theorem Inv.inStep_look (h : r.Inv color) :
    InStep (r.step color .look).copy (r.version color) := by
  by_cases hpos : 0 < r.painter.header.frameId
  · rw [step, h.offered_eq hpos]
    exact h.inStep.update
  · rw [step]
    split
    · next v hv =>
      -- before the first frame there is nothing new to see
      have hnumber : v.number = r.painter.header.frameId := by
        rw [Painter.offered, Option.map_eq_some_iff] at hv
        obtain ⟨tx, -, rfl⟩ := hv
        rfl
      have hle : r.copy.number ≤ r.painter.header.frameId := h.inStep.le
      have hsame : r.copy.update v = r.copy := if_pos (by omega)
      rw [hsame]
      exact h.inStep
    · exact h.inStep

/-! ### Runs -/

/-- **One step**, a sound callback or a look. -/
theorem Inv.step (h : r.Inv color) {a : DeltaAction} (hsound : r.Sound color a) :
    (r.step color a).Inv color := by
  match a with
  | .callback c =>
    obtain ⟨n, m, hnumbered⟩ := h.numbered
    exact
      { frames := h.frames.next hsound.2.2.1
        numbered := ⟨_, _, Painter.step_numbered hnumbered c⟩
        bounded := h.bounded_step c
        agrees := h.agrees_step hsound
        inStep := h.inStep.replaced (h.honest hsound) }
  | .look =>
    obtain ⟨hpainter, hlast, hmissed, hcef⟩ := r.look_frame color
    refine ⟨?_, ?_, ?_, ?_, ?_⟩
    · rw [DeltaRun.frames, hpainter, hlast]
      exact h.frames
    · rw [hpainter]
      exact h.numbered
    · rw [hpainter, hlast]
      exact h.bounded
    · rw [hcef, hmissed, hlast]
      exact h.agrees
    · rw [version, hpainter, hlast]
      exact h.inStep_look

end DeltaRun

/-- **A consumer that copies only what changed sees the view.** After any run of callbacks and
looks that is sound callback by callback, a look leaves the consumer with the colours of the view
frame published last, wherever it looked before and whichever frames it missed. -/
theorem delta_consumer_exact {χ : Type*} (color : Texel → χ) (names : SharedMemoryNames)
    (d3d : D3DInterfaces) (width height : UInt32) (as : List DeltaAction)
    (hsound : Runs.Along (DeltaRun.step color) (DeltaRun.Sound color)
      (.init (.init names d3d width height)) as) :
    let r := Runs.run (DeltaRun.step color) (.init (.init names d3d width height)) as
    (r.step color .look).copy.picture = colors color r.lastView ∧
      (r.step color .look).copy.number = r.painter.header.frameId := by
  intro r
  have h : r.Inv color := Runs.invariant_of_along (fun _ _ h hG => h.step hG)
    (DeltaRun.inv_init color names d3d width height) hsound
  have hlook := h.inStep_look
  have hnumber : (r.step color .look).copy.number = r.painter.header.frameId := by
    by_cases hpos : 0 < r.painter.header.frameId
    · rw [DeltaRun.step, h.offered_eq hpos]
      exact Copy.update_number _ _
    · have hle : (r.step color .look).copy.number ≤ r.painter.header.frameId := hlook.le
      omega
  exact ⟨hlook.same hnumber, hnumber⟩

/-- A paint under a handle value that is not cached, with no damage missed and nothing failing. -/
theorem DeltaRun.sound_paint {χ : Type*} {color : Texel → χ} {r : DeltaRun χ} {p : Paint}
    (hhit : r.painter.cacheHit p = false) (hmissed : r.missed = [])
    (hok : (r.painter.d3d.device && Painter.createsAll p.create) = true)
    (hrepaints : r.Repaints color (.paint p)) : r.Sound color (.callback (.paint p)) := by
  refine ⟨fun _ hcached => ?_, fun _ _ _ _ => Or.inr fun rect hrect => ?_, fun _ _ _ _ _ => hok,
    hrepaints⟩
  · exact absurd (hhit.symm.trans hcached) Bool.false_ne_true
  · rw [show r.damage.missed = [] from hmissed] at hrect
    cases hrect

/-- A paint that reports the whole frame as dirty. -/
theorem DeltaRun.repaints_whole {χ : Type*} {color : Texel → χ} {r : DeltaRun χ} (handle : ℕ) :
    r.Repaints color (.paint (damagePaint handle ⟨0, 0, 64, 64⟩ true)) := by
  intro _ x y hx hy hcovered
  have hrect := covered_eq_false_iff.mp hcovered ⟨0, 0, 64, 64⟩ (List.mem_singleton_self _)
  have hin : (⟨0, 0, 64, 64⟩ : DirtyRect).covers (x, y) = true := by
    have hx' : x < 64 := hx
    have hy' : y < 64 := hy
    have h0 : (0 : Int32).toInt = 0 := rfl
    have h64 : (64 : Int32).toInt = 64 := rfl
    simp only [DirtyRect.covers, h0, h64, Bool.and_eq_true, decide_eq_true_eq]
    omega
  rw [hin] at hrect
  cases hrect

/-- Three warm-up frames, a look, and a frame of which a corner is dirty. -/
def warmUpThenCorner : List DeltaAction :=
  [.callback (.paint (damagePaint 1 ⟨0, 0, 64, 64⟩ true)),
    .callback (.paint (damagePaint 2 ⟨0, 0, 64, 64⟩ true)),
    .callback (.paint (damagePaint 3 ⟨0, 0, 64, 64⟩ true)), .look,
    .callback (.paint (damagePaint 4 ⟨0, 0, 8, 8⟩ true))]

/-- The last look copies the corner only. The view is painted with the column numbers. -/
theorem corner_copied :
    let r := Runs.run (DeltaRun.step fun t => t.x)
      (.init (.init (buildSharedMemoryNames []) fullD3D 64 64)) warmUpThenCorner
    (r.step (fun t => t.x) .look).copy.picture = colors (fun t => t.x) r.lastView ∧
      (r.step (fun t => t.x) .look).copy.number = r.painter.header.frameId := by
  refine delta_consumer_exact (fun t => t.x) (buildSharedMemoryNames []) fullD3D 64 64
    warmUpThenCorner ⟨?_, ?_, ?_, trivial, ?_, trivial⟩
  · exact DeltaRun.sound_paint (by decide +kernel) rfl (by decide +kernel)
      (DeltaRun.repaints_whole 1)
  · exact DeltaRun.sound_paint (by decide +kernel) (by decide +kernel) (by decide +kernel)
      (DeltaRun.repaints_whole 2)
  · exact DeltaRun.sound_paint (by decide +kernel) (by decide +kernel) (by decide +kernel)
      (DeltaRun.repaints_whole 3)
  · refine DeltaRun.sound_paint (by decide +kernel) (by decide +kernel) (by decide +kernel) ?_
    intro _ x y hx hy _
    have hx' : x < 64 := hx
    have hy' : y < 64 := hy
    rw [(DeltaRun.look_frame _ _).2.2.2]
    simp [colors, DeltaRun.step, DeltaRun.painted, damagePaint, Paint.succeeding, Resource.image,
      hx', hy']

end CefHost
