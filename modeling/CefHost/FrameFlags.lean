import CefHost.Damage
import CefHost.PublishCases

/-!
# The flags of a frame

The header says twice whether the frame is full: by `FRAME_FLAG_FULL_FRAME` as opposed to
`FRAME_FLAG_DIRTY_ONLY`, and by a `dirty_count` of 0. Four writers set the two independently: the
defaults, the resize header, a view publish and a popup publish. The first two agree with
themselves; a publish does unless it has no rectangle to name.

## Main results

* `Painter.coherent_publishView_iff`, `Painter.coherent_publishPopupPlane_iff` — one publish
* `frame_flags_coherent_iff` — whole runs of callbacks
* `empty_damage_incoherent` — a popup paint whose popup has no area
-/

namespace CefHost

/-- The two encodings of a full frame agree, and the other flags fit. -/
structure FrameHeader.FlagsCoherent (h : FrameHeader) : Prop where
  full_or_dirty : hasFlag h.flags frameFlagFullFrame ≠ hasFlag h.flags frameFlagDirtyOnly
  overflow : hasFlag h.flags frameFlagOverflow = true → hasFlag h.flags frameFlagFullFrame = true
  resized : hasFlag h.flags frameFlagResized = true → hasFlag h.flags frameFlagFullFrame = true
  count_le : h.dirtyCount.toNat ≤ maxDirtyRects
  count_eq_zero : h.dirtyCount = 0 ↔ hasFlag h.flags frameFlagFullFrame = true

namespace Painter

variable {s e : Painter} {p : Paint} {src : Resource}

/-! ### One publish -/

/-- Each flag of a view publish says what it is there for. -/
theorem hasFlag_viewFlags (s : Painter) (recreated overflow : Bool) :
    hasFlag (s.viewFlags recreated overflow) frameFlagDirtyOnly = !s.forceFull recreated overflow ∧
      hasFlag (s.viewFlags recreated overflow) frameFlagOverflow = overflow ∧
      hasFlag (s.viewFlags recreated overflow) frameFlagResized = recreated := by
  rw [viewFlags]
  cases s.forceFull recreated overflow <;> cases recreated <;> cases overflow <;>
    cases s.usePopupDedicatedPlane <;> exact ⟨rfl, rfl, rfl⟩

theorem dirtyCount_viewDirtyStores (h : FrameHeader) (full : Bool) (rects : List DirtyRect) :
    ((viewDirtyStores full rects).foldl FrameHeader.apply h).dirtyCount =
      if full then 0 else UInt8.ofNat rects.length := by
  rw [viewDirtyStores]
  cases full with
  | true => rfl
  | false =>
    rw [if_neg Bool.false_ne_true, if_neg Bool.false_ne_true, List.foldl_cons, foldl_dirtyStores]
    rfl

/-- **A view publish** with the first 16 of its rectangles is coherent exactly when it is full or
there are any. -/
theorem coherent_publishView_iff (s : Painter) (p : Paint) (src : Resource) (recreated : Bool)
    (rects : List DirtyRect) :
    (s.publishView p src recreated (rects.take maxDirtyRects,
        decide (maxDirtyRects < rects.length))).header.FlagsCoherent ↔
      s.forceFull recreated (decide (maxDirtyRects < rects.length)) = true ∨ rects ≠ [] := by
  obtain ⟨count, dirty, hfold, hheader⟩ := s.publishView_header p src recreated
    (rects.take maxDirtyRects, decide (maxDirtyRects < rects.length))
  obtain ⟨hdirty, hoverflow, hresized⟩ := s.hasFlag_viewFlags recreated
    (decide (maxDirtyRects < rects.length))
  have hfull := s.hasFlag_viewFlags_full recreated (decide (maxDirtyRects < rects.length))
  have hcount := dirtyCount_viewDirtyStores s.header
    (s.forceFull recreated (decide (maxDirtyRects < rects.length))) (rects.take maxDirtyRects)
  rw [hfold] at hcount
  change count = _ at hcount
  rw [hheader]
  cases hforce : s.forceFull recreated (decide (maxDirtyRects < rects.length)) with
  | true =>
    rw [hforce] at hfull hdirty hcount
    refine iff_of_true ⟨?_, fun _ => hfull, fun _ => hfull, ?_, iff_of_true hcount hfull⟩
      (Or.inl rfl)
    · rw [hfull, hdirty]
      exact Bool.noConfusion
    · rw [hcount]
      exact Nat.zero_le _
  | false =>
    have hforced := hforce
    simp only [forceFull, Bool.or_eq_false_iff, decide_eq_false_iff_not, Nat.not_lt] at hforced
    obtain ⟨⟨⟨-, hrec⟩, -⟩, hlen⟩ := hforced
    rw [hforce] at hfull hdirty hcount
    rw [List.take_of_length_le hlen] at hcount
    have hlt : rects.length < 2 ^ 8 := Nat.lt_of_le_of_lt hlen (by decide)
    have hnat : count.toNat = rects.length := by
      rw [hcount]
      exact UInt8.toNat_ofNat_of_lt' hlt
    have hzero : count = 0 ↔ rects = [] := by
      rw [← UInt8.toNat_inj, hnat]
      exact List.length_eq_zero_iff
    constructor
    · intro hcoherent
      right
      intro hnil
      have hflag := hcoherent.count_eq_zero.mp (hzero.mpr hnil)
      exact absurd (hfull.symm.trans hflag) Bool.noConfusion
    · intro hne
      have hrects : rects ≠ [] := hne.resolve_left Bool.noConfusion
      refine ⟨?_, fun h => ?_, fun h => ?_, ?_, iff_of_false (fun h => hrects (hzero.mp h)) ?_⟩
      · rw [hfull, hdirty]
        exact Bool.noConfusion
      · rw [hoverflow, decide_eq_true_eq] at h
        omega
      · rw [hresized, hrec] at h
        cases h
      · rw [hnat]
        exact hlen
      · rw [hfull]
        exact Bool.noConfusion

/-- **A popup publish** is coherent exactly when its rectangle has an area. -/
theorem coherent_publishPopupPlane_iff (s : Painter) (p : Paint) (r : Corners) :
    (s.publishPopupPlane p r).header.FlagsCoherent ↔ r.valid = true := by
  obtain ⟨rects, hheader⟩ := s.publishPopupPlane_header p r
  have hfull : hasFlag (frameFlagPopupPlane ||| frameFlagDirtyOnly) frameFlagFullFrame = false := by
    decide
  have hrest : hasFlag (frameFlagPopupPlane ||| frameFlagDirtyOnly) frameFlagDirtyOnly = true ∧
      hasFlag (frameFlagPopupPlane ||| frameFlagDirtyOnly) frameFlagOverflow = false ∧
      hasFlag (frameFlagPopupPlane ||| frameFlagDirtyOnly) frameFlagResized = false := by decide
  obtain ⟨hdirty, hoverflow, hresized⟩ := hrest
  rw [hheader]
  constructor
  · intro hcoherent
    by_contra hinvalid
    have hflag := hcoherent.count_eq_zero.mp (if_neg hinvalid)
    exact absurd (hfull.symm.trans hflag) Bool.noConfusion
  · intro hvalid
    rw [if_pos hvalid]
    have hone : (1 : UInt8).toNat ≤ maxDirtyRects := by decide
    have hne : (1 : UInt8) ≠ 0 := by decide
    refine ⟨fun h => ?_, fun h => ?_, fun h => ?_, hone, iff_of_false hne fun h => ?_⟩
    · exact absurd (hfull.symm.trans (h.trans hdirty)) Bool.noConfusion
    · exact absurd (hoverflow.symm.trans h) Bool.noConfusion
    · exact absurd (hresized.symm.trans h) Bool.noConfusion
    · exact absurd (hfull.symm.trans h) Bool.noConfusion

/-! ### One callback -/

/-- A publish names damage: a view frame is forced to be full or its callback reports a rectangle,
and the rectangle of a popup frame has an area within the frame. -/
def NamesDamage (s : Painter) : Callback → Prop
  | .paint p => s.publishes p = true →
      match p.type with
      | .view => ∀ src, s.source p = some src → s.forcedFull p src = true ∨ p.dirtyRects ≠ []
      | .popup => s.clampedPopupRect.valid = true
  | _ => True

/-- The reasons for a full frame, before and after `EnsureSharedTextures`. -/
theorem Prepared.forceFull_eq {recreated : Bool}
    (hrec : recreated = !s.textures.alreadyReady src.width src.height)
    (h : Prepared s e (if recreated then some (src.width, src.height) else none)) :
    e.forceFull recreated (decide (maxDirtyRects < p.dirtyRects.length)) = s.forcedFull p src := by
  rw [forceFull, forcedFull, h.forceFullFrame, h.warmupFullFrames, ← hrec]
  cases recreated <;> simp

/-- Only `flags` and `dirty_count` matter. -/
theorem coherent_congr {h h' : FrameHeader} (hflags : h'.flags = h.flags)
    (hcount : h'.dirtyCount = h.dirtyCount) : h'.FlagsCoherent ↔ h.FlagsCoherent := by
  constructor
  · rintro ⟨h1, h2, h3, h4, h5⟩
    rw [hflags] at h1 h2 h3 h5
    rw [hcount] at h4 h5
    exact ⟨h1, h2, h3, h4, h5⟩
  · rintro ⟨h1, h2, h3, h4, h5⟩
    rw [← hflags] at h1 h2 h3 h5
    rw [← hcount] at h4 h5
    exact ⟨h1, h2, h3, h4, h5⟩

/-- **One callback.** -/
theorem coherent_step_iff (hmode : s.usePopupDedicatedPlane = true)
    (hs : s.header.FlagsCoherent) (c : Callback) :
    (s.step c).header.FlagsCoherent ↔ s.NamesDamage c := by
  by_cases hpaint : ∃ p, c = .paint p
  · obtain ⟨p, rfl⟩ := hpaint
    change (s.onAcceleratedPaint p).header.FlagsCoherent ↔ _
    rw [NamesDamage]
    rcases s.onAcceleratedPaint_cases p with ⟨hpub, hprep⟩ |
      ⟨hpub, ht, src, e, recreated, hsrc, hrec, hprep, heq⟩ | ⟨hpub, ht, e, hprep, -, -, heq⟩
    · rw [hprep.header]
      exact iff_of_true hs fun h => absurd (hpub.symm.trans h) Bool.noConfusion
    · have hiff := e.coherent_publishView_iff p src recreated (p.dirtyRects.map CefRect.toDirty)
      rw [List.length_map, hprep.forceFull_eq hrec] at hiff
      rw [heq, collectDirty_dedicated hmode, hiff, ht]
      simp only [ne_eq, List.map_eq_nil_iff]
      constructor
      · rintro h - src' hsrc'
        cases hsrc.symm.trans hsrc'
        exact h
      · intro h
        exact h hpub src hsrc
    · rw [heq, coherent_publishPopupPlane_iff, ht]
      exact ⟨fun h _ => h, fun h => h hpub⟩
  · obtain ⟨load, cursor, k, hheader⟩ := (s.step_quiet fun p h => hpaint ⟨p, h⟩).header
    rw [coherent_congr (h := s.header) (by rw [hheader]) (by rw [hheader])]
    refine iff_of_true hs ?_
    cases c with
    | paint p => exact absurd ⟨p, rfl⟩ hpaint
    | _ => trivial

theorem coherent_init (names : SharedMemoryNames) (d3d : D3DInterfaces) (width height : UInt32) :
    (init names d3d width height).header.FlagsCoherent := by
  change initFrameHeaderDefaults.FlagsCoherent
  exact ⟨by decide, fun _ => by decide, fun _ => by decide, by decide, by decide⟩

end Painter

/-- **Runs of callbacks**: the header is coherent in every state if and only if every publish has
damage to name. -/
theorem frame_flags_coherent_iff (names : SharedMemoryNames) (d3d : D3DInterfaces)
    (width height : UInt32) (callbacks : List Callback) :
    Runs.Always Painter.step (fun s : Painter => s.header.FlagsCoherent)
        (.init names d3d width height) callbacks ↔
      Runs.Along Painter.step Painter.NamesDamage (.init names d3d width height) callbacks := by
  refine Runs.always_iff_along (I := fun s : Painter => s.usePopupDedicatedPlane = true) ?_ ?_ rfl
    (Painter.coherent_init names d3d width height) callbacks
  · intro s c hmode _ _
    exact (s.step_sameSetup c).2.trans hmode
  · intro s c hmode hs
    exact Painter.coherent_step_iff hmode hs c

/-- A view frame of 16 × 16, and a popup paint before `OnPopupShow` and `OnPopupSize`. -/
def popupWithoutArea : List Callback :=
  [.paint (.succeeding .view [] 1 .smallView),
    .paint (.succeeding .popup [] 2 .smallPopup)]

/-- The popup frame is flagged as dirty only and names no rectangle. -/
theorem empty_damage_incoherent :
    ¬ Runs.Always Painter.step (fun s : Painter => s.header.FlagsCoherent)
      (.init (buildSharedMemoryNames []) fullD3D 16 16) popupWithoutArea := by
  intro h
  have hlast := Runs.always_iff_forall.mp h popupWithoutArea List.prefix_rfl
  exact absurd (hlast.count_eq_zero.mp (by decide +kernel)) (by decide +kernel)

end CefHost
