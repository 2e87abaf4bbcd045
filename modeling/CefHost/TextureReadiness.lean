import CefHost.Library.Runs
import CefHost.PaintOutcome

/-!
# When `EnsureSharedTextures` may be believed

A call that returns true promises the whole set of textures at the requested size, and tells its
caller through `outRecreated` whether any of them is new. The shortcut at its top looks at the
ring textures and at the size *last created successfully*; a recreation that failed half-way may
have replaced the ring and left that size in place.

## Main results

* `EnsureRun.Inv.honest_iff` — one call: a true answer is right unless the shortcut answers while
  the last recreation has failed
* `ensure_honest_iff_not_stale` — whole sequences of calls
* `ensure_stale_shortcut` — a failed resize followed by a request for the old size
-/

namespace CefHost

open SharedTextures

/-- One call, and how its Direct3D steps would go. -/
structure EnsureCall where
  width : UInt32
  height : UInt32
  create : Plane → CreateOutcome

/-- The handler between two calls. `mark` is the number of textures that had been created when a
call last returned true; `failed` says that the last recreation failed. -/
structure EnsureRun where
  painter : Painter
  mark : ℕ
  failed : Bool

namespace EnsureRun

def init (s : Painter) : EnsureRun := ⟨s, 0, false⟩

def step (r : EnsureRun) (a : EnsureCall) : EnsureRun :=
  let (s, ok, _) := r.painter.ensureSharedTextures a.width a.height a.create
  { painter := s
    mark := if ok then s.textures.nextTexture else r.mark
    failed := if r.painter.textures.alreadyReady a.width a.height then r.failed else !ok }

/-- Every plane exists at this size, under its name. -/
def ReadyAt (t : SharedTextures) (width height : UInt32) : Prop :=
  ∀ p, t.Open p ∧ ∀ tx, t.texture p = some tx → tx.width = width ∧ tx.height = height

/-- If the call returns true then the textures are as requested, and `outRecreated` is true if any
of them was created since a call last returned true. -/
def Honest (r : EnsureRun) (a : EnsureCall) : Prop :=
  let (s, ok, recreated) := r.painter.ensureSharedTextures a.width a.height a.create
  ok = true →
    (ReadyAt s.textures a.width a.height ∧ s.textures.sharedWidth = a.width ∧
      s.textures.sharedHeight = a.height) ∧
    ((∃ p tx, s.textures.texture p = some tx ∧ r.mark ≤ tx.id) → recreated = true)

/-- The shortcut does not answer while the last recreation has failed. -/
def NotStale (r : EnsureRun) (a : EnsureCall) : Prop :=
  ¬ (r.failed = true ∧ r.painter.textures.alreadyReady a.width a.height = true)

/-! ### The invariant -/

/-- After a success everything is there and old; after a failure something is missing. -/
structure Inv (r : EnsureRun) : Prop where
  sound : r.failed = false → (∀ p, r.painter.textures.texture p = none) ∨
    (ReadyAt r.painter.textures r.painter.textures.sharedWidth r.painter.textures.sharedHeight ∧
      ∀ p tx, r.painter.textures.texture p = some tx → tx.id < r.mark)
  broken : r.failed = true → ∃ p, ¬ r.painter.textures.Open p
  mark_le : r.mark ≤ r.painter.textures.nextTexture

theorem inv_init (names : SharedMemoryNames) (d3d : D3DInterfaces) (width height : UInt32) :
    (init (.init names d3d width height)).Inv where
  sound _ := Or.inl fun _ => rfl
  broken h := by cases h
  mark_le := Nat.le_refl 0

/-- A newborn set of planes that is complete is ready at its size. -/
theorem readyAt_of_newborn {t : SharedTextures} {base : ℕ} {width height : UInt32}
    (h : Newborn base width height t) (hopen : ∀ p, t.Open p) : ReadyAt t width height := by
  refine fun p => ⟨hopen p, fun tx htx => ?_⟩
  obtain ⟨id, -, -, rfl⟩ := h.created p tx htx
  exact ⟨rfl, rfl⟩

variable {r : EnsureRun} {a : EnsureCall}

/-- A call that recreates is honest, and restores the invariant. -/
theorem Inv.recreated (h : r.Inv)
    (hready : r.painter.textures.alreadyReady a.width a.height = false) :
    (r.step a).Inv ∧ r.Honest a := by
  have hnew := r.painter.textures.recreate_newborn r.painter.d3d.device a.width a.height a.create
  have hrec := Painter.recreate_ok r.painter.textures r.painter.d3d.device a.width a.height a.create
  cases hok : r.painter.d3d.device && Painter.createsAll a.create with
  | true =>
    rw [hok] at hrec
    have hopen := recreate_complete hrec
    have hat := readyAt_of_newborn hnew hopen
    refine ⟨⟨fun _ => Or.inr ?_, fun hfailed => ?_, ?_⟩, ?_⟩
    · rw [step, Painter.ensureSharedTextures_recreated hready hok]
      refine ⟨hat, fun p tx htx => ?_⟩
      obtain ⟨id, -, hlt, rfl⟩ := hnew.created p tx htx
      exact hlt
    · rw [step, Painter.ensureSharedTextures_recreated hready hok, hready] at hfailed
      cases hfailed
    · rw [step, Painter.ensureSharedTextures_recreated hready hok]
      exact Nat.le_refl _
    · rw [Honest, Painter.ensureSharedTextures_recreated hready hok]
      exact fun _ => ⟨⟨hat, rfl, rfl⟩, fun _ => rfl⟩
  | false =>
    rw [hok] at hrec
    refine ⟨⟨fun hfailed => ?_, fun _ => ?_, ?_⟩, ?_⟩
    · rw [step, Painter.ensureSharedTextures_failed hready hok, hready] at hfailed
      cases hfailed
    · rw [step, Painter.ensureSharedTextures_failed hready hok]
      exact recreate_incomplete hrec
    · rw [step, Painter.ensureSharedTextures_failed hready hok]
      exact Nat.le_trans h.mark_le hnew.le
    · rw [Honest, Painter.ensureSharedTextures_failed hready hok]
      intro hfalse
      cases hfalse

/-- **One call.** A true answer is right unless the shortcut gives it while the last recreation
has failed. -/
theorem Inv.honest_iff (h : r.Inv) : r.Honest a ↔ r.NotStale a := by
  cases hready : r.painter.textures.alreadyReady a.width a.height with
  | false =>
    constructor
    · rintro - ⟨-, hstale⟩
      rw [hready] at hstale
      cases hstale
    · intro _
      exact (h.recreated hready).2
  | true =>
    obtain ⟨hwidth, hheight, hring⟩ := alreadyReady_iff.mp hready
    rw [Honest, NotStale, Painter.ensureSharedTextures_ready hready]
    constructor
    · rintro hhonest ⟨hfailed, -⟩
      obtain ⟨p, hp⟩ := h.broken hfailed
      exact hp ((hhonest rfl).1.1 p).1
    · intro hnot _
      have hok : r.failed = false := by
        cases hf : r.failed with
        | false => rfl
        | true => exact absurd ⟨hf, hready⟩ hnot
      rcases h.sound hok with hnone | ⟨hat, hold⟩
      · have h0 := hring ⟨0, by decide⟩
        rw [hnone] at h0
        cases h0
      · rw [hwidth, hheight] at hat
        refine ⟨⟨hat, hwidth, hheight⟩, ?_⟩
        rintro ⟨p, tx, htx, hmark⟩
        exact absurd (hold p tx htx) (Nat.not_lt.mpr hmark)

theorem Inv.next (h : r.Inv) (a : EnsureCall) : (r.step a).Inv := by
  cases hready : r.painter.textures.alreadyReady a.width a.height with
  | false => exact (h.recreated hready).1
  | true =>
    have hs : r.step a = { r with mark := r.painter.textures.nextTexture } := by
      rw [step, Painter.ensureSharedTextures_ready hready, hready]
      rfl
    rw [hs]
    refine ⟨fun hf => (h.sound hf).imp_right fun hsound => ⟨hsound.1, fun p tx htx => ?_⟩,
      h.broken, Nat.le_refl _⟩
    exact Nat.lt_of_lt_of_le (hsound.2 p tx htx) h.mark_le

end EnsureRun

/-- **Sequences of `EnsureSharedTextures` calls**, with any sizes and any failures: all true
answers are right if and only if the shortcut never answers while the last recreation has
failed. -/
theorem ensure_honest_iff_not_stale (names : SharedMemoryNames) (d3d : D3DInterfaces)
    (width height : UInt32) (calls : List EnsureCall) :
    Runs.Along EnsureRun.step EnsureRun.Honest (.init (.init names d3d width height)) calls ↔
      Runs.Along EnsureRun.step EnsureRun.NotStale (.init (.init names d3d width height)) calls :=
  Runs.along_congr (I := EnsureRun.Inv) (fun _ a h => h.next a) (fun _ _ h => h.honest_iff)
    (EnsureRun.inv_init names d3d width height) calls

/-- Every step succeeds. -/
def createdAll : Plane → CreateOutcome := fun _ => ⟨true, true, true⟩

/-- The ring is created, the popup plane is not. -/
def createdRing : Plane → CreateOutcome
  | .ring _ => ⟨true, true, true⟩
  | .popup => ⟨false, false, false⟩

/-- A resize that fails at the popup plane, then back to the old size. -/
def staleCalls : List EnsureCall :=
  [⟨100, 100, createdAll⟩, ⟨200, 200, createdRing⟩, ⟨100, 100, createdAll⟩]

/-- The third call returns true over a ring of 200 × 200 textures and without a popup plane. -/
theorem ensure_stale_shortcut :
    ¬ Runs.Along EnsureRun.step EnsureRun.Honest
      (.init (.init (buildSharedMemoryNames []) fullD3D 100 100)) staleCalls := by
  rintro ⟨-, -, hlast, -⟩
  have htrue : ((Runs.run EnsureRun.step
      (.init (.init (buildSharedMemoryNames []) fullD3D 100 100)) (staleCalls.take 2)
      ).painter.ensureSharedTextures 100 100 createdAll).2.1 = true := by decide +kernel
  have hpopup := ((hlast htrue).1.1 .popup).1.1
  exact absurd hpopup (by decide +kernel)

end CefHost
