import CefHost.Library.Ownership
import CefHost.TextureReadiness

/-!
# Who owns the shared handles

The NT handles of the ring slots and of the popup plane are opened by `CreateSharedHandle` and
closed by `ResetSharedTextureRing` and `ResetSharedPopupPlane`. A named handle that leaks keeps its
name taken, and one that is closed twice closes somebody else's.

`CreateSharedHandle` writes into a member that `EnsureSharedTextures` has just emptied, for every
plane and every outcome of the steps before it. So the members are the owners, at all times.

## Main definitions

* `SharedTextures.HandlesBalanced` — the members own what is open, and nothing is closed twice
* `HandleCall`, `Painter.handleCall` — the two calls that touch the handles

## Main results

* `SharedTextures.HandlesBalanced.resetPlane`, `createPlane` — one plane
* `SharedTextures.HandlesBalanced.recreate` — all of them, with any step failing
* `shared_handles_balanced` — every sequence of calls
-/

namespace CefHost

open Ownership

namespace SharedTextures

/-- The number of the handle a plane has. -/
def serialOf (t : SharedTextures) (p : Plane) : Option ℕ := (t.handle p).map NtHandle.serial

/-- Every handle returned by `CreateSharedHandle` is a plane's, or has been closed once. -/
def HandlesBalanced (t : SharedTextures) : Prop :=
  Balanced t.serialOf (t.closed.map NtHandle.serial) t.nextHandle

variable {t : SharedTextures} {width height : UInt32} {o : Plane → CreateOutcome}

theorem handlesBalanced_init (names : SharedMemoryNames) : (init names).HandlesBalanced :=
  Balanced.empty

/-- What the new value of one member means for the numbers. -/
theorem map_update (handle : Plane → Option NtHandle) (p : Plane) (h : Option NtHandle) :
    (fun q => (Function.update handle p h q).map NtHandle.serial)
      = Function.update (fun q => (handle q).map NtHandle.serial) p (h.map NtHandle.serial) := by
  funext q
  by_cases hq : q = p
  · rw [hq, Function.update_self, Function.update_self]
  · rw [Function.update_of_ne hq, Function.update_of_ne hq]

/-- Books that balance are those of a set of textures with the same entries. -/
theorem handlesBalanced_of {held : Plane → Option ℕ} {released : List ℕ} {issued : ℕ}
    (h : Balanced held released issued) (hheld : t.serialOf = held)
    (hclosed : t.closed.map NtHandle.serial = released) (hnext : t.nextHandle = issued) :
    t.HandlesBalanced := by
  rw [HandlesBalanced, hheld, hclosed, hnext]
  exact h

/-- Closing the handle of a plane, if it has one. -/
theorem HandlesBalanced.resetPlane (h : t.HandlesBalanced) (p : Plane) :
    (t.resetPlane p).HandlesBalanced := by
  have hclosed : (t.resetPlane p).closed.map NtHandle.serial
      = t.closed.map NtHandle.serial ++ (t.serialOf p).toList := by
    rw [SharedTextures.resetPlane, List.map_append, serialOf]
    cases t.handle p <;> rfl
  exact handlesBalanced_of (h.release p) (map_update t.handle p none) hclosed rfl

theorem HandlesBalanced.cleared (h : t.HandlesBalanced) : t.cleared.HandlesBalanced := by
  have hring : ∀ (is : List (Fin shmFrameSlotCount)) (t : SharedTextures), t.HandlesBalanced →
      (is.foldl (fun t i => t.resetPlane (.ring i)) t).HandlesBalanced := by
    intro is
    induction is with
    | nil => exact fun _ h => h
    | cons i is ih => exact fun t h => ih _ (h.resetPlane (.ring i))
  exact (hring _ t h).resetPlane .popup

/-- Creating a plane that has no handle, however far its steps get. -/
theorem HandlesBalanced.createPlane (h : t.HandlesBalanced) {p : Plane} (hp : t.handle p = none)
    (oc : CreateOutcome) : (t.createPlane p width height oc).1.HandlesBalanced := by
  have hnone : t.serialOf p = none := by rw [serialOf, hp]; rfl
  rw [SharedTextures.createPlane]
  split
  · dsimp only
    split
    · split
      · exact handlesBalanced_of (h.issue hnone) (map_update t.handle p _) rfl rfl
      · exact handlesBalanced_of (h.clear hnone) (map_update t.handle p none) rfl rfl
    · exact h
  · exact h

/-- The loop over the ring, whose slots have no handles yet. -/
theorem HandlesBalanced.createSlots (is : List (Fin shmFrameSlotCount)) (hnd : is.Nodup)
    (h : t.HandlesBalanced) (hnone : ∀ i ∈ is, t.handle (.ring i) = none) :
    (createSlots width height o is t).1.HandlesBalanced := by
  induction is generalizing t with
  | nil => exact h
  | cons i is ih =>
    obtain ⟨hnot, hnd⟩ := List.nodup_cons.mp hnd
    have hnew : (t.createPlane (.ring i) width height (o (.ring i))).1.HandlesBalanced :=
      h.createPlane (hnone i List.mem_cons_self) (o (.ring i))
    rw [SharedTextures.createSlots]
    dsimp only
    split
    · refine ih hnd hnew fun j hj => ?_
      have hne : Plane.ring j ≠ .ring i := by
        rintro heq
        cases heq
        exact hnot hj
      obtain ⟨hframe, -⟩ := t.createPlane_frame (.ring i) width height (o (.ring i))
      rw [(hframe (.ring j) hne).2]
      exact hnone j (List.mem_cons_of_mem _ hj)
    · exact hnew

/-- **Replacing everything**, with any step failing at any plane. -/
theorem HandlesBalanced.recreate (h : t.HandlesBalanced) (device : Bool) (width height : UInt32)
    (o : Plane → CreateOutcome) : (t.recreate device width height o).1.HandlesBalanced := by
  have hclear := h.cleared
  have hring : (t.cleared.createSharedTextureRing width height o).1.HandlesBalanced :=
    HandlesBalanced.createSlots _ (List.nodup_finRange _) hclear
      fun i _ => (t.cleared_empty (.ring i)).2
  have hpopup : (t.cleared.createSharedTextureRing width height o).1.handle .popup = none := by
    obtain ⟨hframe, -⟩ :=
      createSlots_frame (List.finRange shmFrameSlotCount) width height o t.cleared
    exact ((hframe .popup (by simp)).2).trans (t.cleared_empty .popup).2
  rw [recreate_eq]
  dsimp only
  split
  · split
    · exact hring.createPlane hpopup (o .popup)
    · exact hring
  · exact hclear

end SharedTextures

/-! ### Sequences of calls -/

/-- `EnsureSharedTextures`, with or without a device, or `ReleaseSharedTextureResources`. -/
inductive HandleCall
  | ensure (device : Bool) (call : EnsureCall)
  | release

namespace Painter

def releaseSharedTextureResources (s : Painter) : Painter :=
  { s with textures := s.textures.resetSharedTextureRing.resetSharedPopupPlane }

def handleCall (s : Painter) : HandleCall → Painter
  | .ensure device call =>
    let s := { s with d3d := { s.d3d with device := device } }
    (s.ensureSharedTextures call.width call.height call.create).1
  | .release => s.releaseSharedTextureResources

theorem handleCall_balanced {s : Painter} (h : s.textures.HandlesBalanced) (c : HandleCall) :
    (s.handleCall c).textures.HandlesBalanced := by
  cases c with
  | ensure device call =>
    have hnew := h.recreate device call.width call.height call.create
    rw [handleCall, ensureSharedTextures]
    dsimp only
    split
    · exact h
    · split
      · exact hnew
      · exact hnew
  | release => exact h.cleared

end Painter

/-- **The shared handles are balanced**, between any two calls of `EnsureSharedTextures` and
`ReleaseSharedTextureResources` and whichever steps fail: no handle is closed twice, those still
open are exactly those of the ring slots and the popup plane, no two of these have one handle, and
after a release none is open. -/
theorem shared_handles_balanced (names : SharedMemoryNames) (d3d : D3DInterfaces)
    (width height : UInt32) (calls : List HandleCall) :
    let s := Runs.run Painter.handleCall (.init names d3d width height) calls
    (s.textures.closed.map NtHandle.serial).Nodup ∧
      (∀ serial, (serial < s.textures.nextHandle ∧
          serial ∉ s.textures.closed.map NtHandle.serial) ↔
        ∃ p h, s.textures.handle p = some h ∧ h.serial = serial) ∧
      (∀ p q h h', s.textures.handle p = some h → s.textures.handle q = some h' →
        h.serial = h'.serial → p = q) ∧
      let t := s.releaseSharedTextureResources.textures
      (∀ p, t.handle p = none) ∧
        ∀ serial < t.nextHandle, serial ∈ t.closed.map NtHandle.serial := by
  intro s
  have hs : s.textures.HandlesBalanced :=
    Runs.invariant (I := fun s : Painter => s.textures.HandlesBalanced)
      (fun _ c h => Painter.handleCall_balanced h c) (SharedTextures.handlesBalanced_init names)
      calls
  have hserial : ∀ (t : SharedTextures) p serial, t.serialOf p = some serial ↔
      ∃ h, t.handle p = some h ∧ h.serial = serial := by
    intro t p serial
    exact Option.map_eq_some_iff
  refine ⟨hs.released_nodup, fun serial => ?_, fun p q h h' hp hq heq => ?_, ?_, ?_⟩
  · rw [hs.open_iff serial]
    exact exists_congr fun p => hserial s.textures p serial
  · refine hs.held_inj p q h.serial ?_ ?_
    · exact (hserial s.textures p h.serial).mpr ⟨h, hp, rfl⟩
    · exact (hserial s.textures q h.serial).mpr ⟨h', hq, heq.symm⟩
  · exact fun p => (s.textures.cleared_empty p).2
  · intro serial hlt
    by_contra hnot
    obtain ⟨p, hp⟩ := hs.cleared.covered serial hlt hnot
    rw [SharedTextures.serialOf, (s.textures.cleared_empty p).2] at hp
    cases hp

end CefHost
