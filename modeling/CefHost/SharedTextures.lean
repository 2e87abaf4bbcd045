import CefHost.D3D
import CefHost.SharedMemoryLayout

/-!
# The shared textures

The ring of `BUFFER_COUNT` textures the consumer reads frames from and the popup plane, each with
a named NT handle: `ResetSharedTextureRing`, `CreateSharedTextureRing`, `ResetSharedPopupPlane`,
`CreateSharedPopupPlane`.

## A failed step

Creating a plane takes three steps, each of which may fail: `CreateTexture2D`, the query for
`IDXGIResource1` and `CreateSharedHandle`. A failed step leaves its own output null and the
outputs of the earlier ones in place, so a recreation that fails half-way leaves new textures
behind, some without a handle.

## Main definitions

* `SharedTextures` — the ring, the popup plane, and the size they were last created with
* `SharedTextures.recreate` — the part of `EnsureSharedTextures` that replaces them all

## Main results

* `SharedTextures.recreate_ok_iff` — recreation succeeds exactly when every step does
* `SharedTextures.recreate_newborn` — whatever the outcome, what exists afterwards is new
* `SharedTextures.recreate_complete` — after a success everything exists
* `SharedTextures.recreate_incomplete` — after a failure something is missing
* `SharedTextures.recreate_popup` — the popup plane is created last
-/

namespace CefHost

/-- The places a shared texture can be in. -/
inductive Plane
  | ring (i : Fin shmFrameSlotCount)
  | popup
deriving DecidableEq

/-- A handle of the kernel object called `name`. -/
structure NtHandle where
  serial : ℕ
  name : WString
deriving DecidableEq

/-- How the three steps that create a plane go. -/
structure CreateOutcome where
  createTexture2D : Bool
  queryResource1 : Bool
  createSharedHandle : Bool
deriving DecidableEq

def CreateOutcome.ok (o : CreateOutcome) : Bool :=
  o.createTexture2D && o.queryResource1 && o.createSharedHandle

/-- `m_sharedTexture`, `m_sharedNTHandle` and their popup counterparts, with `m_sharedWidth` and
`m_sharedHeight`. `nextTexture` and `nextHandle` number the objects, `closed` collects the handles
given to `CloseHandle`. -/
structure SharedTextures where
  names : SharedMemoryNames
  texture : Plane → Option Texture
  handle : Plane → Option NtHandle
  sharedWidth : UInt32
  sharedHeight : UInt32
  nextTexture : ℕ
  nextHandle : ℕ
  closed : List NtHandle

namespace SharedTextures

/-- Before the first paint. -/
def init (names : SharedMemoryNames) : SharedTextures where
  names := names
  texture := fun _ => none
  handle := fun _ => none
  sharedWidth := 0
  sharedHeight := 0
  nextTexture := 0
  nextHandle := 0
  closed := []

def makeSharedTextureSlotName (t : SharedTextures) (slot : Fin shmFrameSlotCount) : WString :=
  t.names.sharedTexturePrefix ++ ['_'] ++ (Nat.repr slot).toList

/-- The name a plane is shared under. -/
def planeName (t : SharedTextures) : Plane → WString
  | .ring i => t.makeSharedTextureSlotName i
  | .popup => t.names.sharedPopupTextureName

/-- Closes the handle of a plane and drops its texture. -/
def resetPlane (t : SharedTextures) (p : Plane) : SharedTextures :=
  { t with
    texture := Function.update t.texture p none
    handle := Function.update t.handle p none
    closed := t.closed ++ (t.handle p).toList }

def resetSharedTextureRing (t : SharedTextures) : SharedTextures :=
  (List.finRange shmFrameSlotCount).foldl (fun t i => t.resetPlane (.ring i)) t

def resetSharedPopupPlane (t : SharedTextures) : SharedTextures := t.resetPlane .popup

/-- Creates the texture of a plane and its named handle; stops at the first step that fails. -/
def createPlane (t : SharedTextures) (p : Plane) (width height : UInt32) (o : CreateOutcome) :
    SharedTextures × Bool :=
  if o.createTexture2D then
    let t := { t with
      texture := Function.update t.texture p (some (.create t.nextTexture width height))
      nextTexture := t.nextTexture + 1 }
    if o.queryResource1 then
      if o.createSharedHandle then
        ({ t with
            handle := Function.update t.handle p (some ⟨t.nextHandle, t.planeName p⟩)
            nextHandle := t.nextHandle + 1 }, true)
      else ({ t with handle := Function.update t.handle p none }, false)
    else (t, false)
  else ({ t with texture := Function.update t.texture p none }, false)

/-- The loop of `CreateSharedTextureRing`, with its early return. -/
def createSlots (width height : UInt32) (o : Plane → CreateOutcome) :
    List (Fin shmFrameSlotCount) → SharedTextures → SharedTextures × Bool
  | [], t => (t, true)
  | i :: is, t =>
    let (t, ok) := t.createPlane (.ring i) width height (o (.ring i))
    if ok then createSlots width height o is t else (t, false)

def createSharedTextureRing (t : SharedTextures) (width height : UInt32)
    (o : Plane → CreateOutcome) : SharedTextures × Bool :=
  createSlots width height o (List.finRange shmFrameSlotCount) t

def createSharedPopupPlane (t : SharedTextures) (width height : UInt32)
    (o : Plane → CreateOutcome) : SharedTextures × Bool :=
  t.createPlane .popup width height (o .popup)

/-- The shortcut of `EnsureSharedTextures`: the size is the one last created and the ring has all
its textures. -/
def alreadyReady (t : SharedTextures) (width height : UInt32) : Bool :=
  t.sharedWidth == width && t.sharedHeight == height &&
    (List.finRange shmFrameSlotCount).all fun i => (t.texture (.ring i)).isSome

/-- What `EnsureSharedTextures` does to the textures without the shortcut: it drops them all and
creates them anew, the popup plane last. -/
def recreate (t : SharedTextures) (device : Bool) (width height : UInt32)
    (o : Plane → CreateOutcome) : SharedTextures × Bool :=
  let t := t.resetSharedTextureRing.resetSharedPopupPlane
  if device then
    let (t, ok) := t.createSharedTextureRing width height o
    if ok then t.createSharedPopupPlane width height o else (t, false)
  else (t, false)

/-- The texture in the slot the consumer is told, if there is such a slot. -/
def slotPlane (slot : UInt32) : Option Plane :=
  if h : slot.toNat < shmFrameSlotCount then some (.ring ⟨slot.toNat, h⟩) else none

/-! ### Resetting -/

variable {t t' : SharedTextures} {width height : UInt32} {o : Plane → CreateOutcome}

theorem resetPlane_self (p : Plane) :
    (t.resetPlane p).texture p = none ∧ (t.resetPlane p).handle p = none := by
  simp [resetPlane]

theorem resetPlane_of_ne {p q : Plane} (h : q ≠ p) :
    (t.resetPlane p).texture q = t.texture q ∧ (t.resetPlane p).handle q = t.handle q := by
  simp [resetPlane, h]

/-- A plane that is empty, or among those reset, is empty afterwards. -/
theorem foldl_resetPlane {p : Plane} (is : List (Fin shmFrameSlotCount))
    (h : (t.texture p = none ∧ t.handle p = none) ∨ ∃ i ∈ is, p = .ring i) :
    (is.foldl (fun t i => t.resetPlane (.ring i)) t).texture p = none ∧
      (is.foldl (fun t i => t.resetPlane (.ring i)) t).handle p = none := by
  induction is generalizing t with
  | nil => simpa using h
  | cons i is ih =>
    refine ih ?_
    by_cases hp : p = .ring i
    · left
      rw [hp]
      exact resetPlane_self _
    · refine h.imp (fun hempty => ?_) fun hmem => ?_
      · rw [(resetPlane_of_ne hp).1, (resetPlane_of_ne hp).2]
        exact hempty
      · obtain ⟨j, hj, rfl⟩ := hmem
        refine ⟨j, (List.mem_cons.mp hj).resolve_left ?_, rfl⟩
        rintro rfl
        exact hp rfl

theorem foldl_resetPlane_frame (is : List (Fin shmFrameSlotCount)) (t : SharedTextures) :
    (is.foldl (fun t i => t.resetPlane (.ring i)) t).nextTexture = t.nextTexture ∧
      (is.foldl (fun t i => t.resetPlane (.ring i)) t).sharedWidth = t.sharedWidth ∧
      (is.foldl (fun t i => t.resetPlane (.ring i)) t).sharedHeight = t.sharedHeight := by
  induction is generalizing t with
  | nil => exact ⟨rfl, rfl, rfl⟩
  | cons i is ih => exact ih (t.resetPlane (.ring i))

/-- All planes after both resets. -/
def cleared (t : SharedTextures) : SharedTextures := t.resetSharedTextureRing.resetSharedPopupPlane

theorem cleared_empty (t : SharedTextures) (p : Plane) :
    t.cleared.texture p = none ∧ t.cleared.handle p = none := by
  cases p with
  | ring i =>
    have hne : Plane.ring i ≠ .popup := by simp
    have h := foldl_resetPlane (t := t) (p := .ring i) (List.finRange shmFrameSlotCount)
      (Or.inr ⟨i, List.mem_finRange i, rfl⟩)
    rw [cleared, resetSharedPopupPlane, (resetPlane_of_ne hne).1, (resetPlane_of_ne hne).2]
    exact h
  | popup => exact resetPlane_self _

@[simp] theorem cleared_nextTexture (t : SharedTextures) :
    t.cleared.nextTexture = t.nextTexture := (foldl_resetPlane_frame _ t).1

@[simp] theorem cleared_sharedWidth (t : SharedTextures) :
    t.cleared.sharedWidth = t.sharedWidth := (foldl_resetPlane_frame _ t).2.1

@[simp] theorem cleared_sharedHeight (t : SharedTextures) :
    t.cleared.sharedHeight = t.sharedHeight := (foldl_resetPlane_frame _ t).2.2

/-! ### Creating one plane -/

/-- A plane exists and is shared under its name. -/
def Open (t : SharedTextures) (p : Plane) : Prop :=
  (t.texture p).isSome ∧ (t.handle p).map NtHandle.name = some (t.planeName p)

/-- Every texture was created at this size since there were `base` of them, nothing has been copied
into it, and no two planes share one. -/
structure Newborn (base : ℕ) (width height : UInt32) (t : SharedTextures) : Prop where
  le : base ≤ t.nextTexture
  created : ∀ p tx, t.texture p = some tx →
    ∃ id, base ≤ id ∧ id < t.nextTexture ∧ tx = .create id width height
  inj : ∀ p q tx ux, t.texture p = some tx → t.texture q = some ux → tx.id = ux.id → p = q

theorem newborn_cleared (t : SharedTextures) (width height : UInt32) :
    Newborn t.nextTexture width height t.cleared where
  le := by rw [cleared_nextTexture]
  created p tx h := by rw [(t.cleared_empty p).1] at h; cases h
  inj p q tx ux h := by rw [(t.cleared_empty p).1] at h; cases h

/-- Dropping a texture, or the handle beside it, keeps the others newborn. -/
theorem Newborn.of_texture {base : ℕ} (h : Newborn base width height t)
    (hnext : t'.nextTexture = t.nextTexture)
    (htex : ∀ p tx, t'.texture p = some tx → t.texture p = some tx) :
    Newborn base width height t' where
  le := by rw [hnext]; exact h.le
  created p tx hp := by rw [hnext]; exact h.created p tx (htex p tx hp)
  inj p q tx ux hp hq := h.inj p q tx ux (htex p tx hp) (htex q ux hq)

/-- `CreateTexture2D` succeeded. -/
theorem Newborn.create {base : ℕ} (h : Newborn base width height t) (p : Plane) :
    Newborn base width height { t with
      texture := Function.update t.texture p (some (.create t.nextTexture width height))
      nextTexture := t.nextTexture + 1 } where
  le := Nat.le_succ_of_le h.le
  created q tx hq := by
    by_cases hpq : q = p
    · subst hpq
      simp only [Function.update_self, Option.some.injEq] at hq
      subst hq
      exact ⟨t.nextTexture, h.le, Nat.lt_succ_self _, rfl⟩
    · simp only [Function.update_of_ne hpq] at hq
      obtain ⟨id, hbase, hlt, rfl⟩ := h.created q tx hq
      exact ⟨id, hbase, Nat.lt_succ_of_lt hlt, rfl⟩
  inj q r tx ux hq hr hid := by
    -- the new texture has a number none of the others has
    have hold : ∀ q tx, t.texture q = some tx → tx.id ≠ t.nextTexture := by
      intro q tx hq
      obtain ⟨id, -, hlt, rfl⟩ := h.created q tx hq
      exact Nat.ne_of_lt hlt
    by_cases hqp : q = p <;> by_cases hrp : r = p
    · rw [hqp, hrp]
    · subst hqp
      simp only [Function.update_self, Function.update_of_ne hrp, Option.some.injEq] at hq hr
      subst hq
      exact absurd hid.symm (hold r ux hr)
    · subst hrp
      simp only [Function.update_self, Function.update_of_ne hqp, Option.some.injEq] at hq hr
      subst hr
      exact absurd hid (hold q tx hq)
    · simp only [Function.update_of_ne hqp, Function.update_of_ne hrp] at hq hr
      exact h.inj q r tx ux hq hr hid

theorem Newborn.createPlane {base : ℕ} (h : Newborn base width height t) (p : Plane)
    (oc : CreateOutcome) : Newborn base width height (t.createPlane p width height oc).1 := by
  rw [SharedTextures.createPlane]
  split
  · have hnew := h.create p
    dsimp only
    split
    · split
      · exact hnew.of_texture rfl fun _ _ hq => hq
      · exact hnew.of_texture rfl fun _ _ hq => hq
    · exact hnew
  · refine h.of_texture rfl fun q tx hq => ?_
    by_cases hqp : q = p
    · subst hqp
      simp only [Function.update_self, reduceCtorEq] at hq
    · simpa only [Function.update_of_ne hqp] using hq

theorem createPlane_ok (p : Plane) (oc : CreateOutcome) :
    (t.createPlane p width height oc).2 = oc.ok := by
  cases oc with | mk c q s => cases c <;> cases q <;> cases s <;> rfl

theorem createPlane_open (t : SharedTextures) (width height : UInt32) (p : Plane)
    {oc : CreateOutcome} (h : oc.ok = true) : (t.createPlane p width height oc).1.Open p := by
  cases oc with | mk c q s =>
  cases c <;> cases q <;> cases s <;> simp [CreateOutcome.ok] at h
  simp only [SharedTextures.createPlane, Open, if_true, Function.update_self]
  exact ⟨rfl, by cases p <;> rfl⟩

/-- Creating a plane leaves the others alone, and the size. -/
theorem createPlane_frame (t : SharedTextures) (p : Plane) (width height : UInt32)
    (oc : CreateOutcome) :
    (∀ q, q ≠ p → (t.createPlane p width height oc).1.texture q = t.texture q ∧
      (t.createPlane p width height oc).1.handle q = t.handle q) ∧
      (t.createPlane p width height oc).1.names = t.names ∧
      (t.createPlane p width height oc).1.sharedWidth = t.sharedWidth ∧
      (t.createPlane p width height oc).1.sharedHeight = t.sharedHeight := by
  cases oc with | mk c q s =>
  refine ⟨fun r hr => ?_, ?_, ?_, ?_⟩ <;> cases c <;> cases q <;> cases s <;>
    simp [SharedTextures.createPlane, Function.update_of_ne, *]

/-- Equal names and equal entries: open in one, open in the other. -/
theorem Open.congr {p : Plane} (h : t.Open p) (hnames : t'.names = t.names)
    (htex : (t'.texture p).isSome = (t.texture p).isSome) (hhandle : t'.handle p = t.handle p) :
    t'.Open p := by
  have hname : t'.planeName p = t.planeName p := by
    cases p <;> simp [planeName, makeSharedTextureSlotName, hnames]
  exact ⟨by rw [htex]; exact h.1, by rw [hhandle, hname]; exact h.2⟩

/-- A plane without a handle gets one only if all three steps succeed. -/
theorem createPlane_ok_of_open {p : Plane} {oc : CreateOutcome} (hnone : t.handle p = none)
    (h : (t.createPlane p width height oc).1.Open p) : oc.ok = true := by
  cases oc with | mk c q s =>
  cases c <;> cases q <;> cases s <;>
    simp [SharedTextures.createPlane, Open, CreateOutcome.ok, hnone] at h ⊢

/-! ### The loop over the ring -/

theorem Newborn.createSlots {base : ℕ} (is : List (Fin shmFrameSlotCount))
    (h : Newborn base width height t) :
    Newborn base width height (createSlots width height o is t).1 := by
  induction is generalizing t with
  | nil => exact h
  | cons i is ih =>
    rw [SharedTextures.createSlots]
    dsimp only
    split
    · exact ih (h.createPlane _ _)
    · exact h.createPlane _ _

theorem createSlots_ok (is : List (Fin shmFrameSlotCount)) (t : SharedTextures) :
    (createSlots width height o is t).2 = is.all fun i => (o (.ring i)).ok := by
  induction is generalizing t with
  | nil => rfl
  | cons i is ih =>
    rw [createSlots, List.all_cons]
    dsimp only
    rw [createPlane_ok]
    cases hi : (o (.ring i)).ok with
    | true => rw [if_pos rfl, ih, Bool.true_and]
    | false => simp

theorem createSlots_frame (is : List (Fin shmFrameSlotCount)) (width height : UInt32)
    (o : Plane → CreateOutcome) (t : SharedTextures) :
    (∀ q, (∀ i ∈ is, q ≠ .ring i) → (createSlots width height o is t).1.texture q = t.texture q ∧
      (createSlots width height o is t).1.handle q = t.handle q) ∧
      (createSlots width height o is t).1.names = t.names ∧
      (createSlots width height o is t).1.sharedWidth = t.sharedWidth ∧
      (createSlots width height o is t).1.sharedHeight = t.sharedHeight := by
  induction is generalizing t with
  | nil => exact ⟨fun _ _ => ⟨rfl, rfl⟩, rfl, rfl, rfl⟩
  | cons i is ih =>
    obtain ⟨hplane, hn, hw, hh⟩ := t.createPlane_frame (.ring i) width height (o (.ring i))
    rw [createSlots]
    dsimp only
    split
    · obtain ⟨hrest, hn', hw', hh'⟩ := ih (t.createPlane (.ring i) width height (o (.ring i))).1
      refine ⟨fun q hq => ?_, hn'.trans hn, hw'.trans hw, hh'.trans hh⟩
      have hi := hplane q (hq i List.mem_cons_self)
      have his := hrest q fun j hj => hq j (List.mem_cons_of_mem _ hj)
      exact ⟨his.1.trans hi.1, his.2.trans hi.2⟩
    · exact ⟨fun q hq => hplane q (hq i List.mem_cons_self), hn, hw, hh⟩

theorem ring_ne_of_notMem {is : List (Fin shmFrameSlotCount)} {i : Fin shmFrameSlotCount}
    (h : i ∉ is) : ∀ j ∈ is, Plane.ring i ≠ .ring j := by
  rintro j hj heq
  cases heq
  exact h hj

/-- A loop that runs to its end leaves every slot open. -/
theorem createSlots_open (is : List (Fin shmFrameSlotCount)) (hnd : is.Nodup)
    (h : (createSlots width height o is t).2 = true) :
    ∀ i ∈ is, (createSlots width height o is t).1.Open (.ring i) := by
  induction is generalizing t with
  | nil => simp
  | cons i is ih =>
    rw [createSlots_ok, List.all_cons, Bool.and_eq_true] at h
    obtain ⟨hi, his⟩ := h
    obtain ⟨hnot, hnd⟩ := List.nodup_cons.mp hnd
    rw [createSlots]
    dsimp only
    rw [createPlane_ok, if_pos hi]
    intro j hj
    rcases List.mem_cons.mp hj with rfl | hj
    · obtain ⟨hframe, hnames, -, -⟩ :=
        createSlots_frame is width height o (t.createPlane (.ring j) width height (o (.ring j))).1
      obtain ⟨htex, hhandle⟩ := hframe (.ring j) (ring_ne_of_notMem hnot)
      have hopen := t.createPlane_open width height (.ring j) hi
      exact hopen.congr hnames (congrArg Option.isSome htex) hhandle
    · exact ih hnd (by rw [createSlots_ok]; exact his) j hj

/-- Conversely, a slot that was empty is open only if its own steps all succeeded. -/
theorem createSlots_ok_of_open (is : List (Fin shmFrameSlotCount)) (hnd : is.Nodup)
    {i : Fin shmFrameSlotCount} (hnone : t.handle (.ring i) = none)
    (h : (createSlots width height o is t).1.Open (.ring i)) : (o (.ring i)).ok = true := by
  induction is generalizing t with
  | nil =>
    have h2 : (t.handle (.ring i)).map NtHandle.name = some (t.planeName (.ring i)) := h.2
    rw [hnone] at h2
    cases h2
  | cons j is ih =>
    obtain ⟨hnot, hnd⟩ := List.nodup_cons.mp hnd
    rw [createSlots] at h
    dsimp only at h
    by_cases hij : j = i
    · subst hij
      split at h
      · rename_i hok
        rwa [createPlane_ok] at hok
      · exact createPlane_ok_of_open hnone h
    · obtain ⟨hframe, -, -, -⟩ := t.createPlane_frame (.ring j) width height (o (.ring j))
      have hkeep := (hframe (.ring i) (by simpa using Ne.symm hij)).2
      split at h
      · exact ih hnd (hkeep.trans hnone) h
      · have h2 := h.2
        rw [hkeep, hnone] at h2
        cases h2

/-! ### Recreating everything -/

theorem recreate_eq (t : SharedTextures) (device : Bool) (width height : UInt32)
    (o : Plane → CreateOutcome) :
    t.recreate device width height o =
      if device then
        let (t, ok) := t.cleared.createSharedTextureRing width height o
        if ok then t.createSharedPopupPlane width height o else (t, false)
      else (t.cleared, false) := rfl

/-- **Recreation succeeds** exactly when there is a device and every step succeeds. -/
theorem recreate_ok_iff {device : Bool} :
    (t.recreate device width height o).2 = true ↔ device = true ∧ ∀ p, (o p).ok = true := by
  have hring : (t.cleared.createSharedTextureRing width height o).2 = true ↔
      ∀ i, (o (.ring i)).ok = true := by
    rw [createSharedTextureRing, createSlots_ok, List.all_eq_true]
    exact ⟨fun h i => h i (List.mem_finRange i), fun h i _ => h i⟩
  rw [recreate_eq]
  cases device with
  | false => simp
  | true =>
    dsimp only
    rw [if_pos rfl]
    constructor
    · intro h
      split at h
      · rename_i hok
        rw [createSharedPopupPlane, createPlane_ok] at h
        refine ⟨rfl, fun p => ?_⟩
        cases p with
        | ring i => exact hring.mp hok i
        | popup => exact h
      · cases h
    · rintro ⟨-, h⟩
      rw [if_pos (hring.mpr fun i => h (.ring i)), createSharedPopupPlane, createPlane_ok]
      exact h .popup

/-- **Whatever the outcome**, what exists afterwards was created by this call at this size. -/
theorem recreate_newborn (t : SharedTextures) (device : Bool) (width height : UInt32)
    (o : Plane → CreateOutcome) :
    Newborn t.nextTexture width height (t.recreate device width height o).1 := by
  have h := t.newborn_cleared width height
  have hring : Newborn t.nextTexture width height
      (t.cleared.createSharedTextureRing width height o).1 := h.createSlots _
  rw [recreate_eq]
  dsimp only
  split
  · split
    · exact hring.createPlane _ _
    · exact hring
  · exact h

/-- The popup plane is created last: it exists only if the whole ring does. -/
theorem recreate_popup {device : Bool}
    (h : ((t.recreate device width height o).1.texture .popup).isSome) (i : Fin shmFrameSlotCount) :
    (t.recreate device width height o).1.Open (.ring i) := by
  rw [recreate_eq] at h ⊢
  dsimp only at h ⊢
  split
  · rename_i hdev
    rw [if_pos hdev] at h
    split
    · rename_i hok
      have hopen := createSlots_open (List.finRange shmFrameSlotCount) (List.nodup_finRange _) hok i
        (List.mem_finRange i)
      obtain ⟨hframe, hnames, -, -⟩ := SharedTextures.createPlane_frame
        (t.cleared.createSharedTextureRing width height o).1 .popup width height (o .popup)
      obtain ⟨htex, hhandle⟩ := hframe (.ring i) (by simp)
      exact hopen.congr hnames (congrArg Option.isSome htex) hhandle
    · rename_i hok
      rw [if_neg hok] at h
      -- the ring stopped half-way, before the popup plane
      obtain ⟨hframe, -, -, -⟩ :=
        createSlots_frame (List.finRange shmFrameSlotCount) width height o t.cleared
      rw [createSharedTextureRing, (hframe .popup (by simp)).1, (t.cleared_empty .popup).1] at h
      cases h
  · rename_i hdev
    rw [if_neg hdev, (t.cleared_empty .popup).1] at h
    cases h

/-- **After a success** every plane exists with its handle open. -/
theorem recreate_complete {device : Bool}
    (h : (t.recreate device width height o).2 = true) (p : Plane) :
    (t.recreate device width height o).1.Open p := by
  obtain ⟨rfl, hall⟩ := recreate_ok_iff.mp h
  have hpopup : (t.recreate true width height o).1.Open .popup := by
    rw [recreate_eq] at h ⊢
    dsimp only at h ⊢
    rw [if_pos rfl] at h ⊢
    split
    · exact createPlane_open _ width height .popup (hall .popup)
    · rename_i hok
      rw [if_neg hok] at h
      cases h
  cases p with
  | ring i => exact recreate_popup hpopup.1 i
  | popup => exact hpopup

/-- **After a failure** some plane is missing or has no handle. -/
theorem recreate_incomplete {device : Bool}
    (h : (t.recreate device width height o).2 = false) :
    ∃ p, ¬ (t.recreate device width height o).1.Open p := by
  by_contra hall
  have hopen : ∀ p, (t.recreate device width height o).1.Open p := by simpa using hall
  -- a popup plane means the whole ring was created, so every step succeeded
  have hdev : device = true := by
    cases device with
    | true => rfl
    | false =>
      have hpopup : (t.cleared.texture .popup).isSome := (hopen .popup).1
      rw [(t.cleared_empty .popup).1] at hpopup
      cases hpopup
  subst hdev
  have hok : (t.recreate true width height o).2 = true := by
    refine recreate_ok_iff.mpr ⟨rfl, fun p => ?_⟩
    have hp := hopen p
    rw [recreate_eq] at hp
    dsimp only at hp
    rw [if_pos rfl] at hp
    obtain ⟨hframe, -, -, -⟩ :=
      createSlots_frame (List.finRange shmFrameSlotCount) width height o t.cleared
    have hnone := ((hframe .popup (by simp)).2).trans (t.cleared_empty .popup).2
    split at hp
    · rename_i hring
      cases p with
      | ring i =>
        rw [createSharedTextureRing, createSlots_ok, List.all_eq_true] at hring
        exact hring i (List.mem_finRange i)
      | popup => exact createPlane_ok_of_open hnone hp
    · cases p with
      | ring i =>
        exact createSlots_ok_of_open _ (List.nodup_finRange _) (t.cleared_empty (.ring i)).2 hp
      | popup =>
        have h2 := hp.2
        rw [createSharedTextureRing, hnone] at h2
        cases h2
  rw [hok] at h
  cases h

/-- The recorded size is set by the caller. -/
theorem recreate_frame (t : SharedTextures) (device : Bool) (width height : UInt32)
    (o : Plane → CreateOutcome) :
    (t.recreate device width height o).1.sharedWidth = t.sharedWidth ∧
      (t.recreate device width height o).1.sharedHeight = t.sharedHeight := by
  obtain ⟨-, -, hw, hh⟩ :=
    createSlots_frame (List.finRange shmFrameSlotCount) width height o t.cleared
  obtain ⟨-, -, hw', hh'⟩ := createPlane_frame
    (t.cleared.createSharedTextureRing width height o).1 .popup width height (o .popup)
  rw [cleared_sharedWidth] at hw
  rw [cleared_sharedHeight] at hh
  rw [recreate_eq]
  dsimp only
  split
  · split
    · exact ⟨hw'.trans hw, hh'.trans hh⟩
    · exact ⟨hw, hh⟩
  · exact ⟨t.cleared_sharedWidth, t.cleared_sharedHeight⟩

/-! ### The shortcut and the slots -/

theorem alreadyReady_iff : t.alreadyReady width height = true ↔
    t.sharedWidth = width ∧ t.sharedHeight = height ∧ ∀ i, (t.texture (.ring i)).isSome := by
  simp [alreadyReady, and_assoc]

theorem slotPlane_of_lt {slot : UInt32} (h : slot.toNat < shmFrameSlotCount) :
    slotPlane slot = some (.ring ⟨slot.toNat, h⟩) := dif_pos h

end SharedTextures

end CefHost
