import CefHost.Library.Layout
import CefHost.SharedMemoryLayout

/-!
# The frame header in bytes

Two processes map the same bytes, and what they share of `FrameHeader` is where its scalars are.
`headerLayout` is the struct of the source under the placement rule; from it follow the 344 bytes
of `sizeof(FrameHeader)` and the padding in front of `frame_id` and `popup_rect`.

An assignment to a member of the header is one store for each scalar of the member. The three
64-bit counters, natural numbers in the model, are in memory modulo `2 ^ 64`.

## Main definitions

* `headerLayout` — the scalars of `FrameHeader`
* `FrameHeader.scalar`, `HeaderStore.scalars` — their values, and the stores of an assignment

## Main results

* `FrameHeader.scalar_apply` — an assignment and its stores
* `FrameHeader.scalar_inj` — the scalars determine the header
-/

namespace CefHost

/-! ### The struct -/

/-- The members of `DirtyRect`. -/
inductive RectMember
  | x
  | y
  | w
  | h
deriving DecidableEq

def rectMembers : List RectMember := [.x, .y, .w, .h]

abbrev RectScalar := Σ _ : RectMember, Unit

def rectLayout : Layout RectScalar :=
  .struct (fun _ => .scalar 2) rectMembers (by intro m; cases m <;> decide)

/-- The members of `FrameHeader`. -/
inductive HeaderMember
  | protocolMagic
  | version
  | slotCount
  | width
  | height
  | frameId
  | presentId
  | gpuFenceValue
  | sequence
  | writeSlot
  | flags
  | cursorType
  | loadState
  | popupVisible
  | dirtyCount
  | reserved
  | popupRect
  | dirtyRects
deriving DecidableEq

/-- In the order of their declaration. -/
def headerMembers : List HeaderMember :=
  [.protocolMagic, .version, .slotCount, .width, .height, .frameId, .presentId, .gpuFenceValue,
    .sequence, .writeSlot, .flags, .cursorType, .loadState, .popupVisible, .dirtyCount, .reserved,
    .popupRect, .dirtyRects]

/-- The scalars of a member. -/
def HeaderMember.Scalar : HeaderMember → Type
  | .reserved => Fin 2 × Unit
  | .popupRect => RectScalar
  | .dirtyRects => Fin maxDirtyRects × RectScalar
  | _ => Unit

instance (m : HeaderMember) : DecidableEq m.Scalar := by
  cases m <;> unfold HeaderMember.Scalar <;> infer_instance

def HeaderMember.layout : ∀ m : HeaderMember, Layout m.Scalar
  | .protocolMagic => .scalar 2
  | .version => .scalar 2
  | .slotCount => .scalar 2
  | .width => .scalar 2
  | .height => .scalar 2
  | .frameId => .scalar 3
  | .presentId => .scalar 3
  | .gpuFenceValue => .scalar 3
  | .sequence => .scalar 2
  | .writeSlot => .scalar 2
  | .flags => .scalar 2
  | .cursorType => .scalar 0
  | .loadState => .scalar 0
  | .popupVisible => .scalar 0
  | .dirtyCount => .scalar 0
  | .reserved => .array 2 (.scalar 0)
  | .popupRect => rectLayout
  | .dirtyRects => .array maxDirtyRects rectLayout

abbrev HeaderScalar := Σ m : HeaderMember, m.Scalar

def headerLayout : Layout HeaderScalar :=
  .struct HeaderMember.layout headerMembers (by intro m; cases m <;> decide)

theorem headerLayout_size : headerLayout.size = sizeofFrameHeader := by decide

/-- The block is aligned to eight bytes, as a view of a mapping is. -/
theorem headerLayout_logAlign : headerLayout.logAlign = 3 := by decide

example : headerLayout.offset ⟨.frameId, ()⟩ = 24 := by decide

example : headerLayout.offset ⟨.popupRect, ⟨.x, ()⟩⟩ = 68 := by decide

example : headerLayout.offset ⟨.dirtyRects, (⟨15, by decide⟩, ⟨.h, ()⟩)⟩ = 336 := by decide

/-! ### Values -/

def CefLoadState.toByte : CefLoadState → ℕ
  | .idle => 0
  | .loading => 1
  | .ready => 2
  | .error => 3

def DirtyRect.member (r : DirtyRect) : RectMember → Int32
  | .x => r.x
  | .y => r.y
  | .w => r.w
  | .h => r.h

def DirtyRect.scalar (r : DirtyRect) (i : RectScalar) : ℕ := (r.member i.1).toUInt32.toNat

/-- What a scalar of the header holds. Nobody writes `reserved`, which `Init` has cleared. -/
def FrameHeader.scalar (h : FrameHeader) : HeaderScalar → ℕ
  | ⟨.protocolMagic, _⟩ => h.protocolMagic.toNat
  | ⟨.version, _⟩ => h.version.toNat
  | ⟨.slotCount, _⟩ => h.slotCount.toNat
  | ⟨.width, _⟩ => h.width.toNat
  | ⟨.height, _⟩ => h.height.toNat
  | ⟨.frameId, _⟩ => h.frameId % 2 ^ 64
  | ⟨.presentId, _⟩ => h.presentId % 2 ^ 64
  | ⟨.gpuFenceValue, _⟩ => h.gpuFenceValue % 2 ^ 64
  | ⟨.sequence, _⟩ => h.sequence.toNat
  | ⟨.writeSlot, _⟩ => h.writeSlot.toNat
  | ⟨.flags, _⟩ => h.flags.toNat
  | ⟨.cursorType, _⟩ => h.cursorType.toNat
  | ⟨.loadState, _⟩ => h.loadState.toByte
  | ⟨.popupVisible, _⟩ => h.popupVisible.toNat
  | ⟨.dirtyCount, _⟩ => h.dirtyCount.toNat
  | ⟨.reserved, _⟩ => 0
  | ⟨.popupRect, i⟩ => h.popupRect.scalar i
  | ⟨.dirtyRects, (k, i)⟩ => (h.dirtyRects k).scalar i

/-- The stores of the members of a rectangle. -/
def DirtyRect.stores (r : DirtyRect) (place : RectScalar → HeaderScalar) :
    List (HeaderScalar × ℕ) :=
  rectMembers.map fun m => (place ⟨m, ()⟩, r.scalar ⟨m, ()⟩)

/-- The stores of an assignment. -/
def HeaderStore.scalars : HeaderStore → List (HeaderScalar × ℕ)
  | .protocolMagic v => [(⟨.protocolMagic, ()⟩, v.toNat)]
  | .version v => [(⟨.version, ()⟩, v.toNat)]
  | .slotCount v => [(⟨.slotCount, ()⟩, v.toNat)]
  | .width v => [(⟨.width, ()⟩, v.toNat)]
  | .height v => [(⟨.height, ()⟩, v.toNat)]
  | .frameId v => [(⟨.frameId, ()⟩, v)]
  | .presentId v => [(⟨.presentId, ()⟩, v)]
  | .gpuFenceValue v => [(⟨.gpuFenceValue, ()⟩, v)]
  | .sequence v => [(⟨.sequence, ()⟩, v.toNat)]
  | .writeSlot v => [(⟨.writeSlot, ()⟩, v.toNat)]
  | .flags v => [(⟨.flags, ()⟩, v.toNat)]
  | .cursorType v => [(⟨.cursorType, ()⟩, v.toNat)]
  | .loadState v => [(⟨.loadState, ()⟩, v.toByte)]
  | .popupVisible v => [(⟨.popupVisible, ()⟩, v.toNat)]
  | .dirtyCount v => [(⟨.dirtyCount, ()⟩, v.toNat)]
  | .popupRect v => v.stores fun i => ⟨.popupRect, i⟩
  | .dirtyRects k v => v.stores fun i => ⟨.dirtyRects, (k, i)⟩

/-! ### An assignment and its stores -/

/-- The member an assignment is to. -/
def HeaderStore.member : HeaderStore → HeaderMember
  | .protocolMagic _ => .protocolMagic
  | .version _ => .version
  | .slotCount _ => .slotCount
  | .width _ => .width
  | .height _ => .height
  | .frameId _ => .frameId
  | .presentId _ => .presentId
  | .gpuFenceValue _ => .gpuFenceValue
  | .sequence _ => .sequence
  | .writeSlot _ => .writeSlot
  | .flags _ => .flags
  | .cursorType _ => .cursorType
  | .loadState _ => .loadState
  | .popupVisible _ => .popupVisible
  | .dirtyCount _ => .dirtyCount
  | .popupRect _ => .popupRect
  | .dirtyRects _ _ => .dirtyRects

/-- The other members keep their scalars. -/
theorem FrameHeader.scalar_apply_of_ne (h : FrameHeader) {st : HeaderStore} {m : HeaderMember}
    (hm : m ≠ st.member) (i : m.Scalar) : (h.apply st).scalar ⟨m, i⟩ = h.scalar ⟨m, i⟩ := by
  cases st <;> cases m <;> first | rfl | exact absurd rfl hm

/-- One store to a scalar of a header. -/
def storeScalar (f : HeaderScalar → ℕ) (p : HeaderScalar × ℕ) : HeaderScalar → ℕ :=
  Function.update f p.1 (p.2 % 256 ^ headerLayout.width p.1)

theorem foldl_storeScalar_of_ne {l : List (HeaderScalar × ℕ)} {j : HeaderScalar}
    (h : ∀ p ∈ l, p.1 ≠ j) (f : HeaderScalar → ℕ) : l.foldl storeScalar f j = f j := by
  induction l generalizing f with
  | nil => rfl
  | cons p l ih =>
    rw [List.foldl_cons, ih fun q hq => h q (List.mem_cons_of_mem _ hq)]
    exact Function.update_of_ne (h p List.mem_cons_self).symm _ _

theorem HeaderStore.member_of_mem_scalars {st : HeaderStore} {p : HeaderScalar × ℕ}
    (hp : p ∈ st.scalars) : p.1.1 = st.member := by
  cases st with
  | popupRect v =>
    obtain ⟨m, -, rfl⟩ := List.mem_map.mp hp
    rfl
  | dirtyRects k v =>
    obtain ⟨m, -, rfl⟩ := List.mem_map.mp hp
    rfl
  | _ => rw [List.mem_singleton.mp hp]; rfl

theorem foldl_storeScalar_singleton (f : HeaderScalar → ℕ) (j : HeaderScalar) (v : ℕ) :
    [(j, v)].foldl storeScalar f j = v % 256 ^ headerLayout.width j := by
  rw [List.foldl_cons, List.foldl_nil, storeScalar, Function.update_self]

theorem foldl_storeScalar_of_lt (f : HeaderScalar → ℕ) (j : HeaderScalar) {v : ℕ}
    (hv : v < 256 ^ headerLayout.width j) : [(j, v)].foldl storeScalar f j = v :=
  (foldl_storeScalar_singleton f j v).trans (Nat.mod_eq_of_lt hv)

theorem DirtyRect.scalar_lt (r : DirtyRect) (i : RectScalar) : r.scalar i < 256 ^ 4 :=
  (r.member i.1).toUInt32.toNat_lt

/-- The four stores of a rectangle. -/
theorem DirtyRect.foldl_stores (r : DirtyRect) (f : HeaderScalar → ℕ)
    {g : RectScalar → HeaderScalar} (hg : Function.Injective g)
    (hwidth : ∀ i, headerLayout.width (g i) = 4) (i : RectScalar) :
    (r.stores g).foldl storeScalar f (g i) = r.scalar i := by
  obtain ⟨m, ⟨⟩⟩ := i
  have hne : ∀ m' : RectMember, m' ≠ m → g ⟨m, ()⟩ ≠ g ⟨m', ()⟩ := fun m' hm h =>
    hm (congrArg Sigma.fst (hg h)).symm
  have hself : r.scalar ⟨m, ()⟩ % 256 ^ headerLayout.width (g ⟨m, ()⟩) = r.scalar ⟨m, ()⟩ := by
    rw [hwidth]
    exact Nat.mod_eq_of_lt (r.scalar_lt _)
  simp only [stores, rectMembers, List.map_cons, List.map_nil, List.foldl_cons, List.foldl_nil,
    storeScalar]
  cases m with
  | x =>
    rw [Function.update_of_ne (hne .h (by decide)), Function.update_of_ne (hne .w (by decide)),
      Function.update_of_ne (hne .y (by decide)), Function.update_self, hself]
  | y =>
    rw [Function.update_of_ne (hne .h (by decide)), Function.update_of_ne (hne .w (by decide)),
      Function.update_self, hself]
  | w => rw [Function.update_of_ne (hne .h (by decide)), Function.update_self, hself]
  | h => rw [Function.update_self, hself]

theorem CefLoadState.toByte_lt (v : CefLoadState) : v.toByte < 256 := by cases v <;> decide

/-- **An assignment and its stores.** -/
theorem FrameHeader.scalar_apply (h : FrameHeader) (st : HeaderStore) :
    st.scalars.foldl storeScalar h.scalar = (h.apply st).scalar := by
  funext ⟨m, i⟩
  by_cases hm : m = st.member
  · subst hm
    cases st with
    | protocolMagic v => exact foldl_storeScalar_of_lt _ _ v.toNat_lt
    | version v => exact foldl_storeScalar_of_lt _ _ v.toNat_lt
    | slotCount v => exact foldl_storeScalar_of_lt _ _ v.toNat_lt
    | width v => exact foldl_storeScalar_of_lt _ _ v.toNat_lt
    | height v => exact foldl_storeScalar_of_lt _ _ v.toNat_lt
    | frameId v => exact foldl_storeScalar_singleton _ _ _
    | presentId v => exact foldl_storeScalar_singleton _ _ _
    | gpuFenceValue v => exact foldl_storeScalar_singleton _ _ _
    | sequence v => exact foldl_storeScalar_of_lt _ _ v.toNat_lt
    | writeSlot v => exact foldl_storeScalar_of_lt _ _ v.toNat_lt
    | flags v => exact foldl_storeScalar_of_lt _ _ v.toNat_lt
    | cursorType v => exact foldl_storeScalar_of_lt _ _ v.toNat_lt
    | loadState v => exact foldl_storeScalar_of_lt _ _ v.toByte_lt
    | popupVisible v => exact foldl_storeScalar_of_lt _ _ v.toNat_lt
    | dirtyCount v => exact foldl_storeScalar_of_lt _ _ v.toNat_lt
    | popupRect v =>
      exact v.foldl_stores _ (g := fun i => ⟨.popupRect, i⟩)
        (fun _ _ heq => eq_of_heq (Sigma.mk.inj heq).2) (fun _ => rfl) i
    | dirtyRects k v =>
      obtain ⟨k', i⟩ := i
      by_cases hk : k' = k
      · subst hk
        refine (v.foldl_stores _ (g := fun i => ⟨.dirtyRects, (k', i)⟩) (fun _ _ heq => ?_)
          (fun _ => rfl) i).trans ?_
        · exact congrArg Prod.snd (eq_of_heq (Sigma.mk.inj heq).2)
        · show _ = ((Function.update h.dirtyRects k' v) k').scalar i
          rw [Function.update_self]
      · rw [foldl_storeScalar_of_ne]
        · show _ = ((Function.update h.dirtyRects k v) k').scalar i
          rw [Function.update_of_ne hk]
          rfl
        · rintro p hp heq
          obtain ⟨c, -, rfl⟩ := List.mem_map.mp hp
          exact hk (congrArg Prod.fst (eq_of_heq (Sigma.mk.inj heq).2)).symm
  · rw [h.scalar_apply_of_ne hm, foldl_storeScalar_of_ne]
    intro p hp heq
    exact hm ((congrArg Sigma.fst heq).symm.trans (HeaderStore.member_of_mem_scalars hp))

/-! ### The bytes of a header -/

/-- The bytes from `base` on are those of the header. -/
def FrameHeader.InBytes (h : FrameHeader) (m : Layout.Memory) (base : ℕ) : Prop :=
  headerLayout.read m base = h.scalar

/-- Assignments to members, as stores to the mapping at `base`. -/
def storeBytes (base : ℕ) (m : Layout.Memory) (sts : List HeaderStore) : Layout.Memory :=
  headerLayout.writes base m (sts.flatMap HeaderStore.scalars)

/-- **Assignments keep the bytes those of the header.** -/
theorem FrameHeader.InBytes.stores {h : FrameHeader} {m : Layout.Memory} {base : ℕ}
    (hm : h.InBytes m base) (sts : List HeaderStore) :
    (sts.foldl FrameHeader.apply h).InBytes (storeBytes base m sts) base := by
  induction sts generalizing h m with
  | nil => exact hm
  | cons st sts ih =>
    rw [storeBytes, List.flatMap_cons, Layout.writes_append]
    refine ih ?_
    rw [FrameHeader.InBytes, Layout.read_writes, hm]
    exact h.scalar_apply st

/-- The counters as they are in memory. -/
def FrameHeader.wrapped (h : FrameHeader) : FrameHeader :=
  { h with
    frameId := h.frameId % 2 ^ 64
    presentId := h.presentId % 2 ^ 64
    gpuFenceValue := h.gpuFenceValue % 2 ^ 64 }

theorem FrameHeader.scalar_wrapped (h : FrameHeader) : h.wrapped.scalar = h.scalar := by
  funext ⟨m, i⟩
  cases m with
  | frameId => exact Nat.mod_mod _ _
  | presentId => exact Nat.mod_mod _ _
  | gpuFenceValue => exact Nat.mod_mod _ _
  | _ => rfl

theorem DirtyRect.eq_of_scalar {r r' : DirtyRect} (h : r.scalar = r'.scalar) : r = r' := by
  have hmember : ∀ m, r.member m = r'.member m := fun m => by
    have hbits := UInt32.toNat_inj.mp (congrFun h ⟨m, ()⟩)
    rw [← Int32.toInt32_toUInt32 (r.member m), hbits, Int32.toInt32_toUInt32]
  obtain ⟨x, y, w, hh⟩ := r
  obtain ⟨x', y', w', hh'⟩ := r'
  rw [show x = x' from hmember .x, show y = y' from hmember .y, show w = w' from hmember .w,
    show hh = hh' from hmember .h]

/-- **The scalars determine the header**, up to the wrapping of the counters. -/
theorem FrameHeader.scalar_inj {h h' : FrameHeader} :
    h.scalar = h'.scalar ↔ h.wrapped = h'.wrapped := by
  constructor
  · intro heq
    have hat : ∀ (m : HeaderMember) (i : m.Scalar), h.scalar ⟨m, i⟩ = h'.scalar ⟨m, i⟩ :=
      fun m i => congrFun heq ⟨m, i⟩
    have hload : h.loadState = h'.loadState := by
      have := hat .loadState ()
      revert this
      show h.loadState.toByte = h'.loadState.toByte → _
      cases h.loadState <;> cases h'.loadState <;> decide
    rw [wrapped, wrapped, FrameHeader.mk.injEq]
    exact ⟨UInt32.toNat_inj.mp (hat .protocolMagic ()), UInt32.toNat_inj.mp (hat .version ()),
      UInt32.toNat_inj.mp (hat .slotCount ()), UInt32.toNat_inj.mp (hat .width ()),
      UInt32.toNat_inj.mp (hat .height ()), hat .frameId (), hat .presentId (),
      hat .gpuFenceValue (), UInt32.toNat_inj.mp (hat .sequence ()),
      UInt32.toNat_inj.mp (hat .writeSlot ()), UInt32.toNat_inj.mp (hat .flags ()),
      UInt8.toNat_inj.mp (hat .cursorType ()), hload, UInt8.toNat_inj.mp (hat .popupVisible ()),
      UInt8.toNat_inj.mp (hat .dirtyCount ()), DirtyRect.eq_of_scalar (funext (hat .popupRect)),
      funext fun k => DirtyRect.eq_of_scalar (funext fun i => hat .dirtyRects (k, i))⟩
  · intro heq
    rw [← h.scalar_wrapped, ← h'.scalar_wrapped, heq]

end CefHost
