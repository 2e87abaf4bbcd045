import Mathlib.Algebra.Order.Floor.Div
import Mathlib.Logic.Pairwise
import Mathlib.Tactic.Ring
import CefHost.Library.Footprint

/-!
# Records in memory

Where a compiler puts the scalars of a record, and what storing to one of them does to the others.

A `Layout` is a family of scalars in a block: their offsets and widths, the size and the alignment
of the block. That no two scalars share a byte, that all lie in the block and that each lies at a
multiple of its width are fields of the structure, and the three ways to build a layout keep them:
one scalar, an array, and a `struct`, whose members follow each other, each at the next multiple of
its alignment.

Numbers are stored with their least significant byte first.

## Main definitions

* `Layout.load`, `Layout.bytesOf` — a number in memory
* `Layout` — scalars in a block
* `Layout.scalar`, `Layout.array`, `Layout.struct` — the placement rule
* `Layout.read`, `Layout.write`, `Layout.writes` — accesses to the scalars

## Main results

* `Layout.load_copy_bytesOf` — a number that was stored is loaded
* `Layout.read_writes` — the scalars after a list of stores
* `Layout.writes_of_outside` — nothing outside the block changes
-/

open Footprint

/-- Scalars in a block of memory. -/
structure Layout (ι : Type*) where
  size : ℕ
  /-- The block starts at a multiple of `2 ^ logAlign`. -/
  logAlign : ℕ
  offset : ι → ℕ
  width : ι → ℕ
  dvd_size : 2 ^ logAlign ∣ size
  width_dvd_align : ∀ i, width i ∣ 2 ^ logAlign
  width_dvd_offset : ∀ i, width i ∣ offset i
  offset_add_width_le : ∀ i, offset i + width i ≤ size
  disjoint : Pairwise fun i j =>
    offset i + width i ≤ offset j ∨ offset j + width j ≤ offset i

namespace Layout

/-! ### Numbers in memory -/

abbrev Memory := ℕ → UInt8

/-- The `n` low bytes of a number. -/
def bytesOf : ℕ → ℕ → List UInt8
  | 0, _ => []
  | n + 1, v => UInt8.ofNat v :: bytesOf n (v / 256)

/-- The number in the `n` bytes from `a` on. -/
def load (m : Memory) (a : ℕ) : ℕ → ℕ
  | 0 => 0
  | n + 1 => (m a).toNat + 256 * load m (a + 1) n

@[simp] theorem length_bytesOf (n v : ℕ) : (bytesOf n v).length = n := by
  induction n generalizing v with
  | zero => rfl
  | succ n ih => rw [bytesOf, List.length_cons, ih]

theorem load_lt (m : Memory) (a n : ℕ) : load m a n < 256 ^ n := by
  induction n generalizing a with
  | zero => exact Nat.one_pos
  | succ n ih =>
    have hbyte : (m a).toNat < 256 := (m a).toNat_lt
    have hrest := ih (a + 1)
    rw [load, Nat.pow_succ]
    omega

theorem load_congr {m m' : Memory} {a n : ℕ} (h : ∀ i, a ≤ i → i < a + n → m i = m' i) :
    load m a n = load m' a n := by
  induction n generalizing a with
  | zero => rfl
  | succ n ih =>
    rw [load, load, h a (Nat.le_refl a) (by omega), ih fun i h1 h2 => h i (by omega) (by omega)]

/-- **Load after store.** -/
theorem load_copy_bytesOf (m : Memory) (a n v : ℕ) :
    load (copy a (bytesOf n v) m) a n = v % 256 ^ n := by
  induction n generalizing a v m with
  | zero => exact (Nat.mod_one v).symm
  | succ n ih =>
    have hfirst : copy a (bytesOf (n + 1) v) m a = UInt8.ofNat v := by
      rw [bytesOf, copy, copy_of_outside (Or.inl (Nat.lt_succ_self a)), Function.update_self]
    have hsplit : v % 256 ^ (n + 1) = v % 256 + 256 * (v / 256 % 256 ^ n) := by
      rw [Nat.pow_succ', Nat.mod_mul]
    rw [load, hfirst, bytesOf, copy, ih, UInt8.toNat_ofNat', hsplit]

theorem load_copy_of_disjoint {m : Memory} {a n b : ℕ} {l : List UInt8}
    (h : a + n ≤ b ∨ b + l.length ≤ a) : load (copy b l m) a n = load m a n :=
  load_congr fun i h1 h2 => copy_of_outside (by omega) m

/-! ### The placement rule -/

/-- The next multiple of `2 ^ k`. -/
def alignUp (n k : ℕ) : ℕ := 2 ^ k * (n ⌈/⌉ 2 ^ k)

theorem le_alignUp (n k : ℕ) : n ≤ alignUp n k := le_smul_ceilDiv (Nat.two_pow_pos k)

theorem dvd_alignUp (n k : ℕ) : 2 ^ k ∣ alignUp n k := Nat.dvd_mul_right _ _

/-- One number of `2 ^ k` bytes. -/
def scalar (k : ℕ) : Layout Unit where
  size := 2 ^ k
  logAlign := k
  offset _ := 0
  width _ := 2 ^ k
  dvd_size := Nat.dvd_refl _
  width_dvd_align _ := Nat.dvd_refl _
  width_dvd_offset _ := Nat.dvd_zero _
  offset_add_width_le _ := Nat.le_of_eq (Nat.zero_add _)
  disjoint _ _ h := absurd rfl h

theorem array_next_le {i j n : ℕ} (size : ℕ) (h : i < j) (hj : j ≤ n) :
    i * size + size ≤ j * size ∧ j * size ≤ n * size :=
  ⟨by rw [← Nat.succ_mul]; exact Nat.mul_le_mul_right size h, Nat.mul_le_mul_right size hj⟩

/-- `n` of them in a row. -/
def array {ι : Type*} (n : ℕ) (L : Layout ι) : Layout (Fin n × ι) where
  size := n * L.size
  logAlign := L.logAlign
  offset p := p.1 * L.size + L.offset p.2
  width p := L.width p.2
  dvd_size := L.dvd_size.mul_left n
  width_dvd_align p := L.width_dvd_align p.2
  width_dvd_offset p :=
    Nat.dvd_add (((L.width_dvd_align p.2).trans L.dvd_size).mul_left _) (L.width_dvd_offset p.2)
  offset_add_width_le p := by
    have hin := L.offset_add_width_le p.2
    have hnext := array_next_le L.size (Nat.lt_succ_self p.1) p.1.isLt
    omega
  disjoint p q hne := by
    have hp := L.offset_add_width_le p.2
    have hq := L.offset_add_width_le q.2
    rcases Nat.lt_trichotomy p.1 q.1 with h | h | h
    · have hnext := array_next_le L.size h (Nat.le_of_lt q.1.isLt)
      exact Or.inl (by omega)
    · have hsecond : p.2 ≠ q.2 := fun h2 => hne (Prod.ext (Fin.ext h) h2)
      have hdisjoint : _ ∨ _ := L.disjoint hsecond
      show (p.1 : ℕ) * L.size + _ + _ ≤ _ ∨ _
      rw [h]
      omega
    · have hnext := array_next_le L.size h (Nat.le_of_lt p.1.isLt)
      exact Or.inr (by omega)

section Members

variable {μ : Type*} {κ : μ → Type*} (L : ∀ m, Layout (κ m))

/-- Where the first of the members starts that are placed from `a` on. -/
def first (a : ℕ) (m : μ) : ℕ := alignUp a (L m).logAlign

/-- Where the members end that are placed from `a` on. -/
def endFrom (a : ℕ) : List μ → ℕ
  | [] => a
  | x :: l => endFrom (first L a x + (L x).size) l

/-- Where a member starts. -/
def offsetFrom [DecidableEq μ] (a : ℕ) : List μ → μ → ℕ
  | [], _ => a
  | x :: l, m => if m = x then first L a x else offsetFrom (first L a x + (L x).size) l m

/-- The strictest alignment of the members. -/
def logAlignOf : List μ → ℕ
  | [] => 0
  | x :: l => max (L x).logAlign (logAlignOf l)

theorem le_endFrom (a : ℕ) (l : List μ) : a ≤ endFrom L a l := by
  induction l generalizing a with
  | nil => exact Nat.le_refl a
  | cons x l ih =>
    have hfirst : a ≤ first L a x := le_alignUp _ _
    have hrest := ih (first L a x + (L x).size)
    rw [endFrom]
    omega

theorem le_logAlignOf {l : List μ} {m : μ} (h : m ∈ l) : (L m).logAlign ≤ logAlignOf L l := by
  induction h with
  | head l => exact Nat.le_max_left _ _
  | tail x _ ih => exact ih.trans (Nat.le_max_right _ _)

variable [DecidableEq μ]

theorem le_offsetFrom (a : ℕ) (l : List μ) (m : μ) : a ≤ offsetFrom L a l m := by
  induction l generalizing a with
  | nil => exact Nat.le_refl a
  | cons x l ih =>
    have hfirst : a ≤ first L a x := le_alignUp _ _
    have hrest := ih (first L a x + (L x).size)
    rw [offsetFrom]
    split
    · exact hfirst
    · omega

theorem dvd_offsetFrom {l : List μ} {m : μ} (h : m ∈ l) (a : ℕ) :
    2 ^ (L m).logAlign ∣ offsetFrom L a l m := by
  induction l generalizing a with
  | nil => cases h
  | cons x l ih =>
    rw [offsetFrom]
    split
    · next heq => rw [heq]; exact dvd_alignUp _ _
    · next hne => exact ih ((List.mem_cons.mp h).resolve_left hne) _

theorem offsetFrom_add_size_le {l : List μ} {m : μ} (h : m ∈ l) (a : ℕ) :
    offsetFrom L a l m + (L m).size ≤ endFrom L a l := by
  induction l generalizing a with
  | nil => cases h
  | cons x l ih =>
    rw [offsetFrom, endFrom]
    split
    · next heq => rw [heq]; exact le_endFrom L _ l
    · next hne => exact ih ((List.mem_cons.mp h).resolve_left hne) _

/-- Members do not overlap: the one that is placed first ends before the other starts. -/
theorem offsetFrom_disjoint {l : List μ} {m m' : μ} (h : m ∈ l) (h' : m' ∈ l) (hne : m ≠ m')
    (a : ℕ) : offsetFrom L a l m + (L m).size ≤ offsetFrom L a l m' ∨
      offsetFrom L a l m' + (L m').size ≤ offsetFrom L a l m := by
  induction l generalizing a with
  | nil => cases h
  | cons x l ih =>
    rw [offsetFrom, offsetFrom]
    by_cases hm : m = x
    · subst hm
      rw [if_pos rfl, if_neg hne.symm]
      exact Or.inl (le_offsetFrom L _ l m')
    · by_cases hm' : m' = x
      · subst hm'
        rw [if_pos rfl, if_neg hm]
        exact Or.inr (le_offsetFrom L _ l m)
      · rw [if_neg hm, if_neg hm']
        exact ih ((List.mem_cons.mp h).resolve_left hm) ((List.mem_cons.mp h').resolve_left hm') _

/-- Members in the order of `l`, each at the next multiple of its alignment, and the end rounded up
to the alignment of the whole. -/
def struct (l : List μ) (hl : ∀ m, m ∈ l) : Layout (Σ m, κ m) where
  size := alignUp (endFrom L 0 l) (logAlignOf L l)
  logAlign := logAlignOf L l
  offset p := offsetFrom L 0 l p.1 + (L p.1).offset p.2
  width p := (L p.1).width p.2
  dvd_size := dvd_alignUp _ _
  width_dvd_align p :=
    ((L p.1).width_dvd_align p.2).trans (Nat.pow_dvd_pow 2 (le_logAlignOf L (hl p.1)))
  width_dvd_offset p :=
    Nat.dvd_add (((L p.1).width_dvd_align p.2).trans (dvd_offsetFrom L (hl p.1) 0))
      ((L p.1).width_dvd_offset p.2)
  offset_add_width_le p := by
    have hin := (L p.1).offset_add_width_le p.2
    have hmember := offsetFrom_add_size_le L (hl p.1) 0
    have hend : endFrom L 0 l ≤ alignUp (endFrom L 0 l) (logAlignOf L l) := le_alignUp _ _
    omega
  disjoint := by
    rintro ⟨m, i⟩ ⟨m', j⟩ hne
    have hi := (L m).offset_add_width_le i
    have hj := (L m').offset_add_width_le j
    by_cases hm : m = m'
    · subst hm
      have hdisjoint : _ ∨ _ := (L m).disjoint (fun h => hne (by rw [h]) : i ≠ j)
      show offsetFrom L 0 l m + (L m).offset i + (L m).width i
          ≤ offsetFrom L 0 l m + (L m).offset j ∨
        offsetFrom L 0 l m + (L m).offset j + (L m).width j ≤ offsetFrom L 0 l m + (L m).offset i
      omega
    · have hdisjoint := offsetFrom_disjoint L (hl m) (hl m') hm 0
      show offsetFrom L 0 l m + (L m).offset i + (L m).width i
          ≤ offsetFrom L 0 l m' + (L m').offset j ∨
        offsetFrom L 0 l m' + (L m').offset j + (L m').width j
          ≤ offsetFrom L 0 l m + (L m).offset i
      omega

end Members

/-- The same scalars in a block that is larger or more strictly aligned, such as a union's. -/
def within {ι : Type*} (L : Layout ι) (size logAlign : ℕ) (hsize : L.size ≤ size)
    (halign : L.logAlign ≤ logAlign) : Layout ι where
  size := alignUp size logAlign
  logAlign := logAlign
  offset := L.offset
  width := L.width
  dvd_size := dvd_alignUp _ _
  width_dvd_align i := (L.width_dvd_align i).trans (Nat.pow_dvd_pow 2 halign)
  width_dvd_offset := L.width_dvd_offset
  offset_add_width_le i := (L.offset_add_width_le i).trans (hsize.trans (le_alignUp _ _))
  disjoint := L.disjoint

/-- Some of the scalars, by other names. -/
def reindex {ι κ : Type*} (L : Layout ι) (f : κ → ι) (hf : Function.Injective f) : Layout κ where
  size := L.size
  logAlign := L.logAlign
  offset k := L.offset (f k)
  width k := L.width (f k)
  dvd_size := L.dvd_size
  width_dvd_align k := L.width_dvd_align (f k)
  width_dvd_offset k := L.width_dvd_offset (f k)
  offset_add_width_le k := L.offset_add_width_le (f k)
  disjoint _ _ hne := L.disjoint (hf.ne hne)

/-- A struct of numbers, of `2 ^ k m` bytes the member `m`. -/
def record {μ : Type*} [DecidableEq μ] (l : List μ) (k : μ → ℕ) (hl : ∀ m, m ∈ l) : Layout μ :=
  (struct (fun m => scalar (k m)) l hl).reindex (fun m => ⟨m, ()⟩) fun _ _ h =>
    congrArg Sigma.fst h

/-! ### Accesses to the scalars -/

variable {ι : Type*} (L : Layout ι)

def read (m : Memory) (base : ℕ) (i : ι) : ℕ := load m (base + L.offset i) (L.width i)

def write (base : ℕ) (m : Memory) (i : ι) (v : ℕ) : Memory :=
  copy (base + L.offset i) (bytesOf (L.width i) v) m

/-- Stores, one after the other. -/
def writes (base : ℕ) (m : Memory) (l : List (ι × ℕ)) : Memory :=
  l.foldl (fun m p => L.write base m p.1 p.2) m

theorem read_congr {m m' : Memory} {base : ℕ}
    (h : ∀ i, base ≤ i → i < base + L.size → m i = m' i) : L.read m base = L.read m' base := by
  funext i
  have hin := L.offset_add_width_le i
  exact load_congr fun k h1 h2 => h k (by omega) (by omega)

theorem read_write [DecidableEq ι] (m : Memory) (base : ℕ) (i : ι) (v : ℕ) :
    L.read (L.write base m i v) base
      = Function.update (L.read m base) i (v % 256 ^ L.width i) := by
  funext j
  by_cases hj : j = i
  · subst hj
    rw [Function.update_self]
    exact load_copy_bytesOf m _ _ v
  · rw [Function.update_of_ne hj]
    have hdisjoint := L.disjoint hj
    refine load_copy_of_disjoint ?_
    rw [length_bytesOf]
    omega

theorem write_of_outside {base k : ℕ} (h : k < base ∨ base + L.size ≤ k) (m : Memory) (i : ι)
    (v : ℕ) : L.write base m i v k = m k := by
  have hin := L.offset_add_width_le i
  refine copy_of_outside ?_ m
  rw [length_bytesOf]
  omega

theorem writes_cons (base : ℕ) (m : Memory) (p : ι × ℕ) (l : List (ι × ℕ)) :
    L.writes base m (p :: l) = L.writes base (L.write base m p.1 p.2) l := rfl

theorem writes_append (base : ℕ) (m : Memory) (l l' : List (ι × ℕ)) :
    L.writes base m (l ++ l') = L.writes base (L.writes base m l) l' := List.foldl_append

/-- **The scalars after a list of stores**: each store changes one. -/
theorem read_writes [DecidableEq ι] (m : Memory) (base : ℕ) (l : List (ι × ℕ)) :
    L.read (L.writes base m l) base
      = l.foldl (fun f p => Function.update f p.1 (p.2 % 256 ^ L.width p.1)) (L.read m base) := by
  induction l generalizing m with
  | nil => rfl
  | cons p l ih => rw [writes_cons, ih, read_write]; rfl

/-- **Nothing outside the block changes.** -/
theorem writes_of_outside {base k : ℕ} (h : k < base ∨ base + L.size ≤ k) (m : Memory)
    (l : List (ι × ℕ)) : L.writes base m l k = m k := by
  induction l generalizing m with
  | nil => rfl
  | cons p l ih => rw [writes_cons, ih, L.write_of_outside h]

/-- Every scalar is at a multiple of its width when the block is aligned. -/
theorem width_dvd_address {base : ℕ} (h : 2 ^ L.logAlign ∣ base) (i : ι) :
    L.width i ∣ base + L.offset i :=
  Nat.dvd_add ((L.width_dvd_align i).trans h) (L.width_dvd_offset i)

end Layout
