import CefHost.FrameFlags
import CefHost.Library.Runs

/-!
# The warm-up after a resize

`Resize` runs on the control thread and sets `m_forceFullFrame` and `m_warmupFullFrames = 3`, so
that the frames that follow are full ones. A view paint on the UI thread exchanges the flag for
false and takes one off the counter, which is a plain integer: it is loaded for the test, loaded
again and stored.

## What can go wrong

A view paint that is under way while `Resize` runs started before it returned, and uses up one of
the three frames all the same; if it has loaded the counter before `Resize` stored it, it even puts
back what was left of the old warm-up. The flag makes up for one frame, if the paint has exchanged
it before `Resize` set it.

## Main definitions

* `PaintPoint`, `ResizePoint` — where the two threads are
* `ResizeThreads` — the painter and the threads, taking one access of the two fields at a time
* `WarmupRun` — with the count of the frames that are due

## Main results

* `ResizeThreads.paint_alone`, `ResizeThreads.resize_alone` — a thread that is not interrupted does
  what the sequential functions of `Painter` do
* `resize_warmup` — whole runs of the two threads, in any order
-/

namespace CefHost

/-- A view paint, between two accesses of `m_forceFullFrame` and `m_warmupFullFrames`. -/
inductive PaintPoint
  | idle
  /-- CEF's texture is open. -/
  | opened (p : Paint) (src : Resource)
  /-- The textures are new, and `m_forceFullFrame` is stored. -/
  | adopting (p : Paint) (src : Resource)
  /-- The shared textures are ready. -/
  | ready (p : Paint) (src : Resource) (recreated : Bool)
  /-- `m_forceFullFrame` is exchanged. -/
  | exchanged (p : Paint) (src : Resource) (recreated : Bool) (collected : List DirtyRect × Bool)
      (manual : Bool)
  /-- `m_warmupFullFrames` was `warm`, and not 0. -/
  | tested (p : Paint) (src : Resource) (recreated : Bool) (collected : List DirtyRect × Bool)
      (manual : Bool) (warm : UInt32)
  /-- `m_warmupFullFrames` is loaded again, to be decremented. -/
  | loaded (p : Paint) (src : Resource) (recreated : Bool) (collected : List DirtyRect × Bool)
      (manual : Bool) (warm again : UInt32)
  /-- Whether the frame is full is decided. -/
  | decided (p : Paint) (src : Resource) (recreated : Bool) (collected : List DirtyRect × Bool)
      (manual : Bool) (warm : UInt32)

/-- A call of `Resize`. -/
inductive ResizePoint
  | idle
  /-- `m_forceFullFrame` is stored. -/
  | forced
  /-- `m_warmupFullFrames` is stored. -/
  | stored
deriving DecidableEq

/-- The painter, with CEF's UI thread and the control thread. -/
structure ResizeThreads where
  painter : Painter
  paint : PaintPoint
  resize : ResizePoint

/-- The next step of one of the two threads. -/
inductive ResizeStep
  /-- The callback matters only between two callbacks. -/
  | ui (c : Callback)
  /-- The size matters only between two calls of `Resize`. -/
  | control (width height : UInt32)

namespace Painter

/-- The end of a view paint that found `manual` in `m_forceFullFrame` and `warm` in
`m_warmupFullFrames`, whatever they hold by now. -/
def publishViewWith (s : Painter) (p : Paint) (src : Resource) (recreated : Bool)
    (collected : List DirtyRect × Bool) (manual : Bool) (warm : UInt32) : Painter :=
  let s' := ({ s with forceFullFrame := manual, warmupFullFrames := warm } : Painter).publishView p
    src recreated collected
  { s' with forceFullFrame := s.forceFullFrame, warmupFullFrames := s.warmupFullFrames }

end Painter

namespace ResizeThreads

def init (s : Painter) : ResizeThreads := ⟨s, .idle, .idle⟩

/-- The start of a callback. Only view paints touch the two fields, and `Resize` is the other
thread's. -/
def stepIdle (s : ResizeThreads) : Callback → ResizeThreads
  | .paint p =>
    match p.type, s.painter.source p with
    | .view, some src => { s with painter := s.painter.opened p src, paint := .opened p src }
    | _, _ => { s with painter := s.painter.onAcceleratedPaint p }
  | .resize _ _ => s
  | c => { s with painter := s.painter.step c }

def stepUi (s : ResizeThreads) (c : Callback) : ResizeThreads :=
  match s.paint with
  | .idle => s.stepIdle c
  | .opened p src =>
    if s.painter.textures.alreadyReady src.width src.height then
      { s with paint := .ready p src false }
    else
      let (t, ok) := s.painter.textures.recreate s.painter.d3d.device src.width src.height p.create
      if ok then
        { s with
          painter := { s.painter with
            textures := { t with sharedWidth := src.width, sharedHeight := src.height }
            writeSlot := 0
            forceFullFrame := true }
          paint := .adopting p src }
      else { s with painter := { s.painter with textures := t }, paint := .idle }
  | .adopting p src =>
    { s with
      painter := ({ s.painter with warmupFullFrames := 3 } : Painter).updateSharedResizeHeader
        src.width src.height
      paint := .ready p src true }
  | .ready p src recreated =>
    { s with
      painter := { s.painter.copied src with forceFullFrame := false }
      paint := .exchanged p src recreated (s.painter.collectDirty p) s.painter.forceFullFrame }
  | .exchanged p src recreated collected manual =>
    if 0 < s.painter.warmupFullFrames then
      { s with paint := .tested p src recreated collected manual s.painter.warmupFullFrames }
    else { s with paint := .decided p src recreated collected manual 0 }
  | .tested p src recreated collected manual warm =>
    { s with paint := .loaded p src recreated collected manual warm s.painter.warmupFullFrames }
  | .loaded p src recreated collected manual warm again =>
    { s with
      painter := { s.painter with warmupFullFrames := again - 1 }
      paint := .decided p src recreated collected manual warm }
  | .decided p src recreated collected manual warm =>
    { s with
      painter := s.painter.publishViewWith p src recreated collected manual warm
      paint := .idle }

def stepControl (s : ResizeThreads) (width height : UInt32) : ResizeThreads :=
  match s.resize with
  | .idle =>
    { s with
      painter := { s.painter with width := width, height := height, forceFullFrame := true }
      resize := .forced }
  | .forced =>
    { s with
      painter := { s.painter with warmupFullFrames := 3 }
      resize := .stored }
  | .stored => { s with resize := .idle }

def step (s : ResizeThreads) : ResizeStep → ResizeThreads
  | .ui c => s.stepUi c
  | .control width height => s.stepControl width height

/-- The step of the UI thread starts a callback. -/
def starts (s : ResizeThreads) : Bool :=
  match s.paint with
  | .idle => true
  | _ => false

/-- The step of the UI thread publishes a view frame. -/
def publishesView (s : ResizeThreads) : Bool :=
  match s.paint with
  | .decided _ _ _ _ _ _ => true
  | _ => false

/-- The step of the UI thread stores the decremented `m_warmupFullFrames`. -/
def decrements (s : ResizeThreads) : Bool :=
  match s.paint with
  | .loaded _ _ _ _ _ _ _ => true
  | _ => false

/-- The step of the control thread is the return from `Resize`. -/
def returns (s : ResizeThreads) : Bool := s.resize == .stored

variable {s : ResizeThreads}

/-! ### A thread that is not interrupted -/

theorem resize_alone (h : s.resize = .idle) (width height : UInt32) :
    Runs.run step s (List.replicate 3 (.control width height)) =
      { s with painter := s.painter.resize width height } := by
  obtain ⟨painter, paint, resize⟩ := s
  obtain rfl : resize = .idle := h
  rfl

/-- Nothing has touched the two fields since they were read. -/
theorem publishViewWith_same (e : Painter) (p : Paint) (src : Resource) (recreated : Bool)
    (collected : List DirtyRect × Bool) :
    Painter.publishViewWith { e with
        forceFullFrame := false
        warmupFullFrames := if 0 < e.warmupFullFrames then e.warmupFullFrames - 1 else 0 }
      p src recreated collected e.forceFullFrame e.warmupFullFrames =
        e.publishView p src recreated collected := by
  change ({ e.publishView p src recreated collected with
    forceFullFrame := false
    warmupFullFrames :=
      if 0 < e.warmupFullFrames then e.warmupFullFrames - 1 else 0 } : Painter) = _
  rw [Painter.publishView_eq]

/-- From the point where the textures are ready. -/
theorem ready_alone {p : Paint} {src : Resource} {recreated : Bool} (c : Callback)
    (h : s.paint = .ready p src recreated) {tx : Texture}
    (htx : s.painter.textures.texture (Painter.backPlane s.painter.writeSlot) = some tx) :
    ∃ n, Runs.run step s (List.replicate n (.ui c)) =
      { s with
        painter := (s.painter.copied src).publishView p src recreated (s.painter.collectDirty p)
        paint := .idle } := by
  obtain ⟨t, q, rect, hcopied, -⟩ := Painter.copied_eq src htx
  have hforce : (s.painter.copied src).forceFullFrame = s.painter.forceFullFrame := by rw [hcopied]
  have hsame := publishViewWith_same (s.painter.copied src) p src recreated
    (s.painter.collectDirty p)
  by_cases hwarm : 0 < (s.painter.copied src).warmupFullFrames
  · refine ⟨5, ?_⟩
    rw [if_pos hwarm] at hsame
    rw [← hsame, hforce]
    simp [List.replicate_succ, step, stepUi, h, hwarm]
  · have hzero : (s.painter.copied src).warmupFullFrames = 0 := by
      have hle := UInt32.le_iff_toNat_le.mp (UInt32.not_lt.mp hwarm)
      exact UInt32.toNat_inj.mp (Nat.le_zero.mp hle)
    refine ⟨3, ?_⟩
    rw [if_neg hwarm, hzero] at hsame
    rw [← hsame, hforce]
    simp [List.replicate_succ, step, stepUi, h, hwarm]
    rw [hzero]

theorem stepIdle_view {p : Paint} {src : Resource} (ht : p.type = .view)
    (hsrc : s.painter.source p = some src) : s.stepIdle (.paint p) =
      { s with painter := s.painter.opened p src, paint := .opened p src } := by
  simp [stepIdle, ht, hsrc]

theorem stepIdle_other {p : Paint}
    (h : ¬ (p.type = .view ∧ ∃ src, s.painter.source p = some src)) :
    s.stepIdle (.paint p) = { s with painter := s.painter.onAcceleratedPaint p } := by
  cases ht : p.type with
  | popup => simp [stepIdle, ht]
  | view =>
    cases hsrc : s.painter.source p with
    | none => simp [stepIdle, ht, hsrc]
    | some src => exact absurd ⟨ht, src, hsrc⟩ h

/-- **The UI thread alone** does `onAcceleratedPaint`. -/
theorem paint_alone (h : s.paint = .idle) (p : Paint) :
    ∃ n, Runs.run step s (List.replicate n (.ui (.paint p))) =
      { s with painter := s.painter.onAcceleratedPaint p } := by
  obtain ⟨painter, paint, resize⟩ := s
  obtain rfl : paint = .idle := h
  dsimp only
  by_cases hview : p.type = .view ∧ ∃ src, painter.source p = some src
  · obtain ⟨ht, src, hsrc⟩ := hview
    rw [Painter.onAcceleratedPaint_view hsrc ht]
    set e := painter.opened p src
    have hstart : step ⟨painter, .idle, resize⟩ (.ui (.paint p)) = ⟨e, .opened p src, resize⟩ :=
      stepIdle_view ht hsrc
    cases hready : e.texturesReady src.width src.height p.create with
    | false =>
      rw [Painter.paintView_failed hready]
      rw [Painter.texturesReady, Bool.or_eq_false_iff] at hready
      have hrec := Painter.recreate_ok e.textures e.d3d.device src.width src.height p.create
      rw [hready.2] at hrec
      refine ⟨2, ?_⟩
      rw [List.replicate_succ, Runs.run_cons, hstart]
      simp [step, stepUi, hready.1, hrec]
    | true =>
      rcases Painter.texturesReady_cases hready with hold | ⟨hold, hok⟩
      · obtain ⟨tx, htx⟩ := Painter.ready_back hold
        have hopened : step ⟨e, .opened p src, resize⟩ (.ui (.paint p)) =
            ⟨e, .ready p src false, resize⟩ := by
          simp [step, stepUi, hold]
        obtain ⟨n, hn⟩ := ready_alone (s := ⟨e, .ready p src false, resize⟩) (.paint p) rfl htx
        refine ⟨n + 2, ?_⟩
        rw [List.replicate_succ, List.replicate_succ, Runs.run_cons, Runs.run_cons, hstart,
          hopened, hn, Painter.paintView_ready hold]
      · obtain ⟨tx, htx⟩ := Painter.recreated_back (s := e) hok
        set t := (e.textures.recreate e.d3d.device src.width src.height p.create).1
        have hrec := Painter.recreate_ok e.textures e.d3d.device src.width src.height p.create
        rw [hok] at hrec
        have hopened : step (step ⟨e, .opened p src, resize⟩ (.ui (.paint p))) (.ui (.paint p)) =
            ⟨e.adoptTextures t src.width src.height, .ready p src true, resize⟩ := by
          simp [step, stepUi, hold, hrec, Painter.adoptTextures, t]
        obtain ⟨n, hn⟩ := ready_alone
          (s := ⟨e.adoptTextures t src.width src.height, .ready p src true, resize⟩) (.paint p) rfl
          htx
        refine ⟨n + 3, ?_⟩
        rw [List.replicate_succ, List.replicate_succ, List.replicate_succ, Runs.run_cons,
          Runs.run_cons, Runs.run_cons, hstart, hopened, hn, Painter.paintView_recreated hold hok]
        rfl
  · exact ⟨1, stepIdle_other hview⟩

end ResizeThreads

/-! ### The counter -/

namespace Painter

theorem setLoadState_warmup (s : Painter) (isMain : Bool) (v : CefLoadState) :
    (s.setLoadState isMain v).warmupFullFrames = s.warmupFullFrames := by
  obtain ⟨header, seen, events, heq⟩ := s.setLoadState_eq isMain v
  rw [heq]

theorem copyPopupRegion_warmup (s : Painter) (cond : Bool) (dst : Plane) (x y w h : Int32) :
    (s.copyPopupRegion cond dst x y w h).warmupFullFrames = s.warmupFullFrames := by
  obtain ⟨t, q, heq, -⟩ := s.copyPopupRegion_eq cond dst x y w h
  rw [heq]

theorem opened_warmup (s : Painter) (p : Paint) (src : Resource) :
    (s.opened p src).warmupFullFrames = s.warmupFullFrames := by
  obtain ⟨view, popup, hopened⟩ := s.opened_eq p src
  rw [hopened]

theorem copied_warmup (s : Painter) (src : Resource) :
    (s.copied src).warmupFullFrames = s.warmupFullFrames := by
  obtain ⟨rect, hclear⟩ := (s.copyInto (backPlane s.writeSlot)
    (fun dst => dst.copyResource (src.image s.paints)) (.cef src)).clearLegacyPopup_eq
  rw [copied, compositePopup, copyPopupRegion_warmup, hclear]
  rfl

end Painter

namespace ResizeThreads

/-- A view paint starts; popup paints and the other callbacks leave the counter alone. -/
theorem stepIdle_cases (s : ResizeThreads) (c : Callback) :
    (∃ s' : Painter, s.stepIdle c = { s with painter := s' } ∧
      s'.warmupFullFrames = s.painter.warmupFullFrames) ∨
    ∃ p src, s.stepIdle c =
      { s with painter := s.painter.opened p src, paint := .opened p src } := by
  cases c with
  | paint p =>
    by_cases hview : p.type = .view ∧ ∃ src, s.painter.source p = some src
    · obtain ⟨ht, src, hsrc⟩ := hview
      exact Or.inr ⟨p, src, stepIdle_view ht hsrc⟩
    · refine Or.inl ⟨_, stepIdle_other hview, ?_⟩
      rcases s.painter.onAcceleratedPaint_cases p with ⟨-, hprep⟩ |
        ⟨-, ht, src, -, -, hsrc, -⟩ | ⟨-, -, e, hprep, -, -, heq⟩
      · exact hprep.warmupFullFrames
      · exact absurd ⟨ht, src, hsrc⟩ hview
      · rw [heq, Painter.publishPopupPlane_eq]
        exact hprep.warmupFullFrames
  | loadStart isMain => exact Or.inl ⟨_, rfl, s.painter.setLoadState_warmup isMain _⟩
  | loadEnd isMain status => exact Or.inl ⟨_, rfl, s.painter.setLoadState_warmup isMain _⟩
  | loadError isMain => exact Or.inl ⟨_, rfl, s.painter.setLoadState_warmup isMain _⟩
  | popupShow visible => cases visible <;> exact Or.inl ⟨_, rfl, rfl⟩
  | _ => exact Or.inl ⟨_, rfl, rfl⟩

end ResizeThreads

/-! ### The frames that are due -/

/-- The threads, and the view frames that must be full because of a `Resize` that has returned. -/
structure WarmupRun where
  threads : ResizeThreads
  /-- How many there are still to come. -/
  owed : ℕ
  /-- The frame of the view paint under way is one of them. -/
  due : Bool
  /-- No `Resize` has returned since that paint started. -/
  counts : Bool

namespace WarmupRun

def init (s : Painter) : WarmupRun := ⟨.init s, 0, false, false⟩

def step (r : WarmupRun) : ResizeStep → WarmupRun
  | .ui c =>
    { threads := r.threads.stepUi c
      owed := if r.threads.publishesView && r.counts then r.owed - 1 else r.owed
      due := if r.threads.starts then 0 < r.owed else r.due
      counts := r.threads.starts || r.counts }
  | .control width height =>
    { threads := r.threads.stepControl width height
      owed := if r.threads.returns then 3 else r.owed
      due := r.due
      counts := !r.threads.returns && r.counts }

/-- A view frame that is due is published as a full one, without a dirty list. -/
def FullIfDue (r : WarmupRun) : ResizeStep → Prop
  | .ui c => r.threads.publishesView = true → r.due = true →
      hasFlag (r.threads.stepUi c).painter.header.flags frameFlagFullFrame = true ∧
        (r.threads.stepUi c).painter.header.dirtyCount = 0
  | .control _ _ => True

/-- No `Resize` that has stored the counter still has to return, or has returned since the view
paint under way started. -/
def mayTake (r : WarmupRun) : Bool := !r.threads.returns && r.counts

/-- A view paint that started before a `Resize` returned does not store its decrement of the counter
after that `Resize` has stored 3 there. -/
def KeepsWarmup (r : WarmupRun) : ResizeStep → Prop
  | .ui _ => r.threads.decrements = true → r.mayTake = true
  | .control _ _ => True

instance (r : WarmupRun) (a : ResizeStep) : Decidable (r.KeepsWarmup a) := by
  cases a <;> unfold KeepsWarmup <;> infer_instance

end WarmupRun

/-- What the counter, the frames due and the values a view paint has loaded have to do with each
other. -/
def PaintPoint.Fits (warmup : UInt32) (owed : ℕ) (due counts mayTake : Bool) : PaintPoint → Prop
  | .idle => owed ≤ warmup.toNat
  | .tested _ _ _ _ _ warm => owed ≤ warmup.toNat ∧ 0 < warm ∧ 0 < warmup
  | .loaded _ _ _ _ _ warm again =>
    owed ≤ warmup.toNat ∧ 0 < warm ∧ 0 < again ∧ (mayTake = true → owed ≤ again.toNat)
  | .decided _ _ _ _ _ warm => (due = true → 0 < warm) ∧ owed ≤ warmup.toNat + counts.toNat
  | _ => owed ≤ warmup.toNat ∧ (due = true → 0 < owed)

/-- The full counter fits wherever the old value did, and covers three frames. -/
theorem PaintPoint.Fits.refill {warmup : UInt32} {owed owed' : ℕ}
    {due counts counts' mayTake : Bool} {p : PaintPoint}
    (h : p.Fits warmup owed due counts mayTake) (hle : owed ≤ owed') (hthree : owed' ≤ 3) :
    p.Fits 3 owed' due counts' false := by
  cases p with
  | idle => exact hthree
  | tested p src recreated collected manual warm => exact ⟨hthree, h.2.1, by decide⟩
  | loaded p src recreated collected manual warm again =>
    exact ⟨hthree, h.2.1, h.2.2.1, fun hmay => absurd hmay Bool.false_ne_true⟩
  | decided p src recreated collected manual warm =>
    exact ⟨h.1, Nat.le_trans hthree (Nat.le_add_right _ _)⟩
  | _ => exact ⟨hthree, fun hdue => Nat.lt_of_lt_of_le (h.2 hdue) hle⟩

namespace WarmupRun

structure Inv (r : WarmupRun) : Prop where
  owed_le : r.owed ≤ 3
  fits : r.threads.paint.Fits r.threads.painter.warmupFullFrames r.owed r.due r.counts r.mayTake
  stored : r.threads.returns = true → r.threads.painter.warmupFullFrames = 3

theorem inv_init (s : Painter) : (init s).Inv :=
  ⟨Nat.zero_le _, Nat.zero_le _, fun h => absurd h Bool.false_ne_true⟩

variable {r : WarmupRun}

theorem Inv.control (h : r.Inv) (width height : UInt32) : (r.step (.control width height)).Inv := by
  have hfits := h.fits
  have howed := h.owed_le
  cases hresize : r.threads.resize with
  | idle =>
    have hreturns : r.threads.returns = false := by rw [ResizeThreads.returns, hresize]; rfl
    rw [mayTake, hreturns] at hfits
    simp only [step, hreturns, ResizeThreads.stepControl, hresize]
    exact ⟨howed, hfits, fun hstored => absurd hstored Bool.false_ne_true⟩
  | forced =>
    have hreturns : r.threads.returns = false := by rw [ResizeThreads.returns, hresize]; rfl
    simp only [step, hreturns, ResizeThreads.stepControl, hresize]
    exact ⟨howed, hfits.refill (Nat.le_refl _) howed, fun _ => rfl⟩
  | stored =>
    have hreturns : r.threads.returns = true := by rw [ResizeThreads.returns, hresize]; rfl
    have hwarm := h.stored hreturns
    simp only [step, hreturns, ResizeThreads.stepControl, hresize]
    refine ⟨Nat.le_refl _, ?_, fun hstored => absurd hstored Bool.false_ne_true⟩
    dsimp only
    rw [hwarm]
    exact hfits.refill howed (Nat.le_refl _)

/-- The publish leaves the two fields alone. -/
theorem publishViewWith_warmup (s : Painter) (p : Paint) (src : Resource) (recreated : Bool)
    (collected : List DirtyRect × Bool) (manual : Bool) (warm : UInt32) :
    (s.publishViewWith p src recreated collected manual warm).warmupFullFrames =
      s.warmupFullFrames := by
  rw [Painter.publishViewWith]

/-- After the publish, a frame that counts is no longer owed. -/
theorem inv_published {painter e : Painter} {resize : ResizePoint} {owed : ℕ} {due counts : Bool}
    (howed : owed ≤ 3) (hle : owed ≤ painter.warmupFullFrames.toNat + counts.toNat)
    (hstored : (resize == .stored) = true → painter.warmupFullFrames = 3)
    (hsame : e.warmupFullFrames = painter.warmupFullFrames) :
    Inv ⟨⟨e, .idle, resize⟩, if counts then owed - 1 else owed, due, counts⟩ := by
  rw [← hsame] at hle hstored
  cases counts with
  | true => exact ⟨Nat.le_trans (Nat.sub_le _ _) howed, Nat.sub_le_of_le_add hle, hstored⟩
  | false => exact ⟨howed, hle, hstored⟩

theorem Inv.ui (h : r.Inv) {c : Callback} (hkeeps : r.KeepsWarmup (.ui c)) :
    (r.step (.ui c)).Inv := by
  obtain ⟨⟨painter, paint, resize⟩, owed, due, counts⟩ := r
  obtain ⟨howed, hfits, hstored⟩ := h
  cases paint with
  | idle =>
    change WarmupRun.Inv ⟨ResizeThreads.stepIdle ⟨painter, .idle, resize⟩ c, _, _, _⟩
    rcases ResizeThreads.stepIdle_cases ⟨painter, .idle, resize⟩ c with ⟨s', heq, hsame⟩ |
      ⟨p, src, heq⟩
    · rw [heq]
      refine ⟨howed, ?_, fun hreturns => hsame.trans (hstored hreturns)⟩
      change owed ≤ s'.warmupFullFrames.toNat
      rw [hsame]
      exact hfits
    · rw [heq]
      have hsame := painter.opened_warmup p src
      refine ⟨howed, ⟨?_, fun hdue => of_decide_eq_true hdue⟩,
        fun hreturns => hsame.trans (hstored hreturns)⟩
      change owed ≤ (painter.opened p src).warmupFullFrames.toNat
      rw [hsame]
      exact hfits
  | opened p src =>
    change WarmupRun.Inv ⟨ResizeThreads.stepUi ⟨painter, .opened p src, resize⟩ c, _, _, _⟩
    by_cases hready : painter.textures.alreadyReady src.width src.height = true
    · simp only [ResizeThreads.stepUi, if_pos hready]
      exact ⟨howed, hfits, hstored⟩
    · by_cases hok :
          (painter.textures.recreate painter.d3d.device src.width src.height p.create).2 = true
      · simp only [ResizeThreads.stepUi, if_neg hready, if_pos hok]
        exact ⟨howed, hfits, hstored⟩
      · simp only [ResizeThreads.stepUi, if_neg hready, if_neg hok]
        exact ⟨howed, hfits.1, hstored⟩
  | adopting p src => exact ⟨howed, ⟨howed, hfits.2⟩, fun _ => rfl⟩
  | ready p src recreated =>
    have hsame := painter.copied_warmup src
    refine ⟨howed, ⟨?_, hfits.2⟩, fun hreturns => hsame.trans (hstored hreturns)⟩
    change owed ≤ (painter.copied src).warmupFullFrames.toNat
    rw [hsame]
    exact hfits.1
  | exchanged p src recreated collected manual =>
    change WarmupRun.Inv
      ⟨ResizeThreads.stepUi ⟨painter, .exchanged p src recreated collected manual, resize⟩ c,
        _, _, _⟩
    by_cases hwarm : 0 < painter.warmupFullFrames
    · simp only [ResizeThreads.stepUi, if_pos hwarm]
      exact ⟨howed, ⟨hfits.1, hwarm, hwarm⟩, hstored⟩
    · simp only [ResizeThreads.stepUi, if_neg hwarm]
      -- with the counter at 0 no frame is due
      have hzero : painter.warmupFullFrames.toNat ≤ 0 :=
        UInt32.le_iff_toNat_le.mp (UInt32.not_lt.mp hwarm)
      have hnone : owed ≤ 0 := Nat.le_trans hfits.1 hzero
      exact ⟨howed, ⟨fun hdue => absurd (hfits.2 hdue) (Nat.not_lt.mpr hnone),
        Nat.le_add_right_of_le hfits.1⟩, hstored⟩
  | tested p src recreated collected manual warm =>
    exact ⟨howed, ⟨hfits.1, hfits.2.1, hfits.2.2, fun _ => hfits.1⟩, hstored⟩
  | loaded p src recreated collected manual warm again =>
    obtain ⟨-, hwarm, hagain, hmay⟩ := hfits
    have htake := hkeeps rfl
    obtain ⟨hreturns, hcounts⟩ := Bool.and_eq_true_iff.mp htake
    refine ⟨howed, ⟨fun _ => hwarm, ?_⟩, fun hret => ?_⟩
    · have hpos : 0 < again.toNat := UInt32.lt_iff_toNat_lt.mp hagain
      have hsub := UInt32.toNat_sub_of_le again 1 (UInt32.le_iff_toNat_le.mpr hpos)
      have hone : (1 : UInt32).toNat = 1 := rfl
      have hle := hmay htake
      change owed ≤ (again - 1).toNat + counts.toNat
      change counts = true at hcounts
      rw [hcounts, hsub, hone, Bool.toNat_true, Nat.sub_add_cancel hpos]
      exact hle
    · change (!_) = true at hreturns
      exact absurd hret (Bool.eq_false_iff.mp ((Bool.not_eq_true' _).mp hreturns))
  | decided p src recreated collected manual warm =>
    exact inv_published howed hfits.2 hstored
      (publishViewWith_warmup painter p src recreated collected manual warm)

/-- **Any step.** -/
theorem Inv.next (h : r.Inv) {a : ResizeStep} (hkeeps : r.KeepsWarmup a) : (r.step a).Inv := by
  cases a with
  | ui c => exact h.ui hkeeps
  | control width height => exact h.control width height

/-- A paint that found the counter positive publishes a full frame. -/
theorem publishViewWith_full (s : Painter) (p : Paint) (src : Resource) (recreated : Bool)
    (collected : List DirtyRect × Bool) (manual : Bool) {warm : UInt32} (hwarm : 0 < warm) :
    hasFlag (s.publishViewWith p src recreated collected manual warm).header.flags
        frameFlagFullFrame = true ∧
      (s.publishViewWith p src recreated collected manual warm).header.dirtyCount = 0 := by
  set e : Painter := { s with forceFullFrame := manual, warmupFullFrames := warm } with he
  have hforce : e.forceFull recreated collected.2 = true := by
    simp [Painter.forceFull, he, hwarm]
  obtain ⟨count, rects, hfold, hheader⟩ := e.publishView_header p src recreated collected
  have hcount := Painter.dirtyCount_viewDirtyStores e.header (e.forceFull recreated collected.2)
    collected.1
  rw [hfold, hforce] at hcount
  change hasFlag (e.publishView p src recreated collected).header.flags frameFlagFullFrame = true ∧
    (e.publishView p src recreated collected).header.dirtyCount = 0
  rw [hheader]
  exact ⟨(e.hasFlag_viewFlags_full recreated collected.2).trans hforce, hcount⟩

theorem Inv.fullIfDue (h : r.Inv) (a : ResizeStep) : r.FullIfDue a := by
  cases a with
  | control width height => trivial
  | ui c =>
    intro hpublishes hdue
    have hfits := h.fits
    cases hpaint : r.threads.paint with
    | decided p src recreated collected manual warm =>
      rw [hpaint] at hfits
      rw [ResizeThreads.stepUi, hpaint]
      exact publishViewWith_full _ p src recreated collected manual (hfits.1 hdue)
    | _ =>
      rw [ResizeThreads.publishesView, hpaint] at hpublishes
      cases hpublishes

end WarmupRun

/-- **Runs of the two threads** in any order: while no view paint that started before a `Resize`
returned takes one off the three, the first three view frames of the paints that start afterwards
are full ones. -/
theorem resize_warmup (s : Painter) (steps : List ResizeStep)
    (hkeeps : Runs.Along WarmupRun.step WarmupRun.KeepsWarmup (.init s) steps) :
    Runs.Along WarmupRun.step WarmupRun.FullIfDue (.init s) steps :=
  Runs.along_of_invariant (fun _ _ h hG => h.next hG) (fun _ a h _ => h.fullIfDue a)
    (WarmupRun.inv_init s) hkeeps

/-- A view paint that reports a rectangle. -/
def smallPaint : Paint :=
  .succeeding .view [⟨0, 0, 4, 4⟩] 1 .smallView

/-- `n` steps of view paints. -/
def uiSteps (n : ℕ) : List ResizeStep := List.replicate n (.ui (.paint smallPaint))

/-- A view paint, a call of `Resize` and three more view paints. -/
def uninterruptedPaint : List ResizeStep :=
  uiSteps 8 ++ List.replicate 3 (.control 32 32) ++ uiSteps (7 + 7 + 7)

theorem resize_warmup_uninterrupted :
    let start : WarmupRun := .init (.init (buildSharedMemoryNames []) fullD3D 16 16)
    Runs.Along WarmupRun.step WarmupRun.KeepsWarmup start uninterruptedPaint ∧
      Runs.Along WarmupRun.step WarmupRun.FullIfDue start uninterruptedPaint := by
  intro start
  have hkeeps : Runs.Along WarmupRun.step WarmupRun.KeepsWarmup start uninterruptedPaint := by
    decide +kernel
  exact ⟨hkeeps, resize_warmup _ uninterruptedPaint hkeeps⟩

/-- Two view paints leave the counter at 1, which the third one loads; `Resize` runs through; the
third paint stores 0; a fourth and all of a fifth but its publish follow. -/
def interruptedPaint : List ResizeStep :=
  uiSteps (8 + 7 + 5) ++ List.replicate 3 (.control 32 32) ++ uiSteps (2 + 5 + 4)

/-- The second view frame of the paints that start after `Resize` has returned is not a full one. -/
theorem interrupted_paint_shortens_warmup :
    ¬ Runs.Along WarmupRun.step WarmupRun.FullIfDue
      (.init (.init (buildSharedMemoryNames []) fullD3D 16 16))
      (interruptedPaint ++ uiSteps 1) := by
  intro h
  obtain ⟨-, hlast, -⟩ := Runs.along_append.mp h
  obtain ⟨hfull, -⟩ := hlast (by decide +kernel) (by decide +kernel)
  exact absurd hfull (by decide +kernel)

end CefHost
