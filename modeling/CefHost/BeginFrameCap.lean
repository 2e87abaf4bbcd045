import CefHost.BeginFrames

/-!
# The cap on begin frames

With a cap of `N` set once, and every begin frame answered by one published paint, how many begin
frames can be unanswered after `TrySendBeginFrame` has sent one?

At most `N` as long as no nudge has sent any: then nothing is missing on the books, and the gate
compares what is really outstanding. A begin frame sent by a nudge is answered like any other, and
the answer is entered. From then on the counters understate what is outstanding, and nothing makes
up for it: the render loop can always be brought past the cap without another nudge.

## Main results

* `Session.OnlySends.capKept` — one step, with nothing missing on the books
* `Session.OnlySends.overshoot` — from any state with a begin frame that was not entered
* `begin_frame_cap` — whole runs
* `nudge_breaks_cap` — a cap of 1, a nudge and two begin frames in flight
-/

namespace CefHost

open FlowControl

/-- A view paint that fails nowhere is published. -/
theorem Painter.publishes_succeeding {s : Painter}
    (hd3d : s.d3d.device = true ∧ s.d3d.context = true ∧ s.d3d.device1 = true)
    (dirtyRects : List CefRect) (handle : ℕ) (resource : Resource) :
    s.publishes (.succeeding .view dirtyRects handle resource) = true := by
  obtain ⟨hdevice, hcontext, hdevice1⟩ := hd3d
  have hready : ∀ src : Resource, s.texturesReady src.width src.height
      (fun _ => ⟨true, true, true⟩) = true := by
    intro src
    rw [texturesReady, hdevice, createsAll_iff.mpr fun _ => rfl]
    exact Bool.or_true _
  obtain ⟨src, hsrc⟩ : ∃ src, s.source (.succeeding .view dirtyRects handle resource) =
      some src := by
    rw [source, hdevice1, hcontext]
    cases hhit : s.cacheHit (.succeeding .view dirtyRects handle resource) with
    | false => exact ⟨resource, rfl⟩
    | true =>
      rw [cacheHit, Bool.and_eq_true] at hhit
      exact Option.isSome_iff_exists.mp hhit.2
  rw [publishes, hsrc]
  exact hready src

namespace Session

/-! ### The runs -/

/-- With a browser, right after the consumer has set the cap. -/
def capped (names : SharedMemoryNames) (d3d : D3DInterfaces) (width height : UInt32)
    (browser : BrowserId) (cap : UInt32) : Session :=
  (start names d3d width height (some browser)).control (.setMaxInFlightBeginFrames cap)

/-- A begin frame is answered by a published paint, no paint comes without one, and the cap
stays. -/
def Answered (s : Session) : BeginFrameEvent → Prop
  | .paint p => 0 < s.books.outstanding ∧ s.host.painter.publishes p = true
  | .noPaint => False
  | .control evt => OsrHandler.SetsCap evt = false
  | _ => True

/-- No nudge sends a begin frame. -/
def NudgeSilent (s : Session) : BeginFrameEvent → Prop
  | .nudge now => (s.host.tryInputNudgeFrame now).2 = false
  | _ => True

/-- After a send by the render loop at most `cap` begin frames are outstanding. -/
def CapKept (cap : UInt32) (s : Session) : BeginFrameEvent → Prop
  | .tick now => (s.host.renderTick now).2 = true →
      (s.tick now).books.outstanding ≤ cap.toNat
  | _ => True

/-! ### What is missing on the books -/

/-- What answered runs keep: only requests can be missing on the books. -/
structure OnlySends (d3d : D3DInterfaces) (cap : UInt32) (s : Session) : Prop where
  carried : s.books.carried = 0
  offBookDone : s.books.offBookDone = 0
  cap_eq : s.host.maxInFlightBeginFrames = cap
  d3d_eq : s.host.painter.d3d = d3d
  browser : s.host.browser.isSome

variable {d3d : D3DInterfaces} {cap : UInt32} {s : Session}

theorem onlySends_capped (names : SharedMemoryNames) (width height : UInt32) (browser : BrowserId)
    (hcap : 0 < cap) : OnlySends d3d cap (capped names d3d width height browser cap) := by
  refine ⟨rfl, rfl, if_neg fun hzero => ?_, rfl, rfl⟩
  rw [hzero] at hcap
  exact absurd hcap (by decide)

/-- Asking for a frame, whatever is entered for it. -/
theorem OnlySends.asked (h : OnlySends d3d cap s) {r : OsrHandler × Bool} {counted : ℕ}
    (hasked : OsrHandler.Asked s.host r counted) {s' : Session} (hhost : s'.host = r.1)
    (hcarried : s'.books.carried = s.books.carried)
    (hdone : s'.books.offBookDone = s.books.offBookDone) : OnlySends d3d cap s' where
  carried := hcarried.trans h.carried
  offBookDone := hdone.trans h.offBookDone
  cap_eq := by rw [hhost, hasked.maxInFlight]; exact h.cap_eq
  d3d_eq := by rw [hhost, hasked.painter]; exact h.d3d_eq
  browser := by rw [hhost, hasked.browser]; exact h.browser

theorem OnlySends.next (h : OnlySends d3d cap s) {e : BeginFrameEvent} (he : s.Answered e) :
    OnlySends d3d cap (s.step e) := by
  cases e with
  | tick now =>
    obtain ⟨hcarried, hdone, -⟩ := s.tick_offBook now
    exact h.asked (s.host.renderTick_asked now) rfl hcarried hdone
  | nudge now =>
    obtain ⟨hcarried, hdone⟩ := s.nudge_offBook now
    exact h.asked (s.host.tryInputNudgeFrame_asked now) rfl hcarried hdone
  | control evt =>
    have hbooks := s.control_books_of_not he
    have hhost : (s.control evt).host = s.host.handleControlEvent evt := by
      obtain ⟨b, hb⟩ := Option.isSome_iff_exists.mp h.browser
      change s.host.pumpControl [evt] = _
      rw [OsrHandler.pumpControl, hb]
      rfl
    obtain ⟨hcap, hd3d, hbrowser⟩ := s.host.handleControlEvent_keeps he
    refine ⟨(congrArg _ hbooks).trans h.carried, (congrArg _ hbooks).trans h.offBookDone, ?_, ?_,
      ?_⟩
    · exact (congrArg _ hhost).trans (hcap.trans h.cap_eq)
    · exact (congrArg (fun host => host.painter.d3d) hhost).trans (hd3d.trans h.d3d_eq)
    · refine (congrArg (fun host => host.browser.isSome) hhost).trans ?_
      exact (congrArg Option.isSome hbrowser).trans h.browser
  | paint p =>
    obtain ⟨hhost, hbooks⟩ := s.paint_of_publishes he.1 he.2
    refine ⟨(congrArg _ hbooks).trans h.carried, (congrArg _ hbooks).trans h.offBookDone, ?_, ?_,
      ?_⟩
    · exact (congrArg _ hhost).trans h.cap_eq
    · refine (congrArg (fun host => host.painter.d3d) hhost).trans ?_
      exact (s.host.painter.step_sameSetup (.paint p)).1.trans h.d3d_eq
    · exact (congrArg (fun host => host.browser.isSome) hhost).trans h.browser
  | noPaint => exact he.elim
  | callback c hc =>
    exact ⟨h.carried, h.offBookDone, h.cap_eq, (s.host.painter.step_sameSetup c).1.trans h.d3d_eq,
      h.browser⟩

/-- A nudge that sends is the only event that leaves a request out. -/
theorem offBookSent_step {e : BeginFrameEvent} (he : s.Answered e) :
    (s.NudgeSilent e ∧ (s.step e).books.offBookSent = s.books.offBookSent) ∨
      (¬ s.NudgeSilent e ∧ (s.step e).books.offBookSent = s.books.offBookSent + 1) := by
  cases e with
  | tick now => exact Or.inl ⟨trivial, (s.tick_offBook now).2.2⟩
  | nudge now =>
    cases hsent : (s.host.tryInputNudgeFrame now).2 with
    | true =>
      refine Or.inr ⟨fun hsilent => ?_, congrArg Books.offBookSent (s.nudge_books hsent)⟩
      exact absurd (hsent.symm.trans hsilent) (by decide)
    | false => exact Or.inl ⟨hsent, congrArg Books.offBookSent (s.nudge_books_of_not hsent)⟩
  | control evt =>
    exact Or.inl ⟨trivial, congrArg Books.offBookSent (s.control_books_of_not he)⟩
  | paint p =>
    have hbooks := (s.paint_of_publishes he.1 he.2).2
    exact Or.inl ⟨trivial, (congrArg Books.offBookSent hbooks).trans rfl⟩
  | noPaint => exact he.elim
  | callback c hc => exact Or.inl ⟨trivial, rfl⟩

/-- A run leaves no request out exactly when no nudge sends. -/
theorem offBookSent_run {events : List BeginFrameEvent}
    (hanswered : Runs.Along step Answered s events) :
    s.books.offBookSent ≤ (Runs.run step s events).books.offBookSent ∧
      (Runs.Along step NudgeSilent s events ↔
        (Runs.run step s events).books.offBookSent = s.books.offBookSent) := by
  induction events generalizing s with
  | nil => exact ⟨Nat.le_refl _, iff_of_true trivial rfl⟩
  | cons e events ih =>
    obtain ⟨hle, hiff⟩ := ih hanswered.2
    rw [Runs.along_cons, Runs.run_cons, hiff]
    rcases offBookSent_step hanswered.1 with ⟨hsilent, heq⟩ | ⟨hsilent, heq⟩
    · rw [heq] at hle ⊢
      exact ⟨hle, and_iff_right hsilent⟩
    · rw [heq] at hle ⊢
      refine ⟨Nat.le_of_succ_le hle, iff_of_false (fun h => hsilent h.1) ?_⟩
      exact Nat.ne_of_gt hle

/-! ### With nothing missing -/

/-- **One step** with complete books. -/
theorem OnlySends.capKept (h : OnlySends d3d cap s) (hcap : 0 < cap)
    (hcomplete : s.books.offBookSent = 0) (e : BeginFrameEvent) : s.CapKept cap e := by
  cases e with
  | tick now =>
    intro hsent
    rw [s.tick_books hsent]
    have hbelow : s.host.inFlight < cap.toNat := by
      rw [OsrHandler.renderTick] at hsent
      split at hsent
      · cases hsent
      · rw [OsrHandler.trySendBeginFrame_sends_iff] at hsent
        refine Nat.lt_of_not_le fun hle => hsent.2 ⟨?_, ?_⟩
        · rw [h.cap_eq]; exact hcap
        · rw [h.cap_eq]; exact hle
    have hle := s.books.outstanding_le
    rw [h.carried, hcomplete, ← inFlight_eq_believed] at hle
    exact Nat.lt_of_le_of_lt hle hbelow
  | _ => trivial

/-! ### With a request missing -/

theorem OnlySends.run (h : OnlySends d3d cap s) {events : List BeginFrameEvent}
    (hanswered : Runs.Along step Answered s events) : OnlySends d3d cap (Runs.run step s events) :=
  Runs.invariant_of_along (fun _ _ h he => h.next he) h hanswered

theorem along_nudgeSilent {events : List BeginFrameEvent}
    (h : ∀ e ∈ events, ∀ now, e ≠ .nudge now) : Runs.Along step NudgeSilent s events := by
  refine (Runs.along_of_forall_mem (G := fun e => ∀ now, e ≠ .nudge now) h).mono fun s e he => ?_
  cases e with
  | nudge now => exact absurd rfl (he now)
  | _ => trivial

/-- Ticks are never out of place. -/
theorem along_ticks_answered (n : ℕ) :
    Runs.Along step Answered s (List.replicate n (.tick 0)) := by
  induction n generalizing s with
  | zero => trivial
  | succ n ih => exact ⟨trivial, ih⟩

/-- A view paint that fails nowhere. -/
def goodPaint : Paint := .succeeding .view [] 1 ⟨1, 1, 1, by decide, by decide⟩

/-- Everything outstanding can be answered by published paints. -/
theorem OnlySends.answerAll (h : OnlySends d3d cap s)
    (hd3d : d3d.device = true ∧ d3d.context = true ∧ d3d.device1 = true)
    (hpaused : s.host.paused = false) {n : ℕ} (hn : s.books.outstanding = n) :
    Runs.Along step Answered s (List.replicate n (.paint goodPaint)) ∧
      (Runs.run step s (List.replicate n (.paint goodPaint))).books.outstanding = 0 ∧
      (Runs.run step s (List.replicate n (.paint goodPaint))).host.paused = false := by
  induction n generalizing s with
  | zero => exact ⟨trivial, hn, hpaused⟩
  | succ n ih =>
    have hpos : 0 < s.books.outstanding := by rw [hn]; exact Nat.succ_pos n
    have hpub : s.host.painter.publishes goodPaint = true := by
      rw [← h.d3d_eq] at hd3d
      exact Painter.publishes_succeeding hd3d _ _ _
    obtain ⟨hhost, hbooks⟩ := s.paint_of_publishes hpos hpub
    have hanswered : s.Answered (.paint goodPaint) := ⟨hpos, hpub⟩
    obtain ⟨halong, hzero, hrun⟩ := ih (s := s.step (.paint goodPaint)) (h.next hanswered)
      ((congrArg OsrHandler.paused hhost).trans hpaused)
      ((congrArg Books.outstanding hbooks).trans (by rw [Books.answer_outstanding]; omega))
    exact ⟨⟨hanswered, halong⟩, hzero, hrun⟩

theorem OnlySends.tick_sends (h : OnlySends d3d cap s) (hpaused : s.host.paused = false)
    (hroom : s.books.believed < cap.toNat) (now : UInt64) : (s.host.renderTick now).2 = true := by
  rw [OsrHandler.renderTick, hpaused, if_neg Bool.false_ne_true,
    OsrHandler.trySendBeginFrame_sends_iff]
  refine ⟨h.browser, fun hcap => ?_⟩
  have hle := hcap.2
  rw [h.cap_eq, inFlight_eq_believed] at hle
  omega

/-- While the counters have room for `n` more, `n` ticks send. -/
theorem OnlySends.ticks_send (h : OnlySends d3d cap s) (hcap : 0 < cap)
    (hpaused : s.host.paused = false) {n : ℕ}
    (hroom : s.books.sent + n ≤ s.books.done + cap.toNat) :
    (Runs.run step s (List.replicate n (.tick 0))).books.outstanding = s.books.outstanding + n ∧
      (Runs.run step s (List.replicate n (.tick 0))).books.sent = s.books.sent + n ∧
      (Runs.run step s (List.replicate n (.tick 0))).books.done = s.books.done ∧
      (Runs.run step s (List.replicate n (.tick 0))).host.paused = false := by
  induction n generalizing s with
  | zero => exact ⟨rfl, rfl, rfl, hpaused⟩
  | succ n ih =>
    have hpos : 0 < cap.toNat := hcap
    have hsent := h.tick_sends hpaused (by rw [Books.believed]; omega) 0
    have hbooks : (s.step (.tick 0)).books = s.books.send := s.tick_books hsent
    obtain ⟨hout, hcount, hdone, hrun⟩ := ih (s := s.step (.tick 0)) (h.next (e := .tick 0) trivial)
      ((s.host.renderTick_asked 0).paused.trans hpaused)
      (by rw [hbooks, Books.send_sent, Books.send_done]; omega)
    rw [hbooks, Books.send_outstanding] at hout
    rw [hbooks, Books.send_sent] at hcount
    rw [hbooks, Books.send_done] at hdone
    rw [List.replicate_succ, Runs.run_cons]
    exact ⟨by omega, by omega, hdone, hrun⟩

/-- From any state the render loop can be resumed and everything outstanding painted, without a
nudge. -/
theorem OnlySends.settle (h : OnlySends d3d cap s)
    (hd3d : d3d.device = true ∧ d3d.context = true ∧ d3d.device1 = true) :
    ∃ more, Runs.Along step Answered s more ∧ (∀ e ∈ more, ∀ now, e ≠ .nudge now) ∧
      (Runs.run step s more).host.paused = false ∧
      (Runs.run step s more).books.outstanding = 0 := by
  have hresume : s.Answered (.control (.setPaused false)) := rfl
  have hpaused : (s.step (.control (.setPaused false))).host.paused = false := by
    obtain ⟨b, hb⟩ := Option.isSome_iff_exists.mp h.browser
    change (s.host.pumpControl [.setPaused false]).paused = false
    rw [OsrHandler.pumpControl, hb]
    rfl
  obtain ⟨hanswered, hzero, hpaused'⟩ := (h.next hresume).answerAll hd3d hpaused rfl
  refine ⟨.control (.setPaused false) :: _, ⟨hresume, hanswered⟩, ?_, hpaused', hzero⟩
  intro e he now
  rcases List.mem_cons.mp he with rfl | he
  · exact BeginFrameEvent.noConfusion
  · rw [List.eq_of_mem_replicate he]
    exact BeginFrameEvent.noConfusion

/-- With nothing outstanding and a request missing on the books, the render loop sends one begin
frame more than the cap allows. -/
theorem OnlySends.overfill (h : OnlySends d3d cap s) (hcap : 0 < cap)
    (hpaused : s.host.paused = false) (hzero : s.books.outstanding = 0)
    (hmissing : 0 < s.books.offBookSent) :
    ¬ Runs.Along step (CapKept cap) s (List.replicate cap.toNat (.tick 0) ++ [.tick 0]) := by
  have hbalance := s.books.balance
  rw [hzero, h.carried, h.offBookDone] at hbalance
  obtain ⟨hout, hsent, hdone, hpaused'⟩ := h.ticks_send hcap hpaused (n := cap.toNat) (by omega)
  have hticks : Runs.Along step Answered s (List.replicate cap.toNat (.tick 0)) :=
    along_ticks_answered cap.toNat
  have hlast : ((Runs.run step s (List.replicate cap.toNat (.tick 0))).host.renderTick 0).2 =
      true := by
    refine (h.run hticks).tick_sends hpaused' ?_ 0
    have hpos : 0 < cap.toNat := hcap
    rw [Books.believed]
    omega
  intro hkept
  have hend := (Runs.along_append.mp hkept).2.1 hlast
  rw [tick_books _ hlast, Books.send_outstanding] at hend
  omega

/-- **One request missing is enough** to bring the render loop past the cap. -/
theorem OnlySends.overshoot (h : OnlySends d3d cap s) (hcap : 0 < cap)
    (hd3d : d3d.device = true ∧ d3d.context = true ∧ d3d.device1 = true)
    (hmissing : 0 < s.books.offBookSent) :
    ∃ more, Runs.Along step Answered s more ∧ Runs.Along step NudgeSilent s more ∧
      ¬ Runs.Along step (CapKept cap) s more := by
  obtain ⟨settled, hanswered, hquiet, hpaused, hzero⟩ := h.settle hd3d
  have hsame : (Runs.run step s settled).books.offBookSent = s.books.offBookSent :=
    (offBookSent_run hanswered).2.mp (along_nudgeSilent hquiet)
  refine ⟨settled ++ (List.replicate cap.toNat (.tick 0) ++ [.tick 0]), ?_, ?_, fun hkept => ?_⟩
  · refine Runs.along_append.mpr ⟨hanswered, Runs.along_append.mpr ⟨?_, trivial, trivial⟩⟩
    exact along_ticks_answered cap.toNat
  · refine along_nudgeSilent fun e he now => ?_
    rcases List.mem_append.mp he with he | he
    · exact hquiet e he now
    · have htick : e = .tick 0 := by
        rcases List.mem_append.mp he with he | he
        · exact List.eq_of_mem_replicate he
        · exact List.mem_singleton.mp he
      rw [htick]
      exact BeginFrameEvent.noConfusion
  · exact (h.run hanswered).overfill hcap hpaused hzero (hsame ▸ hmissing)
      (Runs.along_append.mp hkept).2

end Session

/-- **Runs of answered begin frames**: without a begin frame sent by a nudge the render loop keeps
the cap; after one, it can be brought past the cap without any further nudge. -/
theorem begin_frame_cap (names : SharedMemoryNames) (d3d : D3DInterfaces) (width height : UInt32)
    (browser : BrowserId) (cap : UInt32) (events : List BeginFrameEvent) (hcap : 0 < cap)
    (hanswered : Runs.Along Session.step Session.Answered
      (.capped names d3d width height browser cap) events) :
    (Runs.Along Session.step Session.NudgeSilent (.capped names d3d width height browser cap)
        events →
      Runs.Along Session.step (Session.CapKept cap) (.capped names d3d width height browser cap)
        events) ∧
    (d3d.device = true ∧ d3d.context = true ∧ d3d.device1 = true →
      ¬ Runs.Along Session.step Session.NudgeSilent (.capped names d3d width height browser cap)
        events →
      ∃ more, Runs.Along Session.step Session.Answered
          (.capped names d3d width height browser cap) (events ++ more) ∧
        Runs.Along Session.step Session.NudgeSilent
          (Runs.run Session.step (.capped names d3d width height browser cap) events) more ∧
        ¬ Runs.Along Session.step (Session.CapKept cap)
          (.capped names d3d width height browser cap) (events ++ more)) := by
  have hinit : Session.OnlySends d3d cap (.capped names d3d width height browser cap) :=
    Session.onlySends_capped names width height browser hcap
  constructor
  · intro hsilent
    refine Runs.along_of_invariant
      (I := fun s => Session.OnlySends d3d cap s ∧ s.books.offBookSent = 0)
      (fun s e hI hG => ⟨hI.1.next hG.1, ?_⟩) (fun s e hI _ => hI.1.capKept hcap hI.2 e)
      ⟨hinit, rfl⟩ (Runs.along_and.mpr ⟨hanswered, hsilent⟩)
    rcases Session.offBookSent_step hG.1 with ⟨-, heq⟩ | ⟨hnot, -⟩
    · rw [heq]; exact hI.2
    · exact absurd hG.2 hnot
  · intro hd3d hsent
    obtain ⟨hle, hiff⟩ := Session.offBookSent_run hanswered
    have hmissing := Nat.lt_of_le_of_ne hle fun heq => hsent (hiff.mpr heq.symm)
    obtain ⟨more, hmore, hquiet, hbroken⟩ := (hinit.run hanswered).overshoot hcap hd3d
      (Nat.zero_lt_of_lt hmissing)
    exact ⟨more, Runs.along_append.mpr ⟨hanswered, hmore⟩, hquiet,
      fun hkept => hbroken (Runs.along_append.mp hkept).2⟩

/-- The session of the runs below: a cap of 1. -/
def capOne : Session := .capped (buildSharedMemoryNames []) fullD3D 4 4 1 1

/-- A tick, its paint, and a tick. -/
def silentRun : List BeginFrameEvent := [.tick 1, .paint Session.goodPaint, .tick 2]

/-- A nudge, its paint, and two ticks. -/
def nudgedRun : List BeginFrameEvent :=
  [.nudge 5000, .paint Session.goodPaint, .tick 20000, .tick 40000]

theorem begin_frame_cap_runs :
    Runs.Along Session.step (Session.CapKept 1) capOne silentRun ∧
      ∃ more, Runs.Along Session.step Session.Answered capOne (nudgedRun ++ more) ∧
        Runs.Along Session.step Session.NudgeSilent (Runs.run Session.step capOne nudgedRun) more ∧
        ¬ Runs.Along Session.step (Session.CapKept 1) capOne (nudgedRun ++ more) := by
  refine ⟨(begin_frame_cap _ _ 4 4 1 1 silentRun (by decide)
      ⟨trivial, ⟨by decide +kernel, by decide +kernel⟩, trivial, trivial⟩).1
      ⟨trivial, trivial, trivial, trivial⟩,
    (begin_frame_cap _ _ 4 4 1 1 nudgedRun (by decide)
      ⟨trivial, ⟨by decide +kernel, by decide +kernel⟩, trivial, trivial, trivial⟩).2
      ⟨rfl, rfl, rfl⟩ ?_⟩
  rintro ⟨hsilent, -⟩
  exact absurd hsilent (by change ¬ _ = false; decide +kernel)

/-- The paint of the nudge pays for the second tick. -/
theorem nudge_breaks_cap :
    ¬ (Runs.Along Session.step Session.Answered capOne nudgedRun →
      Runs.Along Session.step (Session.CapKept 1) capOne nudgedRun) := by
  intro h
  obtain ⟨-, -, -, hlast, -⟩ :=
    h ⟨trivial, ⟨by decide +kernel, by decide +kernel⟩, trivial, trivial, trivial⟩
  exact absurd (hlast (by decide +kernel)) (by decide +kernel)

end CefHost
