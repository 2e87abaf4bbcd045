import CefHost.InputDispatch
import CefHost.RingBuffer

/-!
# The input pump on its ring

`PumpInput` with the ring it reads from: the loop with its limit, the nudge after every eighth
event, which a disabled event skips over, and the nudge behind the loop.

`m_inputEnabled` may change between any two events; `inputEnabled k` is what the call loads after
its event number `k`. The ring is whatever the consumer process has left there.

## Main definitions

* `PumpCall` — the ring, the locals of the call, and what it has done
* `PumpCall.handle`, `pumpLoop`, `pumpInputRing` — one event, the loop, the call

## Main results

* `PumpCall.Inv.handle` — what one event does to the books
* `pumpInputRing_eq_pumpInput` — the call does what `pumpInput` does with the events of the ring
* `pump_input_spec` — what a call consumes, dispatches and nudges
-/

namespace CefHost

/-- What a call of the pump does: it dispatches an event, with what came of it, or nudges. -/
inductive PumpStep
  | dispatch (evt : InputEvent) (d : Dispatched)
  | nudge
deriving DecidableEq

/-- The event a step dispatches. -/
def PumpStep.event? : PumpStep → Option InputEvent
  | dispatch evt _ => some evt
  | nudge => none

/-- Whether a nudge is owed after the step. -/
def PumpStep.owes (owed : Bool) : PumpStep → Bool
  | dispatch _ d => d.result || owed
  | nudge => false

/-- A step as CEF sees it. -/
def PumpStep.actions : PumpStep → List PumpAction
  | dispatch _ d => d.call.toList.map PumpAction.send
  | nudge => [.nudge]

/-- The ring, the locals of `PumpInput`, the events it has read and the steps it has made. -/
structure PumpCall where
  ring : RingBuffer inputRing InputEvent
  mouseModifiers : UInt32
  shouldNudgeFrame : Bool
  processedEvents : ℕ
  consumed : List InputEvent
  log : List PumpStep

namespace PumpCall

/-- At the top of the loop. -/
def start (ring : RingBuffer inputRing InputEvent) (mouseModifiers : UInt32) : PumpCall where
  ring := ring
  mouseModifiers := mouseModifiers
  shouldNudgeFrame := false
  processedEvents := 0
  consumed := []
  log := []

/-- The body of the loop, with the event `ReadEvent` returned and the ring it left. -/
def handle (p : PumpCall) (evt : InputEvent) (ring : RingBuffer inputRing InputEvent)
    (inputEnabled : Bool) : PumpCall :=
  let p := { p with
    ring := ring
    processedEvents := p.processedEvents + 1
    consumed := p.consumed ++ [evt] }
  if !inputEnabled then p
  else
    let d := dispatchInputEvent p.mouseModifiers evt
    let p := { p with
      mouseModifiers := d.mouseModifiers
      shouldNudgeFrame := d.result || p.shouldNudgeFrame
      log := p.log ++ [.dispatch evt d] }
    if p.shouldNudgeFrame && p.processedEvents % nudgeEveryEvents == 0 then
      { p with shouldNudgeFrame := false, log := p.log ++ [.nudge] }
    else p

/-- Behind the loop. -/
def finish (p : PumpCall) : PumpCall :=
  if p.shouldNudgeFrame then { p with log := p.log ++ [.nudge] } else p

end PumpCall

/-- The loop, for at most `room` more events. -/
def pumpLoop (inputEnabled : ℕ → Bool) : ℕ → PumpCall → PumpCall
  | 0, p => p
  | room + 1, p =>
    match p.ring.readEvent with
    | none => p
    | some (evt, ring) =>
      pumpLoop inputEnabled room (p.handle evt ring (inputEnabled p.processedEvents))

/-- `PumpInput`. -/
def pumpInputRing (browser : Option BrowserId) (inputEnabled : ℕ → Bool)
    (ring : RingBuffer inputRing InputEvent) (mouseModifiers : UInt32) : PumpCall :=
  match browser with
  | none => .start ring mouseModifiers
  | some _ => (pumpLoop inputEnabled maxEventsPerPump (.start ring mouseModifiers)).finish

/-! ### The ring -/

/-- How many events the indices promise. -/
def available (ring : RingBuffer inputRing InputEvent) : ℕ :=
  (ring.writeIndex - ring.readIndex).toNat

/-- The event that is `k` behind the next one. -/
def queued (ring : RingBuffer inputRing InputEvent) (k : ℕ) : InputEvent :=
  ring.events (inputRing.slot (ring.readIndex + UInt32.ofNat k))

/-- The ring after `k` reads. -/
def afterReads (ring : RingBuffer inputRing InputEvent) (k : ℕ) :
    RingBuffer inputRing InputEvent :=
  { ring with readIndex := ring.readIndex + UInt32.ofNat k }

theorem afterReads_zero (ring : RingBuffer inputRing InputEvent) : afterReads ring 0 = ring := by
  simp [afterReads]

/-- The read index meets the write index after exactly the reads the indices promise. -/
theorem readIndex_add_eq_iff (ring : RingBuffer inputRing InputEvent) {k : ℕ}
    (h : k ≤ available ring) :
    ring.readIndex + UInt32.ofNat k = ring.writeIndex ↔ k = available ring := by
  have hlt := (ring.writeIndex - ring.readIndex).toNat_lt
  rw [available] at h ⊢
  constructor
  · intro heq
    rw [← heq, UInt32.add_comm, UInt32.add_sub_cancel]
    exact (UInt32.toNat_ofNat_of_lt' (Nat.lt_of_le_of_lt h hlt)).symm
  · rintro rfl
    rw [UInt32.ofNat_toNat, UInt32.add_comm, UInt32.sub_add_cancel]

/-- Reads succeed while there is something available. -/
theorem readEvent_afterReads (ring : RingBuffer inputRing InputEvent) {k : ℕ}
    (h : k ≤ available ring) :
    (afterReads ring k).readEvent
      = if k < available ring then some (queued ring k, afterReads ring (k + 1)) else none := by
  by_cases hk : k < available ring
  · have hne := (readIndex_add_eq_iff ring h).not.mpr (Nat.ne_of_lt hk)
    have hnext : ring.readIndex + UInt32.ofNat k + 1 = ring.readIndex + UInt32.ofNat (k + 1) := by
      rw [UInt32.add_assoc, FreeRunning.ofNat_succ]
    rw [if_pos hk]
    simp only [afterReads, RingBuffer.readEvent, if_neg hne, queued, hnext]
  · have heq := (readIndex_add_eq_iff ring h).mpr (Nat.le_antisymm h (Nat.not_lt.mp hk))
    rw [if_neg hk]
    exact if_pos heq

/-! ### One event -/

namespace PumpCall

/-- The books of a call on `ring` after `processedEvents` events: what is gone from the ring, what
was dispatched, that a nudge is owed exactly when the flag says so, and how many there were. -/
structure Inv (ring : RingBuffer inputRing InputEvent) (inputEnabled : ℕ → Bool)
    (p : PumpCall) : Prop where
  le : p.processedEvents ≤ available ring
  ring_eq : p.ring = afterReads ring p.processedEvents
  consumed : p.consumed = (List.range p.processedEvents).map (queued ring)
  dispatched : p.log.filterMap PumpStep.event?
    = ((List.range p.processedEvents).filter inputEnabled).map (queued ring)
  owed : p.log.foldl PumpStep.owes false = p.shouldNudgeFrame
  nudges : p.log.count .nudge ≤ p.processedEvents / 8
  nudges_owed : p.log.count .nudge + p.shouldNudgeFrame.toNat ≤ (p.processedEvents + 7) / 8

variable {ring : RingBuffer inputRing InputEvent} {inputEnabled : ℕ → Bool} {p : PumpCall}

theorem inv_start (ring : RingBuffer inputRing InputEvent) (inputEnabled : ℕ → Bool)
    (mouseModifiers : UInt32) : (start ring mouseModifiers).Inv ring inputEnabled where
  le := Nat.zero_le _
  ring_eq := (afterReads_zero ring).symm
  consumed := rfl
  dispatched := rfl
  owed := rfl
  nudges := Nat.zero_le _
  nudges_owed := Nat.zero_le _

/-- What reading an event adds to the books, whatever is done with it. -/
theorem Inv.read (h : p.Inv ring inputEnabled) (hlt : p.processedEvents < available ring) :
    p.processedEvents + 1 ≤ available ring ∧
      p.consumed ++ [queued ring p.processedEvents]
        = (List.range (p.processedEvents + 1)).map (queued ring) ∧
      ((List.range (p.processedEvents + 1)).filter inputEnabled).map (queued ring)
        = p.log.filterMap PumpStep.event? ++
          if inputEnabled p.processedEvents then [queued ring p.processedEvents] else [] := by
  refine ⟨hlt, ?_, ?_⟩
  · rw [List.range_succ, List.map_append, h.consumed]
    rfl
  · rw [List.range_succ, List.filter_append, List.map_append, h.dispatched]
    cases hen : inputEnabled p.processedEvents <;> simp [hen]

/-- **One event** keeps the books. -/
theorem Inv.handle (h : p.Inv ring inputEnabled) (hlt : p.processedEvents < available ring) :
    (p.handle (queued ring p.processedEvents) (afterReads ring (p.processedEvents + 1))
      (inputEnabled p.processedEvents)).Inv ring inputEnabled := by
  obtain ⟨hle, hconsumed, hdispatched⟩ := h.read hlt
  have hnudges := h.nudges
  have howed := h.nudges_owed
  rw [PumpCall.handle]
  cases hen : inputEnabled p.processedEvents with
  | false =>
    refine ⟨hle, rfl, hconsumed, ?_, h.owed, ?_, ?_⟩
    · simpa [hen] using hdispatched.symm
    · exact Nat.le_trans hnudges (Nat.div_le_div_right (Nat.le_succ _))
    · exact Nat.le_trans howed (Nat.div_le_div_right (by simp))
  | true =>
    have hnone : ∀ d, [PumpStep.dispatch (queued ring p.processedEvents) d].count .nudge = 0 := by
      simp
    have hevents : ∀ d, (p.log ++ [PumpStep.dispatch (queued ring p.processedEvents) d]).filterMap
        PumpStep.event? = ((List.range (p.processedEvents + 1)).filter inputEnabled).map
          (queued ring) := by
      intro d
      rw [hdispatched, hen, List.filterMap_append]
      rfl
    simp only [Bool.not_true, Bool.false_eq_true, if_false]
    split
    · next hflush =>
      rw [Bool.and_eq_true, beq_iff_eq, nudgeEveryEvents] at hflush
      refine ⟨hle, rfl, hconsumed, ?_, ?_, ?_, ?_⟩
      · rw [List.filterMap_append, hevents]
        exact List.append_nil _
      · rw [List.foldl_append]
        rfl
      · simp only [List.count_append, hnone, List.count_singleton_self]
        omega
      · simp only [List.count_append, hnone, List.count_singleton_self, Bool.toNat_false]
        omega
    · refine ⟨hle, rfl, hconsumed, hevents _, ?_, ?_, ?_⟩
      · rw [List.foldl_append, h.owed]
        rfl
      · rw [List.count_append, hnone]
        simp only
        omega
      · have hflag := Bool.toNat_le ((dispatchInputEvent p.mouseModifiers
          (queued ring p.processedEvents)).result || p.shouldNudgeFrame)
        rw [List.count_append, hnone]
        simp only
        omega

@[simp] theorem handle_processedEvents (p : PumpCall) (evt : InputEvent)
    (ring : RingBuffer inputRing InputEvent) (enabled : Bool) :
    (p.handle evt ring enabled).processedEvents = p.processedEvents + 1 := by
  cases enabled with
  | false => rfl
  | true =>
    simp only [handle, Bool.not_true, Bool.false_eq_true, if_false]
    split <;> rfl

/-! ### The loop and the call -/

/-- The loop stops at its limit or when the ring is empty. -/
theorem Inv.loop (room : ℕ) (h : p.Inv ring inputEnabled) :
    (pumpLoop inputEnabled room p).Inv ring inputEnabled ∧
      (pumpLoop inputEnabled room p).processedEvents
        = min (p.processedEvents + room) (available ring) := by
  induction room generalizing p with
  | zero => exact ⟨h, by have := h.le; rw [pumpLoop]; omega⟩
  | succ room ih =>
    have hread := readEvent_afterReads ring h.le
    rw [pumpLoop, h.ring_eq, hread]
    by_cases hlt : p.processedEvents < available ring
    · rw [if_pos hlt]
      obtain ⟨hinv, hcount⟩ := ih (h.handle hlt)
      refine ⟨hinv, hcount.trans ?_⟩
      rw [handle_processedEvents, Nat.add_right_comm]
      rfl
    · rw [if_neg hlt]
      exact ⟨h, by have := h.le; simp only; omega⟩

/-- After a step that leaves a nudge owed, none is owed at the end only if there was one. -/
theorem nudge_mem_of_owes {post : List PumpStep} (h : post.foldl PumpStep.owes true = false) :
    .nudge ∈ post := by
  induction post with
  | nil => cases h
  | cons s post ih =>
    cases s with
    | dispatch evt d =>
      rw [List.foldl_cons, PumpStep.owes, Bool.or_true] at h
      exact List.mem_cons_of_mem _ (ih h)
    | nudge => exact List.mem_cons_self

/-- With no nudge owed at the end, one follows each dispatch that returned true. -/
theorem nudge_after {log pre post : List PumpStep} {evt : InputEvent} {d : Dispatched}
    (h : log.foldl PumpStep.owes false = false) (hlog : log = pre ++ .dispatch evt d :: post)
    (hd : d.result = true) : .nudge ∈ post := by
  rw [hlog, List.foldl_append, List.foldl_cons, PumpStep.owes, hd, Bool.true_or] at h
  exact nudge_mem_of_owes h

/-- The nudge behind the loop settles what is owed. -/
theorem Inv.finish (h : p.Inv ring inputEnabled) :
    p.finish.log.filterMap PumpStep.event?
        = ((List.range p.processedEvents).filter inputEnabled).map (queued ring) ∧
      p.finish.log.count .nudge ≤ (p.processedEvents + 7) / 8 ∧
      p.finish.log.foldl PumpStep.owes false = false := by
  have howed := h.nudges_owed
  have hpending := h.owed
  cases hflag : p.shouldNudgeFrame with
  | false =>
    have hlog : p.finish = p := by rw [PumpCall.finish, hflag]; rfl
    rw [hflag] at howed hpending
    rw [hlog]
    exact ⟨h.dispatched, howed, hpending⟩
  | true =>
    have hlog : p.finish.log = p.log ++ [.nudge] := by rw [PumpCall.finish, hflag]; rfl
    rw [hflag] at howed
    rw [hlog]
    refine ⟨?_, ?_, ?_⟩
    · rw [← h.dispatched, List.filterMap_append]
      exact List.append_nil _
    · rw [List.count_append, List.count_singleton_self]
      exact howed
    · rw [List.foldl_append]
      rfl

/-! ### The same call, given the events -/

/-- The events from number `k` on, each with the value of `m_inputEnabled` loaded after it. -/
def reads (ring : RingBuffer inputRing InputEvent) (inputEnabled : ℕ → Bool) (k : ℕ) :
    List (InputEvent × Bool) :=
  (List.range' k (available ring - k)).map fun i => (queued ring i, inputEnabled i)

theorem reads_cons (inputEnabled : ℕ → Bool) {k : ℕ} (h : k < available ring) :
    reads ring inputEnabled k
      = (queued ring k, inputEnabled k) :: reads ring inputEnabled (k + 1) := by
  have hsucc : available ring - k = (available ring - (k + 1)) + 1 := by omega
  rw [reads, hsucc, List.range'_succ]
  rfl

theorem reads_nil (inputEnabled : ℕ → Bool) {k : ℕ} (h : ¬ k < available ring) :
    reads ring inputEnabled k = [] := by
  rw [reads, Nat.sub_eq_zero_of_le (Nat.not_lt.mp h)]
  rfl

theorem finish_eq (p : PumpCall) :
    p.finish.mouseModifiers = p.mouseModifiers ∧
      p.finish.log.flatMap PumpStep.actions
        = p.log.flatMap PumpStep.actions ++ finalNudge p.shouldNudgeFrame := by
  rw [finish, finalNudge]
  split
  · exact ⟨rfl, by rw [List.flatMap_append]; rfl⟩
  · exact ⟨rfl, (List.append_nil _).symm⟩

/-- One event: `pumpEvents` makes the actions that `handle` logs, and goes on from there. -/
theorem pumpEvents_handle (p : PumpCall) (evt : InputEvent)
    (ring : RingBuffer inputRing InputEvent) (enabled : Bool) (read : List (InputEvent × Bool))
    (hroom : p.processedEvents < maxEventsPerPump) :
    let p' := p.handle evt ring enabled
    let t := pumpEvents p.processedEvents p.shouldNudgeFrame p.mouseModifiers
      ((evt, enabled) :: read)
    let t' := pumpEvents p'.processedEvents p'.shouldNudgeFrame p'.mouseModifiers read
    t.1 = t'.1 ∧ p.log.flatMap PumpStep.actions ++ t.2
      = p'.log.flatMap PumpStep.actions ++ t'.2 := by
  have hfull : ¬ maxEventsPerPump ≤ p.processedEvents := Nat.not_le.mpr hroom
  cases enabled with
  | false =>
    constructor <;> simp only [handle, pumpEvents, hfull, if_false, Bool.not_false, if_true]
  | true =>
    simp only [handle, pumpEvents, hfull, if_false, Bool.not_true, Bool.false_eq_true]
    split
    · refine ⟨rfl, ?_⟩
      simp [PumpStep.actions]
    · refine ⟨rfl, ?_⟩
      simp [PumpStep.actions]

theorem Inv.loop_eq_pumpEvents (room : ℕ) (h : p.Inv ring inputEnabled)
    (hroom : p.processedEvents + room = maxEventsPerPump) :
    let r := (pumpLoop inputEnabled room p).finish
    let t := pumpEvents p.processedEvents p.shouldNudgeFrame p.mouseModifiers
      (reads ring inputEnabled p.processedEvents)
    r.mouseModifiers = t.1 ∧
      r.log.flatMap PumpStep.actions = p.log.flatMap PumpStep.actions ++ t.2 := by
  induction room generalizing p with
  | zero =>
    have hfull : maxEventsPerPump ≤ p.processedEvents := by omega
    cases hreads : reads ring inputEnabled p.processedEvents with
    | nil => exact finish_eq p
    | cons e read =>
      simp only [pumpEvents, hfull, if_true]
      exact finish_eq p
  | succ room ih =>
    have hread := readEvent_afterReads ring h.le
    rw [← h.ring_eq] at hread
    by_cases hlt : p.processedEvents < available ring
    · rw [if_pos hlt] at hread
      obtain ⟨hmodifiers, hlog⟩ := ih (h.handle hlt) (by rw [handle_processedEvents]; omega)
      obtain ⟨hfirst, hlogged⟩ := pumpEvents_handle p (queued ring p.processedEvents)
        (afterReads ring (p.processedEvents + 1)) (inputEnabled p.processedEvents)
        (reads ring inputEnabled (p.processedEvents + 1)) (by omega)
      rw [handle_processedEvents] at hmodifiers hlog hfirst hlogged
      rw [pumpLoop, hread, reads_cons inputEnabled hlt]
      exact ⟨hmodifiers.trans hfirst.symm, hlog.trans hlogged.symm⟩
    · rw [if_neg hlt] at hread
      rw [pumpLoop, hread, reads_nil inputEnabled hlt]
      exact finish_eq p

end PumpCall

/-- The call on a ring is the call of `pumpInput` with the events of the ring. -/
theorem pumpInputRing_eq_pumpInput (browser : BrowserId) (inputEnabled : ℕ → Bool)
    (ring : RingBuffer inputRing InputEvent) (mouseModifiers : UInt32) :
    let p := pumpInputRing (some browser) inputEnabled ring mouseModifiers
    let t := pumpInput (some browser) mouseModifiers (PumpCall.reads ring inputEnabled 0)
    p.mouseModifiers = t.1 ∧ p.log.flatMap PumpStep.actions = t.2 :=
  (PumpCall.inv_start ring inputEnabled mouseModifiers).loop_eq_pumpEvents maxEventsPerPump rfl

/-- **One call of the pump**, for every ring and whatever `m_inputEnabled` is in between: it reads
`min 64 available` events in ring order, dispatches those seen while enabled and no other, nudges
at most once for every eight events begun, and nudges after the last dispatch that returned
true. -/
theorem pump_input_spec (browser : BrowserId) (inputEnabled : ℕ → Bool)
    (ring : RingBuffer inputRing InputEvent) (mouseModifiers : UInt32) :
    let p := pumpInputRing (some browser) inputEnabled ring mouseModifiers
    let n := min 64 (available ring)
    p.consumed = (List.range n).map (queued ring) ∧
      p.ring = afterReads ring n ∧
      p.log.filterMap PumpStep.event? = ((List.range n).filter inputEnabled).map (queued ring) ∧
      p.log.count .nudge ≤ (n + 7) / 8 ∧
      ∀ pre evt d post, p.log = pre ++ .dispatch evt d :: post → d.result = true →
        .nudge ∈ post := by
  intro p n
  obtain ⟨hinv, hcount⟩ :=
    (PumpCall.inv_start ring inputEnabled mouseModifiers).loop maxEventsPerPump
  have hn : (pumpLoop inputEnabled maxEventsPerPump (.start ring mouseModifiers)).processedEvents
      = n := hcount
  obtain ⟨hdispatched, hnudges, howed⟩ := hinv.finish
  have hkeeps : p.consumed
        = (pumpLoop inputEnabled maxEventsPerPump (.start ring mouseModifiers)).consumed ∧
      p.ring = (pumpLoop inputEnabled maxEventsPerPump (.start ring mouseModifiers)).ring := by
    simp only [p, pumpInputRing, PumpCall.finish]
    split <;> exact ⟨rfl, rfl⟩
  rw [hn] at hdispatched hnudges
  refine ⟨?_, ?_, hdispatched, hnudges, fun pre evt d post hlog => PumpCall.nudge_after howed hlog⟩
  · rw [hkeeps.1, hinv.consumed, hn]
  · rw [hkeeps.2, hinv.ring_eq, hn]

end CefHost
