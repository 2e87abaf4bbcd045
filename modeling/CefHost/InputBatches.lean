import CefHost.InputThread

/-!
# The input thread makes calls of the pump

`InputThread` follows the thread access by access; `InputDispatch` has `pumpInput`, a whole call of
`PumpInput` on the events it reads. Here the first refines the second: in any interleaving, what
CEF is sent comes from a sequence of such calls, each on at most 64 events, and together they read
what was published, in order.

What a call does next depends on how many events it has read, on `shouldNudgeFrame` and on the
buttons held. `Resumes` is the assertion that says so, at every point of the loop.

## Main results

* `InputThread.asserts` — the assertions hold along the code
* `input_thread_pumps` — the thread refines `pumpInput`
-/

namespace CefHost

open EventLoop Runs

namespace InputAct

/-- The event of an act, with the value of `m_inputEnabled` the thread met. -/
def read? : InputAct → Option (InputEvent × Bool)
  | skip evt => some (evt, false)
  | dispatch evt => some (evt, true)
  | nudge => none

/-- `m_mouseModifiers` after an act. -/
def mouseModifiers (held : UInt32) : InputAct → UInt32
  | dispatch evt => (dispatchInputEvent held evt).mouseModifiers
  | _ => held

/-- What an act does. -/
def actions (held : UInt32) : InputAct → List PumpAction
  | skip _ => []
  | dispatch evt => (dispatchInputEvent held evt).call.toList.map PumpAction.send
  | nudge => [.nudge]

/-- `m_mouseModifiers` after some acts. -/
def held (log : List InputAct) : UInt32 := run mouseModifiers 0 log

/-- What some acts do. -/
def sent (log : List InputAct) : List PumpAction := emitted mouseModifiers actions 0 log

theorem held_append (log : List InputAct) (a : InputAct) :
    held (log ++ [a]) = a.mouseModifiers (held log) := run_append 0 log [a]

theorem sent_append (log : List InputAct) (a : InputAct) :
    sent (log ++ [a]) = sent log ++ a.actions (held log) := by
  rw [sent, emitted_append]
  exact congrArg _ (List.append_nil _)

theorem map_fst_read? (log : List InputAct) :
    (log.filterMap read?).map Prod.fst = log.filterMap event? := by
  rw [List.map_filterMap]
  congr 1
  funext a
  cases a <;> rfl

end InputAct

/-- Calls of `PumpInput`, one after the other: the buttons held at the end. -/
def heldAfter (browser : BrowserId) (calls : List (List (InputEvent × Bool))) : UInt32 :=
  run (fun held read => (pumpInput (some browser) held read).1) 0 calls

/-- Calls of `PumpInput`, one after the other: what they do. -/
def pumped (browser : BrowserId) (calls : List (List (InputEvent × Bool))) : List PumpAction :=
  emitted (fun held read => (pumpInput (some browser) held read).1)
    (fun held read => (pumpInput (some browser) held read).2) 0 calls

variable {browser : BrowserId} {calls : List (List (InputEvent × Bool))}
  {read : List (InputEvent × Bool)}

theorem heldAfter_append :
    heldAfter browser (calls ++ [read]) = (pumpEvents 0 false (heldAfter browser calls) read).1 :=
  run_append 0 calls [read]

theorem pumped_append :
    pumped browser (calls ++ [read])
      = pumped browser calls ++ (pumpEvents 0 false (heldAfter browser calls) read).2 := by
  rw [pumped, emitted_append]
  exact congrArg _ (List.append_nil _)

namespace InputThread

/-! ### The assertions -/

/-- The acts of a thread that is in no call: they are those of `calls`. -/
structure Between (browser : BrowserId) (log : List InputAct)
    (calls : List (List (InputEvent × Bool))) : Prop where
  short : ∀ c ∈ calls, c.length ≤ maxEventsPerPump
  reads : log.filterMap InputAct.read? = calls.flatten
  sent : InputAct.sent log = pumped browser calls
  held : InputAct.held log = heldAfter browser calls

/-- The acts of a thread that has made `calls` and is in another, where it has read `read` and done
`part`. Whatever else there is to read, it will do what `pumpInput` does, after what is `owed`. -/
structure Resumes (browser : BrowserId) (log : List InputAct) (processed : ℕ) (nudge : Bool)
    (owed : List PumpAction) (calls : List (List (InputEvent × Bool)))
    (read : List (InputEvent × Bool)) (part : List PumpAction) : Prop where
  short : ∀ c ∈ calls, c.length ≤ maxEventsPerPump
  reads : log.filterMap InputAct.read? = calls.flatten ++ read
  count : read.length = processed
  room : processed ≤ maxEventsPerPump
  sent : InputAct.sent log = pumped browser calls ++ part
  resumes : ∀ rest, pumpEvents 0 false (heldAfter browser calls) (read ++ rest)
    = let t := pumpEvents processed nudge (InputAct.held log) rest
      (t.1, part ++ owed ++ t.2)

/-- In a call. -/
def InCall (browser : BrowserId) (log : List InputAct) (processed : ℕ) (nudge : Bool)
    (owed : List PumpAction) : Prop :=
  ∃ calls read part, Resumes browser log processed nudge owed calls read part

/-- With an event in hand that is counted and not yet read as far as `pumpInput` knows. -/
def Holding (browser : BrowserId) (log : List InputAct) (processed : ℕ) (nudge : Bool) : Prop :=
  ∃ before, before + 1 = processed ∧ before < maxEventsPerPump ∧ InCall browser log before nudge []

/-- The assertion at each control point. -/
def Batched (browser : BrowserId) : InputPc → List InputAct → Prop
  | .reading processed nudge, log => InCall browser log processed nudge []
  | .enabled processed nudge _, log => Holding browser log processed nudge
  | .skipping processed nudge _, log => Holding browser log processed nudge
  | .dispatching processed nudge _, log => Holding browser log processed nudge
  | .nudging processed, log => InCall browser log processed false [.nudge]
  | .finishing nudge, log => ∃ processed, InCall browser log processed nudge []
  | _, log => ∃ calls, Between browser log calls

variable {log : List InputAct} {processed : ℕ} {nudge : Bool} {part : List PumpAction}

theorem Between.start (browser : BrowserId) : Between browser [] [] where
  short := nofun
  reads := rfl
  sent := rfl
  held := rfl

/-- A call begins. -/
theorem Between.begin (h : Between browser log calls) :
    Resumes browser log 0 false [] calls [] [] where
  short := h.short
  reads := h.reads.trans (List.append_nil _).symm
  count := rfl
  room := Nat.zero_le _
  sent := h.sent.trans (List.append_nil _).symm
  resumes rest := by rw [h.held]; rfl

namespace Resumes

/-- An event that is dropped. -/
theorem skip (h : Resumes browser log processed nudge [] calls read part)
    (hroom : processed < maxEventsPerPump) (evt : InputEvent) :
    Resumes browser (log ++ [.skip evt]) (processed + 1) nudge [] calls (read ++ [(evt, false)])
      part where
  short := h.short
  reads := by rw [List.filterMap_append, h.reads, List.append_assoc]; rfl
  count := by rw [List.length_append, h.count]; rfl
  room := hroom
  sent := by rw [InputAct.sent_append, h.sent]; exact List.append_nil _
  resumes rest := by
    rw [List.append_assoc, h.resumes, InputAct.held_append]
    simp [pumpEvents, Nat.not_le.mpr hroom, InputAct.mouseModifiers]

/-- An event that is dispatched: `part` grows by the call, and a nudge may be owed. -/
theorem dispatch (h : Resumes browser log processed nudge [] calls read part)
    (hroom : processed < maxEventsPerPump) (evt : InputEvent) {nudge' : Bool}
    {owed : List PumpAction}
    (hnext : (if (dispatchResult evt || nudge) && (processed + 1) % nudgeEveryEvents == 0 then
      (false, [.nudge]) else (dispatchResult evt || nudge, [])) = (nudge', owed)) :
    Resumes browser (log ++ [.dispatch evt]) (processed + 1) nudge' owed calls
      (read ++ [(evt, true)]) (part ++ (InputAct.dispatch evt).actions (InputAct.held log)) where
  short := h.short
  reads := by rw [List.filterMap_append, h.reads, List.append_assoc]; rfl
  count := by rw [List.length_append, h.count]; rfl
  room := hroom
  sent := by rw [InputAct.sent_append, h.sent, List.append_assoc]
  resumes rest := by
    rw [List.append_assoc, h.resumes, InputAct.held_append, List.singleton_append]
    simp only [pumpEvents, Nat.not_le.mpr hroom, if_false, Bool.not_true, Bool.false_eq_true,
      dispatchInputEvent_result]
    split at hnext
    · next hflush =>
      cases hnext
      simp [hflush, InputAct.mouseModifiers, InputAct.actions]
    · next hflush =>
      cases hnext
      simp [hflush, InputAct.mouseModifiers, InputAct.actions]

/-- The nudge of the loop. -/
theorem nudged (h : Resumes browser log processed nudge [.nudge] calls read part) :
    Resumes browser (log ++ [.nudge]) processed nudge [] calls read (part ++ [.nudge]) where
  short := h.short
  reads := by rw [List.filterMap_append, h.reads]; exact List.append_nil _
  count := h.count
  room := h.room
  sent := by rw [InputAct.sent_append, h.sent, List.append_assoc]; rfl
  resumes rest := by
    rw [h.resumes, InputAct.held_append, List.append_nil]
    rfl

/-- Behind the loop, the call is `pumpInput` on what was read. -/
theorem call_eq (h : Resumes browser log processed nudge [] calls read part) :
    pumpEvents 0 false (heldAfter browser calls) read
      = (InputAct.held log, part ++ finalNudge nudge) := by
  have hdone := h.resumes []
  rwa [List.append_nil, List.append_nil, pumpEvents] at hdone

/-- The call ends. -/
theorem finish {acts : List InputAct} (h : Resumes browser log processed nudge [] calls read part)
    (hreads : acts.filterMap InputAct.read? = [])
    (hsent : InputAct.sent (log ++ acts) = InputAct.sent log ++ finalNudge nudge)
    (hheld : InputAct.held (log ++ acts) = InputAct.held log) :
    Between browser (log ++ acts) (calls ++ [read]) where
  short := by
    intro c hc
    rcases List.mem_append.mp hc with hc | hc
    · exact h.short c hc
    · rw [List.mem_singleton.mp hc, h.count]
      exact h.room
  reads := by
    rw [List.filterMap_append, hreads, h.reads, List.flatten_append, List.append_nil]
    exact congrArg _ (List.append_nil read).symm
  sent := by rw [hsent, h.sent, pumped_append, h.call_eq, List.append_assoc]
  held := by rw [hheld, heldAfter_append, h.call_eq]

end Resumes

/-- What there is once a call has nothing more to do. -/
theorem InCall.between_of_quiet (h : InCall browser log processed false []) :
    ∃ calls, Between browser log calls := by
  obtain ⟨calls, read, part, h⟩ := h
  have hdone : Between browser (log ++ []) (calls ++ [read]) :=
    h.finish rfl (by rw [List.append_nil]; exact (List.append_nil _).symm)
      (by rw [List.append_nil])
  rw [List.append_nil] at hdone
  exact ⟨_, hdone⟩

/-- The nudge behind the loop. -/
theorem InCall.between_of_nudge (h : InCall browser log processed true []) :
    ∃ calls, Between browser (log ++ [.nudge]) calls := by
  obtain ⟨calls, read, part, h⟩ := h
  exact ⟨_, h.finish rfl (InputAct.sent_append log .nudge) (InputAct.held_append log .nudge)⟩

/-- **The assertions** hold along the code. -/
theorem asserts (browser : BrowserId) : Asserts (code (some browser)) (Batched browser) := by
  intro p log h
  match p with
  | .loop => exact ⟨h, h⟩
  | .poll =>
    rintro (_ | _ | _) _
    exacts [h, h, h]
  | .start => exact fun _ => h
  | .spin => exact ⟨h, h⟩
  | .spinPoll =>
    rintro (_ | _ | _) _
    exacts [h, h, h]
  | .clock =>
    rintro (_ | _)
    exacts [h, h]
  | .waiting => exact h
  | .pump =>
    intro _
    obtain ⟨calls, h⟩ := h
    exact ⟨calls, [], [], h.begin⟩
  | .reading processed nudge =>
    by_cases hroom : processed < maxEventsPerPump
    · rw [code_reading_of_lt browser hroom]
      rintro (_ | _ | _) _
      exacts [⟨processed, rfl, hroom, h⟩, ⟨processed, h⟩, ⟨processed, h⟩]
    · rw [code_reading_of_not_lt browser hroom]
      exact fun _ => ⟨processed, h⟩
  | .enabled _ _ _ =>
    rintro (_ | _)
    exacts [h, h]
  | .skipping _ _ evt =>
    obtain ⟨before, rfl, hroom, calls, read, part, h⟩ := h
    exact ⟨calls, _, part, h.skip hroom evt⟩
  | .dispatching _ nudge evt =>
    obtain ⟨before, rfl, hroom, calls, read, part, h⟩ := h
    show Batched browser (if _ then _ else _) _
    split
    · next hflush => exact ⟨calls, _, _, h.dispatch hroom evt (if_pos hflush)⟩
    · next hflush => exact ⟨calls, _, _, h.dispatch hroom evt (if_neg hflush)⟩
  | .nudging _ =>
    obtain ⟨calls, read, part, h⟩ := h
    exact ⟨calls, read, _, h.nudged⟩
  | .finishing true => exact h.elim fun _ h => h.between_of_nudge
  | .finishing false => exact fun _ => h.elim fun _ h => h.between_of_quiet
  | .returned => trivial

/-- Whether the thread is in a call of `PumpInput` that has begun to read. -/
def pumping : InputPc → Bool
  | .reading _ _ | .enabled _ _ _ | .skipping _ _ _ | .dispatching _ _ _ | .nudging _
  | .finishing _ => true
  | _ => false

/-- Calls that explain what a thread has done so far: it may be in the middle of the last. -/
def Explains (browser : BrowserId) (log : List InputAct)
    (calls : List (List (InputEvent × Bool))) : Prop :=
  (∀ c ∈ calls, c.length ≤ maxEventsPerPump) ∧
    log.filterMap InputAct.read? = calls.flatten ∧ InputAct.sent log <+: pumped browser calls

theorem Between.explains (h : Between browser log calls) : Explains browser log calls :=
  ⟨h.short, h.reads, h.sent ▸ List.prefix_refl _⟩

theorem Resumes.explains {owed : List PumpAction}
    (h : Resumes browser log processed nudge owed calls read part) :
    Explains browser log (calls ++ [read]) := by
  refine ⟨fun c hc => ?_, ?_, ?_⟩
  · rcases List.mem_append.mp hc with hc | hc
    · exact h.short c hc
    · rw [List.mem_singleton.mp hc, h.count]
      exact h.room
  · rw [h.reads, List.flatten_append]
    exact congrArg _ (List.append_nil read).symm
  · have hlast := h.resumes []
    rw [List.append_nil] at hlast
    rw [pumped_append, h.sent, hlast]
    show _ <+: pumped browser calls ++ (part ++ owed ++ _)
    rw [List.append_assoc part, ← List.append_assoc]
    exact List.prefix_append _ _

theorem Batched.explains {p : InputPc} (h : Batched browser p log) :
    ∃ calls, Explains browser log calls ∧
      (pumping p = false → InputAct.sent log = pumped browser calls) := by
  match p with
  | .reading _ _ | .nudging _ =>
    obtain ⟨calls, read, part, h⟩ := h
    exact ⟨_, h.explains, nofun⟩
  | .enabled _ _ _ | .skipping _ _ _ | .dispatching _ _ _ =>
    obtain ⟨_, -, -, calls, read, part, h⟩ := h
    exact ⟨_, h.explains, nofun⟩
  | .finishing _ =>
    obtain ⟨_, calls, read, part, h⟩ := h
    exact ⟨_, h.explains, nofun⟩
  | .loop | .poll | .start | .spin | .spinPoll | .clock | .waiting | .pump | .returned =>
    obtain ⟨calls, h⟩ := h
    exact ⟨calls, h.explains, fun _ => h.sent⟩

end InputThread

/-- **The input thread refines its pump.** In every interleaving there are calls of `pumpInput`,
each on at most 64 events, which together read the events consumed so far, in order; what the
thread has done is what these calls do, up to the end of the call it is in. -/
theorem input_thread_pumps (browser : BrowserId) (events : Fin inputRing.size → InputEvent)
    (as : List (Action InputEvent)) :
    let s := run (InputThread.step (some browser)) (InputThread.start events) as
    ∃ calls : List (List (InputEvent × Bool)),
      (∀ c ∈ calls, c.length ≤ maxEventsPerPump) ∧
        calls.flatten.map Prod.fst = InputThread.consumed s ∧
        InputAct.sent s.log <+: pumped browser calls ∧
        (InputThread.pumping s.pc = false → InputAct.sent s.log = pumped browser calls) := by
  intro s
  have hbatched : InputThread.Batched browser s.pc s.log :=
    (InputThread.asserts browser).run (InputThread.serves browser)
      (InputThread.ok_run browser events []) ⟨[], InputThread.Between.start browser⟩ as
  obtain ⟨calls, ⟨hshort, hreads, hprefix⟩, hsent⟩ := hbatched.explains
  refine ⟨calls, hshort, ?_, hprefix, hsent⟩
  rw [← hreads, InputAct.map_fst_read?]
  rfl

end CefHost
