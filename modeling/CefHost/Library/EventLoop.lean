import CefHost.Library.Runs

/-!
# A thread that serves a mailbox

A thread reads a mailbox that another process fills, and sleeps on an auto-reset event while there
is nothing to read. The process sets the event after it has published something. A third party
stops the thread: it clears a flag the thread tests, then sets the event.

Each of the three is one access at a time, in any order, so between the thread's last look at the
mailbox and its wait anything may happen. The wait also has a timeout, which is an action of its
own: what is said below about threads that are *not* stuck never uses it.

## The thread is a program

The code of the thread is a map from control points to instructions (`Instr`). What the theorems
need of it are local conditions, one for each instruction:

* `Sound` — on the way to a wait, the mailbox was found empty after the last wait;
* `Leaves` — with the flag cleared, there is no second wait behind a wait;
* `ExitsByFlag` — only a cleared flag leads to the exit;
* `Accounts` — what is taken is logged;
* `Asserts` — an assertion about the log at each control point;
* `Descends` — a rank that falls along every edge, except that taking an entry may lift it.

The mailbox is given by what its two sides do (`Mailbox`). A call of the reader takes several
accesses, and the answer comes with the last.

## Main results

* `Inv.drained_of_blocked` — no wakeup is lost
* `Inv.not_blocked_of_rung` — a stopped thread never sleeps again
* `Inv.exit_of_count` — how many steps of its own a stopped thread makes
* `Inv.drained_of_count` — how many it needs to take what is there
* `Inv.logged_prefix` — what is published is logged in order, once
* `Asserts.run` — assertions that the instructions keep
-/

namespace EventLoop

open Runs

/-! ### Mailboxes -/

/-- How a call of the reader ends. -/
inductive Answer (α : Type*)
  /-- An entry, which is gone from the mailbox. -/
  | entry (e : α)
  /-- There is something; nothing was taken. -/
  | pending
  | nothing
deriving DecidableEq

/-- The entry an answer takes. -/
def Answer.entries {α : Type*} : Answer α → List α
  | entry e => [e]
  | _ => []

/-- The two calls of the reader: taking the next entry, and asking whether there is one. -/
inductive Call
  | take
  | poll
deriving DecidableEq

/-- Which answers a call can have. -/
def Call.Gives {α : Type*} : Call → Answer α → Prop
  | take, .pending => False
  | poll, .entry _ => False
  | _, _ => True

/-- A mailbox with states `σ`, accesses `β` of the side that fills it, and entries `α`. -/
structure Mailbox (σ β α : Type*) where
  produce : σ → β → σ
  /-- One access of the reader, with the answer if it is the last of the call. -/
  consume : σ → Call → σ × Option (Answer α)
  published : σ → List α
  taken : σ → List α
  /-- The call the reader is in the middle of. -/
  calling : σ → Option Call
  /-- A bound on the accesses the call still needs. -/
  left : σ → ℕ
  maxLeft : ℕ
  left_le : ∀ s, left s ≤ maxLeft
  taken_prefix : ∀ s, taken s <+: published s
  produce_published : ∀ s b, published s <+: published (produce s b)
  produce_taken : ∀ s b, taken (produce s b) = taken s
  produce_calling : ∀ s b, calling (produce s b) = calling s
  produce_left : ∀ s b, left (produce s b) = left s
  consume_published : ∀ s k, published (consume s k).1 = published s
  consume_none : ∀ s k, (consume s k).2 = none → taken (consume s k).1 = taken s ∧
    left (consume s k).1 < left s
  consume_some : ∀ s k a, (consume s k).2 = some a →
    taken (consume s k).1 = taken s ++ a.entries
  consume_nothing : ∀ s k, (consume s k).2 = some .nothing → taken s = published s
  calling_none : ∀ s k, calling s = none ∨ calling s = some k → (consume s k).2 = none →
    calling (consume s k).1 = some k
  calling_some : ∀ s k a, calling s = none ∨ calling s = some k → (consume s k).2 = some a →
    calling (consume s k).1 = none ∧ k.Gives a

namespace Mailbox

variable {σ β α : Type*} (m : Mailbox σ β α)

/-- Whether an access of the other process publishes an entry. -/
def publishes (s : σ) (b : β) : Bool :=
  (m.published s).length < (m.published (m.produce s b)).length

/-- Entries published and not taken. -/
def backlog (s : σ) : ℕ := (m.published s).length - (m.taken s).length

variable {m}

theorem backlog_eq_zero_iff {s : σ} : m.backlog s = 0 ↔ m.taken s = m.published s := by
  have hle := (m.taken_prefix s).length_le
  rw [backlog, Nat.sub_eq_zero_iff_le]
  exact ⟨fun h => (m.taken_prefix s).eq_of_length (Nat.le_antisymm hle h),
    fun h => h ▸ Nat.le_refl _⟩

theorem taken_of_published_nil {s : σ} (h : m.published s = []) : m.taken s = [] :=
  List.prefix_nil.mp (h ▸ m.taken_prefix s)

theorem published_of_not_publishes {s : σ} {b : β} (h : m.publishes s b = false) :
    m.published (m.produce s b) = m.published s := by
  have hnot : ¬ (m.published s).length < (m.published (m.produce s b)).length := by
    simpa [publishes] using h
  have hpre := m.produce_published s b
  exact (hpre.eq_of_length (Nat.le_antisymm hpre.length_le (Nat.not_lt.mp hnot))).symm

theorem backlog_produce (s : σ) (b : β) :
    m.backlog (m.produce s b)
      = m.backlog s + ((m.published (m.produce s b)).length - (m.published s).length) := by
  have hle := (m.taken_prefix s).length_le
  have hpre := (m.produce_published s b).length_le
  rw [backlog, backlog, m.produce_taken]
  omega

theorem backlog_of_none {s : σ} {k : Call} (h : (m.consume s k).2 = none) :
    m.backlog (m.consume s k).1 = m.backlog s := by
  rw [backlog, backlog, m.consume_published, (m.consume_none s k h).1]

theorem backlog_of_some {s : σ} {k : Call} {a : Answer α} (h : (m.consume s k).2 = some a) :
    m.backlog s = m.backlog (m.consume s k).1 + a.entries.length := by
  have hle := (m.taken_prefix (m.consume s k).1).length_le
  rw [m.consume_published, m.consume_some s k a h, List.length_append] at hle
  rw [backlog, backlog, m.consume_published, m.consume_some s k a h, List.length_append]
  omega

end Mailbox

/-! ### Threads -/

/-- What the thread does at a control point. -/
inductive Instr (Pc α ε : Type*)
  /-- Tests the flag. -/
  | running (yes no : Pc)
  /-- Waits for the event. -/
  | wait (next : Pc)
  /-- Makes a call of the mailbox. -/
  | call (k : Call) (next : Answer α → Pc)
  /-- A step of its own, which may depend on something read elsewhere. -/
  | own (next : Bool → Pc)
  /-- Does something that is logged. -/
  | act (a : ε) (next : Pc)
  | exit

variable {σ β α Pc ε : Type*}

/-- The mailbox, the event, the flag and the thread. `owed` says that the other process has
published and not yet set the event; `rung`, that the third party has set it. -/
structure State (σ Pc ε : Type*) where
  mailbox : σ
  event : Bool
  owed : Bool
  running : Bool
  rung : Bool
  pc : Pc
  log : List ε

/-- The next access of one party. A step of the thread comes with the value it may read
elsewhere. -/
inductive Action (β : Type*)
  | produce (b : β)
  | work (value : Bool)
  | timeout
  | stop

/-- Whether an action is the thread's. -/
def Action.isWork : Action β → Bool
  | work _ => true
  | _ => false

/-- At the start of the thread. -/
def State.start (mailbox : σ) (pc : Pc) : State σ Pc ε where
  mailbox := mailbox
  event := false
  owed := false
  running := true
  rung := false
  pc := pc
  log := []

section Machine

variable (m : Mailbox σ β α) (prog : Pc → Instr Pc α ε)

/-- One step of the thread. -/
def work (s : State σ Pc ε) (value : Bool) : State σ Pc ε :=
  match prog s.pc with
  | .running yes no => { s with pc := if s.running then yes else no }
  | .wait next => if s.event then { s with event := false, pc := next } else s
  | .call k next =>
    match m.consume s.mailbox k with
    | (mailbox, none) => { s with mailbox := mailbox }
    | (mailbox, some a) => { s with mailbox := mailbox, pc := next a }
  | .own next => { s with pc := next value }
  | .act a next => { s with log := s.log ++ [a], pc := next }
  | .exit => s

def step (s : State σ Pc ε) : Action β → State σ Pc ε
  | .produce b =>
    if s.owed then { s with event := true, owed := false }
    else { s with mailbox := m.produce s.mailbox b, owed := m.publishes s.mailbox b }
  | .work value => work m prog s value
  | .timeout =>
    match prog s.pc with
    | .wait next => { s with pc := next }
    | _ => s
  | .stop =>
    if s.running then { s with running := false } else { s with event := true, rung := true }

/-- The thread sleeps, and only a timeout or someone else can wake it. -/
def Blocked (s : State σ Pc ε) : Prop := (∃ next, prog s.pc = .wait next) ∧ s.event = false

/-- The call the mailbox is in the middle of, if any, is the one the thread is at. -/
def Synced (s : State σ Pc ε) : Prop :=
  m.calling s.mailbox = none ∨
    ∃ k next, prog s.pc = .call k next ∧ m.calling s.mailbox = some k

/-! ### What a step can do -/

/-- The steps of the thread, one constructor for each thing an instruction can do. -/
inductive Worked (s : State σ Pc ε) : State σ Pc ε → Prop
  | idle (h : Blocked prog s ∨ prog s.pc = .exit) : Worked s s
  | running {yes no : Pc} (h : prog s.pc = .running yes no) :
      Worked s { s with pc := if s.running then yes else no }
  | woken {next : Pc} (h : prog s.pc = .wait next) (hev : s.event = true) :
      Worked s { s with event := false, pc := next }
  | access {k : Call} {next : Answer α → Pc} (h : prog s.pc = .call k next)
      (ha : (m.consume s.mailbox k).2 = none)
      (hk : m.calling (m.consume s.mailbox k).1 = some k) :
      Worked s { s with mailbox := (m.consume s.mailbox k).1 }
  | answer {k : Call} {next : Answer α → Pc} {a : Answer α} (h : prog s.pc = .call k next)
      (ha : (m.consume s.mailbox k).2 = some a) (hgives : k.Gives a)
      (hk : m.calling (m.consume s.mailbox k).1 = none) :
      Worked s { s with mailbox := (m.consume s.mailbox k).1, pc := next a }
  | own {next : Bool → Pc} (v : Bool) (h : prog s.pc = .own next) :
      Worked s { s with pc := next v }
  | act {a : ε} {next : Pc} (h : prog s.pc = .act a next) :
      Worked s { s with log := s.log ++ [a], pc := next }

/-- The steps of all parties. -/
inductive Stepped (s : State σ Pc ε) : State σ Pc ε → Prop
  | work {s' : State σ Pc ε} (hw : Worked m prog s s') : Stepped s s'
  | produced (b : β) (howed : s.owed = false) :
      Stepped s { s with
        mailbox := m.produce s.mailbox b
        owed := m.publishes s.mailbox b }
  | announced (howed : s.owed = true) : Stepped s { s with event := true, owed := false }
  | timedOut {next : Pc} (h : prog s.pc = .wait next) : Stepped s { s with pc := next }
  | notWaiting : Stepped s s
  | cleared (hrun : s.running = true) : Stepped s { s with running := false }
  | rang (hrun : s.running = false) : Stepped s { s with event := true, rung := true }

variable {m prog}

/-- At a call, the mailbox is in the middle of that call or of none. -/
theorem Synced.at_call {s : State σ Pc ε} (h : Synced m prog s) {k : Call} {next : Answer α → Pc}
    (hi : prog s.pc = .call k next) :
    m.calling s.mailbox = none ∨ m.calling s.mailbox = some k := by
  rcases h with hnone | ⟨k', next', hi', hk⟩
  · exact Or.inl hnone
  · rw [hi] at hi'
    cases hi'
    exact Or.inr hk

/-- Elsewhere it is in the middle of none. -/
theorem Synced.elsewhere {s : State σ Pc ε} (h : Synced m prog s)
    (hi : ∀ k next, prog s.pc ≠ .call k next) : m.calling s.mailbox = none := by
  rcases h with hnone | ⟨k, next, hi', -⟩
  · exact hnone
  · exact absurd hi' (hi k next)

theorem worked {s : State σ Pc ε} (hs : Synced m prog s) (v : Bool) :
    Worked m prog s (work m prog s v) := by
  rw [work]
  split
  · next h => exact .running h
  · next h =>
    split
    · next hev => exact .woken h hev
    · next hev => exact .idle (Or.inl ⟨⟨_, h⟩, Bool.not_eq_true _ ▸ hev⟩)
  · next k next h =>
    have hcall := hs.at_call h
    split
    · next mailbox ha =>
      have hnone : (m.consume s.mailbox k).2 = none := by rw [ha]
      have hw := Worked.access h hnone (m.calling_none s.mailbox k hcall hnone)
      rwa [ha] at hw
    · next mailbox a ha =>
      have hsome : (m.consume s.mailbox k).2 = some a := by rw [ha]
      obtain ⟨hk, hgives⟩ := m.calling_some s.mailbox k a hcall hsome
      have hw := Worked.answer h hsome hgives hk
      rwa [ha] at hw
  · next h => exact .own v h
  · next h => exact .act h
  · next h => exact .idle (Or.inr h)

theorem stepped {s : State σ Pc ε} (hs : Synced m prog s) (a : Action β) :
    Stepped m prog s (step m prog s a) := by
  match a with
  | .work v => exact .work (worked hs v)
  | .produce b =>
    rw [step]
    split
    · next howed => exact .announced howed
    · next howed => exact .produced b (Bool.not_eq_true _ ▸ howed)
  | .timeout =>
    simp only [step]
    split
    · next h => exact .timedOut h
    · exact .notWaiting
  | .stop =>
    simp only [step]
    split
    · next hrun => exact .cleared hrun
    · next hrun => exact .rang (Bool.not_eq_true _ ▸ hrun)

/-- Only the third party touches the flag and its own mark. -/
theorem step_flags (s : State σ Pc ε) {a : Action β} (h : a ≠ .stop) :
    (step m prog s a).running = s.running ∧ (step m prog s a).rung = s.rung := by
  match a with
  | .produce b => rw [step]; split <;> exact ⟨rfl, rfl⟩
  | .work v =>
    rw [step, work]
    split
    · exact ⟨rfl, rfl⟩
    · split <;> exact ⟨rfl, rfl⟩
    · split <;> exact ⟨rfl, rfl⟩
    all_goals exact ⟨rfl, rfl⟩
  | .timeout => rw [step]; split <;> exact ⟨rfl, rfl⟩
  | .stop => exact absurd rfl h

end Machine

/-! ### The conditions on a program -/

section Conditions

variable (prog : Pc → Instr Pc α ε)

/-- `C` holds of the waits and not of what comes behind them, and only a call that found nothing
leads into `C`. Nothing is asked of the edges of a cleared flag. -/
def Sound (C : Pc → Prop) : Prop :=
  ∀ p, match prog p with
    | .running yes _ => C yes → C p
    | .wait next => C p ∧ ¬ C next
    | .call k next => ∀ a, k.Gives a → a ≠ .nothing → C (next a) → C p
    | .own next => ∀ v, C (next v) → C p
    | .act _ next => C next → C p
    | .exit => True

/-- With the flag cleared, what comes behind a wait stays in `D`, where there is no wait. -/
def Leaves (D : Pc → Prop) : Prop :=
  ∀ p, match prog p with
    | .running _ no => D p → D no
    | .wait next => ¬ D p ∧ D next
    | .call k next => D p → ∀ a, k.Gives a → D (next a)
    | .own next => D p → ∀ v, D (next v)
    | .act _ next => D p → D next
    | .exit => True

/-- Only a cleared flag leads to the exit. -/
def ExitsByFlag : Prop :=
  ∀ p, match prog p with
    | .running yes _ => prog yes ≠ .exit
    | .wait next => prog next ≠ .exit
    | .call k next => ∀ a, k.Gives a → prog (next a) ≠ .exit
    | .own next => ∀ v, prog (next v) ≠ .exit
    | .act _ next => prog next ≠ .exit
    | .exit => True

/-- At each control point `hand` is the entries taken and not yet logged. -/
def Accounts (logged : ε → Option α) (hand : Pc → List α) : Prop :=
  ∀ p, match prog p with
    | .running yes no => hand yes = hand p ∧ hand no = hand p
    | .wait next => hand next = hand p
    | .call k next => ∀ a, k.Gives a → hand (next a) = hand p ++ a.entries
    | .own next => ∀ v, hand (next v) = hand p
    | .act a next => hand p = (logged a).toList ++ hand next
    | .exit => True

/-- An assertion about the log at each control point, which every instruction passes on. -/
def Asserts (P : Pc → List ε → Prop) : Prop :=
  ∀ p log, P p log → match prog p with
    | .running yes no => P yes log ∧ P no log
    | .wait next => P next log
    | .call k next => ∀ a, k.Gives a → P (next a) log
    | .own next => ∀ v, P (next v) log
    | .act a next => P next (log ++ [a])
    | .exit => True

/-- The rank falls along every edge taken while the flag is `running`; an entry may lift it by less
than `lift`. While the thread runs, nothing is asked of a call that finds nothing. -/
def Descends (running : Bool) (rank : Pc → ℕ) (lift : ℕ) : Prop :=
  ∀ p, match prog p with
    | .running yes no => rank (if running then yes else no) < rank p
    | .wait next => rank next < rank p
    | .call k next => ∀ a, k.Gives a → (running = true → a ≠ .nothing) →
        rank (next a) < rank p + lift * a.entries.length
    | .own next => ∀ v, rank (next v) < rank p
    | .act _ next => rank next < rank p
    | .exit => True

/-- The conditions for safety, together. -/
structure Serves (C D : Pc → Prop) (logged : ε → Option α) (hand : Pc → List α) : Prop where
  sound : Sound prog C
  leaves : Leaves prog D
  exits : ExitsByFlag prog
  accounts : Accounts prog logged hand

end Conditions

/-! ### The invariant of a thread -/

section Invariant

variable (m : Mailbox σ β α) (prog : Pc → Instr Pc α ε)

/-- While the flag is set: on the way to a wait, what is in the mailbox is announced, or about to
be. -/
def Covered (C : Pc → Prop) (s : State σ Pc ε) : Prop :=
  s.running = true → C s.pc → m.backlog s.mailbox ≠ 0 → s.event = true ∨ s.owed = true

/-- Once the third party has set the event, the event is still set, or the thread is past its last
wait. -/
def Rung (D : Pc → Prop) (s : State σ Pc ε) : Prop :=
  s.rung = true → s.running = false ∧ (s.event = true ∨ D s.pc)

/-- What is taken is logged, except for what the thread holds in hand. -/
def Accounted (logged : ε → Option α) (hand : Pc → List α) (s : State σ Pc ε) : Prop :=
  s.log.filterMap logged ++ hand s.pc = m.taken s.mailbox

/-- What holds in every state a thread reaches. -/
structure Inv (C D : Pc → Prop) (logged : ε → Option α) (hand : Pc → List α)
    (s : State σ Pc ε) : Prop where
  synced : Synced m prog s
  covered : Covered m C s
  rung : Rung D s
  notExit : s.running = true → prog s.pc ≠ .exit
  accounted : Accounted m logged hand s

end Invariant

variable {m : Mailbox σ β α} {prog : Pc → Instr Pc α ε} {C D : Pc → Prop}
  {logged : ε → Option α} {hand : Pc → List α} {s s' : State σ Pc ε}

theorem Synced.step (h : Synced m prog s) (hs : Stepped m prog s s') : Synced m prog s' := by
  cases hs with
  | work hw =>
    cases hw with
    | idle _ => exact h
    | running hi => exact Or.inl (h.elsewhere (by simp [hi]))
    | woken hi _ => exact Or.inl (h.elsewhere (by simp [hi]))
    | access hi _ hk => exact Or.inr ⟨_, _, hi, hk⟩
    | answer _ _ _ hk => exact Or.inl hk
    | own v hi => exact Or.inl (h.elsewhere (by simp [hi]))
    | act hi => exact Or.inl (h.elsewhere (by simp [hi]))
  | produced b _ =>
    rw [Synced]
    show m.calling (m.produce s.mailbox b) = none ∨
      ∃ k next, prog s.pc = .call k next ∧ m.calling (m.produce s.mailbox b) = some k
    rw [m.produce_calling]
    exact h
  | timedOut hi => exact Or.inl (h.elsewhere (by simp [hi]))
  | announced _ => exact h
  | notWaiting => exact h
  | cleared _ => exact h
  | rang _ => exact h

theorem Covered.step (hC : Sound prog C) (h : Covered m C s) (hs : Stepped m prog s s') :
    Covered m C s' := by
  have hp := hC s.pc
  intro hrun hc hb
  cases hs with
  | work hw =>
    cases hw with
    | idle _ => exact h hrun hc hb
    | running hi =>
      rw [hi] at hp
      rw [show s.running = true from hrun, if_pos rfl] at hc
      exact h hrun (hp hc) hb
    | woken hi _ =>
      rw [hi] at hp
      exact absurd hc hp.2
    | access _ ha _ => exact h hrun hc (m.backlog_of_none ha ▸ hb)
    | @answer k next a hi ha hgives _ =>
      rw [hi] at hp
      have hbefore : m.backlog s.mailbox ≠ 0 := by
        rw [m.backlog_of_some ha]
        exact Nat.ne_of_gt (Nat.add_pos_left (Nat.pos_of_ne_zero hb) _)
      refine h hrun (hp a hgives ?_ hc) hbefore
      rintro rfl
      exact hbefore (Mailbox.backlog_eq_zero_iff.mpr (m.consume_nothing s.mailbox k ha))
    | own v hi =>
      rw [hi] at hp
      exact h hrun (hp v hc) hb
    | act hi =>
      rw [hi] at hp
      exact h hrun (hp hc) hb
  | produced b howed =>
    show s.event = true ∨ m.publishes s.mailbox b = true
    match hpub : m.publishes s.mailbox b with
    | true => exact Or.inr rfl
    | false =>
      have hsame := m.backlog_produce s.mailbox b
      rw [Mailbox.published_of_not_publishes hpub, Nat.sub_self, Nat.add_zero] at hsame
      rcases h hrun hc (hsame ▸ hb) with hev | hev
      · exact Or.inl hev
      · exact absurd (howed.symm.trans hev) Bool.false_ne_true
  | announced _ => exact Or.inl rfl
  | timedOut hi =>
    rw [hi] at hp
    exact absurd hc hp.2
  | notWaiting => exact h hrun hc hb
  | cleared _ => exact absurd hrun Bool.false_ne_true
  | rang _ => exact Or.inl rfl

theorem Rung.step (hD : Leaves prog D) (h : Rung D s) (hs : Stepped m prog s s') : Rung D s' := by
  have hp := hD s.pc
  intro hrung
  cases hs with
  | work hw =>
    cases hw with
    | idle _ => exact h hrung
    | running hi =>
      rw [hi] at hp
      obtain ⟨hrun, hcov⟩ := h hrung
      refine ⟨hrun, hcov.imp_right fun hd => ?_⟩
      rw [hrun]
      exact hp hd
    | woken hi _ =>
      rw [hi] at hp
      exact ⟨(h hrung).1, Or.inr hp.2⟩
    | access _ _ _ => exact h hrung
    | @answer _ _ a hi _ hgives _ =>
      rw [hi] at hp
      exact ⟨(h hrung).1, (h hrung).2.imp_right fun hd => hp hd a hgives⟩
    | own v hi =>
      rw [hi] at hp
      exact ⟨(h hrung).1, (h hrung).2.imp_right fun hd => hp hd v⟩
    | act hi =>
      rw [hi] at hp
      exact ⟨(h hrung).1, (h hrung).2.imp_right hp⟩
  | produced _ _ => exact h hrung
  | announced _ => exact ⟨(h hrung).1, Or.inl rfl⟩
  | timedOut hi =>
    rw [hi] at hp
    exact ⟨(h hrung).1, Or.inr hp.2⟩
  | notWaiting => exact h hrung
  | cleared _ => exact ⟨rfl, (h hrung).2⟩
  | rang hrun => exact ⟨hrun, Or.inl rfl⟩

theorem notExit_step (hE : ExitsByFlag prog) (h : s.running = true → prog s.pc ≠ .exit)
    (hs : Stepped m prog s s') : s'.running = true → prog s'.pc ≠ .exit := by
  have hp := hE s.pc
  intro hrun
  cases hs with
  | work hw =>
    cases hw with
    | idle _ => exact h hrun
    | @running yes no hi =>
      rw [hi] at hp
      show prog (if s.running then yes else no) ≠ .exit
      rw [show s.running = true from hrun]
      exact hp
    | woken hi _ => rw [hi] at hp; exact hp
    | access _ _ _ => exact h hrun
    | answer hi _ hgives _ => rw [hi] at hp; exact hp _ hgives
    | own v hi => rw [hi] at hp; exact hp v
    | act hi => rw [hi] at hp; exact hp
  | produced _ _ => exact h hrun
  | announced _ => exact h hrun
  | timedOut hi => rw [hi] at hp; exact hp
  | notWaiting => exact h hrun
  | cleared _ => exact absurd hrun Bool.false_ne_true
  | rang _ => exact h hrun

theorem Accounted.step (hA : Accounts prog logged hand) (h : Accounted m logged hand s)
    (hs : Stepped m prog s s') : Accounted m logged hand s' := by
  have hp := hA s.pc
  cases hs with
  | work hw =>
    cases hw with
    | idle _ => exact h
    | @running yes no hi =>
      rw [hi] at hp
      show s.log.filterMap logged ++ hand (if s.running then yes else no) = m.taken s.mailbox
      split
      · rw [hp.1]; exact h
      · rw [hp.2]; exact h
    | @woken next hi _ =>
      rw [hi] at hp
      show s.log.filterMap logged ++ hand next = m.taken s.mailbox
      rw [hp]
      exact h
    | @access k _ _ ha _ =>
      show s.log.filterMap logged ++ hand s.pc = m.taken (m.consume s.mailbox k).1
      rw [(m.consume_none s.mailbox k ha).1]
      exact h
    | @answer k next a hi ha hgives _ =>
      rw [hi] at hp
      show s.log.filterMap logged ++ hand (next a) = m.taken (m.consume s.mailbox k).1
      rw [hp a hgives, m.consume_some s.mailbox k a ha, ← List.append_assoc]
      exact congrArg (· ++ a.entries) h
    | @own next v hi =>
      rw [hi] at hp
      show s.log.filterMap logged ++ hand (next v) = m.taken s.mailbox
      rw [hp v]
      exact h
    | @act a next hi =>
      rw [hi] at hp
      have hlogged : [a].filterMap logged = (logged a).toList := by
        rw [List.filterMap_cons]
        split <;> simp_all
      show (s.log ++ [a]).filterMap logged ++ hand next = m.taken s.mailbox
      rw [List.filterMap_append, hlogged, List.append_assoc, ← hp]
      exact h
  | produced b _ =>
    show s.log.filterMap logged ++ hand s.pc = m.taken (m.produce s.mailbox b)
    rw [m.produce_taken]
    exact h
  | @timedOut next hi =>
    rw [hi] at hp
    show s.log.filterMap logged ++ hand next = m.taken s.mailbox
    rw [hp]
    exact h
  | announced _ => exact h
  | notWaiting => exact h
  | cleared _ => exact h
  | rang _ => exact h

/-- **One access** of any party. -/
theorem Inv.next (hP : Serves prog C D logged hand) (h : Inv m prog C D logged hand s)
    (a : Action β) : Inv m prog C D logged hand (step m prog s a) :=
  have hs := stepped h.synced a
  { synced := h.synced.step hs
    covered := h.covered.step hP.sound hs
    rung := h.rung.step hP.leaves hs
    notExit := notExit_step hP.exits h.notExit hs
    accounted := h.accounted.step hP.accounts hs }

/-- A thread that starts on a mailbox nothing was ever put into. -/
theorem inv_start {mailbox : σ} {pc : Pc} (hpub : m.published mailbox = [])
    (hcalling : m.calling mailbox = none) (hexit : prog pc ≠ .exit) (hhand : hand pc = []) :
    Inv m prog C D logged hand (State.start mailbox pc) where
  synced := Or.inl hcalling
  covered := by
    intro _ _ hb
    exact absurd (Mailbox.backlog_eq_zero_iff.mpr
      ((Mailbox.taken_of_published_nil hpub).trans hpub.symm)) hb
  rung := fun hrung => absurd hrung Bool.false_ne_true
  notExit := fun _ => hexit
  accounted := by
    show [] ++ hand pc = m.taken mailbox
    rw [hhand, Mailbox.taken_of_published_nil hpub]
    rfl

theorem inv_run (hP : Serves prog C D logged hand) {mailbox : σ} {pc : Pc}
    (hpub : m.published mailbox = []) (hcalling : m.calling mailbox = none)
    (hexit : prog pc ≠ .exit) (hhand : hand pc = []) (as : List (Action β)) :
    Inv m prog C D logged hand (run (step m prog) (State.start mailbox pc) as) :=
  invariant (fun _ a h => h.next hP a) (inv_start hpub hcalling hexit hhand) as

/-! ### What the invariant promises -/

/-- **No lost wakeup.** A thread that sleeps while its flag is set, with every announcement made,
has taken everything. -/
theorem Inv.drained_of_blocked (h : Inv m prog C D logged hand s)
    (hP : Serves prog C D logged hand) (hrun : s.running = true) (howed : s.owed = false)
    (hblocked : Blocked prog s) : m.taken s.mailbox = m.published s.mailbox := by
  obtain ⟨⟨next, hi⟩, hev⟩ := hblocked
  have hp := hP.sound s.pc
  rw [hi] at hp
  refine Mailbox.backlog_eq_zero_iff.mp (by_contra fun hb => ?_)
  rcases h.covered hrun hp.1 hb with hset | howes
  · exact absurd (hev.symm.trans hset) Bool.false_ne_true
  · exact absurd (howed.symm.trans howes) Bool.false_ne_true

/-- **A stopped thread does not sleep.** -/
theorem Inv.not_blocked_of_rung (h : Inv m prog C D logged hand s)
    (hP : Serves prog C D logged hand) (hrung : s.rung = true) : ¬ Blocked prog s := by
  rintro ⟨⟨next, hi⟩, hev⟩
  have hp := hP.leaves s.pc
  rw [hi] at hp
  rcases (h.rung hrung).2 with hset | hd
  · exact absurd (hev.symm.trans hset) Bool.false_ne_true
  · exact hp.1 hd

/-- What is logged is, in order and once, what was published first. -/
theorem Inv.logged_prefix (h : Inv m prog C D logged hand s) :
    s.log.filterMap logged <+: m.published s.mailbox := by
  have hlog : s.log.filterMap logged <+: m.taken s.mailbox :=
    h.accounted ▸ List.prefix_append _ _
  exact hlog.trans (m.taken_prefix _)

theorem Asserts.step {P : Pc → List ε → Prop} (hA : Asserts prog P) (h : P s.pc s.log)
    (hs : Stepped m prog s s') : P s'.pc s'.log := by
  have hp := hA s.pc s.log h
  cases hs with
  | work hw =>
    cases hw with
    | idle _ => exact h
    | @running yes no hi =>
      rw [hi] at hp
      show P (if s.running then yes else no) s.log
      split
      exacts [hp.1, hp.2]
    | woken hi _ => rw [hi] at hp; exact hp
    | access _ _ _ => exact h
    | answer hi _ hgives _ => rw [hi] at hp; exact hp _ hgives
    | own v hi => rw [hi] at hp; exact hp v
    | act hi => rw [hi] at hp; exact hp
  | timedOut hi => rw [hi] at hp; exact hp
  | produced _ _ => exact h
  | announced _ => exact h
  | notWaiting => exact h
  | cleared _ => exact h
  | rang _ => exact h

/-- **The log.** Assertions hold along every run, whatever the other parties do. -/
theorem Asserts.run {P : Pc → List ε → Prop} (hA : Asserts prog P)
    (hP : Serves prog C D logged hand) (hinv : Inv m prog C D logged hand s) (h : P s.pc s.log)
    (as : List (Action β)) :
    P (run (EventLoop.step m prog) s as).pc (run (EventLoop.step m prog) s as).log :=
  (invariant (I := fun s => Inv m prog C D logged hand s ∧ P s.pc s.log)
    (fun _ a hs => ⟨hs.1.next hP a, hA.step hs.2 (stepped hs.1.synced a)⟩) ⟨hinv, h⟩ as).2

/-! ### Counting the steps of the thread -/

/-- A bound on the steps the thread still makes while no one publishes. -/
def stepsLeft (m : Mailbox σ β α) (rank : Pc → ℕ) (lift : ℕ) (s : State σ Pc ε) : ℕ :=
  (m.maxLeft + 1) * (rank s.pc + lift * m.backlog s.mailbox) + m.left s.mailbox

/-- The entries published between two states. -/
def newlyPublished (m : Mailbox σ β α) (s s' : State σ Pc ε) : ℕ :=
  (m.published s'.mailbox).length - (m.published s.mailbox).length

variable {rank : Pc → ℕ} {lift : ℕ}

/-- The measure falls when its first part does. -/
theorem stepsLeft_lt {a b : ℕ} {mailbox : σ} (hab : a < b) (l : ℕ) :
    (m.maxLeft + 1) * a + m.left mailbox < (m.maxLeft + 1) * b + l := by
  have hle := m.left_le mailbox
  have hmul : (m.maxLeft + 1) * (a + 1) ≤ (m.maxLeft + 1) * b := Nat.mul_le_mul_left _ hab
  rw [Nat.mul_add, Nat.mul_one] at hmul
  omega

/-- **One step of the thread** lowers the measure, unless it sleeps, is at the exit, or runs and has
nothing to read. -/
theorem stepsLeft_work (hR : Descends prog s.running rank lift) (hblocked : ¬ Blocked prog s)
    (hexit : prog s.pc ≠ .exit) (hback : s.running = true → m.backlog s.mailbox ≠ 0)
    (hw : Worked m prog s s') : stepsLeft m rank lift s' < stepsLeft m rank lift s := by
  have hp := hR s.pc
  cases hw with
  | idle h => exact absurd h (not_or.mpr ⟨hblocked, hexit⟩)
  | running hi =>
    rw [hi] at hp
    exact stepsLeft_lt (Nat.add_lt_add_right hp _) _
  | woken hi _ =>
    rw [hi] at hp
    exact stepsLeft_lt (Nat.add_lt_add_right hp _) _
  | @access k _ _ ha _ =>
    show _ * (rank s.pc + lift * m.backlog (m.consume s.mailbox k).1) + _ < _
    rw [m.backlog_of_none ha]
    exact Nat.add_lt_add_left (m.consume_none s.mailbox k ha).2 _
  | @answer k next a hi ha hgives _ =>
    rw [hi] at hp
    refine stepsLeft_lt ?_ _
    show rank (next a) + lift * m.backlog (m.consume s.mailbox k).1
      < rank s.pc + lift * m.backlog s.mailbox
    have hrank := hp a hgives ?_
    · rw [m.backlog_of_some ha, Nat.mul_add]
      omega
    · rintro hrun rfl
      exact hback hrun (Mailbox.backlog_eq_zero_iff.mpr (m.consume_nothing s.mailbox k ha))
  | own v hi =>
    rw [hi] at hp
    exact stepsLeft_lt (Nat.add_lt_add_right (hp v) _) _
  | act hi =>
    rw [hi] at hp
    exact stepsLeft_lt (Nat.add_lt_add_right hp _) _

/-- What the other parties do raises the measure only by what is published. -/
theorem stepsLeft_step (hs : Synced m prog s) (hR : Descends prog s.running rank lift)
    (hblocked : ¬ Blocked prog s) (hexit : prog s.pc ≠ .exit)
    (hback : s.running = true → m.backlog s.mailbox ≠ 0) (a : Action β) :
    stepsLeft m rank lift (step m prog s a) + a.isWork.toNat ≤ stepsLeft m rank lift s
      + (m.maxLeft + 1) * lift * newlyPublished m s (step m prog s a) := by
  match a with
  | .work v =>
    exact Nat.le_add_right_of_le (stepsLeft_work hR hblocked hexit hback (worked hs v))
  | .produce b =>
    rw [step]
    split
    · exact Nat.le_add_right _ _
    · show (m.maxLeft + 1) * (rank s.pc + lift * m.backlog (m.produce s.mailbox b))
          + m.left (m.produce s.mailbox b)
        ≤ (m.maxLeft + 1) * (rank s.pc + lift * m.backlog s.mailbox) + m.left s.mailbox
          + (m.maxLeft + 1) * lift * ((m.published (m.produce s.mailbox b)).length
            - (m.published s.mailbox).length)
      refine Nat.le_of_eq ?_
      rw [m.backlog_produce, m.produce_left, Nat.mul_assoc, Nat.mul_add lift, ← Nat.add_assoc,
        Nat.mul_add (m.maxLeft + 1), Nat.add_right_comm]
  | .timeout =>
    have hp := hR s.pc
    simp only [step]
    split
    · next next hi =>
      rw [hi] at hp
      exact Nat.le_add_right_of_le (Nat.le_of_lt (stepsLeft_lt (Nat.add_lt_add_right hp _) _))
    · exact Nat.le_add_right _ _
  | .stop =>
    simp only [step]
    split <;> exact Nat.le_add_right _ _

/-- Nothing published is withdrawn. -/
theorem published_stepped (hs : Stepped m prog s s') :
    (m.published s.mailbox).length ≤ (m.published s'.mailbox).length := by
  cases hs with
  | work hw =>
    cases hw with
    | @access k _ _ _ _ => exact Nat.le_of_eq (m.consume_published s.mailbox k ▸ rfl)
    | @answer k _ _ _ _ _ _ => exact Nat.le_of_eq (m.consume_published s.mailbox k ▸ rfl)
    | _ => exact Nat.le_refl _
  | produced b _ => exact (m.produce_published s.mailbox b).length_le
  | _ => exact Nat.le_refl _

theorem Inv.published_run_le (h : Inv m prog C D logged hand s)
    (hP : Serves prog C D logged hand) (as : List (Action β)) :
    (m.published s.mailbox).length ≤ (m.published (run (step m prog) s as).mailbox).length := by
  induction as generalizing s with
  | nil => exact Nat.le_refl _
  | cons a as ih => exact Nat.le_trans (published_stepped (stepped h.synced a)) (ih (h.next hP a))

/-- A stopped thread stays stopped. -/
theorem rung_stepped (hrung : s.rung = true) (hs : Stepped m prog s s') : s'.rung = true := by
  cases hs with
  | work hw => cases hw <;> exact hrung
  | rang _ => rfl
  | _ => exact hrung

theorem exit_step (h : prog s.pc = .exit) (a : Action β) : prog (step m prog s a).pc = .exit := by
  match a with
  | .work v => simp [step, work, h]
  | .produce b => simp only [step]; split <;> exact h
  | .timeout => simp [step, h]
  | .stop => simp only [step]; split <;> exact h

/-- Along a run, the increments add up to what is published in all. -/
theorem total_newlyPublished (hP : Serves prog C D logged hand) (h : Inv m prog C D logged hand s)
    (K : ℕ) (as : List (Action β)) :
    total (step m prog) (fun s a => K * newlyPublished m s (step m prog s a)) s as
      = K * newlyPublished m s (run (step m prog) s as) := by
  induction as generalizing s with
  | nil => simp [total, newlyPublished]
  | cons a as ih =>
    have hfirst := published_stepped (stepped h.synced a)
    have hrest := (h.next hP a).published_run_le hP as
    rw [total, ih (h.next hP a), run_cons, ← Nat.mul_add]
    simp only [newlyPublished]
    congr 1
    omega

/-- **Leaving.** From the moment the third party has set the event, the thread is at its exit after
a bounded number of steps of its own, whatever the others do meanwhile. The bound grows with what
the other process publishes, unless the rank falls along the reads as well. -/
theorem Inv.exit_of_count (h : Inv m prog C D logged hand s) (hP : Serves prog C D logged hand)
    (hR : Descends prog false rank lift) (hrung : s.rung = true) {as : List (Action β)}
    (hcount : stepsLeft m rank lift s
      + (m.maxLeft + 1) * lift * newlyPublished m s (run (step m prog) s as)
        < as.countP Action.isWork) :
    prog (run (step m prog) s as).pc = .exit := by
  rw [← total_newlyPublished hP h] at hcount
  refine done_of_countP (I := fun s => Inv m prog C D logged hand s ∧ s.rung = true)
    (D := fun s => prog s.pc = .exit) (G := fun _ _ => True)
    (μ := stepsLeft m rank lift) ?_ ?_ ?_ ⟨h, hrung⟩
    (along_of_forall_mem fun _ _ => trivial) hcount
  · rintro s a ⟨h, hrung⟩ -
    exact ⟨h.next hP a, rung_stepped hrung (stepped h.synced a)⟩
  · intro s a _ _ hexit
    exact exit_step hexit a
  · rintro s a ⟨h, hrung⟩ - hexit
    have hstopped := (h.rung hrung).1
    exact stepsLeft_step h.synced (hstopped ▸ hR) (h.not_blocked_of_rung hP hrung) hexit
      (fun hrun => absurd (hstopped.symm.trans hrun) Bool.false_ne_true) a

/-- A step of the thread itself announces nothing, leaves the flag alone and publishes nothing. -/
theorem worked_frame (hw : Worked m prog s s') :
    s'.running = s.running ∧ s'.owed = s.owed ∧ m.backlog s'.mailbox ≤ m.backlog s.mailbox := by
  cases hw with
  | access _ ha _ => exact ⟨rfl, rfl, Nat.le_of_eq (m.backlog_of_none ha)⟩
  | answer _ ha _ _ => exact ⟨rfl, rfl, m.backlog_of_some ha ▸ Nat.le_add_right _ _⟩
  | _ => exact ⟨rfl, rfl, Nat.le_refl _⟩

/-- **Delivery.** Once the other process has stopped publishing and made its announcement, a thread
that runs takes everything within a bounded number of steps, whatever it reads elsewhere and
without a timeout. -/
theorem Inv.drained_of_count (h : Inv m prog C D logged hand s)
    (hP : Serves prog C D logged hand) (hR : Descends prog true rank lift)
    (hrun : s.running = true) (howed : s.owed = false) {values : List Bool}
    (hcount : stepsLeft m rank lift s < values.length) :
    let s' := run (step m prog) s (values.map .work)
    m.taken s'.mailbox = m.published s'.mailbox := by
  refine Mailbox.backlog_eq_zero_iff.mp ?_
  refine done_of_countP
    (I := fun s => Inv m prog C D logged hand s ∧ s.running = true ∧ s.owed = false)
    (D := fun s => m.backlog s.mailbox = 0) (G := fun _ a => a.isWork = true)
    (w := Action.isWork) (μ := stepsLeft m rank lift) (g := fun _ _ => 0) ?_ ?_ ?_
    ⟨h, hrun, howed⟩ (along_of_forall_mem ?_) ?_
  · rintro s a ⟨h, hrun, howed⟩ hwork
    match a with
    | .work v =>
      obtain ⟨hrun', howed', -⟩ := worked_frame (worked h.synced v)
      exact ⟨h.next hP (.work v), hrun'.trans hrun, howed'.trans howed⟩
  · rintro s a ⟨h, -, -⟩ hwork hdone
    match a with
    | .work v =>
      obtain ⟨-, -, hle⟩ := worked_frame (worked h.synced v)
      exact Nat.le_zero.mp (hdone ▸ hle)
  · rintro s a ⟨h, hrun, howed⟩ hwork hback
    match a with
    | .work v =>
      have hawake : ¬ Blocked prog s := by
        intro hblocked
        exact hback (Mailbox.backlog_eq_zero_iff.mpr
          (h.drained_of_blocked hP hrun howed hblocked))
      exact stepsLeft_work (hrun ▸ hR) hawake (h.notExit hrun) (fun _ => hback)
        (worked h.synced v)
  · intro a ha
    obtain ⟨v, -, rfl⟩ := List.mem_map.mp ha
    rfl
  · have hzero : 0 + total (step m prog) (fun _ _ => 0) s (values.map Action.work) = 0 :=
      add_total (f := fun _ => 0) (fun _ _ => rfl) s (values.map Action.work)
    have hall : (values.map (Action.work (β := β))).countP Action.isWork = values.length := by
      rw [List.countP_map]
      exact List.countP_eq_length.mpr fun v _ => rfl
    rw [hall]
    omega

end EventLoop
