import CefHost.Library.Runs
import Mathlib.Algebra.GroupWithZero.Nat
import Mathlib.Logic.Function.Basic

/-!
# Shared cells, updated one access at a time

Threads work through lists of updates of shared cells. An update `f` of a cell is either one
instruction that reads and writes at once, or a loop

  prev = load(cell); while (f(prev) ≠ prev && !compare_exchange_weak(cell, prev, f(prev))) {}

between whose accesses those of the other threads come, and whose exchange may fail for no reason.
A failed exchange leaves in `prev` what it has found. Nothing here knows what the cells hold and
what the updates are.

## One effect each

Every update, the loops included, acts on its cell at a single access: a loop at the exchange that
succeeds, or at the load after which it has nothing to change. So a run does to the cells what a
list of whole updates does, and the updates of a thread are in that list in the thread's order.

## Main definitions

* `CasLoop.Instructions` — cell and function of an update, and whether it is a loop
* `CasLoop.Instructions.step` — one access of one thread
* `CasLoop.Instructions.effects` — the updates that act at a step
* `CasLoop.Instructions.apply` — a whole update

## Main results

* `CasLoop.Instructions.cells_run`, `found_run`, `program_order` — the run as a list of updates
* `CasLoop.Instructions.done_of_count` — the loops come to an end
* `CasLoop.Instructions.drained_append` — what resets find is the outcome of the updates between
  them
-/

namespace CasLoop

open Runs

variable {κ α ο ι : Type*}

/-- What the updates are. -/
structure Instructions (κ α ο : Type*) where
  cell : ο → κ
  update : ο → α → α
  looped : ο → Bool

/-- The updates that are left, and what a loop has loaded. -/
structure Thread (α ο : Type*) where
  todo : List ο
  loaded : Option α

structure State (ι κ α ο : Type*) where
  cells : κ → α
  threads : ι → Thread α ο

inductive Action (ι ο : Type*)
  | give (t : ι) (ops : List ο)
  | access (t : ι) (spurious : Bool)

/-- Whether a step is an access of thread `t`. -/
def Action.isAccess [DecidableEq ι] (t : ι) : Action ι ο → Bool
  | .access t' _ => t' = t
  | .give .. => false

/-- What a step gives thread `t` to do. -/
def Action.given [DecidableEq ι] (t : ι) : Action ι ο → List ο
  | .give t' ops => if t' = t then ops else []
  | .access .. => []

namespace Instructions

variable [DecidableEq κ] [DecidableEq α] [DecidableEq ι] (I : Instructions κ α ο)

/-- A whole update. -/
def apply (m : κ → α) (o : ο) : κ → α :=
  Function.update m (I.cell o) (I.update o (m (I.cell o)))

/-- The next access of a thread. -/
def access (m : κ → α) (th : Thread α ο) (spurious : Bool) : (κ → α) × Thread α ο :=
  match th.todo with
  | [] => (m, th)
  | o :: rest =>
    if I.looped o = false then (I.apply m o, ⟨rest, none⟩)
    else if th.loaded = some (m (I.cell o)) ∧ spurious = false then (I.apply m o, ⟨rest, none⟩)
    -- a load, or a failed exchange
    else if I.update o (m (I.cell o)) = m (I.cell o) then (m, ⟨rest, none⟩)
    else (m, ⟨o :: rest, some (m (I.cell o))⟩)

/-- The update that acts at an access. -/
def acts (m : κ → α) (th : Thread α ο) (spurious : Bool) : Option ο :=
  match th.todo with
  | [] => none
  | o :: _ =>
    if I.looped o = false ∨ (th.loaded = some (m (I.cell o)) ∧ spurious = false) ∨
      I.update o (m (I.cell o)) = m (I.cell o) then some o else none

def step (s : State ι κ α ο) : Action ι ο → State ι κ α ο
  | .give t ops =>
    { s with
      threads := Function.update s.threads t
        { s.threads t with todo := (s.threads t).todo ++ ops } }
  | .access t spurious =>
    { cells := (I.access s.cells (s.threads t) spurious).1
      threads := Function.update s.threads t (I.access s.cells (s.threads t) spurious).2 }

/-- The updates that act at a step, with their threads. -/
def effects (s : State ι κ α ο) : Action ι ο → List (ι × ο)
  | .give .. => []
  | .access t spurious => (I.acts s.cells (s.threads t) spurious).toList.map (t, ·)

/-- What these updates find in their cells. -/
def found (s : State ι κ α ο) (a : Action ι ο) : List (ο × α) :=
  (I.effects s a).map fun e => (e.2, s.cells (I.cell e.2))

/-! ### One access -/

variable {I}

omit [DecidableEq α] in
/-- Where there is nothing to change, the whole update changes nothing. -/
theorem apply_eq_self {m : κ → α} {o : ο} (h : I.update o (m (I.cell o)) = m (I.cell o)) :
    I.apply m o = m := by
  rw [apply, h, Function.update_eq_self]

/-- **One access**: the first update acts and is done, or nothing happens to the cells and the
thread knows what is in its cell. -/
theorem access_cases (m : κ → α) {th : Thread α ο} {o : ο} {rest : List ο}
    (h : th.todo = o :: rest) (spurious : Bool) :
    (I.acts m th spurious = some o ∧ I.access m th spurious = (I.apply m o, ⟨rest, none⟩)) ∨
      (I.acts m th spurious = none ∧ I.looped o = true ∧
        (th.loaded = some (m (I.cell o)) → spurious = true) ∧
        I.access m th spurious = (m, ⟨o :: rest, some (m (I.cell o))⟩)) := by
  rw [acts, access, h]
  dsimp only
  by_cases honce : I.looped o = false
  · rw [if_pos (Or.inl honce), if_pos honce]
    exact Or.inl ⟨rfl, rfl⟩
  rw [if_neg honce]
  by_cases hexchange : th.loaded = some (m (I.cell o)) ∧ spurious = false
  · rw [if_pos (Or.inr (Or.inl hexchange)), if_pos hexchange]
    exact Or.inl ⟨rfl, rfl⟩
  rw [if_neg hexchange]
  by_cases hkeep : I.update o (m (I.cell o)) = m (I.cell o)
  · rw [if_pos (Or.inr (Or.inr hkeep)), if_pos hkeep, apply_eq_self hkeep]
    exact Or.inl ⟨rfl, rfl⟩
  · rw [if_neg hkeep, if_neg fun h => h.elim honce fun h => h.elim hexchange hkeep]
    refine Or.inr ⟨rfl, by simpa using honce, fun hloaded => ?_, rfl⟩
    by_contra hspurious
    exact hexchange ⟨hloaded, by simpa using hspurious⟩

theorem access_nil (m : κ → α) {th : Thread α ο} (h : th.todo = []) (spurious : Bool) :
    I.acts m th spurious = none ∧ I.access m th spurious = (m, th) := by
  rw [acts, access, h]
  exact ⟨rfl, rfl⟩

theorem access_cells (m : κ → α) (th : Thread α ο) (spurious : Bool) :
    (I.access m th spurious).1 = (I.acts m th spurious).toList.foldl I.apply m := by
  cases h : th.todo with
  | nil =>
    obtain ⟨hacts, haccess⟩ := access_nil (I := I) m h spurious
    rw [hacts, haccess]
    rfl
  | cons o rest =>
    obtain ⟨hacts, haccess⟩ | ⟨hacts, -, -, haccess⟩ := access_cases (I := I) m h spurious
    · rw [hacts, haccess]
      rfl
    · rw [hacts, haccess]
      rfl

/-- The thread's next update acts, or is still the next one. -/
theorem access_todo (m : κ → α) (th : Thread α ο) (spurious : Bool) :
    (I.acts m th spurious).toList ++ (I.access m th spurious).2.todo = th.todo := by
  cases h : th.todo with
  | nil =>
    obtain ⟨hacts, haccess⟩ := access_nil (I := I) m h spurious
    rw [hacts, haccess, h]
    rfl
  | cons o rest =>
    obtain ⟨hacts, haccess⟩ | ⟨hacts, -, -, haccess⟩ := access_cases (I := I) m h spurious
    · rw [hacts, haccess]
      rfl
    · rw [hacts, haccess]
      rfl

/-! ### A run -/

variable (I) in
/-- A whole update, with the thread it belongs to. -/
def applyOf (m : κ → α) (e : ι × ο) : κ → α := I.apply m e.2

/-- **The cells** are those after the updates that acted, one after the other. -/
theorem cells_run (s : State ι κ α ο) (as : List (Action ι ο)) :
    (run I.step s as).cells = run I.applyOf s.cells (emitted I.step I.effects s as) := by
  refine project (I := fun _ => True) (f := State.cells) (g := I.effects)
    (fun _ _ _ => trivial) (fun s a _ => ?_) trivial as
  match a with
  | .give t ops => rfl
  | .access t spurious =>
    show (I.access s.cells (s.threads t) spurious).1 = _
    rw [access_cells, effects, run, List.foldl_map]
    rfl

/-- **What the updates found** is what they find one after the other. -/
theorem found_run (s : State ι κ α ο) (as : List (Action ι ο)) :
    emitted I.step I.found s as
      = emitted (I.applyOf (ι := ι)) (fun m e => [(e.2, m (I.cell e.2))]) s.cells
          (emitted I.step I.effects s as) := by
  refine emitted_project (I := fun _ => True) (f := State.cells) (fun _ _ _ => trivial)
    (fun s a _ => ?_) (fun s a _ => ?_) trivial as
  · exact cells_run s [a] |>.trans (by rw [emitted, emitted, List.append_nil])
  · cases a with
    | give t ops => rfl
    | access t spurious =>
      rw [found, effects]
      cases I.acts s.cells (s.threads t) spurious <;> rfl

/-- **Program order.** What a thread was given has acted, in order, up to what it still has to
do. -/
theorem program_order (t : ι) (s : State ι κ α ο) (as : List (Action ι ο)) :
    ((emitted I.step I.effects s as).filter fun e => e.1 = t).map Prod.snd
        ++ ((run I.step s as).threads t).todo
      = (s.threads t).todo ++ as.flatMap (Action.given t) := by
  induction as generalizing s with
  | nil => simp [emitted]
  | cons a as ih =>
    rw [emitted, List.filter_append, List.map_append, List.append_assoc, run_cons, ih,
      ← List.append_assoc, List.flatMap_cons, ← List.append_assoc]
    congr 1
    cases a with
    | give t' ops =>
      show ([] : List ο) ++ (Function.update s.threads t' _ t).todo = _
      by_cases ht : t' = t
      · subst ht
        rw [Function.update_self, Action.given, if_pos rfl, List.nil_append]
      · rw [Function.update_of_ne (Ne.symm ht), Action.given, if_neg ht, List.append_nil,
          List.nil_append]
    | access t' spurious =>
      show _ ++ (Function.update s.threads t' (I.access s.cells (s.threads t') spurious).2 t).todo
        = (s.threads t).todo ++ []
      by_cases ht : t' = t
      · subst ht
        have htodo := access_todo (I := I) s.cells (s.threads t') spurious
        rw [Function.update_self, List.append_nil, effects]
        cases hacts : I.acts s.cells (s.threads t') spurious <;> rw [hacts] at htodo <;>
          simpa using htodo
      · rw [Function.update_of_ne (Ne.symm ht), List.append_nil, effects]
        cases I.acts s.cells (s.threads t') spurious <;> simp [ht]

/-- What has acted was given. -/
theorem mem_given_of_mem_effects {s : State ι κ α ο} (hidle : ∀ t, (s.threads t).todo = [])
    {as : List (Action ι ο)} {e : ι × ο} (he : e ∈ emitted I.step I.effects s as) :
    e.2 ∈ as.flatMap (Action.given e.1) := by
  have horder := program_order (I := I) e.1 s as
  rw [hidle, List.nil_append] at horder
  rw [← horder]
  refine List.mem_append_left _ (List.mem_map_of_mem ?_)
  exact List.mem_filter.mpr ⟨he, by simp⟩

/-! ### The loops end -/

variable (I) in
/-- The accesses an update takes if nothing comes between them. -/
def cost (o : ο) : ℕ := if I.looped o then 2 else 1

variable (I) in
/-- The accesses a thread has still to make if nothing comes between them. -/
def pending (m : κ → α) (th : Thread α ο) : ℕ :=
  match th.todo with
  | [] => 0
  | o :: rest =>
    (if I.looped o = true ∧ th.loaded ≠ some (m (I.cell o)) then 2 else 1)
      + (rest.map I.cost).sum

variable (I) in
/-- Whether a thread is in a loop on the cell of `o`. -/
def contends (th : Thread α ο) (o : ο) : Bool :=
  th.todo.head?.any fun o' => I.looped o' && I.cell o' = I.cell o

variable (I) in
/-- What may cost thread `t` one access more: its exchange fails for no reason, or the update of
another thread acts on the cell of its loop. -/
def delays (t : ι) (s : State ι κ α ο) : Action ι ο → ℕ
  | .give .. => 0
  | .access t' spurious =>
    if t' = t then spurious.toNat
    else (I.acts s.cells (s.threads t') spurious).toList.countP (I.contends (s.threads t))

omit [DecidableEq κ] in
theorem pending_le (m : κ → α) (th : Thread α ο) : I.pending m th ≤ (th.todo.map I.cost).sum := by
  rw [pending]
  split
  · exact Nat.zero_le _
  · next o rest h =>
    rw [h, List.map_cons, List.sum_cons, cost]
    split_ifs <;> simp_all

/-- An access of a thread with something left to do. -/
theorem pending_access (m : κ → α) {th : Thread α ο} (h : th.todo ≠ []) (spurious : Bool) :
    I.pending (I.access m th spurious).1 (I.access m th spurious).2 + 1
      ≤ I.pending m th + spurious.toNat := by
  obtain ⟨o, rest, htodo⟩ := List.exists_cons_of_ne_nil h
  have hbefore : I.pending m th
      = (if I.looped o = true ∧ th.loaded ≠ some (m (I.cell o)) then 2 else 1)
        + (rest.map I.cost).sum := by rw [pending, htodo]
  obtain ⟨-, haccess⟩ | ⟨-, hloop, hspurious, haccess⟩ := access_cases (I := I) m htodo spurious
  · have hafter := pending_le (I := I) (I.apply m o) ⟨rest, none⟩
    rw [haccess, hbefore]
    dsimp only at hafter ⊢
    split_ifs <;> omega
  · have hafter : I.pending m ⟨o :: rest, some (m (I.cell o))⟩ = 1 + (rest.map I.cost).sum := by
      simp [pending]
    rw [haccess, hbefore]
    dsimp only
    rw [hafter]
    by_cases hloaded : th.loaded = some (m (I.cell o))
    · rw [if_neg fun hne => hne.2 hloaded, hspurious hloaded]
      exact Nat.le_refl _
    · rw [if_pos ⟨hloop, hloaded⟩]
      omega

/-- An update of another thread. -/
theorem pending_apply (m : κ → α) (th : Thread α ο) (o : ο) :
    I.pending (I.apply m o) th ≤ I.pending m th + (I.contends th o).toNat := by
  rw [pending, pending]
  split
  · exact Nat.zero_le _
  · next o' rest htodo =>
    by_cases hcontends : I.contends th o = true
    · rw [hcontends]
      split_ifs <;> simp <;> omega
    · have hsame : I.looped o' = true → I.apply m o (I.cell o') = m (I.cell o') := by
        intro hloop
        have hne : I.cell o' ≠ I.cell o := by
          simpa [contends, htodo, hloop] using hcontends
        exact Function.update_of_ne hne _ _
      have hiff : (I.looped o' = true ∧ th.loaded ≠ some (I.apply m o (I.cell o'))) ↔
          (I.looped o' = true ∧ th.loaded ≠ some (m (I.cell o'))) :=
        and_congr_right fun hloop => by rw [hsame hloop]
      rw [if_congr hiff rfl rfl]
      exact Nat.le_add_right _ _

theorem pending_step {t : ι} {s : State ι κ α ο} {a : Action ι ο} (hgive : a.given t = [])
    (htodo : (s.threads t).todo ≠ []) :
    I.pending (I.step s a).cells ((I.step s a).threads t) + (a.isAccess t).toNat
      ≤ I.pending s.cells (s.threads t) + I.delays t s a := by
  match a with
  | .give t' ops =>
    have hsame : (I.step s (.give t' ops)).threads t = s.threads t := by
      show Function.update s.threads t' _ t = _
      by_cases ht : t' = t
      · subst ht
        rw [Action.given, if_pos rfl] at hgive
        rw [Function.update_self, hgive, List.append_nil]
      · rw [Function.update_of_ne (Ne.symm ht)]
    rw [hsame]
    exact Nat.le_refl _
  | .access t' spurious =>
    show I.pending (I.access s.cells (s.threads t') spurious).1 (Function.update s.threads t' _ t)
      + _ ≤ _
    by_cases ht : t' = t
    · subst ht
      rw [Function.update_self, Action.isAccess, delays, if_pos rfl]
      simpa using pending_access (I := I) s.cells htodo spurious
    · rw [Function.update_of_ne (Ne.symm ht), Action.isAccess, delays, if_neg ht, access_cells]
      cases I.acts s.cells (s.threads t') spurious with
      | none => simp [ht]
      | some o =>
        have hother := pending_apply (I := I) s.cells (s.threads t) o
        cases hcontends : I.contends (s.threads t) o <;> simpa [ht, hcontends] using hother

/-- **The loops end.** A thread that is given nothing more is done after as many accesses as its
updates cost, and one more for each exchange of its own that fails for no reason and for each update
of the others on the cell of its loop. -/
theorem done_of_count {t : ι} {s : State ι κ α ο} {as : List (Action ι ο)}
    (hgive : ∀ a ∈ as, a.given t = [])
    (hcount : I.pending s.cells (s.threads t) + total I.step (I.delays t) s as
      < as.countP (Action.isAccess t)) : ((run I.step s as).threads t).todo = [] := by
  refine done_of_countP (I := fun _ => True) (D := fun s => (s.threads t).todo = [])
    (G := fun _ a => a.given t = []) (w := Action.isAccess t)
    (μ := fun s => I.pending s.cells (s.threads t)) (g := I.delays t) (fun _ _ _ _ => trivial)
    (fun s a _ hgive hdone => ?_) (fun s a _ hgive htodo => pending_step hgive htodo) trivial
    (along_of_forall_mem hgive) hcount
  have horder := program_order (I := I) t s [a]
  rw [hdone, List.flatMap_cons, hgive, List.flatMap_nil, List.append_nil] at horder
  exact (List.append_eq_nil_iff.mp horder).2

/-! ### Resets

Some updates put one value into their cell, whatever it holds. -/

variable (I) in
/-- The updates of a cell between its resets. -/
def windows (reset : ο → Bool) (k : κ) (ops : List ο) : List (List ο) :=
  (ops.filter fun o => I.cell o = k).splitOnP reset

omit [DecidableEq α] in
/-- What is in a window. -/
theorem mem_of_mem_windows {reset : ο → Bool} {k : κ} {ops w : List ο} {o : ο}
    (hw : w ∈ I.windows reset k ops) (ho : o ∈ w) : o ∈ ops ∧ I.cell o = k ∧ reset o = false := by
  have hsplit : ∀ ops : List ο, ∀ w ∈ ops.splitOnP reset, ∀ o ∈ w, o ∈ ops ∧ reset o = false := by
    intro ops
    induction ops with
    | nil => simp
    | cons o' ops ih =>
      rw [List.splitOnP_cons_eq_if_modifyHead]
      obtain ⟨w', ws, hws⟩ := List.exists_cons_of_ne_nil (List.splitOnP_ne_nil reset ops)
      rw [hws] at ih ⊢
      intro w hw o ho
      cases hr : reset o' with
      | true =>
        rw [if_pos hr] at hw
        rcases List.mem_cons.mp hw with rfl | hw
        · exact absurd ho List.not_mem_nil
        · exact ⟨List.mem_cons_of_mem _ (ih w hw o ho).1, (ih w hw o ho).2⟩
      | false =>
        rw [if_neg (by simp [hr]), List.modifyHead_cons] at hw
        rcases List.mem_cons.mp hw with rfl | hw
        · rcases List.mem_cons.mp ho with rfl | ho
          · exact ⟨List.mem_cons_self, hr⟩
          · have hmem := ih w' List.mem_cons_self o ho
            exact ⟨List.mem_cons_of_mem _ hmem.1, hmem.2⟩
        · have hmem := ih w (List.mem_cons_of_mem _ hw) o ho
          exact ⟨List.mem_cons_of_mem _ hmem.1, hmem.2⟩
  obtain ⟨hmem, hreset⟩ := hsplit _ w hw o ho
  obtain ⟨hops, hcell⟩ := List.mem_filter.mp hmem
  exact ⟨hops, by simpa using hcell, hreset⟩

variable (I) in
/-- What the resets of a cell find. -/
def drained (reset : ο → Bool) (k : κ) (found : List (ο × α)) : List α :=
  (found.filter fun p => I.cell p.1 = k ∧ reset p.1).map Prod.snd

variable (I) in
/-- The outcome of some updates of one cell. -/
def total (x : α) (ops : List ο) : α := ops.foldl (fun x o => I.update o x) x

variable (I) in
/-- The outcomes in a row: the first from `x`, the others from `zero`. -/
def totals (zero x : α) : List (List ο) → List α
  | [] => []
  | w :: ws => I.total x w :: ws.map (I.total zero)

omit [DecidableEq κ] [DecidableEq α] in
theorem totals_self (zero : α) (ws : List (List ο)) :
    I.totals zero zero ws = ws.map (I.total zero) := by
  cases ws <;> rfl

omit [DecidableEq κ] [DecidableEq α] in
/-- In front of a reset, a window ends. -/
theorem totals_reset {reset : ο → Bool} {o : ο} (h : reset o = true) (zero x : α) (ops : List ο) :
    I.totals zero x ((o :: ops).splitOnP reset) = x :: I.totals zero zero (ops.splitOnP reset) := by
  rw [List.splitOnP_cons_eq_if_modifyHead, if_pos h, totals, totals_self]
  rfl

omit [DecidableEq κ] [DecidableEq α] in
theorem totals_update {reset : ο → Bool} {o : ο} (h : reset o = false) (zero x : α)
    (ops : List ο) :
    I.totals zero x ((o :: ops).splitOnP reset)
      = I.totals zero (I.update o x) (ops.splitOnP reset) := by
  rw [List.splitOnP_cons_eq_if_modifyHead, if_neg (by simp [h])]
  cases ops.splitOnP reset <;> rfl

omit [DecidableEq α] [DecidableEq ι] in
theorem drained_run {reset : ο → Bool} {zero : α}
    (hreset : ∀ o x, reset o = true → I.update o x = zero) (k : κ) (m : κ → α)
    (es : List (ι × ο)) :
    I.drained reset k (emitted I.applyOf (fun m e => [(e.2, m (I.cell e.2))]) m es)
        ++ [run I.applyOf m es k]
      = I.totals zero (m k) (I.windows reset k (es.map Prod.snd)) := by
  induction es generalizing m with
  | nil => simp [windows, drained, emitted, totals, total]
  | cons e es ih =>
    rw [emitted, run_cons, List.map_cons, windows]
    by_cases hcell : I.cell e.2 = k
    · have hnext : I.applyOf m e k = I.update e.2 (m k) := by
        rw [applyOf, apply, hcell, Function.update_self]
      have hrest := ih (I.applyOf m e)
      rw [hnext, windows] at hrest
      rw [List.filter_cons_of_pos (by simpa using hcell)]
      cases hr : reset e.2 with
      | true =>
        rw [hreset e.2 _ hr] at hrest
        rw [totals_reset hr, ← hrest]
        simp [drained, hcell, hr]
      | false =>
        rw [totals_update hr, ← hrest]
        simp [drained, hcell, hr]
    · have hnext : I.applyOf m e k = m k := by
        rw [applyOf, apply, Function.update_of_ne (Ne.symm hcell)]
      rw [List.filter_cons_of_neg (by simpa using hcell), ← windows, ← hnext,
        ← ih (I.applyOf m e)]
      simp [drained, hcell]

/-- **Resets**, in a run: each finds the outcome of the updates since the one before, and the last
window is what the cell holds. -/
theorem drained_append {reset : ο → Bool} {zero : α}
    (hreset : ∀ o x, reset o = true → I.update o x = zero) {k : κ} {s : State ι κ α ο}
    (hs : s.cells k = zero) (as : List (Action ι ο)) :
    I.drained reset k (emitted I.step I.found s as) ++ [(run I.step s as).cells k]
      = (I.windows reset k ((emitted I.step I.effects s as).map Prod.snd)).map (I.total zero) := by
  rw [found_run, cells_run, drained_run hreset, hs, totals_self]

end Instructions

end CasLoop
