import Mathlib.Data.Nat.Basic

/-!
# The books of a sender that limits its unanswered requests

A sender wants at most so many unanswered requests. It does not keep their number; it keeps two
running totals, of the requests it sent and of the answers it got, and takes the difference.

The difference is right as long as every request and every answer is entered. `Books` keeps, next
to the two totals, the number of requests that are really unanswered and what was not entered:
requests sent off the books, and answers taken off the books. Levelling the totals writes off what
is still unanswered, which is then carried outside them.

## Main definitions

* `FlowControl.Books` — the totals and what is missing in them, in balance
* `FlowControl.Books.believed` — the unanswered requests, going by the totals

## Main results

* `FlowControl.Books.believed_le_outstanding_iff` — when the totals do not overstate
* `FlowControl.Books.outstanding_le` — by how much they can understate
-/

namespace FlowControl

/-- The totals of a sender, the requests that are unanswered, and what was not entered since the
totals were last levelled. -/
structure Books where
  /-- The requests entered. -/
  sent : ℕ
  /-- The answers entered. -/
  done : ℕ
  /-- The requests without an answer. -/
  outstanding : ℕ
  /-- Those without an answer when the totals were levelled. -/
  carried : ℕ
  /-- The requests not entered. -/
  offBookSent : ℕ
  /-- The answers not entered. -/
  offBookDone : ℕ
  balance : outstanding + done + offBookDone = carried + offBookSent + sent

namespace Books

/-- Before the first request. -/
def empty : Books := ⟨0, 0, 0, 0, 0, 0, rfl⟩

variable (b : Books)

def send : Books :=
  { b with
    sent := b.sent + 1
    outstanding := b.outstanding + 1
    balance := by have hbalance := b.balance; omega }

def sendOffBook : Books :=
  { b with
    offBookSent := b.offBookSent + 1
    outstanding := b.outstanding + 1
    balance := by have hbalance := b.balance; omega }

def answer (h : 0 < b.outstanding) : Books :=
  { b with
    done := b.done + 1
    outstanding := b.outstanding - 1
    balance := by have hbalance := b.balance; omega }

def answerOffBook (h : 0 < b.outstanding) : Books :=
  { b with
    offBookDone := b.offBookDone + 1
    outstanding := b.outstanding - 1
    balance := by have hbalance := b.balance; omega }

/-- The totals are levelled: every request counts as answered. -/
def level : Books :=
  { b with
    done := b.sent
    carried := b.outstanding
    offBookSent := 0
    offBookDone := 0
    balance := rfl }

@[simp] theorem send_sent : b.send.sent = b.sent + 1 := rfl

@[simp] theorem send_done : b.send.done = b.done := rfl

@[simp] theorem send_outstanding : b.send.outstanding = b.outstanding + 1 := rfl

@[simp] theorem answer_outstanding (h : 0 < b.outstanding) :
    (b.answer h).outstanding = b.outstanding - 1 := rfl

/-- The unanswered requests, going by the totals. -/
def believed : ℕ := b.sent - b.done

/-- **Overstating.** The totals overstate what is unanswered exactly when more answers than
requests are missing in them. -/
theorem believed_le_outstanding_iff :
    b.believed ≤ b.outstanding ↔ b.offBookDone ≤ b.carried + b.offBookSent := by
  have hbalance := b.balance
  rw [believed]
  omega

/-- **Understating.** What is unanswered exceeds what the totals say by no more than the requests
missing in them. -/
theorem outstanding_le : b.outstanding ≤ b.believed + (b.carried + b.offBookSent) := by
  have hbalance := b.balance
  rw [believed]
  omega

end Books

end FlowControl
