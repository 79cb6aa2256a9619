/-
# Channels with many senders

A bounded channel as its one receiver sees it: the senders that are left, and what was sent
and not yet received (`Mailbox`).  It is closed once the last sender is dropped, also while
messages wait in it.  A receiver that looks at several channels is woken by a message, and by
nothing else: dropping the last sender only makes a channel that never has a message again
(`isDone`).
-/

import Mathlib.Data.List.Basic

namespace Moh

/-- A channel from the side of its receiver. -/
structure Mailbox (α : Type) where
  senders : ℕ
  buffer : List α

namespace Mailbox

variable {α : Type}

/-- An empty channel. -/
def new (senders : ℕ) : Mailbox α := ⟨senders, []⟩

/-- A sender is cloned; only a sender that is left can be. -/
def clone (m : Mailbox α) : Mailbox α :=
  if m.senders = 0 then m else { m with senders := m.senders + 1 }

/-- A sender is dropped. -/
def drop (m : Mailbox α) : Mailbox α := { m with senders := m.senders - 1 }

/-- A sender sends, when one is left and the channel has a free slot. -/
def send (m : Mailbox α) (capacity : ℕ) (a : α) : Mailbox α :=
  if 0 < m.senders ∧ m.buffer.length < capacity then { m with buffer := m.buffer ++ [a] } else m

/-- `Receiver::recv`, when a message waits. -/
def next (m : Mailbox α) : Option (α × Mailbox α) :=
  match m.buffer with
  | [] => none
  | a :: buffer => some (a, { m with buffer := buffer })

/-- `Receiver::is_closed`: no sender is left. -/
def isClosed (m : Mailbox α) : Bool := m.senders = 0

/-- A message waits. -/
def hasNext (m : Mailbox α) : Bool := !m.buffer.isEmpty

/-- No message will come: `recv` returns `None`. -/
def isDone (m : Mailbox α) : Bool := m.isClosed && !m.hasNext

@[simp] theorem hasNext_clone (m : Mailbox α) : m.clone.hasNext = m.hasNext := by
  unfold clone
  split_ifs <;> rfl

/-- Sending takes no message out. -/
theorem hasNext_of_send {m : Mailbox α} {capacity : ℕ} {a : α}
    (h : (m.send capacity a).hasNext = false) : m.hasNext = false := by
  unfold send at h
  split_ifs at h
  · simp [hasNext] at h
  · exact h

@[simp] theorem isClosed_clone (m : Mailbox α) : m.clone.isClosed = m.isClosed := by
  unfold clone
  split_ifs with h
  · rfl
  · simp [isClosed, h]

@[simp] theorem isClosed_send (m : Mailbox α) (capacity : ℕ) (a : α) :
    (m.send capacity a).isClosed = m.isClosed := by
  unfold send
  split_ifs <;> rfl

/-- Dropping a sender closes a channel that was closed, or had this one sender. -/
theorem isClosed_drop (m : Mailbox α) :
    m.drop.isClosed = true ↔ m.isClosed = true ∨ m.senders = 1 := by
  have h : m.senders - 1 = 0 ↔ m.senders = 0 ∨ m.senders = 1 := by omega
  rw [isClosed, isClosed, decide_eq_true_iff, decide_eq_true_iff]
  exact h

/-- **A message is received iff one waits.** -/
theorem next_isSome (m : Mailbox α) : m.next.isSome = m.hasNext := by
  obtain ⟨senders, buffer⟩ := m
  cases buffer <;> rfl

end Mailbox
end Moh
