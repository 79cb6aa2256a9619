/-
# Subscribers that see a log without gaps

A bounded channel (`Channel`) holds what was sent and not yet received; a send
fails when the receiver is gone or no slot is free.  A subscriber joins a log at
the position `start` and is offered every later entry once.  Offering an entry
only while more than `reserve` slots are free, and dropping the subscriber
otherwise, keeps two things: what it was sent is the log from `start` on
(`Gapless`, `gapless_offer`), and `reserve` slots stay free for a last entry
(`Roomy`, `roomy_offer`, `trySend_of_roomy`).
-/

import Mathlib.Data.List.Basic

namespace Moh

/-- A bounded single-consumer channel, with the values its receiver took. -/
structure Channel (α : Type) where
  capacity : ℕ
  received : List α
  queue : List α
  isOpen : Bool
deriving DecidableEq

/-- Why a value could not be sent at once. -/
inductive TrySendError where
  | full
  | closed
deriving DecidableEq, Repr

namespace Channel

variable {α : Type}

/-- An empty channel with a live receiver. -/
def new (capacity : ℕ) : Channel α := ⟨capacity, [], [], true⟩

/-- The free slots of the channel, `Sender::capacity`. -/
def free (c : Channel α) : ℕ := c.capacity - c.queue.length

/-- Everything that was ever sent, in order. -/
def sent (c : Channel α) : List α := c.received ++ c.queue

/-- `Sender::try_send`. -/
def trySend (c : Channel α) (a : α) : Except TrySendError Unit × Channel α :=
  if c.isOpen = false then (.error .closed, c)
  else if c.free = 0 then (.error .full, c)
  else (.ok (), { c with queue := c.queue ++ [a] })

/-- `Receiver::recv`: the oldest value that was not received yet. -/
def recv (c : Channel α) : Channel α :=
  match c.isOpen, c.queue with
  | true, a :: queue => { c with received := c.received ++ [a], queue := queue }
  | _, _ => c

/-- The receiver is dropped. -/
def close (c : Channel α) : Channel α := { c with isOpen := false }

@[simp] theorem sent_new (capacity : ℕ) : (new capacity : Channel α).sent = [] := rfl

@[simp] theorem sent_close (c : Channel α) : c.close.sent = c.sent := rfl

@[simp] theorem sent_recv (c : Channel α) : c.recv.sent = c.sent := by
  unfold recv
  split
  · rename_i a queue _ hq
    simp [sent, hq]
  · rfl

/-- Receiving frees slots. -/
theorem free_le_free_recv (c : Channel α) : c.free ≤ c.recv.free := by
  unfold recv
  split
  · rename_i a queue _ hq
    simp only [free, hq, List.length_cons]
    omega
  · exact Nat.le_refl _

/-- **A send succeeds iff the receiver lives and a slot is free.** -/
theorem trySend_eq_ok_iff {c c' : Channel α} {a : α} :
    c.trySend a = (.ok (), c') ↔
      c.isOpen = true ∧ 0 < c.free ∧ c' = { c with queue := c.queue ++ [a] } := by
  unfold trySend
  split_ifs with h₁ h₂
  · simp [h₁]
  · simp [h₂]
  · have h₃ : c.isOpen = true := by simpa using h₁
    have h₄ : 0 < c.free := Nat.pos_of_ne_zero h₂
    simp only [Prod.mk.injEq, true_and, h₃, h₄]
    exact eq_comm

end Channel

namespace Fanout

variable {κ α : Type}

/-- A subscriber of a log: who it is, where it joined, and its channel. -/
structure Subscriber (κ α : Type) where
  key : κ
  start : ℕ
  channel : Channel α

namespace Subscriber

/-- Sends an entry if more than `reserve` slots are free; `none` drops the
subscriber. -/
def offer (reserve : ℕ) (a : α) (s : Subscriber κ α) : Option (Subscriber κ α) :=
  if reserve < s.channel.free then
    match s.channel.trySend a with
    | (.ok (), channel) => some { s with channel := channel }
    | (.error _, _) => none
  else none

/-- What the subscriber was sent is the log from the place where it joined. -/
def Gapless (log : List α) (s : Subscriber κ α) : Prop :=
  s.start ≤ log.length ∧ s.channel.sent = log.drop s.start

/-- What the subscriber was sent is a first part of that. -/
def Cut (log : List α) (s : Subscriber κ α) : Prop :=
  s.start ≤ log.length ∧ s.channel.sent <+: log.drop s.start

/-- `reserve` slots of the subscriber are free. -/
def Roomy (reserve : ℕ) (s : Subscriber κ α) : Prop := reserve ≤ s.channel.free

/-- The subscriber after its client received an entry. -/
def recv (s : Subscriber κ α) : Subscriber κ α := { s with channel := s.channel.recv }

/-- The subscriber after its client dropped the receiver. -/
def close (s : Subscriber κ α) : Subscriber κ α := { s with channel := s.channel.close }

/-- What an offer that is taken does. -/
theorem offer_eq_some_iff {reserve : ℕ} {a : α} {s s' : Subscriber κ α} :
    s.offer reserve a = some s' ↔
      reserve < s.channel.free ∧ s.channel.isOpen = true ∧
        s' = { s with channel := { s.channel with queue := s.channel.queue ++ [a] } } := by
  unfold offer
  split_ifs with h
  · cases ht : s.channel.trySend a with
    | mk r c =>
      cases r with
      | error e =>
        have hne : ¬ (s.channel.isOpen = true ∧ 0 < s.channel.free) := fun ⟨ho, hf⟩ => by
          rw [Channel.trySend_eq_ok_iff.2 ⟨ho, hf, rfl⟩] at ht
          simp at ht
        simp only [reduceCtorEq, false_iff, not_and]
        exact fun _ ho => absurd ⟨ho, by omega⟩ hne
      | ok u =>
        obtain ⟨ho, -, rfl⟩ := Channel.trySend_eq_ok_iff.1 ht
        simp only [Option.some.injEq, h, ho, true_and]
        exact eq_comm
  · simp [h]

/-- **An entry that is taken continues the log.** -/
theorem gapless_offer {reserve : ℕ} {a : α} {log : List α} {s s' : Subscriber κ α}
    (h : s.Gapless log) (ho : s.offer reserve a = some s') : s'.Gapless (log ++ [a]) := by
  obtain ⟨-, -, rfl⟩ := offer_eq_some_iff.1 ho
  obtain ⟨hle, hsent⟩ := h
  refine ⟨by simpa using Nat.le_succ_of_le hle, ?_⟩
  rw [List.drop_append_of_le_length hle, ← hsent]
  simp [Channel.sent]

/-- **A taken offer leaves the reserve free.** -/
theorem roomy_offer {reserve : ℕ} {a : α} {s s' : Subscriber κ α}
    (ho : s.offer reserve a = some s') : s'.Roomy reserve := by
  obtain ⟨hlt, -, rfl⟩ := offer_eq_some_iff.1 ho
  simp only [Roomy, Channel.free, List.length_append, List.length_cons, List.length_nil] at hlt ⊢
  omega

/-- **The reserved slot takes a last entry.** -/
theorem trySend_of_roomy {s : Subscriber κ α} (h : s.Roomy 1) (ho : s.channel.isOpen = true)
    (a : α) : s.channel.trySend a =
      (.ok (), { s.channel with queue := s.channel.queue ++ [a] }) :=
  Channel.trySend_eq_ok_iff.2 ⟨ho, h, rfl⟩

theorem Gapless.cut {log : List α} {s : Subscriber κ α} (h : s.Gapless log) : s.Cut log :=
  ⟨h.1, h.2 ▸ List.prefix_rfl⟩

/-- A dropped subscriber keeps a first part of the growing log. -/
theorem Cut.append {log : List α} {s : Subscriber κ α} (h : s.Cut log) (more : List α) :
    s.Cut (log ++ more) := by
  refine ⟨by simpa using Nat.le_add_right_of_le h.1, ?_⟩
  rw [List.drop_append_of_le_length h.1]
  exact h.2.trans (List.prefix_append _ _)

theorem Gapless.recv {log : List α} {s : Subscriber κ α} (h : s.Gapless log) :
    s.recv.Gapless log := ⟨h.1, (Channel.sent_recv _).trans h.2⟩

theorem Gapless.close {log : List α} {s : Subscriber κ α} (h : s.Gapless log) :
    s.close.Gapless log := h

theorem Roomy.recv {reserve : ℕ} {s : Subscriber κ α} (h : s.Roomy reserve) :
    s.recv.Roomy reserve := Nat.le_trans h (Channel.free_le_free_recv _)

theorem Roomy.close {reserve : ℕ} {s : Subscriber κ α} (h : s.Roomy reserve) :
    s.close.Roomy reserve := h

theorem Cut.recv {log : List α} {s : Subscriber κ α} (h : s.Cut log) : s.recv.Cut log :=
  ⟨h.1, (Channel.sent_recv s.channel).symm ▸ h.2⟩

/-- A new subscriber at the end of the log. -/
theorem gapless_new (log : List α) (key : κ) (capacity : ℕ) :
    (⟨key, log.length, .new capacity⟩ : Subscriber κ α).Gapless log := by
  refine ⟨Nat.le_refl _, ?_⟩
  simp

theorem roomy_new {reserve capacity : ℕ} (h : reserve ≤ capacity) (key : κ) (start : ℕ) :
    (⟨key, start, .new capacity⟩ : Subscriber κ α).Roomy reserve := h

end Subscriber
end Fanout
end Moh
