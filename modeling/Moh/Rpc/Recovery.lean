/-
# What a client of the observer stream is told

`Monitor` says which updates `next_update` may return, in terms of the attachment
whose snapshot was installed last, the number of the last event and whether a
recovery is under way.  Every step of the machine of `Moh.Rpc.Client` leaves marks
that the monitor accepts (`accepted_step`), for every stream of observer messages and
wherever the calls are cancelled: the monitor's state is the client's, so a cancelled
call loses neither an event that was accepted nor a recovery that began.  What the
marks stand for is the subject of `Moh.Rpc.Causes`.
-/

import Moh.Library.Run
import Moh.Rpc.Client
import Moh.Session.Projection

namespace Moh
namespace Rpc

/-- Whether a recovery is under way, and whether its open request was sent. -/
inductive Phase where
  | streaming
  | recovering (requested : Bool)
deriving DecidableEq, Repr

/-- What the updates returned so far amount to: the attachment of the last snapshot,
and the number of that snapshot plus one for each event since. -/
structure Monitor where
  attachmentId : ℕ
  sequence : ℕ
  phase : Phase
deriving DecidableEq, Repr

namespace Monitor

/-- **What `next_update` may return.**  An event continues the last snapshot and
stems from its attachment; a recovery that began sends one open request and is
ended by one new snapshot, one `Deleted` or an error, before anything else; a new
snapshot has a new attachment.  `relays` allows the `Deleted` event of the current
attachment as well. -/
def accept (relays : Bool) (m : Monitor) : Mark → Option Monitor
  | .detected _ => if m.phase = .streaming then some { m with phase := .recovering false } else none
  | .requested id =>
    if m.phase = .recovering false ∧ m.attachmentId < id then
      some { m with phase := .recovering true }
    else none
  | .returned id (.ok (.event envelope)) =>
    if m.phase = .streaming ∧ id = m.attachmentId ∧ envelope.sequence = m.sequence + 1 then
      some { m with sequence := envelope.sequence }
    else none
  | .returned id (.ok (.snapshotReplaced snapshot)) =>
    if m.phase = .recovering true ∧ m.attachmentId < id then some ⟨id, snapshot.sequence, .streaming⟩
    else none
  | .returned id (.ok (.deleted _ _)) =>
    if m.phase = .recovering true then some { m with phase := .streaming }
    else if m.phase = .streaming ∧ id = m.attachmentId ∧ relays then some m
    else none
  | .returned _ (.ok (.warning _)) => if m.phase = .streaming then some m else none
  | .returned _ (.error _) => some { m with phase := .streaming }

end Monitor

/-! ### The machine follows the monitor -/

/-- The phase of a client. -/
def RpcSessionClient.phase (c : RpcSessionClient) : Phase :=
  match c.pendingRecovery with
  | none => .streaming
  | some p =>
    match p.future with
    | .unstarted => .recovering false
    | .opening _ => .recovering true
    | .detaching _ _ => .recovering true

/-- The state of the monitor is that of the client; the attachment that a recovery
opens is newer than the current one. -/
structure Follows (m : Monitor) (c : RpcSessionClient) : Prop where
  attachmentId : m.attachmentId = c.attachment.id
  sequence : m.sequence = c.expectedSequence
  phase : m.phase = c.phase
  allocated : c.attachment.id ≤ c.attachmentIds
  opening : ∀ p, c.pendingRecovery = some p → ∀ attachment,
    (p.future = .opening attachment ∨ ∃ snapshot, p.future = .detaching snapshot attachment) →
      c.attachment.id < attachment.id ∧ attachment.id ≤ c.attachmentIds
  warning : c.pendingRecovery.isSome = true → c.pendingWarning = none

/-- The machine follows the monitor, and where the call stands fits the client. -/
structure MachineFollows (m : Monitor) (s : Machine) : Prop where
  client : Follows m s.client
  selecting : ∀ next, s.location = .selecting next →
    s.client.pendingRecovery = none ∧ s.client.pendingWarning = none ∧
      next = s.client.expectedSequence + 1
  recovering : s.location = .recovering → s.client.pendingRecovery.isSome = true

/-- The monitor accepts what one step left behind, and is followed again. -/
def Accepted (m : Monitor) (r : List Mark × Machine) : Prop :=
  ∃ m', Run.acceptAll (Monitor.accept true) m r.1 = some m' ∧ MachineFollows m' r.2

variable {m n : Monitor} {c c' : RpcSessionClient}

theorem phase_of_none (h : c.pendingRecovery = none) : c.phase = .streaming := by
  rw [RpcSessionClient.phase, h]

/-- A call that is over fits every client. -/
theorem machineFollows_idle (h : Follows m c) : MachineFollows m ⟨c, .idle⟩ :=
  ⟨h, nofun, nofun⟩

/-- A returned result that the monitor accepts. -/
theorem accepted_return {id : ℕ} {result : Except RpcClientError SessionUpdate}
    (ha : Monitor.accept true m (.returned id result) = some n) (h : Follows n c) :
    Accepted m (Machine.return_ c id result) :=
  ⟨n, by simp only [Machine.return_, Run.acceptAll, ha], machineFollows_idle h⟩

/-- Nothing is left behind. -/
theorem accepted_silent {s : Machine} (h : MachineFollows m s) : Accepted m ([], s) := ⟨m, rfl, h⟩

/-- A returned error while nothing is recovered. -/
theorem accepted_error (h : Follows m c) (hp : c.pendingRecovery = none) (id : ℕ)
    (error : RpcClientError) : Accepted m (Machine.return_ c id (.error error)) := by
  have hm : { m with phase := .streaming } = m := by
    rw [← phase_of_none hp, ← h.phase]
  exact accepted_return rfl (hm.symm ▸ h)

/-- **A recovery begins only while none is under way.** -/
theorem accepted_recover (h : Follows m c) (hp : c.pendingRecovery = none)
    (hw : c.pendingWarning = none) (reason : RecoveryReason) :
    Accepted m (Machine.recover c reason) := by
  have hphase : m.phase = .streaming := h.phase.trans (phase_of_none hp)
  refine ⟨{ m with phase := .recovering false }, ?_, ?_, nofun, fun _ => rfl⟩
  · simp only [Machine.recover, Run.acceptAll, Monitor.accept, hphase, if_true]
  · refine ⟨h.attachmentId, h.sequence, rfl, h.allocated, ?_, fun _ => hw⟩
    rintro p hp' attachment (hf | ⟨snapshot, hf⟩)
    all_goals
      obtain rfl := Option.some.inj hp'
      simp at hf

/-- **The top of the loop.** -/
theorem accepted_top (h : Follows m c) : Accepted m (Machine.top c) := by
  unfold Machine.top
  cases hw : c.pendingWarning with
  | some warning =>
    have hp : c.pendingRecovery = none := by
      by_contra hne
      have := h.warning (Option.isSome_iff_ne_none.2 hne)
      rw [hw] at this
      simp at this
    have hphase : m.phase = .streaming := h.phase.trans (phase_of_none hp)
    refine accepted_return (n := m) (by simp [Monitor.accept, hphase]) ?_
    exact ⟨h.attachmentId, h.sequence, h.phase, h.allocated, h.opening, fun _ => rfl⟩
  | none =>
    by_cases hp : c.pendingRecovery.isSome = true
    · rw [if_pos hp]
      exact accepted_silent ⟨h, nofun, fun _ => hp⟩
    rw [if_neg hp]
    have hnone : c.pendingRecovery = none := by simpa using hp
    cases hs : checkedSucc c.expectedSequence with
    | none =>
      simp only
      split_ifs
      · exact accepted_error h hnone _ _
      · exact accepted_recover h hnone hw _
    | some next =>
      obtain ⟨-, rfl⟩ := checkedSucc_eq_some_iff.1 hs
      simp only
      split_ifs
      · exact accepted_error h hnone _ _
      · refine accepted_silent ⟨h, fun next hn => ?_, nofun⟩
        obtain rfl := Location.selecting.inj hn
        exact ⟨hnone, hw, rfl⟩

/-- Taking a message off the channel changes nothing the monitor knows. -/
theorem Follows.events (h : Follows m c) (events : List ObserverMessage) :
    Follows m { c with attachment := { c.attachment with events := events } } :=
  ⟨h.attachmentId, h.sequence, h.phase, h.allocated, h.opening, h.warning⟩

/-- **A message:** an event of the current attachment is returned exactly if it is
the next one. -/
theorem accepted_receive (h : Follows m c) (hp : c.pendingRecovery = none)
    (hw : c.pendingWarning = none) :
    Accepted m (Machine.receive c (c.expectedSequence + 1)) := by
  have hphase : m.phase = .streaming := h.phase.trans (phase_of_none hp)
  unfold Machine.receive
  cases he : c.attachment.events with
  | nil =>
    simp only
    split_ifs
    · refine accepted_silent ⟨h, fun next hn => ?_, nofun⟩
      obtain rfl := Location.selecting.inj hn
      exact ⟨hp, hw, rfl⟩
    · exact accepted_recover h hp hw _
  | cons message events =>
    have h' := h.events events
    simp only
    split_ifs with hid
    · exact accepted_top h'
    have hid : message.attachmentId = m.attachmentId := by
      rw [h.attachmentId]
      exact not_not.1 hid
    cases hm : message.event with
    | error error => exact accepted_error h' hp _ _
    | ok envelope =>
      simp only
      split
      · refine accepted_return (n := m) ?_ h'
        simp [Monitor.accept, hphase, hid]
      · split_ifs with hle hnext
        · exact accepted_top h'
        · refine accepted_return (n := { m with sequence := envelope.sequence }) ?_ ?_
          · simp [Monitor.accept, hphase, hid, hnext, h.sequence]
          · exact ⟨h.attachmentId, rfl, h.phase, h.allocated, h.opening, h.warning⟩
        · exact accepted_recover h' hp hw _

/-- **A recovery that fails is over,** and what was installed before stays. -/
theorem accepted_complete_error (h : Follows m c) (reason : RecoveryReason) (id : ℕ)
    (error : RpcClientError)
    (hr : isSessionNotFound error = true → m.phase = .recovering true) :
    Accepted m (Machine.complete c reason id (.error error)) := by
  have hover : Follows { m with phase := .streaming } { c with pendingRecovery := none } :=
    ⟨h.attachmentId, h.sequence, rfl, h.allocated, fun p hp => by simp at hp, fun hp => by simp at hp⟩
  cases hn : isSessionNotFound error with
  | true =>
    have hc : Machine.complete c reason id (.error error) =
        Machine.return_ { c with pendingRecovery := none } id (.ok c.deletedUpdate) := by
      simp only [Machine.complete, RpcSessionClient.finishRecovery, hn, if_true]
      rfl
    rw [hc]
    exact accepted_return (by simp [Monitor.accept, RpcSessionClient.deletedUpdate, hr hn]) hover
  | false =>
    have hc : Machine.complete c reason id (.error error) =
        Machine.return_ { c with pendingRecovery := none } id (.error error) := by
      simp only [Machine.complete, RpcSessionClient.finishRecovery, hn, Bool.false_eq_true, if_false]
    rw [hc]
    exact accepted_return rfl hover

/-- **A recovery that succeeds installs a newer attachment.** -/
theorem accepted_complete_ok (h : Follows m c) {attachment : LocalAttachment}
    (hphase : m.phase = .recovering true)
    (hnew : c.attachment.id < attachment.id ∧ attachment.id ≤ c.attachmentIds)
    (reason : RecoveryReason) (snapshot : SessionSnapshot) (warning : Option String) :
    Accepted m (Machine.complete c reason attachment.id (.ok ⟨snapshot, attachment, warning⟩)) := by
  refine accepted_return (n := ⟨attachment.id, snapshot.sequence, .streaming⟩) ?_ ?_
  · simp [Monitor.accept, hphase, h.attachmentId, hnew.1]
  · exact ⟨rfl, rfl, rfl, hnew.2, fun p hp => by simp at hp, fun hp => by simp at hp⟩

/-! ### Every step -/

/-- A poll that finds nothing. -/
theorem accepted_pending (h : Follows m c) {p : PendingRecovery} (hp : c.pendingRecovery = some p) :
    Accepted m ([], ⟨c, .recovering⟩) :=
  accepted_silent ⟨h, nofun, fun _ => by simp [hp]⟩

/-- The new attachment is there, and the old one is being detached. -/
theorem accepted_startDetach (h : Follows m c) {p : PendingRecovery}
    (hp : c.pendingRecovery = some p) {attachment : LocalAttachment}
    (hf : p.future = .opening attachment) (snapshot : SessionSnapshot) :
    Accepted m (Machine.startDetach c p snapshot attachment) := by
  have hphase : m.phase = .recovering true := by
    rw [h.phase, RpcSessionClient.phase, hp]
    simp only [hf]
  have hnew := h.opening p hp attachment (.inl hf)
  unfold Machine.startDetach
  cases writeAttachmentId p.oldAttachmentId with
  | error error => exact accepted_complete_ok h hphase hnew _ _ _
  | ok id =>
    refine accepted_silent ⟨?_, nofun, fun _ => rfl⟩
    refine ⟨h.attachmentId, h.sequence, hphase, h.allocated, ?_, fun _ => h.warning (by simp [hp])⟩
    intro p' hp' attachment' hopen
    obtain rfl := Option.some.inj hp'
    simp only [reduceCtorEq, false_or, RecoveryFuture.detaching.injEq] at hopen
    obtain ⟨_, -, rfl⟩ := hopen
    exact hnew

/-- **One poll of the recovery.** -/
theorem accepted_pollRecovery (h : Follows m c) {p : PendingRecovery}
    (hp : c.pendingRecovery = some p) (reply : RecoveryReply) :
    Accepted m (Machine.pollRecovery c p reply) := by
  have hphase := h.phase
  rw [RpcSessionClient.phase, hp] at hphase
  unfold Machine.pollRecovery
  cases hf : p.future with
  | unstarted =>
    simp only [hf] at hphase
    simp only
    cases validateInboundFieldLength p.cwd.length maxRpcCwdBytes "cwdForTitle" with
    | error error => exact accepted_complete_error h _ _ _ nofun
    | ok u =>
      cases hs : checkedSucc c.attachmentIds with
      | none => exact accepted_complete_error h _ _ _ nofun
      | some id =>
        obtain ⟨-, rfl⟩ := checkedSucc_eq_some_iff.1 hs
        have hlt : c.attachment.id < c.attachmentIds + 1 := Nat.lt_succ_of_le h.allocated
        refine ⟨{ m with phase := .recovering true }, ?_, ⟨?_, nofun, fun _ => rfl⟩⟩
        · simp only [Run.acceptAll, Monitor.accept, hphase, h.attachmentId, hlt, and_self, if_true]
        · refine ⟨h.attachmentId, h.sequence, rfl, Nat.le_succ_of_le h.allocated, ?_,
            fun _ => h.warning (by simp [hp])⟩
          intro p' hp' attachment hopen
          obtain rfl := Option.some.inj hp'
          simp only [RecoveryFuture.opening.injEq, reduceCtorEq, exists_false, or_false] at hopen
          obtain rfl := hopen
          exact ⟨hlt, Nat.le_refl _⟩
  | opening attachment =>
    simp only [hf] at hphase
    cases reply with
    | pending => exact accepted_pending h hp
    | detached result => exact accepted_pending h hp
    | opened result =>
      cases result with
      | error error => exact accepted_complete_error h _ _ _ fun _ => hphase
      | ok result =>
        simp only
        cases reportedResult result with
        | error error => exact accepted_complete_error h _ _ _ fun _ => hphase
        | ok snapshot => exact accepted_startDetach h hp hf snapshot
  | detaching snapshot attachment =>
    simp only [hf] at hphase
    have hnew := h.opening p hp attachment (.inr ⟨snapshot, hf⟩)
    cases reply with
    | pending => exact accepted_pending h hp
    | opened result => exact accepted_pending h hp
    | detached result =>
      cases result with
      | error error => exact accepted_complete_ok h hphase hnew _ _ _
      | ok result =>
        simp only
        cases reportedResult result with
        | error error => exact accepted_complete_ok h hphase hnew _ _ _
        | ok attachedClients => exact accepted_complete_ok h hphase hnew _ _ _

/-- What happens around the call changes nothing the monitor knows. -/
theorem MachineFollows.withClient {s : Machine} (h : MachineFollows m s)
    (hf : Follows m c) (hp : s.client.pendingRecovery.isSome = c.pendingRecovery.isSome)
    (hw : c.pendingWarning = s.client.pendingWarning)
    (he : c.expectedSequence = s.client.expectedSequence) :
    MachineFollows m { s with client := c } := by
  refine ⟨hf, fun next hn => ?_, fun hr => hp ▸ h.recovering hr⟩
  obtain ⟨hnone, hwarning, rfl⟩ := h.selecting next hn
  refine ⟨?_, hw.trans hwarning, by rw [he]⟩
  simpa [hnone] using hp

/-- Messages for the attachment that a recovery opens. -/
theorem Follows.onNewAttachment (h : Follows m c) {f : LocalAttachment → LocalAttachment}
    (hf : ∀ a, (f a).id = a.id) : Follows m (Machine.onNewAttachment c f) := by
  cases hp : c.pendingRecovery with
  | none =>
    have hc : Machine.onNewAttachment c f = c := by
      simp only [Machine.onNewAttachment, hp, Option.map_none]
      rw [← hp]
    rwa [hc]
  | some p =>
    refine ⟨h.attachmentId, h.sequence, ?_, h.allocated, ?_, fun _ => h.warning (by simp [hp])⟩
    · rw [h.phase]
      simp only [RpcSessionClient.phase, Machine.onNewAttachment, hp, Option.map_some]
      cases p.future <;> rfl
    · intro p' hp' attachment' hopen
      simp only [Machine.onNewAttachment, hp, Option.map_some, Option.some.injEq] at hp'
      obtain rfl := hp'
      cases hfut : p.future with
      | unstarted => simp [hfut] at hopen
      | opening attachment =>
        simp only [hfut, RecoveryFuture.opening.injEq, reduceCtorEq, exists_false, or_false] at hopen
        obtain rfl := hopen
        rw [hf]
        exact h.opening p hp attachment (.inl hfut)
      | detaching snapshot attachment =>
        simp only [hfut, reduceCtorEq, false_or, RecoveryFuture.detaching.injEq] at hopen
        obtain ⟨_, -, rfl⟩ := hopen
        rw [hf]
        exact h.opening p hp attachment (.inr ⟨snapshot, hfut⟩)

theorem LocalAttachment.deliver_id (a : LocalAttachment) (message : ObserverMessage) :
    (a.deliver message).id = a.id := by
  unfold deliver
  split_ifs <;> rfl

/-- **Every step leaves marks that the monitor accepts.** -/
theorem accepted_step {s : Machine} (h : MachineFollows m s) (input : Input) :
    Accepted m (s.step input) := by
  have hc := h.client
  cases input with
  | call =>
    unfold Machine.step
    cases s.location with
    | idle => exact accepted_top hc
    | _ => exact accepted_silent h
  | cancel => exact accepted_silent ⟨hc, nofun, nofun⟩
  | receive =>
    unfold Machine.step
    cases hl : s.location with
    | selecting next =>
      obtain ⟨hp, hw, rfl⟩ := h.selecting next hl
      exact accepted_receive hc hp hw
    | _ => exact accepted_silent h
  | connectionChanged =>
    unfold Machine.step
    cases hl : s.location with
    | selecting next =>
      obtain ⟨hp, hw, rfl⟩ := h.selecting next hl
      have hseen (connection : ConnectionWatch) :
          Follows m { s.client with connection := connection } :=
        ⟨hc.attachmentId, hc.sequence, hc.phase, hc.allocated, hc.opening, hc.warning⟩
      simp only
      split_ifs
      · exact accepted_error (hseen { s.client.connection with changed := false }) hp _ _
      · exact accepted_silent h
    | _ => exact accepted_silent h
  | resume reply =>
    unfold Machine.step
    cases s.location with
    | recovering =>
      cases hp : s.client.pendingRecovery with
      | none => exact accepted_silent h
      | some p => exact accepted_pollRecovery hc hp reply
    | _ => exact accepted_silent h
  | deliver message =>
    refine accepted_silent (h.withClient ?_ rfl rfl rfl)
    have hid := LocalAttachment.deliver_id s.client.attachment message
    refine ⟨?_, hc.sequence, hc.phase, ?_, fun p hp attachment hopen => ?_, hc.warning⟩
    · exact hc.attachmentId.trans hid.symm
    · exact hid.symm ▸ hc.allocated
    · exact hid.symm ▸ hc.opening p hp attachment hopen
  | deliverNew message =>
    refine accepted_silent (h.withClient (hc.onNewAttachment fun a => a.deliver_id message) ?_ rfl rfl)
    simp [Machine.onNewAttachment]
  | closeObserver =>
    refine accepted_silent (h.withClient ?_ rfl rfl rfl)
    exact ⟨hc.attachmentId, hc.sequence, hc.phase, hc.allocated, hc.opening, hc.warning⟩
  | closeNewObserver =>
    refine accepted_silent (h.withClient (hc.onNewAttachment fun a => rfl) ?_ rfl rfl)
    simp [Machine.onNewAttachment]
  | closeConnection =>
    refine accepted_silent (h.withClient ?_ rfl rfl rfl)
    exact ⟨hc.attachmentId, hc.sequence, hc.phase, hc.allocated, hc.opening, hc.warning⟩
  | dropConnection =>
    refine accepted_silent (h.withClient ?_ rfl rfl rfl)
    exact ⟨hc.attachmentId, hc.sequence, hc.phase, hc.allocated, hc.opening, hc.warning⟩
  | allocateAttachmentId =>
    unfold Machine.step
    cases hs : checkedSucc s.client.attachmentIds with
    | none => exact accepted_silent h
    | some id =>
      obtain ⟨-, rfl⟩ := checkedSucc_eq_some_iff.1 hs
      refine accepted_silent (h.withClient ?_ rfl rfl rfl)
      refine ⟨hc.attachmentId, hc.sequence, hc.phase, Nat.le_succ_of_le hc.allocated, ?_, hc.warning⟩
      intro p hp attachment hopen
      obtain ⟨hlt, hle⟩ := hc.opening p hp attachment hopen
      exact ⟨hlt, Nat.le_succ_of_le hle⟩

end Rpc
end Moh
