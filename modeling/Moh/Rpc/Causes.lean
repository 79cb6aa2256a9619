/-
# What a client is told, and why

The monitor of `Moh.Rpc.Recovery` only reads the marks that a client leaves.  Here each
mark is tied to what the client has found: an event that is returned to a message that
was taken off the channel of the current attachment, a detected gap, closure or overflow
to the message, the channel or the counter that shows it, and the end of a recovery to
the reply that ends it (`Caused`).  Every cause leaves its mark and no mark is left
without one; messages leave the channel in their order, one at a time; and a call that
finds a recovery under way waits for it, whatever became of the call that began it
(`Justified`).  So much holds of every step of every run (`followed_of_run`).

The `Deleted` event of the current attachment is relayed whatever its number, also
without a recovery; a monitor that only knows the updates of recoveries rejects
that (`strict_rejects_relayed`).
-/

import Moh.Rpc.Recovery

namespace Moh
namespace Rpc

/-! ### What a poll finds -/

/-- The message that an input takes off the channel: the first, if a call waits for one. -/
def Machine.takes (s : Machine) : Input → Option ObserverMessage
  | .receive =>
    match s.location with
    | .selecting _ => s.client.attachment.events.head?
    | _ => none
  | _ => none

/-- What an input puts into the channel of the current attachment. -/
def Machine.delivered (s : Machine) : Input → List ObserverMessage
  | .deliver message =>
    if s.client.attachment.isOpen && s.client.attachment.events.length < observerCapacity then
      [message]
    else []
  | _ => []

/-- The message carries an event for the current attachment, and no `Deleted`. -/
structure Monitor.Carries (m : Monitor) (message : ObserverMessage)
    (envelope : SessionEventEnvelope) : Prop where
  current : message.attachmentId = m.attachmentId
  event : message.event = .ok envelope
  lives : ∀ sessionId, envelope.event ≠ .deleted sessionId

/-- A message that is passed over: it is of another attachment, or its event is known. -/
def Monitor.Skips (m : Monitor) (message : ObserverMessage) : Prop :=
  message.attachmentId ≠ m.attachmentId ∨
    ∃ envelope, m.Carries message envelope ∧ envelope.sequence ≤ m.sequence

/-- The call comes to the top of its loop: it begins, or has passed over a message. -/
inductive AtTop (m : Monitor) (s : Machine) : Input → Prop
  | begins (hidle : s.location = .idle) : AtTop m s .call
  | passes {message : ObserverMessage} (htaken : s.takes .receive = some message)
      (hskip : m.Skips message) : AtTop m s .receive

/-- What the top of the loop leaves behind. -/
inductive TopMark (m : Monitor) (c : RpcSessionClient) : Mark → Prop
  | warning {text : String} (hwarning : c.pendingWarning = some text) :
      TopMark m c (.returned m.attachmentId (.ok (.warning text)))
  | overflow (hphase : m.phase = .streaming) (hwarning : c.pendingWarning = none)
      (hfull : u64Max ≤ m.sequence) (hfirst : c.sequenceExhausted = false) :
      TopMark m c (.detected .sequenceOverflow)
  | exhausted (hphase : m.phase = .streaming) (hwarning : c.pendingWarning = none)
      (hfull : u64Max ≤ m.sequence) (hagain : c.sequenceExhausted = true) :
      TopMark m c (.returned m.attachmentId (.error .sequenceExhausted))
  | disconnected (hphase : m.phase = .streaming) (hwarning : c.pendingWarning = none)
      (hroom : m.sequence < u64Max) (hclosed : c.connection.closed = true) :
      TopMark m c (.returned m.attachmentId (.error .connectionClosed))

/-- How far a recovery has come. -/
def RecoveryFuture.stage : RecoveryFuture → ℕ
  | .unstarted => 0
  | .opening _ => 1
  | .detaching _ _ => 2

/-- The reply is the one that the recovery waits for. -/
def RecoveryFuture.Awaits : RecoveryFuture → RecoveryReply → Prop
  | .unstarted, _ => True
  | .opening _, .opened _ => True
  | .detaching _ _, .detached _ => True
  | _, _ => False

/-- It is the same recovery, and no less far. -/
structure PendingRecovery.Continues (p p' : PendingRecovery) : Prop where
  reason : p'.reason = p.reason
  oldAttachmentId : p'.oldAttachmentId = p.oldAttachmentId
  stage : p.future.stage ≤ p'.future.stage

/-- What a poll completes the recovery with: it cannot send its request, the session is
not opened, or it is, and the old attachment is detached or kept. -/
inductive PendingRecovery.Completes (c : RpcSessionClient) (p : PendingRecovery) :
    RecoveryReply → Except RpcClientError RecoveredAttachment → Prop
  | cwdTooLong {reply : RecoveryReply} {error : RpcConversionError} (hf : p.future = .unstarted)
      (hcwd : validateInboundFieldLength p.cwd.length maxRpcCwdBytes "cwdForTitle" =
        .error error) : Completes c p reply (.error (.conversion error))
  | idsExhausted {reply : RecoveryReply} (hf : p.future = .unstarted)
      (hcwd : validateInboundFieldLength p.cwd.length maxRpcCwdBytes "cwdForTitle" = .ok ())
      (hids : checkedSucc c.attachmentIds = none) :
      Completes c p reply (.error .attachmentIdExhausted)
  | unopened {attachment : LocalAttachment} {error : RpcClientError}
      {result : Except RpcClientError (Except CommandError SessionSnapshot)}
      (hf : p.future = .opening attachment) (hresult : result.bind reportedResult = .error error) :
      Completes c p (.opened result) (.error error)
  | nameless {attachment : LocalAttachment} {snapshot : SessionSnapshot}
      {error : RpcConversionError}
      {result : Except RpcClientError (Except CommandError SessionSnapshot)}
      (hf : p.future = .opening attachment) (hresult : result.bind reportedResult = .ok snapshot)
      (hold : writeAttachmentId p.oldAttachmentId = .error error) :
      Completes c p (.opened result)
        (.ok ⟨snapshot, attachment, some (Machine.detachWarning (.conversion error))⟩)
  | undetached {attachment : LocalAttachment} {snapshot : SessionSnapshot}
      {error : RpcClientError} {result : Except RpcClientError (Except CommandError ℕ)}
      (hf : p.future = .detaching snapshot attachment)
      (hresult : result.bind reportedResult = .error error) :
      Completes c p (.detached result)
        (.ok ⟨snapshot, attachment, some (Machine.detachWarning error)⟩)
  | detached {attachment : LocalAttachment} {snapshot : SessionSnapshot} {attachedClients : ℕ}
      {result : Except RpcClientError (Except CommandError ℕ)}
      (hf : p.future = .detaching snapshot attachment)
      (hresult : result.bind reportedResult = .ok attachedClients) :
      Completes c p (.detached result)
        (.ok ⟨{ snapshot with
          summary := { snapshot.summary with attachedClients := attachedClients } },
          attachment, none⟩)

/-- **Why a mark is left,** in terms of what the monitor knows, the message that is
taken, and the reply that is there. -/
inductive Caused (m : Monitor) (s : Machine) : Input → Mark → Prop
  | top {input : Input} {mark : Mark} (htop : AtTop m s input) (hmark : TopMark m s.client mark) :
      Caused m s input mark
  | disconnected {next : ℕ} (hwaits : s.location = .selecting next)
      (hconnection : (s.client.connection.changed || s.client.connection.dropped) = true) :
      Caused m s .connectionChanged (.returned m.attachmentId (.error .connectionClosed))
  | event {message : ObserverMessage} {envelope : SessionEventEnvelope}
      (htaken : s.takes .receive = some message) (hcarries : m.Carries message envelope)
      (hnext : envelope.sequence = m.sequence + 1) :
      Caused m s .receive (.returned m.attachmentId (.ok (.event envelope)))
  | gap {message : ObserverMessage} {envelope : SessionEventEnvelope}
      (htaken : s.takes .receive = some message) (hcarries : m.Carries message envelope)
      (hgap : m.sequence + 1 < envelope.sequence) :
      Caused m s .receive (.detected .sequenceGap)
  | deleted {message : ObserverMessage} {envelope : SessionEventEnvelope} {sessionId : SessionId}
      (htaken : s.takes .receive = some message) (hcurrent : message.attachmentId = m.attachmentId)
      (hevent : message.event = .ok envelope) (hdeleted : envelope.event = .deleted sessionId) :
      Caused m s .receive (.returned m.attachmentId
        (.ok (.deleted sessionId s.client.snapshot.summary.cwd)))
  | unreadable {message : ObserverMessage} {error : RpcConversionError}
      (htaken : s.takes .receive = some message) (hcurrent : message.attachmentId = m.attachmentId)
      (hevent : message.event = .error error) :
      Caused m s .receive (.returned m.attachmentId (.error (.conversion error)))
  | closed {next : ℕ} (hwaits : s.location = .selecting next)
      (hempty : s.client.attachment.events = []) (hclosed : s.client.attachment.isOpen = false) :
      Caused m s .receive (.detected .observerClosed)
  | requested {p : PendingRecovery} {reply : RecoveryReply} {id : ℕ}
      (hwaits : s.location = .recovering) (hp : s.client.pendingRecovery = some p)
      (hf : p.future = .unstarted)
      (hcwd : validateInboundFieldLength p.cwd.length maxRpcCwdBytes "cwdForTitle" = .ok ())
      (hids : checkedSucc s.client.attachmentIds = some id) :
      Caused m s (.resume reply) (.requested id)
  | replaced {p : PendingRecovery} {reply : RecoveryReply} {recovered : RecoveredAttachment}
      (hwaits : s.location = .recovering) (hp : s.client.pendingRecovery = some p)
      (hc : p.Completes s.client reply (.ok recovered)) :
      Caused m s (.resume reply) (.returned recovered.attachment.id
        (.ok (.snapshotReplaced recovered.snapshot)))
  | gone {p : PendingRecovery} {reply : RecoveryReply} {error : RpcClientError}
      (hwaits : s.location = .recovering) (hp : s.client.pendingRecovery = some p)
      (hc : p.Completes s.client reply (.error error)) (hgone : isSessionNotFound error = true) :
      Caused m s (.resume reply) (.returned m.attachmentId (.ok s.client.deletedUpdate))
  | failed {p : PendingRecovery} {reply : RecoveryReply} {error : RpcClientError}
      (hwaits : s.location = .recovering) (hp : s.client.pendingRecovery = some p)
      (hc : p.Completes s.client reply (.error error)) (hgone : isSessionNotFound error = false) :
      Caused m s (.resume reply) (.returned m.attachmentId (.error error))

/-- **What one input does.**  The marks are those that have a cause, and no two; the
channel of an attachment keeps its order and loses what is taken only; a call that
finds a recovery under way waits for it; a recovery goes on, and further whenever the
reply is there that it waits for, until a poll completes it; and a call is over when it
has returned, or is cancelled. -/
structure Justified (m : Monitor) (s : Machine) (input : Input) : Prop where
  marks : ∀ mark, mark ∈ (s.step input).1 ↔ Caused m s input mark
  single : (s.step input).1.length ≤ 1
  channel : (s.step input).2.client.attachment.id = m.attachmentId →
    s.client.attachment.events ++ s.delivered input =
      (s.takes input).toList ++ (s.step input).2.client.attachment.events
  resumes : input = .call → s.location = .idle → s.client.pendingRecovery.isSome = true →
    s.step input = ([], ⟨s.client, .recovering⟩)
  recovery : ∀ p, s.client.pendingRecovery = some p →
    (∃ reply result, input = .resume reply ∧ s.location = .recovering ∧
      p.Completes s.client reply result ∧ (s.step input).2.client.pendingRecovery = none) ∨
    ∃ p', (s.step input).2.client.pendingRecovery = some p' ∧ p.Continues p' ∧
      ∀ reply, input = .resume reply → s.location = .recovering → p.future.Awaits reply →
        p.future.stage < p'.future.stage
  ended : (s.step input).2.location = .idle ↔ input = .cancel ∨
    (∃ id result, .returned id result ∈ (s.step input).1) ∨
    s.location = .idle ∧ input ≠ .call

/-! ### One poll -/

variable {m : Monitor} {s : Machine} {c : RpcSessionClient} {p : PendingRecovery} {mark : Mark}

theorem phase_eq_streaming_iff : c.phase = .streaming ↔ c.pendingRecovery = none := by
  unfold RpcSessionClient.phase
  cases c.pendingRecovery with
  | none => simp
  | some p =>
    obtain ⟨reason, cwd, oldAttachmentId, future⟩ := p
    cases future <;> simp

/-- A poll leaves one mark at most, and the call is over if it has returned. -/
structure Polled (r : List Mark × Machine) : Prop where
  single : r.1.length ≤ 1
  ended : r.2.location = .idle ↔ ∃ id result, .returned id result ∈ r.1

theorem polled_return (id : ℕ) (result : Except RpcClientError SessionUpdate) :
    Polled (Machine.return_ c id result) :=
  ⟨le_rfl, iff_of_true rfl ⟨id, result, List.mem_singleton_self _⟩⟩

theorem polled_recover (reason : RecoveryReason) : Polled (Machine.recover c reason) :=
  ⟨le_rfl, by simp [Machine.recover]⟩

theorem polled_waits {location : Location} (h : location ≠ .idle) : Polled ([], ⟨c, location⟩) :=
  ⟨Nat.zero_le _, by simp [h]⟩

theorem polled_top (c : RpcSessionClient) : Polled (Machine.top c) := by
  unfold Machine.top
  split
  · exact polled_return _ _
  · split
    · exact polled_waits nofun
    · split <;> split
      · exact polled_return _ _
      · exact polled_recover _
      · exact polled_return _ _
      · exact polled_waits nofun

theorem polled_receive (c : RpcSessionClient) (next : ℕ) : Polled (Machine.receive c next) := by
  unfold Machine.receive
  split
  · split_ifs
    · exact polled_waits nofun
    · exact polled_recover _
  · dsimp only
    split_ifs
    · exact polled_top _
    · split
      · exact polled_return _ _
      · split
        · exact polled_return _ _
        · split_ifs
          · exact polled_top _
          · exact polled_return _ _
          · exact polled_recover _

theorem polled_complete (reason : RecoveryReason) (id : ℕ)
    (result : Except RpcClientError RecoveredAttachment) :
    Polled (Machine.complete c reason id result) :=
  polled_return _ _

/-- The top of the loop takes no message. -/
theorem top_attachment (c : RpcSessionClient) :
    (Machine.top c).2.client.attachment = c.attachment := by
  unfold Machine.top
  split
  · rfl
  · split
    · rfl
    · split <;> split <;> rfl

/-- **The marks of the top of the loop.** -/
theorem mem_top_iff (h : Follows m c) : mark ∈ (Machine.top c).1 ↔ TopMark m c mark := by
  have hphase : m.phase = .streaming ↔ c.pendingRecovery = none :=
    h.phase ▸ phase_eq_streaming_iff
  have hid := h.attachmentId
  have hseq := h.sequence
  unfold Machine.top
  cases hw : c.pendingWarning with
  | some text =>
    simp only [Machine.return_, List.mem_singleton]
    constructor
    · rintro rfl
      exact hid ▸ .warning hw
    · rintro (hw' | ⟨-, hw'⟩ | ⟨-, hw'⟩ | ⟨-, hw'⟩)
      all_goals simp_all
  | none =>
    cases hp : c.pendingRecovery with
    | some p =>
      simp only [Option.isSome_some, if_true, List.not_mem_nil, false_iff]
      rintro (hw' | ⟨hm⟩ | ⟨hm⟩ | ⟨hm⟩)
      all_goals simp_all
    | none =>
      have hm := hphase.2 hp
      simp only [Option.isSome_none, Bool.false_eq_true, if_false]
      cases hs : checkedSucc c.expectedSequence with
      | none =>
        have hfull : u64Max ≤ m.sequence := hseq ▸ checkedSucc_eq_none_iff.1 hs
        dsimp only
        split_ifs with hex
        · simp only [Machine.return_, List.mem_singleton]
          constructor
          · rintro rfl
            exact hid ▸ .exhausted hm hw hfull hex
          · rintro (hw' | ⟨-, -, -, hex'⟩ | ⟨-, -, -, -⟩ | ⟨-, -, hroom, -⟩)
            · simp_all
            · simp_all
            · rw [hid]
            · omega
        · have hex' : c.sequenceExhausted = false := by simpa using hex
          simp only [Machine.recover, List.mem_singleton]
          constructor
          · rintro rfl
            exact .overflow hm hw hfull hex'
          · rintro (hw' | ⟨-, -, -, -⟩ | ⟨-, -, -, hex''⟩ | ⟨-, -, hroom, -⟩)
            · simp_all
            · rfl
            · simp_all
            · omega
      | some next =>
        have hroom : m.sequence < u64Max := hseq ▸ (checkedSucc_eq_some_iff.1 hs).1
        dsimp only
        split_ifs with hclosed
        · simp only [Machine.return_, List.mem_singleton]
          constructor
          · rintro rfl
            exact hid ▸ .disconnected hm hw hroom hclosed
          · rintro (hw' | ⟨-, -, hfull, -⟩ | ⟨-, -, hfull, -⟩ | ⟨-, -, -, -⟩)
            · simp_all
            · omega
            · omega
            · rw [hid]
        · simp only [List.not_mem_nil, false_iff]
          rintro (hw' | ⟨-, -, hfull, -⟩ | ⟨-, -, hfull, -⟩ | ⟨-, -, -, hclosed'⟩)
          · simp_all
          · omega
          · omega
          · exact hclosed hclosed'

/-! ### One message -/

/-- The client without the first message of its channel. -/
def RpcSessionClient.dropFirst (c : RpcSessionClient) : RpcSessionClient :=
  { c with attachment := { c.attachment with events := c.attachment.events.tail } }

/-- What the top of the loop leaves behind does not depend on the channel. -/
theorem TopMark.congr {c' : RpcSessionClient} (h : TopMark m c mark)
    (hwarning : c'.pendingWarning = c.pendingWarning)
    (hexhausted : c'.sequenceExhausted = c.sequenceExhausted)
    (hconnection : c'.connection = c.connection) : TopMark m c' mark := by
  cases h with
  | warning hw => exact .warning (hwarning.trans hw)
  | overflow hm hw hfull hex => exact .overflow hm (hwarning.trans hw) hfull (hexhausted.trans hex)
  | exhausted hm hw hfull hex =>
    exact .exhausted hm (hwarning.trans hw) hfull (hexhausted.trans hex)
  | disconnected hm hw hroom hclosed =>
    exact .disconnected hm (hwarning.trans hw) hroom (by rw [hconnection, hclosed])

/-- What a message is: of another attachment, unreadable, a `Deleted`, or another event. -/
theorem message_cases (m : Monitor) (message : ObserverMessage) :
    message.attachmentId ≠ m.attachmentId ∨
      (∃ error, message.attachmentId = m.attachmentId ∧ message.event = .error error) ∨
      (∃ envelope sessionId, message.attachmentId = m.attachmentId ∧
        message.event = .ok envelope ∧ envelope.event = .deleted sessionId) ∨
      ∃ envelope, m.Carries message envelope := by
  by_cases hid : message.attachmentId = m.attachmentId
  · cases he : message.event with
    | error error => exact .inr (.inl ⟨error, hid, rfl⟩)
    | ok envelope =>
      by_cases hd : ∃ sessionId, envelope.event = .deleted sessionId
      · obtain ⟨sessionId, hd⟩ := hd
        exact .inr (.inr (.inl ⟨envelope, sessionId, hid, rfl, hd⟩))
      · exact .inr (.inr (.inr ⟨envelope, hid, he, fun sessionId h => hd ⟨sessionId, h⟩⟩))
  · exact .inl hid

section
variable {message : ObserverMessage} {events : List ObserverMessage}
  {envelope : SessionEventEnvelope} {next : ℕ}

theorem receive_of_stale (h : Follows m c) (he : c.attachment.events = message :: events)
    (hid : message.attachmentId ≠ m.attachmentId) :
    Machine.receive c next = Machine.top c.dropFirst := by
  rw [h.attachmentId] at hid
  simp [Machine.receive, RpcSessionClient.dropFirst, he, hid]

theorem receive_of_unreadable (h : Follows m c) (he : c.attachment.events = message :: events)
    (hid : message.attachmentId = m.attachmentId) {error : RpcConversionError}
    (hevent : message.event = .error error) :
    Machine.receive c next =
      Machine.return_ c.dropFirst m.attachmentId (.error (.conversion error)) := by
  have hid' : message.attachmentId = c.attachment.id := hid.trans h.attachmentId
  simp [Machine.receive, RpcSessionClient.dropFirst, he, hid', hevent, h.attachmentId]

theorem receive_of_deleted (h : Follows m c) (he : c.attachment.events = message :: events)
    (hid : message.attachmentId = m.attachmentId) {sessionId : SessionId}
    (hevent : message.event = .ok envelope) (hdeleted : envelope.event = .deleted sessionId) :
    Machine.receive c next = Machine.return_ c.dropFirst m.attachmentId
      (.ok (.deleted sessionId c.snapshot.summary.cwd)) := by
  have hid' : message.attachmentId = c.attachment.id := hid.trans h.attachmentId
  simp [Machine.receive, RpcSessionClient.dropFirst, he, hid', hevent, hdeleted, h.attachmentId]

theorem receive_of_carries (h : Follows m c) (he : c.attachment.events = message :: events)
    (hcarries : m.Carries message envelope) :
    Machine.receive c next =
      if envelope.sequence ≤ m.sequence then Machine.top c.dropFirst
      else if envelope.sequence = next then
        Machine.return_ { c.dropFirst with expectedSequence := envelope.sequence } m.attachmentId
          (.ok (.event envelope))
      else Machine.recover c.dropFirst .sequenceGap := by
  have hid : message.attachmentId = c.attachment.id := hcarries.current.trans h.attachmentId
  -- the branch of `Deleted` is not taken
  have hlives := hcarries.lives
  simp only [Machine.receive, he, hid, ne_eq, not_true_eq_false, if_false, hcarries.event,
    h.sequence, h.attachmentId, RpcSessionClient.dropFirst, List.tail_cons]

/-- **The marks of a message.** -/
theorem mem_receive_iff (h : Follows m c) :
    mark ∈ (Machine.receive c (c.expectedSequence + 1)).1 ↔
      Caused m ⟨c, .selecting (c.expectedSequence + 1)⟩ .receive mark := by
  have h' : Follows m c.dropFirst := h.events _
  have htakes : Machine.takes ⟨c, .selecting (c.expectedSequence + 1)⟩ .receive =
      c.attachment.events.head? := rfl
  have hseq := h.sequence
  cases he : c.attachment.events with
  | nil =>
    rw [he, List.head?_nil] at htakes
    constructor
    · intro hmark
      simp only [Machine.receive, he] at hmark
      split_ifs at hmark with hopen
      · cases hmark
      · obtain rfl := List.mem_singleton.1 hmark
        exact .closed rfl he (by simpa using hopen)
    · intro hcause
      cases hcause with
      | closed _ _ hclosed =>
        have hopen : c.attachment.isOpen = false := hclosed
        simp [Machine.receive, he, hopen, Machine.recover]
      | top htop _ => cases htop with
        | passes htaken _ => simp [htakes] at htaken
      | _ htaken => simp [htakes] at htaken
  | cons message events =>
    rw [he, List.head?_cons] at htakes
    constructor
    · intro hmark
      rcases message_cases m message with hid | ⟨error, hid, hevent⟩ |
        ⟨envelope, sessionId, hid, hevent, hdeleted⟩ | ⟨envelope, hcarries⟩
      · rw [receive_of_stale h he hid, mem_top_iff h'] at hmark
        exact .top (.passes htakes (.inl hid)) (hmark.congr rfl rfl rfl)
      · rw [receive_of_unreadable h he hid hevent] at hmark
        obtain rfl := List.mem_singleton.1 hmark
        exact .unreadable htakes hid hevent
      · rw [receive_of_deleted h he hid hevent hdeleted] at hmark
        obtain rfl := List.mem_singleton.1 hmark
        exact .deleted htakes hid hevent hdeleted
      · rw [receive_of_carries h he hcarries] at hmark
        split_ifs at hmark with hle hnext
        · rw [mem_top_iff h'] at hmark
          exact .top (.passes htakes (.inr ⟨envelope, hcarries, hle⟩)) (hmark.congr rfl rfl rfl)
        · obtain rfl := List.mem_singleton.1 hmark
          exact .event htakes hcarries (hseq ▸ hnext)
        · obtain rfl := List.mem_singleton.1 hmark
          exact .gap htakes hcarries (by omega)
    · intro hcause
      cases hcause with
      | top htop hmark =>
        cases htop with
        | passes htaken hskip =>
          obtain rfl := Option.some.inj (htakes.symm.trans htaken)
          have hmem := (mem_top_iff h').2 (hmark.congr rfl rfl rfl)
          rcases hskip with hid | ⟨envelope, hcarries, hle⟩
          · rwa [receive_of_stale h he hid]
          · rwa [receive_of_carries h he hcarries, if_pos hle]
      | event htaken hcarries hnext =>
        obtain rfl := Option.some.inj (htakes.symm.trans htaken)
        rw [receive_of_carries h he hcarries, if_neg (by omega), if_pos (by omega)]
        exact List.mem_singleton_self _
      | gap htaken hcarries hgap =>
        obtain rfl := Option.some.inj (htakes.symm.trans htaken)
        rw [receive_of_carries h he hcarries, if_neg (by omega), if_neg (by omega)]
        exact List.mem_singleton_self _
      | deleted htaken hid hevent hdeleted =>
        obtain rfl := Option.some.inj (htakes.symm.trans htaken)
        rw [receive_of_deleted h he hid hevent hdeleted]
        exact List.mem_singleton_self _
      | unreadable htaken hid hevent =>
        obtain rfl := Option.some.inj (htakes.symm.trans htaken)
        rw [receive_of_unreadable h he hid hevent]
        exact List.mem_singleton_self _
      | closed _ hempty _ => simp [he] at hempty

end

/-! ### One poll of a recovery -/

section
variable {reply : RecoveryReply}

/-- **A poll that completes a recovery** with a new snapshot. -/
theorem pollRecovery_of_completes_ok {recovered : RecoveredAttachment}
    (hc : p.Completes c reply (.ok recovered)) :
    Machine.pollRecovery c p reply =
      Machine.complete c p.reason recovered.attachment.id (.ok recovered) := by
  cases hc with
  | @nameless _ _ _ result hf hresult hold =>
    cases result with
    | error error => cases hresult
    | ok result =>
      have hresult : reportedResult result = .ok _ := hresult
      simp [Machine.pollRecovery, hf, hresult, Machine.startDetach, hold]
  | @undetached _ _ _ result hf hresult =>
    cases result with
    | error error =>
      obtain rfl := Except.error.inj hresult
      simp [Machine.pollRecovery, hf]
    | ok result =>
      have hresult : reportedResult result = .error _ := hresult
      simp [Machine.pollRecovery, hf, hresult]
  | @detached _ _ _ result hf hresult =>
    cases result with
    | error error => cases hresult
    | ok result =>
      have hresult : reportedResult result = .ok _ := hresult
      simp [Machine.pollRecovery, hf, hresult]

/-- **A poll that completes a recovery** with an error. -/
theorem pollRecovery_of_completes_error {error : RpcClientError}
    (hc : p.Completes c reply (.error error)) :
    Machine.pollRecovery c p reply =
      Machine.complete c p.reason c.attachment.id (.error error) := by
  cases hc with
  | cwdTooLong hf hcwd => simp [Machine.pollRecovery, hf, hcwd]
  | idsExhausted hf hcwd hids => simp [Machine.pollRecovery, hf, hcwd, hids]
  | @unopened _ _ result hf hresult =>
    cases result with
    | error error =>
      obtain rfl := Except.error.inj hresult
      simp [Machine.pollRecovery, hf]
    | ok result =>
      have hresult : reportedResult result = .error _ := hresult
      simp [Machine.pollRecovery, hf, hresult]

/-- The recovery has come to this future, and the call waits on. -/
def Machine.proceeds (c : RpcSessionClient) (p : PendingRecovery) (future : RecoveryFuture) :
    Machine :=
  ⟨{ c with pendingRecovery := some { p with future } }, .recovering⟩

/-- **What one poll of a recovery does:** it completes it, sends the request, goes on to
detach the old attachment, or finds nothing that the recovery waits for. -/
theorem pollRecovery_cases (c : RpcSessionClient) (p : PendingRecovery) (reply : RecoveryReply) :
    (∃ result, p.Completes c reply result) ∨
      (∃ id, p.future = .unstarted ∧
        validateInboundFieldLength p.cwd.length maxRpcCwdBytes "cwdForTitle" = .ok () ∧
        checkedSucc c.attachmentIds = some id ∧ Machine.pollRecovery c p reply =
          ([.requested id], .proceeds { c with attachmentIds := id } p (.opening ⟨id, [], true⟩))) ∨
      (∃ attachment snapshot, p.future = .opening attachment ∧
        Machine.pollRecovery c p reply = ([], .proceeds c p (.detaching snapshot attachment))) ∨
      ¬p.future.Awaits reply ∧ Machine.pollRecovery c p reply = ([], ⟨c, .recovering⟩) := by
  cases hf : p.future with
  | unstarted =>
    cases hcwd : validateInboundFieldLength p.cwd.length maxRpcCwdBytes "cwdForTitle" with
    | error error => exact .inl ⟨_, .cwdTooLong hf hcwd⟩
    | ok u =>
      cases hids : checkedSucc c.attachmentIds with
      | none => exact .inl ⟨_, .idsExhausted hf hcwd hids⟩
      | some id =>
        refine .inr (.inl ⟨id, rfl, rfl, rfl, ?_⟩)
        simp only [Machine.pollRecovery, hf, hcwd, hids, Machine.proceeds]
  | opening attachment =>
    cases reply with
    | pending =>
      exact .inr (.inr (.inr ⟨not_false, by simp only [Machine.pollRecovery, hf]⟩))
    | detached result =>
      exact .inr (.inr (.inr ⟨not_false, by simp only [Machine.pollRecovery, hf]⟩))
    | opened result =>
      cases hresult : result.bind reportedResult with
      | error error => exact .inl ⟨_, .unopened hf hresult⟩
      | ok snapshot =>
        cases hold : writeAttachmentId p.oldAttachmentId with
        | error error => exact .inl ⟨_, .nameless hf hresult hold⟩
        | ok id =>
          cases result with
          | error error => cases hresult
          | ok result =>
            have hresult : reportedResult result = .ok snapshot := hresult
            refine .inr (.inr (.inl ⟨attachment, snapshot, rfl, ?_⟩))
            simp only [Machine.pollRecovery, hf, hresult, Machine.startDetach, hold,
              Machine.proceeds]
  | detaching snapshot attachment =>
    cases reply with
    | pending =>
      exact .inr (.inr (.inr ⟨not_false, by simp only [Machine.pollRecovery, hf]⟩))
    | opened result =>
      exact .inr (.inr (.inr ⟨not_false, by simp only [Machine.pollRecovery, hf]⟩))
    | detached result =>
      cases hresult : result.bind reportedResult with
      | error error => exact .inl ⟨_, .undetached hf hresult⟩
      | ok attachedClients => exact .inl ⟨_, .detached hf hresult⟩

theorem polled_pollRecovery (c : RpcSessionClient) (p : PendingRecovery) (reply : RecoveryReply) :
    Polled (Machine.pollRecovery c p reply) := by
  rcases pollRecovery_cases c p reply with ⟨result, hc⟩ | ⟨id, -, -, -, hpoll⟩ |
    ⟨attachment, snapshot, -, hpoll⟩ | ⟨-, hpoll⟩
  · cases result with
    | error error =>
      rw [pollRecovery_of_completes_error hc]
      exact polled_complete _ _ _
    | ok recovered =>
      rw [pollRecovery_of_completes_ok hc]
      exact polled_complete _ _ _
  · rw [hpoll]
    exact ⟨le_rfl, by simp [Machine.proceeds]⟩
  · rw [hpoll]
    exact polled_waits nofun
  · rw [hpoll]
    exact polled_waits nofun

/-- **The marks of a poll of a recovery.** -/
theorem mem_pollRecovery_iff (h : Follows m c) (hp : c.pendingRecovery = some p) :
    mark ∈ (Machine.pollRecovery c p reply).1 ↔ Caused m ⟨c, .recovering⟩ (.resume reply) mark := by
  constructor
  · intro hmark
    rcases pollRecovery_cases c p reply with ⟨result, hc⟩ | ⟨id, hf, hcwd, hids, hpoll⟩ |
      ⟨attachment, snapshot, -, hpoll⟩ | ⟨-, hpoll⟩
    · cases result with
      | error error =>
        rw [pollRecovery_of_completes_error hc] at hmark
        cases hgone : isSessionNotFound error with
        | true =>
          simp only [Machine.complete, RpcSessionClient.finishRecovery, hgone, if_true,
            Machine.return_, List.mem_singleton] at hmark
          subst hmark
          exact h.attachmentId ▸ .gone rfl hp hc hgone
        | false =>
          simp only [Machine.complete, RpcSessionClient.finishRecovery, hgone, Bool.false_eq_true,
            if_false, Machine.return_, List.mem_singleton] at hmark
          subst hmark
          exact h.attachmentId ▸ .failed rfl hp hc hgone
      | ok recovered =>
        rw [pollRecovery_of_completes_ok hc] at hmark
        obtain rfl := List.mem_singleton.1 hmark
        exact .replaced rfl hp hc
    · rw [hpoll] at hmark
      obtain rfl := List.mem_singleton.1 hmark
      exact .requested rfl hp hf hcwd hids
    · rw [hpoll] at hmark
      cases hmark
    · rw [hpoll] at hmark
      cases hmark
  · intro hcause
    cases hcause with
    | top htop _ => cases htop
    | requested _ hp' hf hcwd hids =>
      obtain rfl := Option.some.inj (hp.symm.trans hp')
      simp [Machine.pollRecovery, hf, hcwd, hids]
    | replaced _ hp' hc =>
      obtain rfl := Option.some.inj (hp.symm.trans hp')
      rw [pollRecovery_of_completes_ok hc]
      exact List.mem_singleton_self _
    | gone _ hp' hc hgone =>
      obtain rfl := Option.some.inj (hp.symm.trans hp')
      rw [pollRecovery_of_completes_error hc]
      simp [Machine.complete, RpcSessionClient.finishRecovery, hgone, Machine.return_,
        RpcSessionClient.deletedUpdate, h.attachmentId]
    | failed _ hp' hc hgone =>
      obtain rfl := Option.some.inj (hp.symm.trans hp')
      rw [pollRecovery_of_completes_error hc]
      simp [Machine.complete, RpcSessionClient.finishRecovery, hgone, Machine.return_,
        h.attachmentId]

end

/-! ### Every step -/

theorem caused_call_iff :
    Caused m s .call mark ↔ s.location = .idle ∧ TopMark m s.client mark := by
  refine ⟨fun hcause => ?_, fun h => .top (.begins h.1) h.2⟩
  cases hcause with
  | top htop hmark => cases htop with
    | begins hidle => exact ⟨hidle, hmark⟩

/-- Only a call that waits for a message finds one, or the channel closed. -/
theorem Caused.selecting (h : Caused m s .receive mark) :
    ∃ next, s.location = .selecting next := by
  have hwaits : ∀ message, s.takes .receive = some message →
      ∃ next, s.location = .selecting next := by
    intro message htaken
    simp only [Machine.takes] at htaken
    split at htaken
    · exact ⟨_, ‹_›⟩
    · cases htaken
  cases h with
  | top htop _ => cases htop with
    | passes htaken _ => exact hwaits _ htaken
  | closed hl _ _ => exact ⟨_, hl⟩
  | _ htaken => exact hwaits _ htaken

theorem caused_connectionChanged_iff :
    Caused m s .connectionChanged mark ↔ (∃ next, s.location = .selecting next) ∧
      (s.client.connection.changed || s.client.connection.dropped) = true ∧
      mark = .returned m.attachmentId (.error .connectionClosed) := by
  constructor
  · intro hcause
    cases hcause with
    | top htop _ => cases htop
    | disconnected hwaits hconnection => exact ⟨⟨_, hwaits⟩, hconnection, rfl⟩
  · rintro ⟨⟨next, hwaits⟩, hconnection, rfl⟩
    exact .disconnected hwaits hconnection

/-- Only a call that waits for a recovery polls it. -/
theorem Caused.recovering {reply : RecoveryReply} (h : Caused m s (.resume reply) mark) :
    s.location = .recovering ∧ ∃ p, s.client.pendingRecovery = some p := by
  cases h with
  | top htop _ => cases htop
  | _ hwaits hp => exact ⟨hwaits, _, hp⟩

/-- **Every mark has its cause, and every cause leaves its mark.** -/
theorem mem_marks_iff (h : MachineFollows m s) (input : Input) :
    mark ∈ (s.step input).1 ↔ Caused m s input mark := by
  obtain ⟨c, location⟩ := s
  have hc := h.client
  cases input with
  | call =>
    rw [caused_call_iff]
    cases location with
    | idle => exact (mem_top_iff hc).trans (and_iff_right rfl).symm
    | selecting next => simp [Machine.step]
    | recovering => simp [Machine.step]
  | receive =>
    cases location with
    | selecting next =>
      have hnext : next = c.expectedSequence + 1 := (h.selecting next rfl).2.2
      subst hnext
      exact mem_receive_iff hc
    | idle => exact iff_of_false (by simp [Machine.step]) fun h => by simpa using h.selecting
    | recovering =>
      exact iff_of_false (by simp [Machine.step]) fun h => by simpa using h.selecting
  | connectionChanged =>
    rw [caused_connectionChanged_iff]
    cases location with
    | selecting next =>
      simp only [Machine.step]
      split_ifs with hconnection
      · simp [Machine.return_, hconnection, hc.attachmentId]
      · simp [hconnection]
    | idle => simp [Machine.step]
    | recovering => simp [Machine.step]
  | resume reply =>
    cases location with
    | recovering =>
      cases hp : c.pendingRecovery with
      | none =>
        refine iff_of_false (by simp [Machine.step, hp]) fun hcause => ?_
        obtain ⟨-, p, hp'⟩ := hcause.recovering
        exact absurd (hp.symm.trans hp') (by simp)
      | some p =>
        simp only [Machine.step, hp]
        exact mem_pollRecovery_iff hc hp
    | idle => exact iff_of_false (by simp [Machine.step]) fun h => by simpa using h.recovering
    | selecting next =>
      exact iff_of_false (by simp [Machine.step]) fun h => by simpa using h.recovering
  | allocateAttachmentId =>
    refine iff_of_false ?_ fun hcause => ?_
    · simp only [Machine.step]
      split <;> simp
    · cases hcause with
      | top htop _ => cases htop
  | _ =>
    refine iff_of_false (by simp [Machine.step]) fun hcause => ?_
    cases hcause with
    | top htop _ => cases htop

/-- The channel after a message was looked at. -/
theorem receive_attachment (h : Follows m c) (next : ℕ) :
    (Machine.receive c next).2.client.attachment = c.dropFirst.attachment := by
  have hsame : c.attachment.events = [] → c.dropFirst.attachment = c.attachment := by
    intro he
    cases hc : c.attachment with
    | mk id events isOpen =>
      rw [hc] at he
      simp [RpcSessionClient.dropFirst, hc, show events = [] from he]
  cases he : c.attachment.events with
  | nil =>
    rw [hsame he]
    simp only [Machine.receive, he]
    split_ifs <;> rfl
  | cons message events =>
    rcases message_cases m message with hid | ⟨error, hid, hevent⟩ |
      ⟨envelope, sessionId, hid, hevent, hdeleted⟩ | ⟨envelope, hcarries⟩
    · rw [receive_of_stale h he hid, top_attachment]
    · rw [receive_of_unreadable h he hid hevent]
      rfl
    · rw [receive_of_deleted h he hid hevent hdeleted]
      rfl
    · rw [receive_of_carries h he hcarries]
      split_ifs
      · rw [top_attachment]
      · rfl
      · rfl

/-- An attachment that a recovery installs is another one. -/
theorem id_ne_of_completes (h : Follows m c) (hp : c.pendingRecovery = some p)
    {reply : RecoveryReply} {recovered : RecoveredAttachment}
    (hc : p.Completes c reply (.ok recovered)) : recovered.attachment.id ≠ m.attachmentId := by
  rw [h.attachmentId]
  cases hc with
  | nameless hf _ _ => exact (h.opening p hp _ (.inl hf)).1.ne'
  | undetached hf _ => exact (h.opening p hp _ (.inr ⟨_, hf⟩)).1.ne'
  | detached hf _ => exact (h.opening p hp _ (.inr ⟨_, hf⟩)).1.ne'

/-- A poll of a recovery keeps the attachment, or replaces it. -/
theorem pollRecovery_attachment (h : Follows m c) (hp : c.pendingRecovery = some p)
    (reply : RecoveryReply) :
    (Machine.pollRecovery c p reply).2.client.attachment = c.attachment ∨
      (Machine.pollRecovery c p reply).2.client.attachment.id ≠ m.attachmentId := by
  rcases pollRecovery_cases c p reply with ⟨result, hc⟩ | ⟨id, -, -, -, hpoll⟩ |
    ⟨attachment, snapshot, -, hpoll⟩ | ⟨-, hpoll⟩
  · cases result with
    | error error =>
      left
      rw [pollRecovery_of_completes_error hc]
      simp only [Machine.complete, RpcSessionClient.finishRecovery]
      split_ifs <;> rfl
    | ok recovered =>
      right
      rw [pollRecovery_of_completes_ok hc]
      exact id_ne_of_completes h hp hc
  · exact .inl (by rw [hpoll]; rfl)
  · exact .inl (by rw [hpoll]; rfl)
  · exact .inl (by rw [hpoll])

/-- **The channel keeps its order,** and loses what is taken only. -/
theorem channel_step (h : MachineFollows m s) (input : Input)
    (hid : (s.step input).2.client.attachment.id = m.attachmentId) :
    s.client.attachment.events ++ s.delivered input =
      (s.takes input).toList ++ (s.step input).2.client.attachment.events := by
  obtain ⟨c, location⟩ := s
  have hc := h.client
  have hstay : ∀ events, events = c.attachment.events →
      c.attachment.events ++ [] = [] ++ events := by
    rintro events rfl
    exact List.append_nil _
  cases input with
  | call =>
    cases location with
    | idle => exact hstay _ (congrArg _ (top_attachment c))
    | selecting next => exact hstay _ rfl
    | recovering => exact hstay _ rfl
  | receive =>
    cases location with
    | selecting next =>
      have hreceive : (Machine.receive c next).2.client.attachment = c.dropFirst.attachment :=
        receive_attachment hc next
      simp only [Machine.step, Machine.takes, Machine.delivered, hreceive, List.append_nil,
        RpcSessionClient.dropFirst]
      cases c.attachment.events <;> rfl
    | idle => exact hstay _ rfl
    | recovering => exact hstay _ rfl
  | connectionChanged =>
    cases location with
    | selecting next =>
      refine hstay _ ?_
      simp only [Machine.step]
      split_ifs <;> rfl
    | idle => exact hstay _ rfl
    | recovering => exact hstay _ rfl
  | resume reply =>
    cases location with
    | recovering =>
      cases hp : c.pendingRecovery with
      | none => exact hstay _ (by simp only [Machine.step, hp])
      | some p =>
        simp only [Machine.step, hp] at hid ⊢
        exact hstay _ (congrArg _ ((pollRecovery_attachment hc hp reply).resolve_right
          (absurd hid)))
    | idle => exact hstay _ rfl
    | selecting next => exact hstay _ rfl
  | deliver message =>
    simp only [Machine.step, Machine.takes, Machine.delivered, LocalAttachment.deliver]
    split_ifs
    · rfl
    · exact hstay _ rfl
  | allocateAttachmentId =>
    refine hstay _ ?_
    simp only [Machine.step]
    split <;> rfl
  | _ => exact hstay _ rfl

/-- One mark at most, and the call is over if it has returned or was cancelled, or there is
none. -/
def Lasts (location : Location) (input : Input) (r : List Mark × Machine) : Prop :=
  r.1.length ≤ 1 ∧ (r.2.location = .idle ↔ input = .cancel ∨
    (∃ id result, .returned id result ∈ r.1) ∨ location = .idle ∧ input ≠ .call)

section
variable {location : Location} {input : Input} {r : List Mark × Machine}

theorem Polled.lasts (h : Polled r) (hcancel : input ≠ .cancel)
    (hcall : location = .idle → input = .call) : Lasts location input r := by
  refine ⟨h.single, h.ended.trans ⟨fun h => .inr (.inl h), ?_⟩⟩
  rintro (h | h | ⟨hidle, h⟩)
  · exact absurd h hcancel
  · exact h
  · exact absurd (hcall hidle) h

/-- Nothing happens to the call. -/
theorem lasts_silent (hcancel : input ≠ .cancel) (hcall : input ≠ .call ∨ location ≠ .idle) :
    Lasts location input ([], ⟨c, location⟩) := by
  refine ⟨Nat.zero_le _, ⟨fun h => .inr (.inr ⟨h, hcall.resolve_right (absurd h)⟩), ?_⟩⟩
  rintro (h | ⟨id, result, h⟩ | h)
  · exact absurd h hcancel
  · cases h
  · exact h.1

end

theorem lasts_step (s : Machine) (input : Input) : Lasts s.location input (s.step input) := by
  obtain ⟨c, location⟩ := s
  cases input with
  | cancel => exact ⟨Nat.zero_le _, iff_of_true rfl (.inl rfl)⟩
  | call =>
    cases location with
    | idle => exact (polled_top c).lasts nofun fun _ => rfl
    | _ => exact lasts_silent nofun (.inr nofun)
  | receive =>
    cases location with
    | selecting next => exact (polled_receive c next).lasts nofun nofun
    | _ => exact lasts_silent nofun (.inl nofun)
  | connectionChanged =>
    cases location with
    | selecting next =>
      simp only [Machine.step]
      split_ifs
      · exact (polled_return _ _).lasts nofun nofun
      · exact lasts_silent nofun (.inl nofun)
    | _ => exact lasts_silent nofun (.inl nofun)
  | resume reply =>
    cases location with
    | recovering =>
      cases hp : c.pendingRecovery with
      | none =>
        simp only [Machine.step, hp]
        exact lasts_silent nofun (.inl nofun)
      | some p =>
        simp only [Machine.step, hp]
        exact (polled_pollRecovery c p reply).lasts nofun nofun
    | _ => exact lasts_silent nofun (.inl nofun)
  | allocateAttachmentId =>
    simp only [Machine.step]
    split <;> exact lasts_silent nofun (.inl nofun)
  | _ => exact lasts_silent nofun (.inl nofun)

theorem PendingRecovery.Continues.refl (p : PendingRecovery) : p.Continues p :=
  ⟨rfl, rfl, le_rfl⟩

/-- A poll of a recovery completes it, or brings it further if the reply is there. -/
theorem pollRecovery_continues (c : RpcSessionClient) (p : PendingRecovery)
    (hp : c.pendingRecovery = some p) (reply : RecoveryReply) :
    (∃ result, p.Completes c reply result ∧
      (Machine.pollRecovery c p reply).2.client.pendingRecovery = none) ∨
    ∃ p', (Machine.pollRecovery c p reply).2.client.pendingRecovery = some p' ∧ p.Continues p' ∧
      (p.future.Awaits reply → p.future.stage < p'.future.stage) := by
  rcases pollRecovery_cases c p reply with ⟨result, hc⟩ | ⟨id, hf, -, -, hpoll⟩ |
    ⟨attachment, snapshot, hf, hpoll⟩ | ⟨hno, hpoll⟩
  · refine .inl ⟨result, hc, ?_⟩
    cases result with
    | error error =>
      rw [pollRecovery_of_completes_error hc]
      simp only [Machine.complete, RpcSessionClient.finishRecovery]
      split_ifs <;> rfl
    | ok recovered =>
      rw [pollRecovery_of_completes_ok hc]
      rfl
  · right
    rw [hpoll]
    exact ⟨_, rfl, ⟨rfl, rfl, by simp [hf, RecoveryFuture.stage]⟩,
      fun _ => by simp [hf, RecoveryFuture.stage]⟩
  · right
    rw [hpoll]
    exact ⟨_, rfl, ⟨rfl, rfl, by simp [hf, RecoveryFuture.stage]⟩,
      fun _ => by simp [hf, RecoveryFuture.stage]⟩
  · right
    rw [hpoll]
    exact ⟨p, hp, .refl p, fun h => absurd h hno⟩

/-- Whatever else happens, a recovery goes on. -/
theorem recovery_kept (h : MachineFollows m s) (input : Input)
    (hp : s.client.pendingRecovery = some p)
    (hno : ∀ reply, input = .resume reply → s.location ≠ .recovering) :
    ∃ p', (s.step input).2.client.pendingRecovery = some p' ∧ p.Continues p' := by
  obtain ⟨c, location⟩ := s
  have hw : c.pendingWarning = none := h.client.warning (by rw [hp]; rfl)
  have hpending : c.pendingRecovery = some p := hp
  have hselecting : ∀ next, location ≠ .selecting next := by
    rintro next rfl
    exact absurd (hpending.symm.trans (h.selecting next rfl).1) nofun
  have hsame : ∃ p', c.pendingRecovery = some p' ∧ p.Continues p' := ⟨p, hpending, .refl p⟩
  have hnew : ∀ f, ∃ p', (Machine.onNewAttachment c f).pendingRecovery = some p' ∧
      p.Continues p' := by
    intro f
    simp only [Machine.onNewAttachment, hpending, Option.map_some]
    refine ⟨_, rfl, rfl, rfl, ?_⟩
    cases p.future <;> exact le_rfl
  cases input with
  | call =>
    cases location with
    | idle =>
      have htop : Machine.top c = ([], ⟨c, .recovering⟩) := by simp [Machine.top, hw, hpending]
      simp only [Machine.step, htop]
      exact hsame
    | _ => exact hsame
  | receive =>
    cases location with
    | selecting next => exact absurd rfl (hselecting next)
    | _ => exact hsame
  | connectionChanged =>
    cases location with
    | selecting next => exact absurd rfl (hselecting next)
    | _ => exact hsame
  | resume reply =>
    cases location with
    | recovering => exact absurd rfl (hno reply rfl)
    | _ => exact hsame
  | deliverNew message => exact hnew _
  | closeNewObserver => exact hnew _
  | allocateAttachmentId =>
    simp only [Machine.step]
    split <;> exact hsame
  | _ => exact hsame

/-- **A recovery goes on,** or a poll completes it. -/
theorem recovery_step (h : MachineFollows m s) (input : Input)
    (hp : s.client.pendingRecovery = some p) :
    (∃ reply result, input = .resume reply ∧ s.location = .recovering ∧
      p.Completes s.client reply result ∧ (s.step input).2.client.pendingRecovery = none) ∨
    ∃ p', (s.step input).2.client.pendingRecovery = some p' ∧ p.Continues p' ∧
      ∀ reply, input = .resume reply → s.location = .recovering → p.future.Awaits reply →
        p.future.stage < p'.future.stage := by
  by_cases hpoll : ∃ reply, input = .resume reply ∧ s.location = .recovering
  · obtain ⟨reply, rfl, hl⟩ := hpoll
    have hstep : s.step (.resume reply) = Machine.pollRecovery s.client p reply := by
      simp only [Machine.step, hl, hp]
    rw [hstep]
    rcases pollRecovery_continues s.client p hp reply with ⟨result, hc, hover⟩ |
      ⟨p', hp', hcontinues, hfurther⟩
    · exact .inl ⟨reply, result, rfl, hl, hc, hover⟩
    · refine .inr ⟨p', hp', hcontinues, fun reply' hreply _ hawaits => hfurther ?_⟩
      exact (Input.resume.inj hreply) ▸ hawaits
  · obtain ⟨p', hp', hcontinues⟩ := recovery_kept h input hp
      fun reply hinput hl => hpoll ⟨reply, hinput, hl⟩
    exact .inr ⟨p', hp', hcontinues, fun reply hinput hl => absurd ⟨reply, hinput, hl⟩ hpoll⟩

/-- **Every step does what it should.** -/
theorem justified_step (h : MachineFollows m s) (input : Input) : Justified m s input where
  marks _ := mem_marks_iff h input
  single := (lasts_step s input).1
  channel := channel_step h input
  resumes := by
    rintro rfl hidle hp
    have hw := h.client.warning hp
    obtain ⟨c, location⟩ := s
    obtain rfl : location = .idle := hidle
    have hw : c.pendingWarning = none := hw
    simp only [Machine.step, Machine.top, hw, hp, if_true]
  recovery _ hp := recovery_step h input hp
  ended := (lasts_step s input).2

/-! ### Every run -/

/-- **What a client is told.**  For every stream of observer messages and wherever
the calls of `next_update` are cancelled, the updates they return continue the last
snapshot, every recovery that began is ended by one new snapshot, one `Deleted` or
an error before anything else is returned, and the client holds exactly what was
returned and what is still owed.  The one update besides is `Deleted` for a
`Deleted` event of the current attachment.  And whatever comes next leaves the marks
it should. -/
theorem followed_of_run (attachmentIds : ℕ) (connection : ConnectionWatch)
    (snapshot : SessionSnapshot) (attachment : LocalAttachment) (inputs : List Input)
    (hid : attachment.id ≤ attachmentIds) :
    let start : Machine := ⟨.new attachmentIds connection snapshot attachment, .idle⟩
    ∃ m, Run.acceptAll (Monitor.accept true) ⟨attachment.id, snapshot.sequence, .streaming⟩
        (Run.marksOf Machine.step start inputs).1 = some m ∧
      MachineFollows m (Run.marksOf Machine.step start inputs).2 ∧
      ∀ input, Justified m (Run.marksOf Machine.step start inputs).2 input := by
  intro start
  have hstart : MachineFollows ⟨attachment.id, snapshot.sequence, .streaming⟩ start :=
    ⟨⟨rfl, rfl, rfl, hid, fun p hp => by simp [start, RpcSessionClient.new] at hp,
      fun _ => rfl⟩, nofun, nofun⟩
  obtain ⟨m, haccepted, hfollows⟩ := Run.accepted_of_marksOf (R := MachineFollows)
    (fun m s i h => accepted_step h i) hstart inputs
  exact ⟨m, haccepted, hfollows, justified_step hfollows⟩

/-- The first attachment of a client, before anything happened. -/
def firstAttachment : LocalAttachment := ⟨1, [], true⟩

/-- The snapshot of an empty session. -/
def emptySnapshot : SessionSnapshot := (SessionProjection.fromRecord emptyRecord .loading).snapshot []

/-- A connection that is open. -/
def openConnection : ConnectionWatch := ⟨false, false, false⟩

/-- A gap whose recovery is cancelled once and resumed, and the event after it. -/
def gapInputs : List Input :=
  [.deliver ⟨1, .ok ⟨2, .cancelled 0⟩⟩, .call, .receive, .resume .pending, .cancel, .call,
    .resume (.opened (.ok (.ok emptySnapshot))), .deliver ⟨2, .ok ⟨1, .cancelled 0⟩⟩,
    .deliverNew ⟨2, .ok ⟨1, .cancelled 0⟩⟩, .resume (.detached (.ok (.ok 1))), .call, .receive]

/-- `followed_of_run` on a gap: it is detected at the message that shows it, one request is
sent, the new snapshot is returned, and behind it the event of the new attachment. -/
theorem followed_of_run_gap :
    let start : Machine := ⟨.new 1 openConnection emptySnapshot firstAttachment, .idle⟩
    (Run.marksOf Machine.step start gapInputs).1 =
        [.detected .sequenceGap, .requested 2,
          .returned 2 (.ok (.snapshotReplaced { emptySnapshot with
            summary := { emptySnapshot.summary with attachedClients := 1 } })),
          .returned 2 (.ok (.event ⟨1, .cancelled 0⟩))] ∧
      ∃ m, Run.acceptAll (Monitor.accept true) ⟨1, emptySnapshot.sequence, .streaming⟩
          (Run.marksOf Machine.step start gapInputs).1 = some m ∧
        MachineFollows m (Run.marksOf Machine.step start gapInputs).2 ∧
        ∀ input, Justified m (Run.marksOf Machine.step start gapInputs).2 input :=
  ⟨rfl, followed_of_run 1 openConnection emptySnapshot firstAttachment _ (by decide)⟩

/-- **A `Deleted` event is relayed without a recovery:** the updates are not only
contiguous events and the ends of recoveries. -/
theorem strict_rejects_relayed :
    let marks := (Run.marksOf Machine.step
      ⟨.new 1 openConnection emptySnapshot firstAttachment, .idle⟩
      [.deliver ⟨1, .ok ⟨1, .deleted ⟨1⟩⟩⟩, .call, .receive]).1
    marks = [.returned 1 (.ok (.deleted ⟨1⟩ []))] ∧
      Run.acceptAll (Monitor.accept false) ⟨1, emptySnapshot.sequence, .streaming⟩ marks = none :=
  ⟨rfl, rfl⟩

end Rpc
end Moh
