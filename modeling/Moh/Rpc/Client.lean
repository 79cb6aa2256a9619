/-
# The observer stream of one client session

`rpc/client.rs`: `RpcSessionClient::next_update`, `begin_recovery`,
`resume_recovery` and what they call.  `next_update` is an asynchronous function:
its `Location` says at which await point it stands, and one input of the machine is
a poll of it there, its cancellation, or something that the connection does in
between: observer messages arrive, senders go away, the connection closes, and
another session of the same backend takes an attachment identifier.

What a recovery has done so far is part of the client (`PendingRecovery`), as the
boxed future is in the source; the local variables of `next_update` are part of the
location and are lost with it.
-/

import Moh.Session.Error

namespace Moh
namespace Rpc

/-! ### Errors -/

/-- `RpcConversionError`. -/
inductive RpcConversionError where
  | capnp (message : String)
  | invalidText (field : String)
  | invalidTimestamp (field : String)
  | invalidToolArguments
  | invalidSessionId
  | invalidSessionTitle
  | invalidAttachmentId
  | invalidSessionName
  | invalidPlanItem
  | unknownEnum (name : String) (value : ℕ)
  | unknownUnion (name : String) (value : ℕ)
  | listTooLong (field : String)
  | fieldTooLong (field : String)
  | invalidHttpStatusGuard
deriving DecidableEq, Repr

/-- `impl Display for RpcConversionError`. -/
def RpcConversionError.message : RpcConversionError → String
  | .capnp message => "could not read Cap'n Proto value: " ++ message
  | .invalidText field => "RPC field " ++ field ++ " is not valid UTF-8"
  | .invalidTimestamp field => "RPC field " ++ field ++ " is not a UTC RFC 3339 timestamp"
  | .invalidToolArguments => "RPC tool arguments are not valid JSON"
  | .invalidSessionId => "RPC session identifier is malformed"
  | .invalidSessionTitle => "RPC session title is malformed"
  | .invalidAttachmentId => "RPC attachment identifier must be nonzero"
  | .invalidSessionName => "RPC session name is malformed"
  | .invalidPlanItem => "RPC plan item is invalid"
  | .unknownEnum name value => "unknown " ++ name ++ " enum value " ++ toString value
  | .unknownUnion name value => "unknown " ++ name ++ " union value " ++ toString value
  | .listTooLong field => "RPC " ++ field ++ " list is too long"
  | .fieldTooLong field => "RPC " ++ field ++ " field is too long"
  | .invalidHttpStatusGuard => "RPC HTTP status guard is inconsistent with the failure kind"

/-- The `RpcClientError`s of an open session. -/
inductive RpcClientError where
  | ambiguousTitle (message : String) (ids : List SessionId)
  | command (error : SessionCommandError)
  | conversion (error : RpcConversionError)
  | connection (source : String)
  | connectionClosed
  | attachmentIdExhausted
  | sequenceExhausted
deriving DecidableEq, Repr

/-- `impl Display for RpcClientError`. -/
def RpcClientError.message : RpcClientError → String
  | .ambiguousTitle message _ => message
  | .command error => error.message
  | .conversion error => error.message
  | .connection _ => "RPC connection failed"
  | .connectionClosed => "RPC connection closed while waiting for a session update"
  | .attachmentIdExhausted => "RPC attachment identifier space is exhausted"
  | .sequenceExhausted => "RPC session event sequence is exhausted"

/-- `convert::CommandError`: what a result union reports. -/
structure CommandError where
  code : ErrorCode
  message : String
  ids : List SessionId
deriving DecidableEq, Repr

/-- `reported_result`. -/
def reportedResult {α : Type} : Except CommandError α → Except RpcClientError α
  | .ok value => .ok value
  | .error error =>
    if error.code = .ambiguousTitle then .error (.ambiguousTitle error.message error.ids)
    else .error (.command (.reported error.code error.message))

/-- `is_session_not_found`. -/
def isSessionNotFound : RpcClientError → Bool
  | .command (.reported code _) => code == .sessionNotFound
  | _ => false

/-- `MAX_RPC_CWD_BYTES`. -/
def maxRpcCwdBytes : ℕ := 16 * 1024

/-- `convert::validate_inbound_field_length`. -/
def validateInboundFieldLength (length limit : ℕ) (field : String) :
    Except RpcConversionError Unit :=
  if limit < length then .error (.fieldTooLong field) else .ok ()

/-- `convert::write_attachment_id`. -/
def writeAttachmentId (id : ℕ) : Except RpcConversionError ℕ :=
  if id = 0 then .error .invalidAttachmentId else .ok id

/-! ### The client -/

/-- `SessionUpdate`. -/
inductive SessionUpdate where
  | event (envelope : SessionEventEnvelope)
  | snapshotReplaced (snapshot : SessionSnapshot)
  | warning (message : String)
  | deleted (sessionId : SessionId) (cwd : List UInt8)

/-- `ObserverMessage`. -/
structure ObserverMessage where
  attachmentId : ℕ
  event : Except RpcConversionError SessionEventEnvelope

/-- `OBSERVER_CAPACITY` of the client. -/
def observerCapacity : ℕ := 128

/-- `LocalAttachment`: its identifier and the receiving end of its channel;
`isOpen` while a sender lives. -/
structure LocalAttachment where
  id : ℕ
  events : List ObserverMessage
  isOpen : Bool

/-- A publication that has a slot in the channel. -/
def LocalAttachment.deliver (a : LocalAttachment) (message : ObserverMessage) : LocalAttachment :=
  if a.isOpen && a.events.length < observerCapacity then
    { a with events := a.events ++ [message] }
  else a

/-- `RecoveryReason`. -/
inductive RecoveryReason where
  | sequenceGap
  | sequenceOverflow
  | observerClosed
deriving DecidableEq, Repr

/-- How far the future of `begin_recovery` got: nothing was sent, the session is
being opened with a new attachment, or the old attachment is being detached. -/
inductive RecoveryFuture where
  | unstarted
  | opening (attachment : LocalAttachment)
  | detaching (snapshot : SessionSnapshot) (attachment : LocalAttachment)

/-- `PendingRecovery`, with what the future captured. -/
structure PendingRecovery where
  reason : RecoveryReason
  cwd : List UInt8
  oldAttachmentId : ℕ
  future : RecoveryFuture

/-- `RecoveredAttachment`. -/
structure RecoveredAttachment where
  snapshot : SessionSnapshot
  attachment : LocalAttachment
  detachWarning : Option String

/-- The watch on the connection: its value, whether it changed since it was last
seen, and whether its sender was dropped. -/
structure ConnectionWatch where
  closed : Bool
  changed : Bool
  dropped : Bool
deriving DecidableEq, Repr

/-- `RpcSessionClient`; `attachmentIds` is the counter that all sessions of the
backend share, and the selector is the identifier in the snapshot. -/
structure RpcSessionClient where
  attachmentIds : ℕ
  attachment : LocalAttachment
  snapshot : SessionSnapshot
  expectedSequence : ℕ
  pendingRecovery : Option PendingRecovery
  pendingWarning : Option String
  sequenceExhausted : Bool
  connection : ConnectionWatch

namespace RpcSessionClient

/-- `RpcSessionClient::new`. -/
def new (attachmentIds : ℕ) (connection : ConnectionWatch) (snapshot : SessionSnapshot)
    (attachment : LocalAttachment) : RpcSessionClient where
  attachmentIds := attachmentIds
  attachment := attachment
  snapshot := snapshot
  expectedSequence := snapshot.sequence
  pendingRecovery := none
  pendingWarning := none
  sequenceExhausted := false
  connection := connection

/-- `RpcSessionClient::begin_recovery`. -/
def beginRecovery (c : RpcSessionClient) (reason : RecoveryReason) : RpcSessionClient :=
  { c with
    pendingRecovery := some
      { reason := reason
        cwd := c.snapshot.summary.cwd
        oldAttachmentId := c.attachment.id
        future := .unstarted } }

/-- `SessionUpdate::Deleted` for the session of the client. -/
def deletedUpdate (c : RpcSessionClient) : SessionUpdate :=
  .deleted c.snapshot.summary.id c.snapshot.summary.cwd

/-- `RpcSessionClient::resume_recovery`, from the completion of the future on. -/
def finishRecovery (c : RpcSessionClient) (reason : RecoveryReason)
    (result : Except RpcClientError RecoveredAttachment) :
    Except RpcClientError SessionUpdate × RpcSessionClient :=
  let c := { c with pendingRecovery := none }
  match result with
  | .error error => if isSessionNotFound error then (.ok c.deletedUpdate, c) else (.error error, c)
  | .ok recovered =>
    (.ok (.snapshotReplaced recovered.snapshot),
      { c with
        sequenceExhausted :=
          reason == .sequenceOverflow && recovered.snapshot.sequence == u64Max
        expectedSequence := recovered.snapshot.sequence
        snapshot := recovered.snapshot
        attachment := recovered.attachment
        pendingWarning := recovered.detachWarning })

end RpcSessionClient

/-! ### One poll -/

/-- Where `next_update` stands: it is not being called, it waits in `select!` for a
message with the next sequence number, or it waits for the recovery. -/
inductive Location where
  | idle
  | selecting (nextSequence : ℕ)
  | recovering
deriving DecidableEq, Repr

/-- The client and the call of `next_update` on it. -/
structure Machine where
  client : RpcSessionClient
  location : Location

/-- What is left behind for the record: a recovery began, its open request was
sent with a new attachment, or `next_update` returned.  A returned event carries
the identifier in its message, a new snapshot that of its attachment. -/
inductive Mark where
  | detected (reason : RecoveryReason)
  | requested (attachmentId : ℕ)
  | returned (attachmentId : ℕ) (result : Except RpcClientError SessionUpdate)

/-- The reply that a poll of the recovery finds. -/
inductive RecoveryReply where
  | pending
  | opened (result : Except RpcClientError (Except CommandError SessionSnapshot))
  | detached (result : Except RpcClientError (Except CommandError ℕ))

/-- What happens next to the call or around it. -/
inductive Input where
  | call
  | cancel
  | receive
  | connectionChanged
  | resume (reply : RecoveryReply)
  | deliver (message : ObserverMessage)
  | deliverNew (message : ObserverMessage)
  | closeObserver
  | closeNewObserver
  | closeConnection
  | dropConnection
  | allocateAttachmentId

namespace Machine

/-- `next_update` returns. -/
def return_ (c : RpcSessionClient) (id : ℕ) (result : Except RpcClientError SessionUpdate) :
    List Mark × Machine :=
  ([.returned id result], ⟨c, .idle⟩)

/-- `begin_recovery` and the first await of `resume_recovery`. -/
def recover (c : RpcSessionClient) (reason : RecoveryReason) : List Mark × Machine :=
  ([.detected reason], ⟨c.beginRecovery reason, .recovering⟩)

/-- The top of the loop of `next_update`, up to the next await. -/
def top (c : RpcSessionClient) : List Mark × Machine :=
  match c.pendingWarning with
  | some warning => return_ { c with pendingWarning := none } c.attachment.id (.ok (.warning warning))
  | none =>
    if c.pendingRecovery.isSome then ([], ⟨c, .recovering⟩)
    else
      match checkedSucc c.expectedSequence with
      | none =>
        if c.sequenceExhausted then return_ c c.attachment.id (.error .sequenceExhausted)
        else recover c .sequenceOverflow
      | some nextSequence =>
        if c.connection.closed then return_ c c.attachment.id (.error .connectionClosed)
        else ([], ⟨c, .selecting nextSequence⟩)

/-- The message branch of the `select!`, and the rest of the loop body. -/
def receive (c : RpcSessionClient) (nextSequence : ℕ) : List Mark × Machine :=
  match c.attachment.events with
  | [] =>
    if c.attachment.isOpen then ([], ⟨c, .selecting nextSequence⟩) else recover c .observerClosed
  | message :: events =>
    let c := { c with attachment := { c.attachment with events := events } }
    if message.attachmentId ≠ c.attachment.id then top c
    else
      match message.event with
      | .error error => return_ c message.attachmentId (.error (.conversion error))
      | .ok event =>
        match event.event with
        | .deleted sessionId =>
          return_ c message.attachmentId (.ok (.deleted sessionId c.snapshot.summary.cwd))
        | _ =>
          if event.sequence ≤ c.expectedSequence then top c
          else if event.sequence = nextSequence then
            return_ { c with expectedSequence := event.sequence } message.attachmentId
              (.ok (.event event))
          else recover c .sequenceGap

/-- The completion of the recovery. -/
def complete (c : RpcSessionClient) (reason : RecoveryReason) (id : ℕ)
    (result : Except RpcClientError RecoveredAttachment) : List Mark × Machine :=
  let (result, c) := c.finishRecovery reason result
  return_ c id result

/-- The text of the warning that the old attachment could not be detached. -/
def detachWarning (error : RpcClientError) : String :=
  "old session attachment could not be detached after recovery: " ++ error.message

/-- The recovery's session is open; `detach_attachment` for the old attachment. -/
def startDetach (c : RpcSessionClient) (p : PendingRecovery) (snapshot : SessionSnapshot)
    (attachment : LocalAttachment) : List Mark × Machine :=
  match writeAttachmentId p.oldAttachmentId with
  | .error error =>
    complete c p.reason attachment.id
      (.ok ⟨snapshot, attachment, some (detachWarning (.conversion error))⟩)
  | .ok _ =>
    ([], ⟨{ c with pendingRecovery := some { p with future := .detaching snapshot attachment } },
      .recovering⟩)

/-- One poll of the future in `resume_recovery`.  A poll of a future that is not
started runs `request_open_session` up to its request. -/
def pollRecovery (c : RpcSessionClient) (p : PendingRecovery) (reply : RecoveryReply) :
    List Mark × Machine :=
  match p.future, reply with
  | .unstarted, _ =>
    match validateInboundFieldLength p.cwd.length maxRpcCwdBytes "cwdForTitle" with
    | .error error => complete c p.reason c.attachment.id (.error (.conversion error))
    | .ok () =>
      match checkedSucc c.attachmentIds with
      | none => complete c p.reason c.attachment.id (.error .attachmentIdExhausted)
      | some id =>
        ([.requested id],
          ⟨{ c with
            attachmentIds := id
            pendingRecovery := some { p with future := .opening ⟨id, [], true⟩ } }, .recovering⟩)
  | .opening _, .opened (.error error) =>
    complete c p.reason c.attachment.id (.error error)
  | .opening attachment, .opened (.ok result) =>
    match reportedResult result with
    | .error error => complete c p.reason c.attachment.id (.error error)
    | .ok snapshot => startDetach c p snapshot attachment
  | .detaching snapshot attachment, .detached (.error error) =>
    complete c p.reason attachment.id (.ok ⟨snapshot, attachment, some (detachWarning error)⟩)
  | .detaching snapshot attachment, .detached (.ok result) =>
    match reportedResult result with
    | .error error =>
      complete c p.reason attachment.id (.ok ⟨snapshot, attachment, some (detachWarning error)⟩)
    | .ok attachedClients =>
      complete c p.reason attachment.id
        (.ok ⟨{ snapshot with summary := { snapshot.summary with attachedClients := attachedClients } },
          attachment, none⟩)
  | _, _ => ([], ⟨c, .recovering⟩)

/-- The attachment that a recovery opens. -/
def onNewAttachment (c : RpcSessionClient) (f : LocalAttachment → LocalAttachment) :
    RpcSessionClient :=
  { c with
    pendingRecovery := c.pendingRecovery.map fun p =>
      { p with
        future :=
          match p.future with
          | .unstarted => .unstarted
          | .opening attachment => .opening (f attachment)
          | .detaching snapshot attachment => .detaching snapshot (f attachment) } }

/-- One input.  A cancelled call keeps what the client holds and loses its
location; a poll at another await point than the one reached finds nothing. -/
def step (m : Machine) : Input → List Mark × Machine
  | .call =>
    match m.location with
    | .idle => top m.client
    | _ => ([], m)
  | .cancel => ([], { m with location := .idle })
  | .receive =>
    match m.location with
    | .selecting nextSequence => receive m.client nextSequence
    | _ => ([], m)
  | .connectionChanged =>
    match m.location with
    | .selecting _ =>
      if m.client.connection.changed || m.client.connection.dropped then
        return_ { m.client with connection := { m.client.connection with changed := false } }
          m.client.attachment.id (.error .connectionClosed)
      else ([], m)
    | _ => ([], m)
  | .resume reply =>
    match m.location, m.client.pendingRecovery with
    | .recovering, some p => pollRecovery m.client p reply
    | _, _ => ([], m)
  | .deliver message =>
    ([], { m with
      client := { m.client with attachment := m.client.attachment.deliver message } })
  | .deliverNew message =>
    ([], { m with client := onNewAttachment m.client fun a => a.deliver message })
  | .closeObserver =>
    ([], { m with
      client := { m.client with attachment := { m.client.attachment with isOpen := false } } })
  | .closeNewObserver =>
    ([], { m with client := onNewAttachment m.client fun a => { a with isOpen := false } })
  | .closeConnection =>
    ([], { m with
      client := { m.client with
        connection := { m.client.connection with closed := true, changed := true } } })
  | .dropConnection =>
    ([], { m with
      client := { m.client with connection := { m.client.connection with dropped := true } } })
  | .allocateAttachmentId =>
    match checkedSucc m.client.attachmentIds with
    | none => ([], m)
    | some id => ([], { m with client := { m.client with attachmentIds := id } })

end Machine
end Rpc
end Moh
