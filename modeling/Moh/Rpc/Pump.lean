/-
# One client and one actor, with everything between them

`rpc/server.rs` answers an open request with a snapshot and a pump: `ObserverPump::run` takes
the events of the new registration from the actor's channel, publishes one after another to the
client's observer and waits for each to be taken.  `rpc/client.rs` puts what is published into
the channel of its attachment (`ObserverImpl::publish`), and `next_update` returns it to
`client/workspace.rs`, which reduces it into the projection that is presented.

`Relay` composes the actor (`Session`), the pumps, the requests and replies of
`request_open_session` on their way, the machine of `next_update` and the presented projection.
A `Hop` is one step of any of the parties: another client's command, a poll, a cancellation, a
conversion that fails, a connection that is lost.

There is one actor: when it has ended it answers that the session is unavailable.  The branch of
`SessionManager::open` that then spawns another from the store, whose numbers begin again, is
left out.
-/

import Moh.Client.Workspace
import Moh.Session.Evolution

namespace Moh
namespace Rpc

/-! ### The pump -/

/-- What `read_event_envelope` makes of a published event: the same event, or an error. -/
inductive Transfer where
  | intact
  | unreadable (error : RpcConversionError)

/-- `ObserverPump`, of the attachment that `open_session` was asked for: the number of its
registration, the event whose request is not answered yet, and whether its task still runs.
The ghosts are the projection the snapshot was made of and what arrived so far. -/
structure ObserverPump where
  attachmentId : ℕ
  token : ℕ
  publishing : Option SessionEventEnvelope
  running : Bool
  base : SessionProjection
  delivered : List SessionEventEnvelope

/-- `prepare_managed`: the pump of the registration that an actor with this stream makes
next. -/
def ObserverPump.new (attachmentId : ℕ) (st : Stream) : ObserverPump :=
  ⟨attachmentId, st.nextToken, none, true, st.projection, []⟩

/-- The task of the pump ends. -/
def ObserverPump.stop (p : ObserverPump) : ObserverPump :=
  { p with publishing := none, running := false }

/-- The event that a receiver takes next. -/
def nextEvent (st : Stream) (token : ℕ) : Option SessionEventEnvelope :=
  match st.registered.find? fun o => o.key.token == token with
  | none => none
  | some o => if o.channel.isOpen then o.channel.queue.head? else none

/-! ### Errors of the actor on the wire -/

/-- The code in `impl From<&SessionCommandError> for CommandError`. -/
def SessionCommandError.code : SessionCommandError → ErrorCode
  | .reported code _ => code
  | .busy => .busy
  | .notRunning => .notRunning
  | .modelNotFound _ => .modelNotFound
  | .unsupportedReasoning _ _ => .unsupportedReasoning
  | .invalidJobId _ => .invalidArgument
  | .invalidPrompt => .invalidArgument
  | .jobNotFound _ => .jobNotFound
  | .persistence _ => .persistence
  | .deleting => .sessionDeleting
  | .unavailable => .backendUnavailable
  | .runIdExhausted => .internal
  | .job _ => .internal
  | .projection _ => .internal

/-- `impl From<&SessionCommandError> for CommandError`. -/
def CommandError.ofSession (error : SessionCommandError) : CommandError where
  code := SessionCommandError.code error
  message := error.message
  ids := []

/-! ### The parties together -/

/-- The actor, the pumps of this client, what is on the way, the client's `next_update` and the
projection it presents.  `gone` is set when `next_update` reported the deletion and the session
client was dropped; `rejected` and `detected` record the updates that were not accepted and the
recoveries that began. -/
structure Relay where
  session : Session
  pumps : List ObserverPump
  requests : List ℕ
  replies : List (ℕ × Except CommandError SessionSnapshot)
  machine : Machine
  view : Client.ChatProjection
  gone : Bool
  rejected : List ClientSessionError
  detected : List RecoveryReason

/-- One step of one of the parties. -/
inductive Hop where
  /-- The actor takes an input. -/
  | actor (env : Env) (input : ActorInput)
  /-- The actor handles the open request of the attachment; `written` if its reply can be. -/
  | serve (env : Env) (id : ℕ) (connectionId : ConnectionId) (written : Bool)
  /-- The backend refuses the open request. -/
  | refuse (id : ℕ) (error : CommandError)
  /-- The pump takes an event from its channel; `written` if its request can be. -/
  | advance (id : ℕ) (written : Bool)
  /-- The event of the pump is transferred, if there is room for it. -/
  | publish (id : ℕ) (transfer : Transfer)
  /-- The request of the pump fails. -/
  | breakOff (id : ℕ)
  /-- The reply to the open request of the client arrives. -/
  | reply
  /-- `next_update` is polled or cancelled, or its connection changes. -/
  | client (input : Input)

namespace Relay

/-- Changes the pump of an attachment. -/
def onPump (r : Relay) (id : ℕ) (f : ObserverPump → ObserverPump) : Relay :=
  { r with pumps := r.pumps.map fun p => if p.attachmentId = id then f p else p }

/-- The pump of an attachment. -/
def pump (r : Relay) (id : ℕ) : Option ObserverPump :=
  r.pumps.find? fun p => p.attachmentId == id

/-- A running pump has this receiver. -/
def Pumped (r : Relay) (token : ℕ) : Prop :=
  ∃ p ∈ r.pumps, p.running = true ∧ p.token = token

instance (r : Relay) (token : ℕ) : Decidable (r.Pumped token) :=
  inferInstanceAs (Decidable (∃ p ∈ r.pumps, p.running = true ∧ p.token = token))

/-- The receiver that an input of the actor is about; the receiver of a running pump is the
pump's own. -/
def touches (r : Relay) : ActorInput → Bool
  | .recv token => decide (r.Pumped token)
  | .closeReceiver token => decide (r.Pumped token)
  | _ => false

/-- The task of the pump ends, and its receiver is dropped. -/
def stopPump (r : Relay) (p : ObserverPump) : Relay :=
  { r.onPump p.attachmentId ObserverPump.stop with
    session := { r.session with stream := r.session.stream.close p.token } }

/-- `BackendImpl::open_session`, once the manager found the actor. -/
def serve (r : Relay) (env : Env) (id : ℕ) (connectionId : ConnectionId) (written : Bool) :
    Relay :=
  if r.requests.contains id = false then r
  else
    let r := { r with requests := r.requests.erase id }
    if r.session.exited.isSome then
      { r with replies := r.replies ++ [(id, .error (.ofSession .unavailable))] }
    else
      match r.session.attach env connectionId ⟨id⟩ with
      | (.error error, session) =>
        { r with session := session, replies := r.replies ++ [(id, .error (.ofSession error))] }
      | (.ok snapshot, session) =>
        if written then
          { r with
            session := session
            pumps := r.pumps ++ [.new id r.session.stream]
            replies := r.replies ++ [(id, .ok snapshot)] }
        else
          { r with
            session :=
              { session with stream := session.stream.close r.session.stream.nextToken } }

/-- The pump waits in `recv`, and writes the request for the event that comes. -/
def advance (r : Relay) (id : ℕ) (written : Bool) : Relay :=
  match r.pump id with
  | none => r
  | some p =>
    if p.running = false ∨ p.publishing.isSome = true then r
    else
      match nextEvent r.session.stream p.token with
      | none => r
      | some event =>
        let r :=
          { r.onPump id fun p => { p with publishing := some event } with
            session := { r.session with stream := r.session.stream.recv p.token } }
        if written then r else r.stopPump p

/-- The attachment whose observer the pump publishes to: the current one, or the one that the
recovery opens.  Other attachments of the client were dropped. -/
inductive Destination where
  | current (attachment : LocalAttachment)
  | opening (attachment : LocalAttachment)
  | dropped

/-- Where the publication of an attachment arrives. -/
def destination (r : Relay) (id : ℕ) : Destination :=
  if r.gone then .dropped
  else if r.machine.client.attachment.id = id then .current r.machine.client.attachment
  else
    match r.machine.client.pendingRecovery with
    | none => .dropped
    | some p =>
      match p.future with
      | .unstarted => .dropped
      | .opening attachment => if attachment.id = id then .opening attachment else .dropped
      | .detaching _ attachment => if attachment.id = id then .opening attachment else .dropped

/-- A message is put into the channel of the attachment. -/
def deliver (r : Relay) (destination : Destination) (message : ObserverMessage) : Relay :=
  match destination with
  | .current _ => { r with machine := (r.machine.step (.deliver message)).2 }
  | .opening _ => { r with machine := (r.machine.step (.deliverNew message)).2 }
  | .dropped => r

/-- `ObserverImpl::publish` up to its answer, and what the pump does with that.  Nothing
happens yet while the channel of the attachment is full. -/
def publishTo (r : Relay) (p : ObserverPump) (event : SessionEventEnvelope)
    (destination : Destination) (attachment : LocalAttachment) (transfer : Transfer) : Relay :=
  if attachment.isOpen && observerCapacity ≤ attachment.events.length then r
  else
    match transfer with
    | .unreadable error => (r.deliver destination ⟨p.attachmentId, .error error⟩).stopPump p
    | .intact =>
      if attachment.isOpen = false then r.stopPump p
      else
        let r := (r.deliver destination ⟨p.attachmentId, .ok event⟩).onPump p.attachmentId fun p =>
          { p with publishing := none, delivered := p.delivered ++ [event] }
        if event.event.isDeleted then r.stopPump p else r

/-- The publication of a pump. -/
def publish (r : Relay) (id : ℕ) (transfer : Transfer) : Relay :=
  match r.pump id with
  | none => r
  | some p =>
    match p.running, p.publishing with
    | true, some event =>
      match r.destination id with
      | .current attachment => r.publishTo p event (.current attachment) attachment transfer
      | .opening attachment => r.publishTo p event (.opening attachment) attachment transfer
      | .dropped => r.stopPump p
    | _, _ => r

/-- The workspace takes what `next_update` left behind: an update is reduced into the presented
projection, a deletion leaves the session. -/
def absorb (r : Relay) : Mark → Relay
  | .detected reason => { r with detected := r.detected ++ [reason] }
  | .requested id => { r with requests := r.requests ++ [id] }
  | .returned _ (.error _) => r
  | .returned _ (.ok (.deleted _ _)) => { r with gone := true }
  | .returned _ (.ok update) =>
    match Client.applyProjectionUpdate r.view update with
    | (.ok (), view) => { r with view := view }
    | (.error error, view) => { r with view := view, rejected := r.rejected ++ [error] }

/-- The client's machine takes an input. -/
def drive (r : Relay) (input : Input) : Relay :=
  if r.gone then r
  else
    let (marks, machine) := r.machine.step input
    marks.foldl absorb { r with machine := machine }

/-- What happens at the client on its own: messages and replies come from the backend, and an
open request fails on its own by the connection or by a conversion. -/
def isLocal : Input → Bool
  | .deliver _ => false
  | .deliverNew _ => false
  | .resume (.opened (.ok _)) => false
  | .resume (.opened (.error (.connection _))) => true
  | .resume (.opened (.error (.conversion _))) => true
  | .resume (.opened (.error _)) => false
  | _ => true

/-- The reply to the open request that the client waits for. -/
def awaited (r : Relay) : Option (Except CommandError SessionSnapshot) :=
  match r.machine.client.pendingRecovery with
  | none => none
  | some p =>
    match p.future with
    | .opening attachment => (r.replies.find? fun reply => reply.1 == attachment.id).map Prod.snd
    | _ => none

/-- One step.  An input of the actor that is about the receiver of a running pump, and an input
of the client that is not its own, change nothing. -/
def step (r : Relay) : Hop → Relay
  | .actor env input =>
    if r.touches input then r else { r with session := r.session.step (env, input) }
  | .serve env id connectionId written => r.serve env id connectionId written
  | .refuse id error =>
    if r.requests.contains id then
      { r with requests := r.requests.erase id, replies := r.replies ++ [(id, .error error)] }
    else r
  | .advance id written => r.advance id written
  | .publish id transfer => r.publish id transfer
  | .breakOff id =>
    match r.pump id with
    | none => r
    | some p => if p.running then r.stopPump p else r
  | .reply =>
    match r.awaited with
    | none => r
    | some result => r.drive (.resume (.opened (.ok result)))
  | .client input => if isLocal input then r.drive input else r

/-- The relay of a client that just opened the session as its attachment `id`. -/
def open_ (s : Session) (env : Env) (connectionId : ConnectionId) (id : ℕ)
    (connection : ConnectionWatch) : Option Relay :=
  match s.attach env connectionId ⟨id⟩ with
  | (.error _, _) => none
  | (.ok snapshot, session) => some
    { session := session
      pumps := [.new id s.stream]
      requests := []
      replies := []
      machine := ⟨.new id connection snapshot ⟨id, [], true⟩, .idle⟩
      view := .session snapshot
      gone := false
      rejected := []
      detected := [] }

end Relay
end Rpc
end Moh
