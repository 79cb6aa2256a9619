/-
# The event stream of one actor

The part of `SessionActor` (`session/actor.rs`) that its observers see: the
projection and the registered observers, with `project`, `project_strict`,
`broadcast`, `broadcast_terminal` and the handling of `Attach`, `Detach` and
`DetachConnection`.  The channel of an observer has 128 slots for ordinary events
and one that only the terminal event may take.

Two ghost fields record what happened: `log`, every envelope that `project`
numbered, and `departed`, every observer that was removed and why.
-/

import Moh.Library.Fanout
import Moh.Session.Error

namespace Moh

/-- `OBSERVER_CAPACITY`. -/
def observerCapacity : ℕ := 128

/-- `TERMINAL_EVENT_RESERVE`. -/
def terminalEventReserve : ℕ := 1

/-- Identifies one observer: the pair that `Detach` compares, and a ghost number
that no two registrations share. -/
structure ObserverKey where
  connectionId : ConnectionId
  attachmentId : AttachmentId
  token : ℕ
deriving DecidableEq, Repr

/-- `Observer`: its identifiers and the channel of its events; `start` is the
sequence of the snapshot its `Attach` returned. -/
abbrev Observer := Fanout.Subscriber ObserverKey SessionEventEnvelope

/-- Why an observer is no longer registered. -/
inductive Departure where
  | slow
  | closed
  | detached
  | sequenceExhausted
  | actorExited
deriving DecidableEq, Repr

/-- The projection of one actor, its observers, and the ghosts. -/
structure Stream where
  projection : SessionProjection
  observers : List Observer
  log : List SessionEventEnvelope
  departed : List (Observer × Departure)
  nextToken : ℕ

namespace Stream

/-- The stream of a new actor. -/
def new (projection : SessionProjection) : Stream := ⟨projection, [], [], [], 0⟩

/-- Why a send to the observer fails. -/
def failure (o : Observer) : Departure :=
  if o.channel.isOpen then .slow else .closed

/-- `Vec::retain` with a send per observer: those it fails for depart. -/
def retainSent (st : Stream) (send : Observer → Option Observer) : Stream :=
  { st with
    observers := st.observers.filterMap send
    departed := st.departed ++
      (st.observers.filter fun o => (send o).isNone).map fun o => (o, failure o) }

/-- `Vec::clear` on the observers. -/
def clear (st : Stream) (reason : Departure) : Stream :=
  { st with
    observers := []
    departed := st.departed ++ st.observers.map fun o => (o, reason) }

/-- `SessionActor::project`: when the sequence is exhausted the event is reduced
without a number and every observer is dropped. -/
def project (st : Stream) (event : SessionEvent) :
    Except SessionCommandError (Option SessionEventEnvelope) × Stream :=
  match st.projection.apply event with
  | .ok (envelope, projection) =>
    (.ok (some envelope), { st with projection := projection, log := st.log ++ [envelope] })
  | .error .sequenceExhausted =>
    match st.projection.applyUnsequenced event with
    | .error error => (.error (mapProjectionError error), st)
    | .ok projection => (.ok none, { st with projection := projection }.clear .sequenceExhausted)
  | .error error => (.error (mapProjectionError error), st)

/-- `SessionActor::project_strict`. -/
def projectStrict (st : Stream) (event : SessionEvent) :
    Except SessionCommandError SessionEventEnvelope × Stream :=
  match st.projection.apply event with
  | .ok (envelope, projection) =>
    (.ok envelope, { st with projection := projection, log := st.log ++ [envelope] })
  | .error error => (.error (mapProjectionError error), st)

/-- `SessionActor::broadcast`. -/
def broadcast (st : Stream) (envelope : SessionEventEnvelope) : Stream :=
  st.retainSent fun o => o.offer terminalEventReserve envelope

/-- `if let Some(envelope) = envelope { self.broadcast(envelope); }`. -/
def broadcastSome (st : Stream) : Option SessionEventEnvelope → Stream
  | none => st
  | some envelope => st.broadcast envelope

/-- One `try_send` of `broadcast_terminal`. -/
def sendTerminal (envelope : SessionEventEnvelope) (o : Observer) : Option Observer :=
  match o.channel.trySend envelope with
  | (.ok (), channel) => some { o with channel := channel }
  | (.error _, _) => none

/-- `SessionActor::broadcast_terminal`. -/
def broadcastTerminal (st : Stream) (envelope : SessionEventEnvelope) : Stream :=
  st.retainSent (sendTerminal envelope)

/-- The `debug_assert!` of `broadcast_terminal`: no send finds its channel full. -/
def terminalAssertHolds (st : Stream) (envelope : SessionEventEnvelope) : Prop :=
  ∀ o ∈ st.observers, o.channel.trySend envelope ≠ (.error .full, o.channel)

/-- `SessionActor::broadcast_persistence_transition`. -/
def broadcastPersistenceTransition (st : Stream) : Option (Option String) → Stream
  | none => st
  | some warning =>
    match st.project (.persistenceWarning warning) with
    | (.ok (some envelope), st) => st.broadcast envelope
    | (.ok none, st) => st
    | (.error _, st) => st

/-- `SessionActor::attached_client_count`. -/
def attachedClientCount (st : Stream) : ℕ := min st.observers.length 4294967295

/-- `SessionActor::attachment_snapshot`. -/
def attachmentSnapshot (st : Stream) (jobs : List JobSnapshotDto) : SessionSnapshot :=
  { st.projection.snapshot jobs with
    summary := { st.projection.summary with attachedClients := st.attachedClientCount } }

/-- `self.observers.push(..)`: registers a new channel at the current sequence. -/
def push (st : Stream) (connectionId : ConnectionId) (attachmentId : AttachmentId) : Stream :=
  { st with
    observers := st.observers ++
      [⟨⟨connectionId, attachmentId, st.nextToken⟩, st.projection.sequence,
        .new (observerCapacity + terminalEventReserve)⟩]
    nextToken := st.nextToken + 1 }

/-- `Vec::retain` by a test of the identifiers: those that fail it depart. -/
def retain (st : Stream) (keep : Observer → Bool) : Stream :=
  { st with
    observers := st.observers.filter keep
    departed := st.departed ++ (st.observers.filter fun o => !keep o).map fun o => (o, .detached) }

/-- `SessionCommand::Detach`. -/
def detach (st : Stream) (connectionId : ConnectionId) (attachmentId : AttachmentId) : Stream :=
  st.retain fun o => (o.key.connectionId, o.key.attachmentId) != (connectionId, attachmentId)

/-- `SessionCommand::DetachConnection`. -/
def detachConnection (st : Stream) (connectionId : ConnectionId) : Stream :=
  st.retain fun o => o.key.connectionId != connectionId

/-- What the client of one registration does with its receiver. -/
def onChannel (st : Stream) (token : ℕ) (f : Observer → Observer) : Stream :=
  { st with
    observers := st.observers.map fun o => if o.key.token = token then f o else o
    departed := st.departed.map fun d => if d.1.key.token = token then (f d.1, d.2) else d }

/-- The client receives the next event of its channel. -/
def recv (st : Stream) (token : ℕ) : Stream := st.onChannel token Fanout.Subscriber.recv

/-- The client drops its receiver. -/
def close (st : Stream) (token : ℕ) : Stream := st.onChannel token Fanout.Subscriber.close

end Stream
end Moh
