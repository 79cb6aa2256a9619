/-
# The serve loop of the backend

`backend/server.rs`: the loop of `serve_backend`, which accepts connections and leaves
when nothing has happened for a while; `rpc/server.rs`: `serve_connection`, whose task
takes its connection off the activity tracker behind a cleanup; and what both wait for,
the manager and the actors.  A step is what one task does between two awaits.

The queues matter here.  A command that a client sent waits in the queue of its actor
(`inbox`), and one for the manager in the queue of the manager, also when the client is
gone.  The manager serves its queue in order; a cleanup or a flush visits one actor after
the other, and its command waits behind those in the queue of that actor
(`Visit.ahead`).  A command leaves the queue of its actor when its handler ends: a
submission starts its run first, then writes the record, and registers the run at last
(`activeRun`).

A request of a client is one step of the manager.  What happens meanwhile is part of its
script; `handled` says how many commands the actors take from their queues.
-/

import Mathlib.Logic.Function.Basic
import Moh.Session.Manager

namespace Moh

/-- `ShutdownReason`. -/
inductive ShutdownReason where
  | idle
  | signal
deriving DecidableEq, Repr

/-- `BackendError`, as far as the serve loop ends with it. -/
inductive BackendError where
  | runtimeInitialization
  | accept
  | retainConnection
  | connectionId
  | connection (error : SessionManagerError)
  | connectionTask
  | signal

namespace Backend

/-- Where the serve loop is: at its `select!`, or behind the deadline of
`wait_for_idle`, where it waits for the answer to its flush, or it was left. -/
inductive Serving where
  | listening
  | flushing (deadline : ActivitySnapshot) (result : Option Bool)
  | left (result : Except BackendError ShutdownReason)

/-- Where the task of `serve_connection` is: the RPC system runs; `detach_connection` is
in the queue of the manager; the manager visits the actors; it was answered. -/
inductive Phase where
  | serving
  | queued
  | visiting
  | detached (result : Except SessionManagerError Unit)

/-- Whom a visit of all actors is for. -/
inductive Purpose where
  | cleanup (id : ConnectionId)
  | flush
deriving DecidableEq, Repr

/-- The command that each actor gets. -/
def Purpose.command : Purpose → SessionCommand
  | .cleanup id => .detachConnection id
  | .flush => .flush

/-- What is in the queue of the manager. -/
inductive Request where
  | client (id : ConnectionId) (command : ManagerCommand)
  | visit (purpose : Purpose)

/-- A visit: the actors that are left, the current one first; once the command was sent
to it, how many are ahead of it there; and the first error. -/
structure Visit where
  purpose : Purpose
  left : List SessionHandle
  ahead : Option ℕ
  error : Option SessionCommandError

/-- An actor handled a command: the current one has one less ahead. -/
def Visit.advance (h : SessionHandle) (v : Visit) : Visit :=
  if v.left.head? = some h then { v with ahead := v.ahead.map (· - 1) } else v

/-- What a poll of the listener yields. -/
inductive Polled where
  | nothing
  | connection
  | failed (error : BackendError)

/-- The backend while it serves. `backlog` are the connections that were not accepted
yet, `completed` the tasks of connections that nobody joined yet, `completions` the title
tasks that ended and were not routed yet, `waiter` the snapshot whose timer runs in
`wait_for_idle`.  `answered` is a ghost: the generation at which an actor last answered a
flush with success. -/
structure Server where
  manager : SessionManager
  inbox : SessionHandle → List ConnectionId
  busy : SessionHandle → Option SessionCommand
  queue : List Request
  managing : Option Visit
  completions : List (TitleRequest × Except TitleGenerationError String)
  connections : ConnectionId → Option Phase
  nextConnection : Option ConnectionId
  completed : List (Except SessionManagerError Unit)
  backlog : ℕ
  ready : Bool
  waiter : Option ActivitySnapshot
  serving : Serving
  answered : SessionHandle → Option ℕ

end Backend

/-- A submission. -/
def SessionCommand.isSubmit : SessionCommand → Bool
  | .submit _ => true
  | _ => false

namespace Backend
namespace Server

/-- A backend that just bound its socket. -/
def new (store : SessionStore) : Server where
  manager := .new store .new
  inbox := fun _ => []
  busy := fun _ => none
  queue := []
  managing := none
  completions := []
  connections := fun _ => none
  nextConnection := some ⟨1⟩
  completed := []
  backlog := 0
  ready := false
  waiter := none
  serving := .listening
  answered := fun _ => none

variable (w : Server)

/-- The tracker that all tasks share. -/
def activity : ActivityTracker := w.manager.activity

/-- The same manager with another tracker. -/
def track (activity : ActivityTracker) : Server :=
  { w with manager := { w.manager with activity := activity } }

/-- The actor's harness has an active run: between two handlers, or in the middle of a
submission. -/
def activeRun (h : SessionHandle) (t : ActorTask) : Bool :=
  t.actor.harness.isRunning || (w.busy h).any SessionCommand.isSubmit

/-! ### The serve loop -/

/-- `break 'serve`. -/
def leave (result : Except BackendError ShutdownReason) : Server := { w with serving := .left result }

/-- The loop goes on with a new `wait_for_idle`. -/
def keepServing : Server := { w with serving := .listening, waiter := none }

/-- `retain_connection`, with `ConnectionIdAllocator::allocate` and the first line of
`serve_connection`. -/
def retain : Except BackendError Server :=
  match w.nextConnection with
  | none => .error .connectionId
  | some id =>
    .ok { w.track (w.activity.setConnection id true) with
      nextConnection := (checkedSucc id.value).map ConnectionId.mk
      backlog := w.backlog - 1
      connections := Function.update w.connections id (some .serving) }

/-- `accept_queued_connection`: whether a connection was queued. -/
def acceptQueued : Polled → Except BackendError (Bool × Server)
  | .nothing => .ok (false, w)
  | .connection =>
    if w.backlog = 0 then .ok (false, w)
    else
      match w.retain with
      | .ok w => .ok (true, w)
      | .error error => .error error
  | .failed error => .error error

/-- `same_idle_generation`. -/
def sameIdleGeneration (expected : ActivitySnapshot) : Bool :=
  w.activity.snapshot = expected && expected.isIdle

/-- The branch for `listener.accept()`. -/
def accept (polled : Polled) : Server :=
  match w.acceptQueued polled with
  | .ok (_, w) => w
  | .error error => w.leave (.error error)

/-- The branch for the initialization of the runtime. -/
def initialized (ok : Bool) : Server :=
  if w.ready then w
  else if ok then { w with ready := true, waiter := none }
  else w.leave (.error .runtimeInitialization)

/-- The branch for `connection_tasks.next()`. -/
def reap : Server :=
  match w.completed with
  | [] => w
  | .ok () :: rest => { w with completed := rest }
  | .error error :: _ => w.leave (.error (.connection error))

/-- `wait_for_idle` looks at the tracker, first or after a change: it starts its timer on
an idle snapshot. -/
def observe : Server :=
  { w with waiter := if w.ready && w.activity.snapshot.isIdle then some w.activity.snapshot else none }

/-- The branch for the deadline, up to the flush. -/
def deadline (snapshot : ActivitySnapshot) (polled : Polled) : Server :=
  match w.acceptQueued polled with
  | .error error => w.leave (.error error)
  | .ok (queued, w) =>
    if queued then w.keepServing
    else if w.sameIdleGeneration snapshot = false then w.keepServing
    else
      { w with
        serving := .flushing snapshot none
        queue := w.queue ++ [.visit .flush] }

/-- The timer of `wait_for_idle` is over: the deadline counts if the generation is the
same. -/
def elapsed (polled : Polled) : Server :=
  match w.ready, w.waiter with
  | true, some snapshot =>
    if w.activity.snapshot.isIdle && w.activity.generation = snapshot.generation then
      w.deadline w.activity.snapshot polled
    else { w with waiter := none }
  | _, _ => w

/-- The flush was answered. -/
def flushed (snapshot : ActivitySnapshot) (ok : Bool) (polled : Polled) : Server :=
  if ok = false || w.sameIdleGeneration snapshot = false then w.keepServing
  else
    match w.acceptQueued polled with
    | .error error => w.leave (.error error)
    | .ok (queued, w) => if queued then w.keepServing else w.leave (.ok .idle)

/-! ### Connections -/

/-- A client sends a command to an actor whose handle it has. -/
def send (id : ConnectionId) (h : SessionHandle) : Server :=
  match w.connections id, w.manager.tasks[h]? with
  | some .serving, some t =>
    if t.shared then { w with inbox := Function.update w.inbox h (w.inbox h ++ [id]) } else w
  | _, _ => w

/-- A client sends a request to the manager. -/
def request (id : ConnectionId) (command : ManagerCommand) : Server :=
  match w.connections id with
  | some .serving =>
    if w.ready && command.isRequest then { w with queue := w.queue ++ [.client id command] } else w
  | _ => w

/-- The RPC system of a connection ends: `serve_connection` sends its cleanup, if there
is a manager. -/
def hangUp (id : ConnectionId) : Server :=
  match w.connections id with
  | some .serving =>
    if w.ready then
      { w with
        connections := Function.update w.connections id (some .queued)
        queue := w.queue ++ [.visit (.cleanup id)] }
    else { w with connections := Function.update w.connections id (some (.detached (.ok ()))) }
  | _ => w

/-- `serve_connection` takes its connection off and ends. -/
def closed (id : ConnectionId) : Server :=
  match w.connections id with
  | some (.detached result) =>
    { w.track (w.activity.setConnection id false) with
      connections := Function.update w.connections id none
      completed := w.completed ++ [result] }
  | _ => w

/-! ### The manager -/

/-- A visit is answered. -/
def settle (purpose : Purpose) (result : Except SessionManagerError Unit) : Server :=
  match purpose with
  | .cleanup id => { w with connections := Function.update w.connections id (some (.detached result)) }
  | .flush =>
    match w.serving with
    | .flushing snapshot none => { w with serving := .flushing snapshot (some result.isOk) }
    | _ => w

/-- The manager begins a visit. -/
def beginVisit (purpose : Purpose) (order : List SessionId) : Server :=
  { w with
    managing := some ⟨purpose, (w.manager.visitOrder order).filterMap w.manager.actors.lookup, none,
      none⟩
    connections :=
      match purpose with
      | .cleanup id => Function.update w.connections id (some .visiting)
      | .flush => w.connections }

/-- The manager takes the first command of its queue. -/
def take (script : Script) (handled : SessionHandle → ℕ) : Server :=
  match w.managing, w.queue with
  | none, .client _ command :: rest =>
    if w.manager.stopped then { w with queue := rest }
    else
      { w with
        queue := rest
        manager := (w.manager.handleCommand script command).2
        inbox := fun h => (w.inbox h).drop (handled h)
        busy := fun h => if handled h = 0 then w.busy h else none }
  | none, .visit purpose :: rest =>
    if w.manager.stopped then { w with queue := rest }.settle purpose (.error .unavailable)
    else { w with queue := rest }.beginVisit purpose script.order
  | _, _ => w

/-- The manager goes on with its visit: it sends the command to the next actor, or
answers. -/
def ask : Server :=
  match w.managing with
  | some ⟨purpose, [], _, error⟩ =>
    { w with managing := none }.settle purpose (SessionManager.firstError error)
  | some ⟨purpose, h :: rest, none, error⟩ =>
    match w.manager.tasks[h]? with
    | some ⟨_, _, none, _⟩ =>
      { w with managing := some ⟨purpose, h :: rest, some (w.inbox h).length, error⟩ }
    | _ =>
      { w with managing := some ⟨purpose, rest, none, some (error.getD .unavailable)⟩ }
  | _ => w

/-- The current actor of a visit handles the command and answers it. -/
def answer (wait : Await) : Server :=
  match w.managing with
  | some ⟨purpose, h :: rest, some 0, error⟩ =>
    match w.manager.askUnit h { wait with early := [] } purpose.command with
    | (.ok (), manager) =>
      { w with
        manager := manager
        managing := some ⟨purpose, rest, none, error⟩
        answered :=
          if purpose = .flush then
            Function.update w.answered h (some manager.activity.generation)
          else w.answered }
    | (.error failure, manager) =>
      { w with
        manager := manager
        managing := some ⟨purpose, rest, none, some (error.getD failure)⟩ }
  | _ => w

/-- A title task ends: its guard is dropped, and then its result waits for the manager. -/
def titleFinished (index : ℕ) (generated : Option (Except TitleGenerationError String)) : Server :=
  match w.manager.titleTasks[index]? with
  | none => w
  | some request =>
    { w with
      manager :=
        { w.manager with
          activity := w.activity.finishTitleTask
          titleTasks := w.manager.titleTasks.eraseIdx index }
      completions :=
        match generated with
        | none => w.completions
        | some generated => w.completions ++ [(request, generated)] }

/-- The manager routes the result of a title task. -/
def route (index : ℕ) (wait : Await) : Server :=
  match w.managing, w.completions[index]? with
  | none, some (request, generated) =>
    if w.manager.stopped then w
    else
      { w with
        manager := w.manager.routeTitleCompletion { wait with early := [] } request generated
        completions := w.completions.eraseIdx index }
  | _, _ => w

/-! ### Actors -/

/-- The command of the manager is first in the queue of the actor. -/
def asked (h : SessionHandle) : Bool :=
  match w.managing with
  | some ⟨_, h' :: _, some 0, _⟩ => h' = h
  | _ => false

/-- An actor begins to handle the first command of its queue. -/
def begin (h : SessionHandle) (command : SessionCommand) : Server :=
  if (w.inbox h).isEmpty || w.asked h || (w.busy h).isSome then w
  else { w with busy := Function.update w.busy h (some command) }

/-- The handler of a client's command ends. -/
def handle (h : SessionHandle) (env : Env) : Server :=
  match w.inbox h, w.busy h with
  | _ :: rest, some command =>
    { w with
      manager := w.manager.background (.input h env (.command command))
      inbox := Function.update w.inbox h rest
      busy := Function.update w.busy h none
      managing := w.managing.map (Visit.advance h) }
  | _, _ => w

/-- Something else happens to an actor: an event of its run, a change of its jobs, a plan
of its model, or a client at its channel. -/
def occur (h : SessionHandle) (env : Env) (input : ActorInput) : Server :=
  match input with
  | .command _ => w
  | input => { w with manager := w.manager.background (.input h env input) }

end Server

/-- One step of some task. -/
inductive Input where
  /-- A client connects; its connection waits in the backlog. -/
  | connect
  | accept (polled : Polled)
  | initialized (ok : Bool)
  /-- `shutdown_signal` is ready. -/
  | signal (ok : Bool)
  | reap
  | observe
  | elapsed (polled : Polled)
  | flushed (polled : Polled)
  | send (id : ConnectionId) (h : SessionHandle)
  | request (id : ConnectionId) (command : ManagerCommand)
  | hangUp (id : ConnectionId)
  | closed (id : ConnectionId)
  | take (script : Script) (handled : SessionHandle → ℕ)
  | ask
  | answer (wait : Await)
  | titleFinished (index : ℕ) (generated : Option (Except TitleGenerationError String))
  | route (index : ℕ) (wait : Await)
  | begin (h : SessionHandle) (command : SessionCommand)
  | handle (h : SessionHandle) (env : Env)
  | occur (h : SessionHandle) (env : Env) (input : ActorInput)
  /-- The task of an actor whose loop ended is over. -/
  | finished (h : SessionHandle)
  /-- The job monitor of a session reports its count. -/
  | jobs (id : SessionId) (count : ℕ)

namespace Server

/-- A step of a task of the backend while it serves. The branches of the loop wait
while it flushes. -/
def act (w : Server) : Input → Server
  | .connect => { w with backlog := w.backlog + 1 }
  | .accept polled => if let .listening := w.serving then w.accept polled else w
  | .initialized ok => if let .listening := w.serving then w.initialized ok else w
  | .signal ok =>
    if let .listening := w.serving then
      w.leave (if ok then .ok .signal else .error .signal)
    else w
  | .reap => if let .listening := w.serving then w.reap else w
  | .observe => if let .listening := w.serving then w.observe else w
  | .elapsed polled => if let .listening := w.serving then w.elapsed polled else w
  | .flushed polled =>
    if let .flushing snapshot (some ok) := w.serving then w.flushed snapshot ok polled else w
  | .send id h => w.send id h
  | .request id command => w.request id command
  | .hangUp id => w.hangUp id
  | .closed id => w.closed id
  | .take script handled => w.take script handled
  | .ask => w.ask
  | .answer wait => w.answer wait
  | .titleFinished index generated => w.titleFinished index generated
  | .route index wait => w.route index wait
  | .begin h command => w.begin h command
  | .handle h env => w.handle h env
  | .occur h env input => w.occur h env input
  | .finished h => { w with manager := w.manager.finish h }
  | .jobs id count => w.track (w.activity.setRunningJobs id count)

/-- One step; nothing is looked at any more once the loop was left. -/
def step (w : Server) (input : Input) : Server :=
  if let .left _ := w.serving then w else w.act input

end Server
end Backend
end Moh
