/-
# The session manager

`session/manager.rs`.  The manager owns the registry of live actors and handles one
command at a time; the tasks of the actors run on their own.  `SessionManager` is
the manager together with the tasks `spawn_actor` started, the repository and the
activity tracker they share.  A handle is the position of its task.

Whenever the manager waits, for a repository call or for an actor's reply, other
tasks go on: an `Await` says what happens meanwhile (`early`), what the outside
contributes to the call itself (`env`), whether the reply is lost, and whether a
task whose loop ended has `finished` when the manager goes on.  A `Script` gives
the await of each call of one command and the answers of the engine factory.

Where the source panics (an `expect` that fails) the manager's task is over, and
its client is told that it is unavailable.
-/

import Moh.Library.Run
import Moh.Session.Actor

namespace Moh

/-! ### The manager and the tasks -/

/-- `SessionHandle`: the command boundary of one actor task. -/
abbrev SessionHandle := ℕ

/-- A task that `spawn_actor` started.  `shared` is set once a client has its
handle, `exited` once the actor's loop ended, `finished` once the task did. -/
structure ActorTask where
  actor : SessionActor
  shared : Bool
  exited : Option ActorExit
  finished : Bool

/-- `TitleRequest`. -/
structure TitleRequest where
  sessionId : SessionId
  model : String
  reasoning : ReasoningLevel
  firstMessage : String
  expectedRevision : ℕ

/-- `SessionManager`, and what it shares with the actors' tasks. -/
structure SessionManager where
  store : SessionStore
  activity : ActivityTracker
  tasks : List ActorTask
  actors : AList fun _ : SessionId => SessionHandle
  titleTasks : List TitleRequest
  stopped : Bool

/-- Typed failures returned by manager commands. -/
inductive SessionManagerError where
  | store (error : SessionStoreError)
  | runtime (failure : RunFailure)
  | session (error : SessionCommandError)
  | unavailable

/-- A live actor command handle paired with its attachment state; the events are
those of the observer that the attachment registered. -/
structure ManagedSession where
  handle : SessionHandle
  snapshot : SessionSnapshot

/-- Result of selecting current project work or preparing a new draft. -/
inductive StartupResult where
  | draft (defaults : DraftDefaults)
  | attached (session : ManagedSession)

/-- A newly durable session, its first run and its attachment. -/
structure MaterializedSession where
  session : ManagedSession
  runId : ℕ

/-! ### What the outside contributes -/

/-- Something that happens on its own: an input of an actor, or the end of a task
whose loop ended. -/
inductive Background where
  | input (handle : SessionHandle) (env : Env) (input : ActorInput)
  | finished (handle : SessionHandle)

/-- One wait of the manager. -/
structure Await where
  early : List Background
  env : Env
  lost : Bool
  finishes : Bool

/-- The calls that one command waits for. -/
inductive Call where
  | resolve
  | load
  | attach
  | materialize
  | checkpoint
  | compensate
  | list
  | rename
  | prepare
  | delete
  | finish
  | abort
  | detach
deriving DecidableEq, Repr

/-- What the engine factory answers: `create` is the isolated runtime bundle. -/
structure Factory where
  defaultSettings : SessionSettings
  catalog : ModelCatalogState
  create : Except RunFailure Unit

/-- The end of one of the title tasks: `none` is a task that cannot be joined. -/
structure TitleEnd where
  index : ℕ
  generated : Option (Except TitleGenerationError String)
  await : Await

/-- What the outside contributes to one command.  `each` is the wait for the actor
of a session within a loop over the actors, which visits them in `order`. -/
structure Script where
  factory : Factory
  call : Call → Await
  each : SessionId → Await
  order : List SessionId
  titles : ℕ → TitleEnd

/-- `ManagerCommand`. -/
inductive ManagerCommand where
  | startup (cwd : List UInt8) (connectionId : ConnectionId) (attachmentId : AttachmentId)
  | draftDefaults (cwd : List UInt8)
  | materializeAndSubmit (cwd : List UInt8) (prompt : String) (settings : SessionSettings)
    (connectionId : ConnectionId) (attachmentId : AttachmentId)
  | open (selector : SessionSelector) (cwdForName : List UInt8) (connectionId : ConnectionId)
    (attachmentId : AttachmentId)
  | list (scope : SessionListScope)
  | rename (sessionId : SessionId) (title : SessionTitle)
  | delete (sessionId : SessionId)
  | detach (sessionId : SessionId) (connectionId : ConnectionId) (attachmentId : AttachmentId)
  | detachConnection (connectionId : ConnectionId)
  | flushAll
  | shutdown

/-- The commands that the connections of clients pass on. -/
def ManagerCommand.isRequest : ManagerCommand → Bool
  | .detachConnection _ => false
  | .flushAll => false
  | .shutdown => false
  | _ => true

/-- What a command is answered with. -/
inductive ManagerReply where
  | startup (result : Except SessionManagerError StartupResult)
  | draftDefaults (result : Except SessionManagerError DraftDefaults)
  | materialized (result : Except SessionManagerError MaterializedSession)
  | opened (result : Except SessionManagerError ManagedSession)
  | listed (result : Except SessionManagerError (List SessionSummary))
  | unit (result : Except SessionManagerError Unit)
  | count (result : Except SessionManagerError ℕ)

/-- The commands that are answered with `TerminalCompletion`. -/
def SessionCommand.isTerminal : SessionCommand → Bool
  | .finishDelete => true
  | .abortDelete => true
  | _ => false

/-! ### Failures of a materialization -/

/-- The loop of `sanitize_failure_message`. -/
def plainFailure : List Char → List Char
  | [] => []
  | c :: cs =>
    if c = '\x1b' then
      have := consumeEscapeSequence_length_le cs
      plainFailure (consumeEscapeSequence cs)
    else if c = '\u009b' then
      have := skipControlSequence_length_le cs
      plainFailure (skipControlSequence cs)
    else if Unicode.isWhitespace c then ' ' :: plainFailure cs
    else if Unicode.isControl c then plainFailure cs
    else c :: plainFailure cs
termination_by cs => cs.length

/-- `sanitize_failure_message`. -/
def sanitizeFailureMessage (message : String) : String :=
  let sanitized := collapseWhitespace (plainFailure message.toList)
  if sanitized.isEmpty then "session runtime failed to start" else String.ofList sanitized

/-- `startup_failure`. -/
def startupFailure (message : String) (retryable : Bool) : RunFailureSnapshot :=
  ⟨.startup, .runtimeInfrastructure, retryable, sanitizeFailureMessage message⟩

/-- The record `persist_failed_materialization` writes. -/
def failedMaterialization (record : SessionRecord) (prompt : String) (runId : ℕ)
    (failure : RunFailureSnapshot) : SessionRecord :=
  let transcript :=
    match record.transcript with
    | [] => [.user prompt]
    | item :: _ => if item.isUser prompt then [item] else [.user prompt]
  { record with
    transcript := transcript ++ [.failed runId failure]
    turns := [⟨0, runId, 0, .failed⟩]
    history := [] }

/-- `validate_materialization_settings`. -/
def validateMaterializationSettings (settings : SessionSettings) :
    ModelCatalogState → Except SessionCommandError Unit
  | .loading => .ok ()
  | .failed _ => .ok ()
  | .ready models =>
    match models.find? fun model => model.id == settings.model with
    | none => .error (.modelNotFound settings.model)
    | some model =>
      if model.reasoningEfforts.contains settings.reasoning then .ok ()
      else .error (.unsupportedReasoning settings.model settings.reasoning.asStr)

/-- `title_reasoning`: the lowest effort that the model advertises; `none` is where
one of the two `expect`s fails. -/
def titleReasoning (settings : SessionSettings) : ModelCatalogState → Option ReasoningLevel
  | .loading => some settings.reasoning
  | .failed _ => some settings.reasoning
  | .ready models => do
    let model ← models.find? fun model => model.id == settings.model
    [.none, .minimal, .low, .medium, .high, .xhigh, .max].find? fun reasoning =>
      model.reasoningEfforts.contains reasoning

namespace SessionManager

/-- `SessionManager::new`. -/
def new (store : SessionStore) (activity : ActivityTracker) : SessionManager :=
  ⟨store, activity, [], ∅, [], false⟩

/-! ### Tasks -/

/-- A task as its handlers see it. -/
def session (m : SessionManager) (t : ActorTask) : Session :=
  { t.actor with store := m.store, activity := m.activity, exited := t.exited }

/-- What a handler of a task left behind. -/
def putBack (m : SessionManager) (h : SessionHandle) (s : Session) : SessionManager :=
  { m with
    store := s.store
    activity := s.activity
    tasks := m.tasks.modify h fun t => { t with actor := s.toSessionActor, exited := s.exited } }

/-- A task ends once its actor's loop has. -/
def finish (m : SessionManager) (h : SessionHandle) : SessionManager :=
  { m with tasks := m.tasks.modify h fun t => { t with finished := t.finished || t.exited.isSome } }

/-- A client gets the handle. -/
def share (m : SessionManager) (h : SessionHandle) : SessionManager :=
  { m with tasks := m.tasks.modify h fun t => { t with shared := true } }

/-- The registry holds the handle. -/
def isRegistered (m : SessionManager) (h : SessionHandle) : Bool :=
  m.actors.entries.any fun entry => entry.2 == h

/-- The inputs that reach an actor on their own.  A client sends commands once it
has the handle, but none that steers the actor; the commands channel is not closed
while the registry holds the handle. -/
def admits (m : SessionManager) (h : SessionHandle) (t : ActorTask) : ActorInput → Bool
  | .command c => t.shared && !c.steers
  | .handlesDropped => !m.isRegistered h
  | _ => true

/-- One thing that happens on its own. -/
def background (m : SessionManager) : Background → SessionManager
  | .input h env input =>
    match m.tasks[h]? with
    | none => m
    | some t =>
      if m.admits h t input then m.putBack h ((m.session t).step (env, input)) else m
  | .finished h => m.finish h

/-- The task of a new actor, registered under its identifier. -/
def register (m : SessionManager) (id : SessionId) (s : Session) : SessionManager :=
  { m with
    activity := s.activity
    tasks := m.tasks ++ [⟨s.toSessionActor, false, none, false⟩]
    actors := m.actors.insert id m.tasks.length }

/-! ### Waiting for a reply -/

/-- A repository call of the manager. -/
def call {α : Type} (m : SessionManager) (w : Await)
    (f : Option SessionStoreError → SessionStore → Except SessionStoreError α × SessionStore) :
    Except SessionStoreError α × SessionManager :=
  let m := Run.run background m w.early
  let (result, store) := f w.env.fault m.store
  (result, { m with store := store })

/-- An actor handles a command.  The reply to `finish_delete` and `abort_delete` is
sent after the task is over (`send_terminal_after_run`). -/
def deliver (m : SessionManager) (h : SessionHandle) (t : ActorTask) (w : Await)
    (command : SessionCommand) : Reply × SessionManager :=
  let (reply, s) := (m.session t).handleCommand w.env command
  let m := m.putBack h s
  (reply, if w.finishes || command.isTerminal then m.finish h else m)

/-- A command arrives in the channel of an actor and is answered.  An actor whose
loop ended receives no more commands. -/
def receive (m : SessionManager) (h : SessionHandle) (w : Await) (command : SessionCommand) :
    Except SessionCommandError Reply × SessionManager :=
  match m.tasks[h]? with
  | none => (.error .unavailable, m)
  | some t =>
    if t.exited.isSome then (.error .unavailable, m)
    else
      let (reply, m) := m.deliver h t w command
      (if w.lost then .error .unavailable else .ok reply, m)

/-- `SessionHandle::send` and the wait for the reply. -/
def send (m : SessionManager) (h : SessionHandle) (w : Await) (command : SessionCommand) :
    Except SessionCommandError Reply × SessionManager :=
  (Run.run background m w.early).receive h w command

section Handles

variable (m : SessionManager) (h : SessionHandle) (w : Await)

/-- The handle's commands that are answered with a snapshot. -/
def askSnapshot (command : SessionCommand) :
    Except SessionCommandError SessionSnapshot × SessionManager :=
  match m.send h w command with
  | (.ok (.snapshot result), m) => (result, m)
  | (.ok _, m) => (.error .unavailable, m)
  | (.error error, m) => (.error error, m)

/-- The handle's commands that are answered with success or failure. -/
def askUnit (command : SessionCommand) : Except SessionCommandError Unit × SessionManager :=
  match m.send h w command with
  | (.ok (.unit result), m) => (result, m)
  | (.ok _, m) => (.error .unavailable, m)
  | (.error error, m) => (.error error, m)

/-- `SessionHandle::finish_delete` and `SessionHandle::abort_delete`. -/
def askOutcome (command : SessionCommand) :
    Except SessionCommandError SessionActorOutcome × SessionManager :=
  match m.send h w command with
  | (.ok (.outcome result), m) => (result, m)
  | (.ok _, m) => (.error .unavailable, m)
  | (.error error, m) => (.error error, m)

/-- `SessionHandle::detach`. -/
def askCount (command : SessionCommand) : Except SessionCommandError ℕ × SessionManager :=
  match m.send h w command with
  | (.ok (.count attachedClients), m) => (.ok attachedClients, m)
  | (.ok _, m) => (.error .unavailable, m)
  | (.error error, m) => (.error error, m)

/-- `handle.attach(..)` and `ManagedSession::new`. -/
def attach (connectionId : ConnectionId) (attachmentId : AttachmentId) :
    Except SessionManagerError ManagedSession × SessionManager :=
  match m.askSnapshot h w (.attach connectionId attachmentId) with
  | (.error error, m) => (.error (.session error), m)
  | (.ok snapshot, m) => (.ok ⟨h, snapshot⟩, m.share h)

end Handles

/-! ### Commands -/

/-- `SessionManager::resolve_id`. -/
def resolveId (m : SessionManager) (script : Script) (selector : SessionSelector)
    (cwdForTitle : List UInt8) : Except SessionStoreError SessionId × SessionManager :=
  match selector with
  | .id id => (.ok id, m)
  | .title title =>
    match m.call (script.call .resolve) fun fault store => store.list fault (.project cwdForTitle) with
    | (.error error, m) => (.error error, m)
    | (.ok summaries, m) =>
      let ids := (summaries.filter fun summary => summary.title = title).map fun summary => summary.id
      match ids.mergeSort fun a b => a.value ≤ b.value with
      | [] => (.error (.notFound title.text), m)
      | [id] => (.ok id, m)
      | ids => (.error (.ambiguousTitle title ids), m)

/-- `SessionManager::open`. -/
def openSession (m : SessionManager) (script : Script) (selector : SessionSelector)
    (cwdForName : List UInt8) (connectionId : ConnectionId) (attachmentId : AttachmentId) :
    Except SessionManagerError ManagedSession × SessionManager :=
  match m.resolveId script selector cwdForName with
  | (.error error, m) => (.error (.store error), m)
  | (.ok id, m) =>
    match m.actors.lookup id with
    | some h => m.attach h (script.call .attach) connectionId attachmentId
    | none =>
      match m.call (script.call .load) fun fault store => store.load fault id with
      | (.error error, m) => (.error (.store error), m)
      | (.ok record, m) =>
        match script.factory.create with
        | .error failure => (.error (.runtime failure), m)
        | .ok () =>
          let s := Session.spawn m.store record (.fromRecord record script.factory.catalog) m.activity
          let h := m.tasks.length
          (m.register id s).attach h (script.call .attach) connectionId attachmentId

/-- `SessionManager::draft_defaults`. -/
def draftDefaults (script : Script) (cwd : List UInt8) : DraftDefaults :=
  ⟨cwd, script.factory.defaultSettings, script.factory.catalog⟩

/-- `SessionManager::persist_failed_materialization`. -/
def persistFailedMaterialization (m : SessionManager) (script : Script) (record : SessionRecord)
    (prompt : String) (runId : ℕ) (failure : RunFailureSnapshot) :
    Except SessionStoreError Unit × SessionManager :=
  let record := failedMaterialization record prompt runId failure
  match m.call (script.call .checkpoint) fun fault store => store.checkpoint fault record with
  | (.ok (), m) => (.ok (), m)
  | (.error error, m) =>
    (.error error,
      (m.call (script.call .compensate) fun fault store => store.delete fault record.id).2)

/-- `SessionManager::dispatch_title_task`. -/
def dispatchTitleTask (m : SessionManager) (request : TitleRequest) : SessionManager :=
  { m with activity := m.activity.beginTitleTask, titleTasks := m.titleTasks ++ [request] }

/-- `SessionManager::materialize_and_submit`, from the creation of the row on. -/
def materialize (m : SessionManager) (script : Script) (request : MaterializeSession)
    (reasoning : ReasoningLevel) (connectionId : ConnectionId) (attachmentId : AttachmentId) :
    Except SessionManagerError MaterializedSession × SessionManager :=
  match m.call (script.call .materialize) fun fault store => store.materialize fault request with
  | (.error error, m) => (.error (.store error), m)
  | (.ok record, m) =>
    match script.factory.create with
    | .error failure =>
      match m.persistFailedMaterialization script record request.prompt request.runId
          (startupFailure failure.message failure.retryable) with
      | (.error error, m) => (.error (.store error), m)
      | (.ok (), m) => (.error (.runtime failure), m)
    | .ok () =>
      match Session.spawnMaterialized m.store record (.fromRecord record script.factory.catalog)
          request.prompt m.activity with
      | .error error =>
        match m.persistFailedMaterialization script record request.prompt request.runId
            (startupFailure error.message false) with
        | (.error error, m) => (.error (.store error), m)
        | (.ok (), m) => (.error (.session error), m)
      | .ok s =>
        let h := m.tasks.length
        match (m.register record.id s).attach h (script.call .attach) connectionId attachmentId with
        | (.error error, m) => (.error error, m)
        | (.ok session, m) =>
          (.ok ⟨session, request.runId⟩,
            m.dispatchTitleTask ⟨record.id, request.settings.model, reasoning, request.prompt,
              record.titleRevision⟩)

/-- `SessionManager::materialize_and_submit`. -/
def materializeAndSubmit (m : SessionManager) (script : Script) (cwd : List UInt8) (prompt : String)
    (settings : SessionSettings) (connectionId : ConnectionId) (attachmentId : AttachmentId) :
    Except SessionManagerError MaterializedSession × SessionManager :=
  if (Unicode.trim prompt.toList).isEmpty then (.error (.session .invalidPrompt), m)
  else
    match validateMaterializationSettings settings script.factory.catalog with
    | .error error => (.error (.session error), m)
    | .ok () =>
      match titleReasoning settings script.factory.catalog, fallbackTitle prompt with
      | some reasoning, some title =>
        m.materialize script ⟨cwd, title, settings, prompt, 0, (script.call .materialize).env.now⟩
          reasoning connectionId attachmentId
      | _, _ => (.error .unavailable, { m with stopped := true })

/-- The loop of `SessionManager::list`: the rows, overlaid with the snapshots of
their live actors. -/
def overlay (each : SessionId → Await) : List SessionSummary → SessionManager →
    Except SessionCommandError (List SessionSummary) × SessionManager
  | [], m => (.ok [], m)
  | summary :: summaries, m =>
    match m.actors.lookup summary.id with
    | none =>
      match overlay each summaries m with
      | (.error error, m) => (.error error, m)
      | (.ok summaries, m) => (.ok (summary :: summaries), m)
    | some h =>
      match m.askSnapshot h (each summary.id) .snapshot with
      | (.error error, m) => (.error error, m)
      | (.ok snapshot, m) =>
        let runningJobs :=
          min (snapshot.jobs.countP fun job => job.state = .running) 4294967295
        let summary :=
          { snapshot.summary with
            runningJobs := runningJobs
            running := snapshot.busy || 0 < runningJobs }
        match overlay each summaries m with
        | (.error error, m) => (.error error, m)
        | (.ok summaries, m) => (.ok (summary :: summaries), m)

/-- `SessionManager::list`. -/
def list (m : SessionManager) (script : Script) (scope : SessionListScope) :
    Except SessionManagerError (List SessionSummary) × SessionManager :=
  match m.call (script.call .list) fun fault store => store.list fault scope with
  | (.error error, m) => (.error (.store error), m)
  | (.ok summaries, m) =>
    match overlay script.each summaries m with
    | (.error error, m) => (.error (.session error), m)
    | (.ok summaries, m) =>
      (.ok (summaries.mergeSort fun a b =>
        a.lastActivity < b.lastActivity ||
          (a.lastActivity = b.lastActivity && a.id.value ≤ b.id.value)).reverse, m)

/-- `SessionManager::startup`. -/
def startup (m : SessionManager) (script : Script) (cwd : List UInt8) (connectionId : ConnectionId)
    (attachmentId : AttachmentId) : Except SessionManagerError StartupResult × SessionManager :=
  match m.list script (.project cwd) with
  | (.error error, m) => (.error error, m)
  | (.ok summaries, m) =>
    let handles := (summaries.filter fun summary => summary.running).filterMap fun summary =>
      m.actors.lookup summary.id
    match handles with
    | [] => (.ok (.draft (draftDefaults script cwd)), m)
    | h :: _ =>
      match m.attach h (script.call .attach) connectionId attachmentId with
      | (.error error, m) => (.error error, m)
      | (.ok session, m) => (.ok (.attached session), m)

/-- `SessionManager::rename`. -/
def rename (m : SessionManager) (script : Script) (sessionId : SessionId) (title : SessionTitle) :
    Except SessionManagerError Unit × SessionManager :=
  match m.actors.lookup sessionId with
  | some h =>
    match m.askUnit h (script.call .rename) (.rename title) with
    | (.error error, m) => (.error (.session error), m)
    | (.ok (), m) => (.ok (), m)
  | none =>
    match m.call (script.call .rename) fun fault store => store.rename fault sessionId title with
    | (.error error, m) => (.error (.store error), m)
    | (.ok _, m) => (.ok (), m)

/-- `SessionManager::abort_delete_actor`: the outcome is not looked at. -/
def abortDeleteActor (m : SessionManager) (script : Script) (sessionId : SessionId)
    (h : SessionHandle) : SessionManager :=
  let (_, m) := m.askOutcome h (script.call .abort) .abortDelete
  { m with actors := m.actors.erase sessionId }

/-- `SessionManager::delete` of a session with a live actor. -/
def deleteLive (m : SessionManager) (script : Script) (sessionId : SessionId) (h : SessionHandle) :
    Except SessionManagerError Unit × SessionManager :=
  match m.askUnit h (script.call .prepare) .prepareDelete with
  | (.error error, m) => (.error (.session error), m.abortDeleteActor script sessionId h)
  | (.ok (), m) =>
    match m.call (script.call .delete) fun fault store => store.delete fault sessionId with
    | (.error error, m) => (.error (.store error), m.abortDeleteActor script sessionId h)
    | (.ok (), m) =>
      let (outcome, m) := m.askOutcome h (script.call .finish) .finishDelete
      let m := { m with actors := m.actors.erase sessionId }
      match outcome with
      | .ok .deleted => (.ok (), m)
      | .ok .deleteAborted =>
        (.error (.session (.projection "delete finish returned an aborted outcome")), m)
      | .error error => (.error (.session error), m)

/-- `SessionManager::delete`. -/
def delete (m : SessionManager) (script : Script) (sessionId : SessionId) :
    Except SessionManagerError Unit × SessionManager :=
  match m.actors.lookup sessionId with
  | some h => m.deleteLive script sessionId h
  | none =>
    match m.call (script.call .delete) fun fault store => store.delete fault sessionId with
    | (.error error, m) => (.error (.store error), m)
    | (.ok (), m) => (.ok (), m)

/-- `SessionManager::detach`. -/
def detach (m : SessionManager) (script : Script) (sessionId : SessionId)
    (connectionId : ConnectionId) (attachmentId : AttachmentId) :
    Except SessionManagerError ℕ × SessionManager :=
  match m.actors.lookup sessionId with
  | some h =>
    match m.askCount h (script.call .detach) (.detach connectionId attachmentId) with
    | (.error error, m) => (.error (.session error), m)
    | (.ok attachedClients, m) => (.ok attachedClients, m)
  | none => (.ok 0, m)

/-- One command to the actors of some sessions in turn, and the first error; an
actor that succeeded is `settled`. -/
def visit (each : SessionId → Await) (command : SessionCommand)
    (settled : SessionId → SessionManager → SessionManager) :
    List SessionId → SessionManager → Option SessionCommandError × SessionManager
  | [], m => (none, m)
  | id :: ids, m =>
    match m.actors.lookup id with
    | none => visit each command settled ids m
    | some h =>
      match m.askUnit h (each id) command with
      | (.ok (), m) => visit each command settled ids (settled id m)
      | (.error error, m) => (some error, (visit each command settled ids m).2)

/-- The order in which a loop visits the registered actors: a `HashMap` may use
any. -/
def visitOrder (m : SessionManager) (order : List SessionId) : List SessionId :=
  (order.dedup.filter fun id => m.actors.keys.contains id) ++
    m.actors.keys.filter fun id => !order.contains id

/-- `first_error.map_or(Ok(()), |error| Err(error.into()))`. -/
def firstError : Option SessionCommandError → Except SessionManagerError Unit
  | none => .ok ()
  | some error => .error (.session error)

/-- `SessionManager::detach_connection`. -/
def detachConnection (m : SessionManager) (script : Script) (connectionId : ConnectionId) :
    Except SessionManagerError Unit × SessionManager :=
  let (error, m) := visit script.each (.detachConnection connectionId) (fun _ m => m)
    (m.visitOrder script.order) m
  (firstError error, m)

/-- `SessionManager::flush_actors`. -/
def flushActors (m : SessionManager) (script : Script) :
    Except SessionManagerError Unit × SessionManager :=
  let (error, m) := visit script.each .flush (fun _ m => m) (m.visitOrder script.order) m
  (firstError error, m)

/-- `SessionManager::shutdown_actors`: an actor that stopped leaves the registry. -/
def shutdownActors (m : SessionManager) (script : Script) :
    Except SessionManagerError Unit × SessionManager :=
  let (error, m) := visit script.each .shutdown
    (fun id m => { m with actors := m.actors.erase id }) (m.visitOrder script.order) m
  (firstError error, m)

/-! ### Title tasks -/

/-- `SessionManager::route_title_completion`. -/
def routeTitleCompletion (m : SessionManager) (w : Await) (request : TitleRequest)
    (generated : Except TitleGenerationError String) : SessionManager :=
  match m.actors.lookup request.sessionId with
  | some h => (m.askUnit h w (.applyGeneratedTitle request.expectedRevision generated)).2
  | none => m

/-- One title task ends, its guard is dropped, and its result is routed. -/
def completeTitleTask (m : SessionManager) (ended : TitleEnd) : SessionManager :=
  let index := ended.index % m.titleTasks.length
  match m.titleTasks[index]? with
  | none => m
  | some request =>
    let m :=
      { m with
        activity := m.activity.finishTitleTask
        titleTasks := m.titleTasks.eraseIdx index }
    match ended.generated with
    | none => m
    | some generated => m.routeTitleCompletion ended.await request generated

/-- `SessionManager::drain_title_tasks`, with the number of tasks that are left. -/
def drainTitleTasks (titles : ℕ → TitleEnd) : ℕ → SessionManager → SessionManager
  | 0, m => m
  | n + 1, m => drainTitleTasks titles n (m.completeTitleTask (titles n))

/-- `ManagerCommand::Shutdown`. -/
def shutdown (m : SessionManager) (script : Script) :
    Except SessionManagerError Unit × SessionManager :=
  let m := drainTitleTasks script.titles m.titleTasks.length m
  match m.shutdownActors script with
  | (.ok (), m) => (.ok (), { m with stopped := true })
  | (.error error, m) => (.error error, m)

/-! ### The manager's loop -/

/-- `SessionManager::handle_command`. -/
def handleCommand (m : SessionManager) (script : Script) : ManagerCommand → ManagerReply × SessionManager
  | .startup cwd connectionId attachmentId =>
    let (result, m) := m.startup script cwd connectionId attachmentId
    (.startup result, m)
  | .draftDefaults cwd => (.draftDefaults (.ok (draftDefaults script cwd)), m)
  | .materializeAndSubmit cwd prompt settings connectionId attachmentId =>
    let (result, m) := m.materializeAndSubmit script cwd prompt settings connectionId attachmentId
    (.materialized result, m)
  | .open selector cwdForName connectionId attachmentId =>
    let (result, m) := m.openSession script selector cwdForName connectionId attachmentId
    (.opened result, m)
  | .list scope =>
    let (result, m) := m.list script scope
    (.listed result, m)
  | .rename sessionId title =>
    let (result, m) := m.rename script sessionId title
    (.unit result, m)
  | .delete sessionId =>
    let (result, m) := m.delete script sessionId
    (.unit result, m)
  | .detach sessionId connectionId attachmentId =>
    let (result, m) := m.detach script sessionId connectionId attachmentId
    (.count result, m)
  | .detachConnection connectionId =>
    let (result, m) := m.detachConnection script connectionId
    (.unit result, m)
  | .flushAll =>
    let (result, m) := m.flushActors script
    (.unit result, m)
  | .shutdown =>
    let (result, m) := m.shutdown script
    (.unit result, m)

/-- What happens to the manager next: a command, the end of a title task, or
something that happens on its own. -/
inductive Input where
  | command (script : Script) (command : ManagerCommand)
  | titleCompleted (ended : TitleEnd)
  | background (b : Background)

/-- One turn of `SessionManager::run`, or one thing that happens on its own.  A
manager that stopped takes no more commands. -/
def step (m : SessionManager) : Input → SessionManager
  | .command script command => if m.stopped then m else (m.handleCommand script command).2
  | .titleCompleted ended => if m.stopped then m else m.completeTitleTask ended
  | .background b => m.background b

end SessionManager
end Moh
