/-
# One session actor

`session/actor.rs`: `SessionActor` and its handlers.  The actor owns the durable
record, the event stream (projection and observers), the harness, the selectors
read when a run starts and the record that is still to be written (`dirty`).  A
`Session` is the actor together with what its handlers act on: the repository and
the activity tracker.

Handlers run one at a time.  What the outside contributes to one of them is its
`Env`: the clock, the failure of its one repository call, the answers of the job
registry, and what polling the engine stream yields is part of the input.  A
handler returns its reply and the session it leaves behind.
-/

import Moh.Backend.Activity
import Moh.Session.Stream

namespace Moh

/-- `SessionActorOutcome`. -/
inductive SessionActorOutcome where
  | deleted
  | deleteAborted
deriving DecidableEq, Repr

/-- `ActorExit`: why the actor's loop ends; `dropped` is the loop's own exit once
every handle is gone. -/
inductive ActorExit where
  | shutdown
  | delete (outcome : SessionActorOutcome)
  | dropped
deriving DecidableEq, Repr

/-- `SessionActor`. -/
structure SessionActor where
  record : SessionRecord
  stream : Stream
  harness : Harness
  activeModel : String
  activeReasoning : ReasoningLevel
  dirty : Option SessionRecord
  shuttingDown : Bool
  deleting : Bool

/-- An actor and what its handlers act on; `exited` is set once its loop ended. -/
structure Session extends SessionActor where
  store : SessionStore
  activity : ActivityTracker
  exited : Option ActorExit

/-- What the outside contributes to one handler. -/
structure Env where
  now : Timestamp
  fault : Option SessionStoreError
  jobsStatus : Except JobRegistryError (List JobSnapshotDto)
  jobsShutdown : Except JobRegistryError Unit
  jobCancel : Except JobRegistryError JobSnapshotDto

/-! ### Durable events -/

/-- `running_turn_mut` followed by an update of the turn it finds: the first
running turn of the run. -/
def updateRunningTurn (runId : ℕ) (f : DurableTurn → DurableTurn) :
    List DurableTurn → Except SessionCommandError (List DurableTurn)
  | [] => .error (durableInvariant
      ("durable running turn " ++ toString runId ++ " was not found"))
  | turn :: turns =>
    if turn.runId = runId ∧ turn.status = .running then .ok (f turn :: turns)
    else
      match updateRunningTurn runId f turns with
      | .error error => .error error
      | .ok turns => .ok (turn :: turns)

/-- Ends the running turn of a run: its status, and one more transcript item. -/
def endTurn (record : SessionRecord) (runId : ℕ) (status : TurnStatus) (item : TranscriptItem) :
    Except SessionCommandError SessionRecord :=
  match updateRunningTurn runId (fun turn => { turn with status := status }) record.turns with
  | .error error => .error error
  | .ok turns => .ok { record with turns := turns, transcript := record.transcript ++ [item] }

/-- `apply_durable_event`. -/
def applyDurableEvent (record : SessionRecord) : SessionEvent → Except SessionCommandError SessionRecord
  | .started runId prompt =>
    if record.turns.any fun turn => turn.status = .running then
      .error (durableInvariant "cannot append a durable turn while another turn is running")
    else if u64Max < record.transcript.length then
      .error (durableInvariant "durable transcript position is exhausted")
    else if u64Max < record.turns.length then
      .error (durableInvariant "durable turn ordinal is exhausted")
    else
      .ok { record with
        transcript := record.transcript ++ [.user prompt]
        turns := record.turns ++
          [⟨record.turns.length, runId, record.transcript.length, .running⟩] }
  | .toolStarted runId callId name arguments =>
    match updateRunningTurn runId id record.turns with
    | .error error => .error error
    | .ok _ =>
      .ok { record with
        transcript := record.transcript ++ [.toolStarted runId callId name arguments] }
  | .completed runId response lastActivity =>
    match endTurn record runId .completed (.assistant response) with
    | .error error => .error error
    | .ok record => .ok { record with lastActivity := lastActivity }
  | .failed runId failure => endTurn record runId .failed (.failed runId failure)
  | .cancelled runId => endTurn record runId .cancelled (.cancelled runId)
  | .assistantDelta _ _ => .ok record
  | .contextUsage _ _ _ => .ok record
  | .toolFinished _ _ _ => .ok record
  | .titleChanged _ _ => .ok record
  | .settingsChanged _ _ => .ok record
  | .planChanged _ => .ok record
  | .jobsChanged _ => .ok record
  | .catalogChanged _ => .ok record
  | .persistenceWarning _ => .ok record
  | .deleted _ => .ok record

/-- `validate_materialized_start`. -/
def validateMaterializedStart (record : SessionRecord) (runId : ℕ) (firstPrompt : String) :
    Except SessionCommandError Unit :=
  match record.turns.filter fun turn => turn.status = .running with
  | [turn] =>
    if turn.runId ≠ runId then
      .error (durableInvariant ("materialized run " ++ toString turn.runId ++
        " does not match harness run " ++ toString runId))
    else
      match record.transcript[turn.promptPosition]? with
      | some item =>
        if item.isUser firstPrompt then .ok ()
        else .error (durableInvariant
          "materialized running turn does not reference the first prompt")
      | none => .error (durableInvariant
          "materialized running turn does not reference the first prompt")
  | _ => .error (durableInvariant "materialized session must contain exactly one running turn")

namespace Session

/-! ### Pieces of the handlers -/

/-- `SessionActor::ensure_not_deleting`. -/
def ensureNotDeleting (s : Session) : Except SessionCommandError Unit :=
  if s.deleting then .error .deleting else .ok ()

/-- `SessionActor::ensure_mutable`. -/
def ensureMutable (s : Session) : Except SessionCommandError Unit :=
  match s.ensureNotDeleting with
  | .error error => .error error
  | .ok () => if s.shuttingDown then .error .unavailable else .ok ()

/-- `SessionActor::ensure_delete_prepared`. -/
def ensureDeletePrepared (s : Session) : Except SessionCommandError Unit :=
  if s.deleting then .ok () else .error (durableInvariant "session deletion was not prepared")

/-- `self.activity.set_run(self.record.id, running)`. -/
def setRun (s : Session) (running : Bool) : Session :=
  { s with activity := s.activity.setRun s.record.id running }

/-- `SessionActor::clear_activity`. -/
def clearActivity (s : Session) : Session :=
  { s with activity := (s.activity.setRun s.record.id false).setRunningJobs s.record.id 0 }

/-- `SessionActor::project` on the stream. -/
def project (s : Session) (event : SessionEvent) :
    Except SessionCommandError (Option SessionEventEnvelope) × Session :=
  let (result, stream) := s.stream.project event
  (result, { s with stream := stream })

/-- `SessionActor::persistence_result`. -/
def persistenceResult (s : Session) (result : Except SessionStoreError Unit) :
    Option (Option String) × Session :=
  match result with
  | .ok () => (s.stream.projection.persistenceWarning.map fun _ => none, { s with dirty := none })
  | .error error => (some (some error.message), { s with dirty := some s.record })

/-- `SessionActor::persist_checkpoint`. -/
def persistCheckpoint (s : Session) (env : Env) : Option (Option String) × Session :=
  let (result, store) := s.store.checkpoint env.fault s.record
  persistenceResult { s with store := store } result

/-- `SessionActor::persist_metadata`: a pending record needs a full checkpoint. -/
def persistMetadata (s : Session) (env : Env) : Option (Option String) × Session :=
  let (result, store) :=
    if s.dirty.isSome then s.store.checkpoint env.fault s.record
    else s.store.updateMetadata env.fault s.record
  persistenceResult { s with store := store } result

/-- Broadcasts the envelope of a change, if it has one, and then the change of
the persistence warning. -/
def announce (s : Session) (envelope : Option SessionEventEnvelope)
    (transition : Option (Option String)) : Session :=
  { s with
    stream := (s.stream.broadcastSome envelope).broadcastPersistenceTransition transition }

/-- The job list of the registry, as `job_snapshots` returns it. -/
def jobSnapshots (env : Env) : Except SessionCommandError (List JobSnapshotDto) :=
  match env.jobsStatus with
  | .ok jobs => .ok jobs
  | .error error => .error (mapJobError error)

/-! ### Handlers -/

/-- `SessionCommand::Attach`. -/
def attach (s : Session) (env : Env) (connectionId : ConnectionId) (attachmentId : AttachmentId) :
    Except SessionCommandError SessionSnapshot × Session :=
  if s.deleting then (.error .deleting, s)
  else
    let stream := s.stream.push connectionId attachmentId
    match jobSnapshots env with
    | .ok jobs => (.ok (stream.attachmentSnapshot jobs), { s with stream := stream })
    | .error error =>
      (.error error, { s with stream := { stream with observers := stream.observers.dropLast } })

/-- `SessionCommand::Snapshot`. -/
def snapshot (s : Session) (env : Env) : Except SessionCommandError SessionSnapshot :=
  match jobSnapshots env with
  | .ok jobs => .ok (s.stream.attachmentSnapshot jobs)
  | .error error => .error error

/-- `SessionActor::submit`. -/
def submit (s : Session) (env : Env) (prompt : String) : Except SessionCommandError ℕ × Session :=
  match s.ensureMutable with
  | .error error => (.error error, s)
  | .ok () =>
    match s.harness.submit prompt ⟨s.record.cwd, s.record.plan⟩ with
    | (.error error, _) => (.error (mapHarnessError error), s)
    | (.ok runId, harness) =>
      let s := { s with harness := harness }
      let event := .started runId prompt
      match applyDurableEvent s.record event with
      | .error error => (.error error, { s with harness := s.harness.cancel.2 })
      | .ok updatedRecord =>
        match s.project event with
        | (.error error, s) => (.error error, { s with harness := s.harness.cancel.2 })
        | (.ok envelope, s) =>
          let (warning, s) := { s with record := updatedRecord }.persistCheckpoint env
          (.ok runId, (s.announce envelope warning).setRun true)

/-- `SessionActor::cancel`. -/
def cancel (s : Session) (env : Env) : Except SessionCommandError Unit × Session :=
  match s.ensureMutable with
  | .error error => (.error error, s)
  | .ok () =>
    match s.harness.cancel with
    | (.error error, _) => (.error (mapHarnessError error), s)
    | (.ok runId, harness) =>
      let s := { s with harness := harness }.setRun false
      let event := .cancelled runId
      match applyDurableEvent s.record event with
      | .error error => (.error error, s)
      | .ok updatedRecord =>
        match s.project event with
        | (.error error, s) => (.error error, s)
        | (.ok envelope, s) =>
          let (warning, s) := { s with record := updatedRecord }.persistCheckpoint env
          (.ok (), s.announce envelope warning)

/-- `SessionActor::install_persisted_title`. -/
def installPersistedTitle (s : Session) (persisted : SessionRecord) :
    Except SessionCommandError Unit × Session :=
  let s :=
    { s with
      record :=
        { s.record with
          title := persisted.title
          titleSource := persisted.titleSource
          titleRevision := persisted.titleRevision } }
  let s := if s.dirty.isSome then { s with dirty := some s.record } else s
  match s.project (.titleChanged persisted.title persisted.titleRevision) with
  | (.error error, s) => (.error error, s)
  | (.ok envelope, s) => (.ok (), { s with stream := s.stream.broadcastSome envelope })

/-- `SessionActor::rename`. -/
def rename (s : Session) (env : Env) (title : SessionTitle) :
    Except SessionCommandError Unit × Session :=
  match s.ensureMutable with
  | .error error => (.error error, s)
  | .ok () =>
    match s.store.rename env.fault s.record.id title with
    | (.error error, store) => (.error (mapStoreError error), { s with store := store })
    | (.ok persisted, store) => { s with store := store }.installPersistedTitle persisted

/-- `SessionActor::apply_generated_title`. -/
def applyGeneratedTitle (s : Session) (env : Env) (expectedRevision : ℕ)
    (generated : Except TitleGenerationError String) : Except SessionCommandError Unit × Session :=
  match s.ensureMutable with
  | .error error => (.error error, s)
  | .ok () =>
    match generated with
    | .error _ => (.ok (), s)
    | .ok generated =>
      match sanitizeGeneratedTitle generated with
      | none => (.ok (), s)
      | some title =>
        match s.store.compareAndSetGeneratedTitle env.fault s.record.id expectedRevision title with
        | (.error error, store) => (.error (mapStoreError error), { s with store := store })
        | (.ok none, store) => (.ok (), { s with store := store })
        | (.ok (some persisted), store) => { s with store := store }.installPersistedTitle persisted

/-- Changes the settings, as `select_model` and `select_reasoning` both do once
the selection is allowed. -/
def changeSettings (s : Session) (env : Env) (settings : SessionSettings) :
    Except SessionCommandError Unit × Session :=
  let s := { s with record := { s.record with settings := settings, lastActivity := env.now } }
  match s.project (.settingsChanged s.record.settings env.now) with
  | (.error error, s) => (.error error, s)
  | (.ok event, s) =>
    let (warning, s) := s.persistMetadata env
    (.ok (), s.announce event warning)

/-- `SessionActor::select_model`. -/
def selectModel (s : Session) (env : Env) (model : String) :
    Except SessionCommandError Unit × Session :=
  match s.ensureMutable with
  | .error error => (.error error, s)
  | .ok () =>
    let known :=
      match s.stream.projection.catalog with
      | .ready models => models.any fun candidate => candidate.id == model
      | .loading => true
      | .failed _ => true
    if known = false then (.error (.modelNotFound model), s)
    else changeSettings { s with activeModel := model } env { s.record.settings with model := model }

/-- `SessionActor::select_reasoning`. -/
def selectReasoning (s : Session) (env : Env) (reasoning : ReasoningLevel) :
    Except SessionCommandError Unit × Session :=
  match s.ensureMutable with
  | .error error => (.error error, s)
  | .ok () =>
    let supported :=
      match s.stream.projection.catalog with
      | .ready models =>
        match models.find? fun model => model.id == s.record.settings.model with
        | some model => model.reasoningEfforts.contains reasoning
        | none => false
      | .loading => false
      | .failed _ => false
    if supported = false then
      (.error (.unsupportedReasoning s.record.settings.model reasoning.asStr), s)
    else
      changeSettings { s with activeReasoning := reasoning } env
        { s.record.settings with reasoning := reasoning }

/-- `SessionActor::cancel_job`: the actor only checks the identifier; the answer
is the registry's. -/
def cancelJob (env : Env) (id : String) : Except SessionCommandError JobSnapshotDto :=
  match parseJobId id with
  | none => .error (.invalidJobId id)
  | some _ =>
    match env.jobCancel with
    | .ok job => .ok job
    | .error error => .error (mapJobError error)

/-- `SessionActor::flush`. -/
def flush (s : Session) (env : Env) : Except SessionCommandError Unit × Session :=
  match s.dirty with
  | none => (.ok (), s)
  | some record =>
    match s.store.checkpoint env.fault record with
    | (.ok (), store) =>
      (.ok (), { s with
        store := store
        dirty := none
        stream := s.stream.broadcastPersistenceTransition (some none) })
    | (.error error, store) =>
      (.error (mapStoreError error), { s with
        store := store
        dirty := some s.record
        stream := s.stream.broadcastPersistenceTransition (some (some error.message)) })

/-- `SessionActor::shutdown`. -/
def shutdown (s : Session) (env : Env) : Except SessionCommandError Unit × Session :=
  match s.flush env with
  | (.error error, s) => (.error error, s)
  | (.ok (), s) =>
    match env.jobsShutdown with
    | .error error => (.error (mapJobError error), s)
    | .ok () => (.ok (), s.clearActivity)

/-- The cancellation of the active run within `prepare_delete`: its envelope, the
first error, and the session. -/
def quiesce (s : Session) :
    Option SessionEventEnvelope × Option SessionCommandError × Session :=
  if s.harness.isRunning = false then (none, none, s)
  else
    match s.harness.cancel with
    | (.error error, _) => (none, some (mapHarnessError error), s)
    | (.ok runId, harness) =>
      let s := { s with harness := harness }.setRun false
      let event := .cancelled runId
      match applyDurableEvent s.record event with
      | .error error => (none, some error, s)
      | .ok updatedRecord =>
        match { s with record := updatedRecord }.project event with
        | (.ok envelope, s) => (envelope, none, s)
        | (.error error, s) => (none, some error, s)

/-- `SessionActor::prepare_delete`. -/
def prepareDelete (s : Session) (env : Env) : Except SessionCommandError Unit × Session :=
  match s.ensureMutable with
  | .error error => (.error error, s)
  | .ok () =>
    let (cancellation, firstError, s) := { s with deleting := true }.quiesce
    let firstError :=
      match firstError, env.jobsShutdown with
      | some error, _ => some error
      | none, .error error => some (mapJobError error)
      | none, .ok () => none
    match s.store.checkpoint env.fault s.record with
    | (.ok (), store) =>
      let transition := s.stream.projection.persistenceWarning.map fun _ => none
      let s := { s with store := store, dirty := none }.announce cancellation transition
      (match firstError with | some error => .error error | none => .ok (), s)
    | (.error error, store) =>
      let s := { s with store := store, dirty := some s.record }.announce cancellation none
      (.error (firstError.getD (mapStoreError error)), s)

/-- `SessionActor::finish_delete`. -/
def finishDelete (s : Session) : Except SessionCommandError Unit × Session :=
  match s.ensureDeletePrepared with
  | .error error => (.error error, s)
  | .ok () =>
    match s.project (.deleted s.record.id) with
    | (.error error, s) => (.error error, s)
    | (.ok none, s) => (.ok (), s.clearActivity)
    | (.ok (some envelope), s) =>
      (.ok (), { s with stream := s.stream.broadcastTerminal envelope }.clearActivity)

/-- `SessionActor::abort_delete`. -/
def abortDelete (s : Session) : Except SessionCommandError Unit × Session :=
  match s.ensureDeletePrepared with
  | .error error => (.error error, s)
  | .ok () => (.ok (), s.clearActivity)

/-- `SessionActor::handle_jobs_changed`. -/
def handleJobsChanged (s : Session) (env : Env) : Session :=
  if s.deleting then s
  else
    match jobSnapshots env with
    | .error _ => s
    | .ok jobs =>
      match s.project (.jobsChanged jobs) with
      | (.ok envelope, s) => { s with stream := s.stream.broadcastSome envelope }
      | (.error _, s) => s

/-- `SessionActor::handle_plan_update`: the answer to the model, and the session. -/
def handlePlanUpdate (s : Session) (env : Env) (plan : List PlanItem)
    (explanation : Option String) : Except PlanToolError PlanUpdateOutcome × Session :=
  match s.stream.projectStrict (.planChanged plan) with
  | (.error _, _) => (.error .runtime, s)
  | (.ok event, stream) =>
    let s := { s with record := { s.record with plan := plan }, stream := stream }
    let (warning, s) := s.persistCheckpoint env
    let durable :=
      match warning with
      | some (some _) => false
      | _ => true
    (.ok ⟨s.record.plan, explanation, durable⟩, s.announce (some event) warning)

/-- `SessionActor::persist_durable_run_event`. -/
def persistDurableRunEvent (s : Session) (env : Env) (event : SessionEvent)
    (commitHistory : Bool) : Session :=
  match applyDurableEvent s.record event with
  | .error _ => s
  | .ok updatedRecord =>
    match s.project event with
    | (.error _, s) => s
    | (.ok envelope, s) =>
      let record :=
        if commitHistory then { updatedRecord with history := s.harness.history }
        else updatedRecord
      let (warning, s) := { s with record := record }.persistCheckpoint env
      s.announce envelope warning

/-- The last arm of `handle_run_event`: an event that changes nothing durable. -/
def passOn (s : Session) (event : SessionEvent) : Session :=
  match s.project event with
  | (.ok envelope, s) => { s with stream := s.stream.broadcastSome envelope }
  | (.error _, s) => s

/-- `SessionActor::handle_run_event`. -/
def handleRunEvent (s : Session) (env : Env) : RunEvent → Session
  | .contextUsage runId inputTokens =>
    let s :=
      { s with
        record :=
          { s.record with
            settings := { s.record.settings with contextTokens := inputTokens }
            lastActivity := env.now } }
    match s.project (.contextUsage runId inputTokens env.now) with
    | (.error _, s) => s
    | (.ok envelope, s) =>
      let (warning, s) := s.persistMetadata env
      s.announce envelope warning
  | .completed runId response =>
    (s.setRun false).persistDurableRunEvent env (.completed runId response env.now) true
  | .toolStarted runId callId name arguments =>
    s.persistDurableRunEvent env (.toolStarted runId callId name arguments) false
  | .failed runId failure => (s.setRun false).persistDurableRunEvent env (.failed runId failure) false
  | .cancelled runId => (s.setRun false).persistDurableRunEvent env (.cancelled runId) false
  | .assistantDelta runId text => s.passOn (.assistantDelta runId text)
  | .toolFinished runId callId name => s.passOn (.toolFinished runId callId name)
  -- `map_run_event` has no event for `Started`: the harness returns it from
  -- `submit` and never from `next_event`.
  | .started _ => s

end Session

/-! ### The actor's loop -/

/-- `SessionCommand`. -/
inductive SessionCommand where
  | attach (connectionId : ConnectionId) (attachmentId : AttachmentId)
  | detach (connectionId : ConnectionId) (attachmentId : AttachmentId)
  | detachConnection (connectionId : ConnectionId)
  | snapshot
  | submit (prompt : String)
  | cancel
  | rename (title : SessionTitle)
  | applyGeneratedTitle (expectedRevision : ℕ) (generated : Except TitleGenerationError String)
  | prepareDelete
  | finishDelete
  | abortDelete
  | selectModel (model : String)
  | selectReasoning (reasoning : ReasoningLevel)
  | listJobs
  | cancelJob (id : String)
  | flush
  | shutdown

/-- The commands that begin or end the life of an actor, which only the session
manager sends. -/
def SessionCommand.steers : SessionCommand → Bool
  | .prepareDelete => true
  | .finishDelete => true
  | .abortDelete => true
  | .shutdown => true
  | _ => false

/-- What a command is answered with. -/
inductive Reply where
  | snapshot (result : Except SessionCommandError SessionSnapshot)
  | count (attachedClients : ℕ)
  | unit (result : Except SessionCommandError Unit)
  | runId (result : Except SessionCommandError ℕ)
  | outcome (result : Except SessionCommandError SessionActorOutcome)
  | jobs (result : Except SessionCommandError (List JobSnapshotDto))
  | job (result : Except SessionCommandError JobSnapshotDto)

/-- `ActorInput`, and what the clients of the observers do with their channels.
A run input carries what polling the engine stream yields. -/
inductive ActorInput where
  | command (command : SessionCommand)
  | run (polled : Option (Except RunFailure EngineEvent))
  | jobsChanged
  | planUpdate (plan : List PlanItem) (explanation : Option String)
  | handlesDropped
  | recv (token : ℕ)
  | closeReceiver (token : ℕ)

namespace Session

/-- The end of the loop: the job monitor stops and the observers are dropped. -/
def exit (s : Session) (reason : ActorExit) : Session :=
  { s with stream := s.stream.clear .actorExited, exited := some reason }

/-- `SessionActor::handle_command`. -/
def handleCommand (s : Session) (env : Env) : SessionCommand → Reply × Session
  | .attach connectionId attachmentId =>
    let (result, s) := s.attach env connectionId attachmentId
    (.snapshot result, s)
  | .detach connectionId attachmentId =>
    let s := { s with stream := s.stream.detach connectionId attachmentId }
    (.count s.stream.attachedClientCount, s)
  | .detachConnection connectionId =>
    (.unit (.ok ()), { s with stream := s.stream.detachConnection connectionId })
  | .snapshot => (.snapshot (s.snapshot env), s)
  | .submit prompt =>
    let (result, s) := s.submit env prompt
    (.runId result, s)
  | .cancel =>
    let (result, s) := s.cancel env
    (.unit result, s)
  | .rename title =>
    let (result, s) := s.rename env title
    (.unit result, s)
  | .applyGeneratedTitle expectedRevision generated =>
    let (result, s) := s.applyGeneratedTitle env expectedRevision generated
    (.unit result, s)
  | .prepareDelete =>
    let (result, s) := s.prepareDelete env
    (.unit result, s)
  | .finishDelete =>
    match s.finishDelete with
    | (.ok (), s) => (.outcome (.ok .deleted), s.exit (.delete .deleted))
    | (.error error, s) => (.outcome (.error error), s)
  | .abortDelete =>
    match s.abortDelete with
    | (.ok (), s) => (.outcome (.ok .deleteAborted), s.exit (.delete .deleteAborted))
    | (.error error, s) => (.outcome (.error error), s)
  | .selectModel model =>
    let (result, s) := s.selectModel env model
    (.unit result, s)
  | .selectReasoning reasoning =>
    let (result, s) := s.selectReasoning env reasoning
    (.unit result, s)
  | .listJobs =>
    match s.ensureMutable with
    | .error error => (.jobs (.error error), s)
    | .ok () => (.jobs (jobSnapshots env), s)
  | .cancelJob id =>
    match s.ensureMutable with
    | .error error => (.job (.error error), s)
    | .ok () => (.job (cancelJob env id), s)
  | .flush =>
    match s.ensureNotDeleting with
    | .error error => (.unit (.error error), s)
    | .ok () =>
      let (result, s) := s.flush env
      (.unit result, s)
  | .shutdown =>
    match s.ensureNotDeleting with
    | .error error => (.unit (.error error), s)
    | .ok () =>
      match { s with shuttingDown := true }.shutdown env with
      | (.ok (), s) => (.unit (.ok ()), s.exit .shutdown)
      | (.error error, s) => (.unit (.error error), s)

/-- One turn of the loop of `SessionActor::run`, or one move of a client on its
channel.  An actor whose loop ended takes no more inputs. -/
def step (s : Session) (input : Env × ActorInput) : Session :=
  match input.2 with
  | .recv token => { s with stream := s.stream.recv token }
  | .closeReceiver token => { s with stream := s.stream.close token }
  | input' =>
    if s.exited.isSome then s
    else
      match input' with
      | .command command => (s.handleCommand input.1 command).2
      | .run polled =>
        match s.harness.nextEvent polled with
        | (none, _) => s
        | (some event, harness) => { s with harness := harness }.handleRunEvent input.1 event
      | .jobsChanged => s.handleJobsChanged input.1
      | .planUpdate plan explanation => (s.handlePlanUpdate input.1 plan explanation).2
      | .handlesDropped =>
        if s.harness.isRunning then s
        else
          match input.1.jobsShutdown with
          | .ok () => s.clearActivity.exit .dropped
          | .error _ => s.exit .dropped
      | .recv _ => s
      | .closeReceiver _ => s

/-! ### Starting an actor -/

/-- `spawn_actor`: the actor's first state.  The registry of a new bundle runs no
jobs. -/
def spawnActor (store : SessionStore) (record : SessionRecord) (projection : SessionProjection)
    (harness : Harness) (activity : ActivityTracker) : Session where
  record := record
  stream := .new projection
  harness := harness
  activeModel := record.settings.model
  activeReasoning := record.settings.reasoning
  dirty := none
  shuttingDown := false
  deleting := false
  store := store
  activity := activity.setRunningJobs record.id 0
  exited := none

/-- `SessionHandle::spawn`. -/
def spawn (store : SessionStore) (record : SessionRecord) (projection : SessionProjection)
    (activity : ActivityTracker) : Session :=
  spawnActor store record projection (Harness.withHistory record.history) activity

/-- `SessionHandle::spawn_materialized`. -/
def spawnMaterialized (store : SessionStore) (record : SessionRecord)
    (projection : SessionProjection) (firstPrompt : String) (activity : ActivityTracker) :
    Except SessionCommandError Session :=
  match (Harness.withHistory record.history).submit firstPrompt ⟨record.cwd, record.plan⟩ with
  | (.error error, _) => .error (mapHarnessError error)
  | (.ok runId, harness) =>
    match validateMaterializedStart record runId firstPrompt with
    | .error error => .error error
    | .ok () =>
      match projection.installPersistedStarted runId firstPrompt with
      | .error error => .error (mapProjectionError error)
      | .ok projection =>
        .ok (spawnActor store record projection harness (activity.setRun record.id true))

end Session
end Moh
