/-
# The client's reduction of session events

`client/workspace.rs` (`apply_session_event`, `apply_projection_update`) keeps a
copy of a session by its own reduction of the events, written apart from the
server's `SessionProjection`.  Started from an attachment snapshot it accepts
every envelope the server emits and agrees with the server's snapshot after each
of them (`applySessionEvent_agrees`); an envelope out of sequence is rejected and
changes nothing.  The client counts running jobs itself, from the job list it
received, so that `jobs`, `running_jobs` and `running` are its own.
-/

import Moh.Library.Run
import Moh.Rpc.Client
import Moh.Session.Projection

namespace Moh

/-- A client-session failure with its display message. -/
structure ClientSessionError where
  message : String
  backendStarting : Bool := false
deriving DecidableEq, Repr

/-- `u32::try_from(count).unwrap_or(u32::MAX)`. -/
def saturateU32 (count : ℕ) : ℕ := min count 4294967295

/-- Running jobs of a job list, as both sides count them. -/
def runningJobCount (jobs : List JobSnapshotDto) : ℕ :=
  saturateU32 (jobs.filter fun job => job.state == .running).length

namespace Client

/-- `refresh_running_summary`. -/
def refreshRunningSummary (projection : SessionSnapshot) : SessionSnapshot :=
  { projection with
    summary :=
      { projection.summary with
        runningJobs := runningJobCount projection.jobs
        running := projection.activeRun.isSome || 0 < runningJobCount projection.jobs } }

/-- The run check that `validate_event_run` makes for an event of run `runId`. -/
def validateRunId (projection : SessionSnapshot) (runId : ℕ) : Except ClientSessionError Unit :=
  match projection.activeRun with
  | some active =>
    if active.runId = runId then .ok ()
    else .error { message := "session event run identifier does not match" }
  | none => .error { message := "session run event arrived while idle" }

/-- `validate_event_run`. -/
def validateEventRun (projection : SessionSnapshot) :
    SessionEvent → Except ClientSessionError Unit
  | .started _ _ =>
    if projection.activeRun.isSome then
      .error { message := "a run started while another was active" }
    else .ok ()
  | .titleChanged _ _ => .ok ()
  | .settingsChanged _ _ => .ok ()
  | .jobsChanged _ => .ok ()
  | .planChanged _ => .ok ()
  | .catalogChanged _ => .ok ()
  | .persistenceWarning _ => .ok ()
  | .deleted _ => .error { message := "deleted session event requires startup fallback" }
  | .assistantDelta runId _ => validateRunId projection runId
  | .contextUsage runId _ _ => validateRunId projection runId
  | .toolStarted runId _ _ _ => validateRunId projection runId
  | .toolFinished runId _ _ => validateRunId projection runId
  | .completed runId _ _ => validateRunId projection runId
  | .failed runId _ => validateRunId projection runId
  | .cancelled runId => validateRunId projection runId

/-- The end of a run in the client's copy. -/
def endRun (projection : SessionSnapshot) (item : TranscriptItem) : SessionSnapshot :=
  { projection with
    transcript := projection.transcript ++ [item]
    activeRun := none
    busy := false
    summary := { projection.summary with busy := false } }

/-- The `match` of `apply_session_event`; the error is the arm of a deletion. -/
def reduceEvent (projection : SessionSnapshot) :
    SessionEvent → Except ClientSessionError SessionSnapshot
  | .titleChanged title titleRevision =>
    .ok { projection with
      summary := { projection.summary with title := title, titleRevision := titleRevision } }
  | .started runId prompt =>
    .ok <| refreshRunningSummary { projection with
      transcript := projection.transcript ++ [.user prompt]
      activeRun := some ⟨runId, prompt, ""⟩
      busy := true
      summary := { projection.summary with busy := true } }
  | .assistantDelta _ text =>
    .ok { projection with
      activeRun := projection.activeRun.map fun active =>
        { active with assistantText := active.assistantText ++ text } }
  | .contextUsage _ inputTokens lastActivity =>
    .ok { projection with
      settings := { projection.settings with contextTokens := inputTokens }
      summary := { projection.summary with lastActivity := lastActivity } }
  | .toolStarted runId callId name arguments =>
    .ok { projection with
      transcript := projection.transcript ++ [.toolStarted runId callId name arguments] }
  | .toolFinished _ _ _ => .ok projection
  | .completed _ response lastActivity =>
    let ended := endRun projection (.assistant response)
    .ok <| refreshRunningSummary
      { ended with summary := { ended.summary with lastActivity := lastActivity } }
  | .failed runId failure => .ok <| refreshRunningSummary (endRun projection (.failed runId failure))
  | .cancelled runId => .ok <| refreshRunningSummary (endRun projection (.cancelled runId))
  | .settingsChanged settings lastActivity =>
    .ok { projection with
      settings := settings
      summary := { projection.summary with lastActivity := lastActivity } }
  | .jobsChanged jobs => .ok <| refreshRunningSummary { projection with jobs := jobs }
  | .planChanged plan => .ok { projection with plan := plan }
  | .catalogChanged catalog => .ok { projection with catalog := catalog }
  | .persistenceWarning warning => .ok { projection with persistenceWarning := warning }
  | .deleted _ => .error { message := "deleted session event requires startup fallback" }

/-- `apply_session_event`: the result, and the projection it leaves behind. -/
def applySessionEvent (projection : SessionSnapshot) (envelope : SessionEventEnvelope) :
    Except ClientSessionError Unit × SessionSnapshot :=
  if checkedSucc projection.sequence ≠ some envelope.sequence then
    (.error { message := "session event sequence is not contiguous" }, projection)
  else
    match validateEventRun projection envelope.event with
    | .error error => (.error error, projection)
    | .ok () =>
      match reduceEvent projection envelope.event with
      | .error error => (.error error, projection)
      | .ok next => (.ok (), { next with sequence := envelope.sequence })

/-- The envelopes of a stream, up to the first one that is rejected. -/
def applySessionEvents : SessionSnapshot → List SessionEventEnvelope →
    Except ClientSessionError Unit × SessionSnapshot :=
  Run.consumeAll applySessionEvent

/-! ### Updates of the presented chat -/

/-- Ephemeral chat state that has not created durable session identity. -/
structure DraftState where
  cwd : List UInt8
  settings : SessionSettings
  catalog : ModelCatalogState
deriving DecidableEq, Repr

/-- The one chat currently presented by the terminal client. -/
inductive ChatProjection where
  | draft (state : DraftState)
  | session (snapshot : SessionSnapshot)

/-- `validate_snapshot`. -/
def validateSnapshot (snapshot : SessionSnapshot) : Except ClientSessionError Unit :=
  if snapshot.busy != snapshot.summary.busy || snapshot.busy != snapshot.activeRun.isSome then
    .error { message := "replacement snapshot has inconsistent busy state" }
  else .ok ()

/-- `apply_projection_update`: an event is applied to a copy, which replaces the
projection only when it was accepted. -/
def applyProjectionUpdate (projection : ChatProjection) (update : Rpc.SessionUpdate) :
    Except ClientSessionError Unit × ChatProjection :=
  match projection with
  | .draft _ =>
    (.error { message := "received a session update while presenting a draft" }, projection)
  | .session current =>
    match update with
    | .snapshotReplaced snapshot =>
      match validateSnapshot snapshot with
      | .error error => (.error error, projection)
      | .ok () => (.ok (), .session snapshot)
    | .event envelope =>
      match applySessionEvent current envelope with
      | (.error error, _) => (.error error, projection)
      | (.ok (), next) => (.ok (), .session next)
    | .warning _ => (.ok (), projection)
    | .deleted _ _ =>
      (.error { message := "deleted session update requires startup fallback" }, projection)

/-! ### Agreement with the server -/

/-- The client's copy agrees with a snapshot of the server on everything but the
jobs, the two counts derived from registrations (`running_jobs`,
`attached_clients`) and the running flag computed from them. -/
structure Agrees (server client : SessionSnapshot) : Prop where
  transcript : client.transcript = server.transcript
  activeRun : client.activeRun = server.activeRun
  settings : client.settings = server.settings
  catalog : client.catalog = server.catalog
  plan : client.plan = server.plan
  persistenceWarning : client.persistenceWarning = server.persistenceWarning
  sequence : client.sequence = server.sequence
  busy : client.busy = server.busy
  title : client.summary.title = server.summary.title
  titleRevision : client.summary.titleRevision = server.summary.titleRevision
  lastActivity : client.summary.lastActivity = server.summary.lastActivity
  summaryBusy : client.summary.busy = server.summary.busy

/-- Two checks, one verdict: the client accepts the run of an event exactly when
the server does, deletion aside. -/
theorem validateEventRun_of_validateEvent {p : SessionProjection} {client : SessionSnapshot}
    {event : SessionEvent} (hrun : client.activeRun = p.activeRun)
    (hd : event.isDeleted = false) (hv : p.validateEvent event = .ok ()) :
    validateEventRun client event = .ok () := by
  have hid : ∀ runId, p.validateRunId runId = .ok () → validateRunId client runId = .ok () := by
    intro runId h
    unfold validateRunId
    unfold SessionProjection.validateRunId at h
    rw [hrun]
    cases hp : p.activeRun with
    | none => simp [hp] at h
    | some active =>
      simp only [hp] at h ⊢
      split_ifs at h ⊢
      rfl
  cases event with
  | started runId prompt =>
    cases hp : p.activeRun with
    | none => simp [validateEventRun, hrun, hp]
    | some active => simp [SessionProjection.validateEvent, hp] at hv
  | deleted id => simp [SessionEvent.isDeleted] at hd
  | assistantDelta runId text => exact hid runId hv
  | contextUsage runId tokens time => exact hid runId hv
  | toolStarted runId callId name arguments => exact hid runId hv
  | toolFinished runId callId name => exact hid runId hv
  | completed runId response time => exact hid runId hv
  | failed runId failure => exact hid runId hv
  | cancelled runId => exact hid runId hv
  | _ => rfl

/-- The two reductions of one event agree. -/
theorem reduceEvent_agrees {p : SessionProjection} {client : SessionSnapshot}
    {event : SessionEvent} (jobs : List JobSnapshotDto) (h : Agrees (p.snapshot jobs) client)
    (hd : event.isDeleted = false) :
    ∃ next, reduceEvent client event = .ok next ∧
      Agrees (SessionProjection.snapshot { p.reduce event with sequence := p.sequence + 1 } jobs)
        { next with sequence := p.sequence + 1 } := by
  obtain ⟨h₁, h₂, h₃, h₄, h₅, h₆, h₇, h₈, h₉, h₁₀, h₁₁, h₁₂⟩ := h
  cases event with
  | deleted id => simp [SessionEvent.isDeleted] at hd
  | _ =>
    refine ⟨_, rfl, ?_⟩
    constructor <;>
      simp_all [SessionProjection.snapshot, SessionProjection.reduce, refreshRunningSummary, endRun]

/-- One step of the simulation: the client accepts what the server emits. -/
theorem applySessionEvent_of_apply {p p' : SessionProjection} {client : SessionSnapshot}
    {event : SessionEvent} {envelope : SessionEventEnvelope} (jobs : List JobSnapshotDto)
    (h : Agrees (p.snapshot jobs) client) (hd : event.isDeleted = false)
    (ha : p.apply event = .ok (envelope, p')) :
    ∃ next, applySessionEvent client envelope = (.ok (), next) ∧ Agrees (p'.snapshot jobs) next := by
  obtain ⟨hlt, hv, rfl, rfl⟩ := SessionProjection.apply_eq_ok_iff.1 ha
  have hs : client.sequence = p.sequence := h.sequence
  have hrun : validateEventRun client event = .ok () :=
    validateEventRun_of_validateEvent h.activeRun hd hv
  obtain ⟨next, hnext, hagree⟩ := reduceEvent_agrees jobs h hd
  refine ⟨{ next with sequence := p.sequence + 1 }, ?_, hagree⟩
  have hseq : checkedSucc client.sequence = some (p.sequence + 1) :=
    checkedSucc_eq_some_iff.2 ⟨hs ▸ hlt, by rw [hs]⟩
  simp only [applySessionEvent, hseq, ne_eq, not_true_eq_false, if_false, hrun, hnext]

/-- The snapshot one attachment starts from: the projection's, with the jobs and
the number of attached clients of that moment. -/
def attachSnapshot (p : SessionProjection) (jobs : List JobSnapshotDto) (attachedClients : ℕ) :
    SessionSnapshot :=
  { p.snapshot jobs with
    summary := { (p.snapshot jobs).summary with attachedClients := attachedClients } }

/-- **Client and server reducers agree.**  Whatever events the server accepts
after an attachment, deletion aside, the client accepts each of their envelopes
and then agrees with the server's snapshot; an envelope that does not carry the
next sequence number is rejected and changes nothing, in the snapshot and in the
presented chat. -/
theorem applySessionEvent_agrees :
    (∀ (p p' : SessionProjection) (jobs : List JobSnapshotDto) (attachedClients : ℕ)
        (events : List SessionEvent) (envelopes : List SessionEventEnvelope),
      (∀ event ∈ events, event.isDeleted = false) →
      Run.produceAll SessionProjection.apply p events = .ok (envelopes, p') →
      ∃ client, applySessionEvents (attachSnapshot p jobs attachedClients) envelopes =
          (.ok (), client) ∧ Agrees (p'.snapshot jobs) client) ∧
      ∀ (client : SessionSnapshot) (envelope : SessionEventEnvelope),
        envelope.sequence ≠ client.sequence + 1 →
        (∃ error, applySessionEvent client envelope = (.error error, client)) ∧
          ∃ error, applyProjectionUpdate (.session client) (.event envelope) =
            (.error error, .session client) := by
  refine ⟨fun p p' jobs attachedClients events envelopes hd h => ?_, fun client envelope h => ?_⟩
  · have hstart : Agrees (p.snapshot jobs) (attachSnapshot p jobs attachedClients) := by
      constructor <;> rfl
    exact Run.consumeAll_of_produceAll
      (R := fun p client => Agrees (SessionProjection.snapshot p jobs) client)
      (fun hR hG hp => applySessionEvent_of_apply jobs hR hG hp) hstart hd h
  · have hseq : checkedSucc client.sequence ≠ some envelope.sequence := fun hs =>
      h (checkedSucc_eq_some_iff.1 hs).2
    let error : ClientSessionError := { message := "session event sequence is not contiguous" }
    have hreject : applySessionEvent client envelope = (.error error, client) := by
      rw [applySessionEvent, if_pos hseq]
    exact ⟨⟨error, hreject⟩, error, by simp only [applyProjectionUpdate, hreject]⟩

/-- The projection of an empty session. -/
def emptyProjection : SessionProjection := .fromRecord emptyRecord .loading

/-- `applySessionEvent_agrees` on one run, and on an envelope that skips two
numbers. -/
theorem applySessionEvent_agrees_run :
    (∃ p client, Run.produceAll SessionProjection.apply emptyProjection
        [.started 0 "hello", .assistantDelta 0 "hi", .completed 0 "hi there" 5] =
          .ok ([⟨1, .started 0 "hello"⟩, ⟨2, .assistantDelta 0 "hi"⟩,
            ⟨3, .completed 0 "hi there" 5⟩], p) ∧
      applySessionEvents (attachSnapshot emptyProjection [] 1)
        [⟨1, .started 0 "hello"⟩, ⟨2, .assistantDelta 0 "hi"⟩, ⟨3, .completed 0 "hi there" 5⟩] =
          (.ok (), client) ∧ Agrees (p.snapshot []) client) ∧
      ∃ error, applySessionEvent (attachSnapshot emptyProjection [] 1) ⟨3, .cancelled 0⟩ =
        (.error error, attachSnapshot emptyProjection [] 1) := by
  have hrun : Run.produceAll SessionProjection.apply emptyProjection
      [.started 0 "hello", .assistantDelta 0 "hi", .completed 0 "hi there" 5] =
        .ok ([⟨1, .started 0 "hello"⟩, ⟨2, .assistantDelta 0 "hi"⟩,
          ⟨3, .completed 0 "hi there" 5⟩], _) := rfl
  obtain ⟨client, hclient, hagree⟩ :=
    applySessionEvent_agrees.1 _ _ [] 1 _ _ (by simp [SessionEvent.isDeleted]) hrun
  exact ⟨⟨_, client, hrun, hclient, hagree⟩, (applySessionEvent_agrees.2 _ _ (by decide)).1⟩

end Client
end Moh
