/-
# Stable session-domain values

`session/types.rs`, with the model and job values it refers to
(`runtime/rig/codex.rs`: `ReasoningLevel`; `tools/job.rs`: `JobId`, `JobKind`,
`JobState`, `JobRegistryError`).  A `SessionRecord` is the durable state of one session, a
`SessionSnapshot` the state that one attachment starts from, and a
`SessionEventEnvelope` one later change of it.
-/

import Moh.Harness.State
import Moh.Library.Utf8
import Moh.Session.Title

namespace Moh

/-- A globally stable session identifier. -/
structure SessionId where
  value : ℕ
deriving DecidableEq, Repr

/-- Identifies one observer registration within a session actor. -/
structure AttachmentId where
  value : ℕ
deriving DecidableEq, Repr

/-- Identifies all observer registrations owned by one client connection. -/
structure ConnectionId where
  value : ℕ
deriving DecidableEq, Repr

/-- `DateTime<Utc>`, in nanoseconds. -/
abbrev Timestamp := ℤ

/-- `impl Display for SessionId`. -/
def SessionId.display (id : SessionId) : String := "session-" ++ toString id.value

/-- The reasoning efforts a model may accept. -/
inductive ReasoningLevel where
  | none
  | minimal
  | low
  | medium
  | high
  | xhigh
  | max
deriving DecidableEq, Repr

/-- `ReasoningLevel::as_str`. -/
def ReasoningLevel.asStr : ReasoningLevel → String
  | .none => "none"
  | .minimal => "minimal"
  | .low => "low"
  | .medium => "medium"
  | .high => "high"
  | .xhigh => "xhigh"
  | .max => "max"

/-- Durable model settings and latest context usage for a session. -/
structure SessionSettings where
  model : String
  reasoning : ReasoningLevel
  contextTokens : ℕ
deriving DecidableEq, Repr

/-- Persistence scope used when listing durable sessions. -/
inductive SessionListScope where
  | project (cwd : List UInt8)
  | all
deriving DecidableEq, Repr

/-- A stable session lookup selector. -/
inductive SessionSelector where
  | id (id : SessionId)
  | title (title : SessionTitle)
deriving DecidableEq

/-- Complete durable state needed to atomically accept a first prompt. -/
structure MaterializeSession where
  cwd : List UInt8
  title : SessionTitle
  settings : SessionSettings
  prompt : String
  runId : ℕ
  createdAt : Timestamp
deriving DecidableEq

/-- Durable lifecycle state for one submitted turn. -/
inductive TurnStatus where
  | running
  | completed
  | failed
  | cancelled
  | interrupted
deriving DecidableEq, Repr

/-- Durable identity and prompt linkage for one submitted turn. -/
structure DurableTurn where
  ordinal : ℕ
  runId : ℕ
  promptPosition : ℕ
  status : TurnStatus
deriving DecidableEq, Repr

/-- A transport-safe snapshot of a run failure without its error source chain. -/
abbrev RunFailureSnapshot := RunFailure

/-- A committed or process-local transcript entry. -/
inductive TranscriptItem where
  | user (text : String)
  | assistant (text : String)
  | toolStarted (runId : ℕ) (callId name : String) (arguments : Value)
  | failed (runId : ℕ) (failure : RunFailureSnapshot)
  | cancelled (runId : ℕ)

/-- `item == TranscriptItem::User(text)`. -/
def TranscriptItem.isUser (text : String) : TranscriptItem → Bool
  | .user t => t == text
  | _ => false

/-- Complete durable state for one session. -/
structure SessionRecord where
  id : SessionId
  title : SessionTitle
  titleSource : TitleSource
  titleRevision : ℕ
  cwd : List UInt8
  settings : SessionSettings
  transcript : List TranscriptItem
  turns : List DurableTurn
  history : List Message
  plan : List PlanItem
  createdAt : Timestamp
  lastActivity : Timestamp

/-- A session before its first turn. -/
def emptyRecord : SessionRecord where
  id := ⟨1⟩
  title := ⟨"Untitled session", by decide⟩
  titleSource := .fallback
  titleRevision := 0
  cwd := []
  settings := ⟨"model", .medium, 0⟩
  transcript := []
  turns := []
  history := []
  plan := []
  createdAt := 0
  lastActivity := 0

/-- List-facing session state, ready for live actor overlays. -/
structure SessionSummary where
  id : SessionId
  title : SessionTitle
  titleRevision : ℕ
  cwd : List UInt8
  cwdDisplay : List Char
  runningJobs : ℕ
  running : Bool
  busy : Bool
  attachedClients : ℕ
  lastActivity : Timestamp
deriving DecidableEq

/-- A process-local job identifier. -/
abbrev JobId := ℕ

/-- The producer family that owns a job. -/
inductive JobKind where
  | bash
deriving DecidableEq, Repr

/-- The current lifecycle state of a job. -/
inductive JobState where
  | running
  | completed
  | failed
  | cancelled
deriving DecidableEq, Repr

/-- Failures returned by the job registry. -/
inductive JobRegistryError where
  | malformedId
  | notFound (id : JobId)
  | capacity
  | shuttingDown
  | idExhausted
  | alreadySettled (id : JobId)
  | poisoned
  | invariant
  | shutdownTimeout
deriving DecidableEq, Repr

/-- `impl Display for JobId`. -/
def displayJobId (id : JobId) : String := "job-" ++ toString id

/-- `impl Display for JobRegistryError`. -/
def JobRegistryError.message : JobRegistryError → String
  | .malformedId => "malformed job ID"
  | .notFound id => "job " ++ displayJobId id ++ " was not found"
  | .capacity => "background job capacity is exhausted"
  | .shuttingDown => "job registry is shutting down"
  | .idExhausted => "job ID space is exhausted"
  | .alreadySettled id => "job " ++ displayJobId id ++ " is already settled"
  | .poisoned => "job registry state is unavailable"
  | .invariant => "job registry invariant failed"
  | .shutdownTimeout => "job registry shutdown timed out"

/-- `JobId::from_str`: `job-` and the digits of a `u64` without leading zeros. -/
def parseJobId (value : String) : Option JobId :=
  match value.toList with
  | 'j' :: 'o' :: 'b' :: '-' :: digits =>
    if digits.isEmpty || (1 < digits.length && digits.head? == some '0') ||
        digits.any fun c => !('0' ≤ c && c ≤ '9') then none
    else
      let id := digits.foldl (fun n c => 10 * n + (c.toNat - '0'.toNat)) 0
      if id ≤ u64Max then some id else none
  | _ => none

/-- A transport-safe copy of a process-local job snapshot. -/
structure JobSnapshotDto where
  id : String
  kind : JobKind
  state : JobState
  title : String
  startedAt : Timestamp
  completedAt : Option Timestamp
  details : String
deriving DecidableEq, Repr

/-- One selectable model exposed to presentation and transport clients. -/
structure ModelInfoDto where
  id : String
  displayName : String
  description : String
  reasoningEfforts : List ReasoningLevel
  defaultReasoning : Option ReasoningLevel
deriving DecidableEq, Repr

/-- The asynchronous model catalog state visible to session clients. -/
inductive ModelCatalogState where
  | loading
  | ready (models : List ModelInfoDto)
  | failed (message : String)
deriving DecidableEq, Repr

/-- Factory-provided values used by a client before its first prompt is durable. -/
structure DraftDefaults where
  cwd : List UInt8
  settings : SessionSettings
  catalog : ModelCatalogState
deriving DecidableEq, Repr

/-- Process-local detail for the one currently active harness run. -/
structure ActiveRunSnapshot where
  runId : ℕ
  prompt : String
  assistantText : String
deriving DecidableEq, Repr

/-- An authoritative session state sent during attachment. -/
structure SessionSnapshot where
  summary : SessionSummary
  transcript : List TranscriptItem
  activeRun : Option ActiveRunSnapshot
  settings : SessionSettings
  catalog : ModelCatalogState
  plan : List PlanItem
  jobs : List JobSnapshotDto
  persistenceWarning : Option String
  sequence : ℕ
  busy : Bool

/-- A typed state change emitted by a session actor. -/
inductive SessionEvent where
  | titleChanged (title : SessionTitle) (titleRevision : ℕ)
  | started (runId : ℕ) (prompt : String)
  | assistantDelta (runId : ℕ) (text : String)
  | contextUsage (runId inputTokens : ℕ) (lastActivity : Timestamp)
  | toolStarted (runId : ℕ) (callId name : String) (arguments : Value)
  | toolFinished (runId : ℕ) (callId name : String)
  | completed (runId : ℕ) (response : String) (lastActivity : Timestamp)
  | failed (runId : ℕ) (failure : RunFailureSnapshot)
  | cancelled (runId : ℕ)
  | settingsChanged (settings : SessionSettings) (lastActivity : Timestamp)
  | planChanged (plan : List PlanItem)
  | jobsChanged (jobs : List JobSnapshotDto)
  | catalogChanged (catalog : ModelCatalogState)
  | persistenceWarning (warning : Option String)
  | deleted (sessionId : SessionId)

/-- `matches!(event, SessionEvent::Deleted { .. })`. -/
def SessionEvent.isDeleted : SessionEvent → Bool
  | .deleted _ => true
  | _ => false

/-- A sequenced event emitted after a successful projection reduction. -/
structure SessionEventEnvelope where
  sequence : ℕ
  event : SessionEvent

end Moh
