/-
# The messages of the protocol

`schema/moh.capnp`, as the generated accessors of Cap'n Proto present it: the structs
that a session snapshot and an event envelope are made of.  Reading a pointer can fail
(`Pointer`), an enumerant or the member of a union can be one that this build does not
know (`Enumerant`), and a text is bytes that need not be UTF-8.  A struct holds what
was set in its builder; a field that was not set has the schema's default.
-/

import Mathlib.Data.Nat.Notation

namespace Moh
namespace Wire

/-! ### Fields -/

/-- `capnp::Result`: what following a pointer yields. -/
abbrev Pointer (α : Type) := Except String α

/-- `Result<E, NotInSchema>`: an enumerant, or the member of a union. -/
abbrev Enumerant (α : Type) := Except ℕ α

/-- `capnp::text::Reader`: the bytes without their terminator. -/
abbrev Text := List UInt8

/-- `capnp::data::Reader`. -/
abbrev Data := List UInt8

/-! ### Enumerations -/

inductive ReasoningLevel where
  | none
  | minimal
  | low
  | medium
  | high
  | xhigh
  | max
deriving DecidableEq, Repr

inductive PlanStatus where
  | pending
  | inProgress
  | completed
  | blocked
  | cancelled
deriving DecidableEq, Repr

inductive JobKind where
  | bash
deriving DecidableEq, Repr

inductive JobState where
  | running
  | completed
  | failed
  | cancelled
deriving DecidableEq, Repr

inductive RunStage where
  | startup
  | modelRequest
  | toolExecution
  | finalization
deriving DecidableEq, Repr

inductive RunFailureKind where
  | authentication
  | transport
  | httpRejected
  | protocol
  | emptyResponse
  | budgetExhausted
  | runtimeInfrastructure
  | toolInfrastructure
deriving DecidableEq, Repr

/-! ### Parts of a session -/

structure SessionSettings where
  model : Pointer Text
  reasoning : Enumerant ReasoningLevel
  contextTokens : ℕ

structure PlanItem where
  step : Pointer Text
  status : Enumerant PlanStatus

structure SessionSummary where
  id : Pointer Text
  title : Pointer Text
  cwd : Pointer Data
  cwdDisplay : Pointer Text
  titleRevision : ℕ
  busy : Bool
  attachedClients : ℕ
  lastActivity : Pointer Text
  running : Bool
  runningJobs : ℕ

structure ActiveRun where
  runId : ℕ
  prompt : Pointer Text
  assistantText : Pointer Text

structure ToolStartedRecord where
  runId : ℕ
  callId : Pointer Text
  name : Pointer Text
  argumentsJson : Pointer Text

structure RunFailure where
  stage : Enumerant RunStage
  kind : Enumerant RunFailureKind
  hasHttpStatus : Bool := false
  httpStatus : UInt16 := 0
  retryable : Bool
  message : Pointer Text

/-- `FailedRecord`, and the event `RunFailed` of the same fields. -/
structure FailedRecord where
  runId : ℕ
  failure : Pointer RunFailure

/-- The union of `TranscriptItem`. -/
inductive TranscriptItem where
  | user (text : Pointer Text)
  | assistant (text : Pointer Text)
  | toolStarted (tool : Pointer ToolStartedRecord)
  | failed (failed : Pointer FailedRecord)
  | cancelledRunId (runId : ℕ)

structure ModelInfo where
  id : Pointer Text
  displayName : Pointer Text
  description : Pointer Text
  reasoningEfforts : Pointer (List (Enumerant ReasoningLevel))
  hasDefaultReasoning : Bool := false
  defaultReasoning : Enumerant ReasoningLevel := .ok .none

/-- The union of `ModelCatalog`. -/
inductive ModelCatalog where
  | loading
  | ready (models : Pointer (List ModelInfo))
  | failed (message : Pointer Text)

structure JobSnapshot where
  id : Pointer Text
  kind : Enumerant JobKind
  state : Enumerant JobState
  title : Pointer Text
  startedAt : Pointer Text
  completedAt : Pointer Text
  details : Pointer Text

/-- `activeRun` is `none` where `hasActiveRun` is false. -/
structure SessionSnapshot where
  summary : Pointer SessionSummary
  transcript : Pointer (List (Enumerant TranscriptItem))
  activeRun : Option (Pointer ActiveRun)
  settings : Pointer SessionSettings
  catalog : Pointer (Enumerant ModelCatalog)
  plan : Pointer (List PlanItem)
  jobs : Pointer (List JobSnapshot)
  persistenceWarning : Pointer Text
  sequence : ℕ
  busy : Bool

/-! ### Events -/

structure RunStarted where
  runId : ℕ
  prompt : Pointer Text

structure AssistantDelta where
  runId : ℕ
  text : Pointer Text

structure ContextUsage where
  runId : ℕ
  inputTokens : ℕ
  lastActivity : Pointer Text

structure ToolFinished where
  runId : ℕ
  callId : Pointer Text
  name : Pointer Text

structure RunCompleted where
  runId : ℕ
  response : Pointer Text
  lastActivity : Pointer Text

structure SettingsChanged where
  settings : Pointer SessionSettings
  lastActivity : Pointer Text

structure TitleChanged where
  title : Pointer Text
  titleRevision : ℕ

structure SessionDeleted where
  sessionId : Pointer Text

/-- The union of `EventEnvelope`. -/
inductive Event where
  | started (event : Pointer RunStarted)
  | assistantDelta (event : Pointer AssistantDelta)
  | contextUsage (event : Pointer ContextUsage)
  | toolStarted (event : Pointer ToolStartedRecord)
  | toolFinished (event : Pointer ToolFinished)
  | completed (event : Pointer RunCompleted)
  | failed (event : Pointer FailedRecord)
  | cancelledRunId (runId : ℕ)
  | settingsChanged (event : Pointer SettingsChanged)
  | jobsChanged (jobs : Pointer (List JobSnapshot))
  | catalogChanged (catalog : Pointer (Enumerant ModelCatalog))
  | persistenceWarning (warning : Pointer Text)
  | titleChanged (event : Pointer TitleChanged)
  | deleted (event : Pointer SessionDeleted)
  | planChanged (plan : Pointer (List PlanItem))

structure EventEnvelope where
  sequence : ℕ
  event : Enumerant Event

end Wire
end Moh
