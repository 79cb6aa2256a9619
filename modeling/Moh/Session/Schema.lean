/-
# The tables of the session store

`session/store.rs`: `SESSION_SCHEMA`, and the conversions between the values of the
session domain and the columns of a row.  A record is spread over five tables; the
rows of one session are decoded by `storedRecord`, `decodeMessage`,
`storedTranscriptItem`, `decodeTurn` and `decodePlanItem`, and encoded by their
counterparts.  Timestamps and JSON are read and printed by libraries (`Codec`).
-/

import Moh.Library.Table
import Moh.Library.Transaction
import Moh.Session.Store
import Mathlib.Algebra.Group.Int.Defs
import Mathlib.Algebra.Group.Nat.Defs

namespace Moh

/-! ### Names in columns -/

/-- `TitleSource::as_stored`. -/
def TitleSource.asStored : TitleSource → String
  | .fallback => "fallback"
  | .generated => "generated"
  | .manual => "manual"

/-- `TitleSource::from_stored`. -/
def TitleSource.fromStored (value : String) : Option TitleSource :=
  if value = "fallback" then some .fallback
  else if value = "generated" then some .generated
  else if value = "manual" then some .manual
  else none

/-- `ReasoningLevel::parse`. -/
def ReasoningLevel.parse (value : String) : Option ReasoningLevel :=
  if value = "none" then some .none
  else if value = "minimal" then some .minimal
  else if value = "low" then some .low
  else if value = "medium" then some .medium
  else if value = "high" then some .high
  else if value = "xhigh" then some .xhigh
  else if value = "max" then some .max
  else none

/-- `PlanStatus::as_str`. -/
def PlanStatus.asStr : PlanStatus → String
  | .pending => "pending"
  | .inProgress => "in_progress"
  | .completed => "completed"
  | .blocked => "blocked"
  | .cancelled => "cancelled"

/-- `PlanStatus::from_str`. -/
def PlanStatus.fromStr (value : String) : Option PlanStatus :=
  if value = "pending" then some .pending
  else if value = "in_progress" then some .inProgress
  else if value = "completed" then some .completed
  else if value = "blocked" then some .blocked
  else if value = "cancelled" then some .cancelled
  else none

/-- `PlanItem::parse`. -/
def PlanItem.parse (step : String) (status : PlanStatus) : Option PlanItem :=
  if PlanItem.validate ⟨step, status⟩ then some ⟨step, status⟩ else none

/-- What the store prints and reads with `chrono` and `serde_json`. -/
structure Codec where
  formatTimestamp : Timestamp → String
  parseTimestamp : String → Option Timestamp
  formatJson : Value → String
  parseJson : String → Option Value

@[simp] theorem TitleSource.fromStored_asStored (source : TitleSource) :
    TitleSource.fromStored source.asStored = some source := by
  cases source <;> rfl

@[simp] theorem ReasoningLevel.parse_asStr (level : ReasoningLevel) :
    ReasoningLevel.parse level.asStr = some level := by
  cases level <;> rfl

@[simp] theorem PlanStatus.fromStr_asStr (status : PlanStatus) :
    PlanStatus.fromStr status.asStr = some status := by
  cases status <;> rfl

theorem PlanItem.parse_of_validate {item : PlanItem} (h : item.validate = true) :
    PlanItem.parse item.step item.status = some item := by
  rw [PlanItem.parse, if_pos h]

@[simp] theorem SessionTitle.parse_text (title : SessionTitle) :
    SessionTitle.parse title.text = some title := by
  rw [SessionTitle.parse, dif_pos title.valid]

/-! ### Rows -/

namespace Schema

/-- A row of `sessions`, without its key. -/
structure SessionRow where
  title : String
  titleSource : String
  titleRevision : ℤ
  cwd : List UInt8
  model : String
  reasoning : String
  contextTokens : ℤ
  createdAt : String
  lastActivity : String
deriving DecidableEq, Repr

/-- A row of `messages`, without its key. -/
structure MessageRow where
  role : String
  text : String
deriving DecidableEq, Repr

/-- `StoredTranscriptRow`, a row of `transcript_items` without its key. -/
structure TranscriptRow where
  kind : String
  text : Option String := none
  runId : Option ℤ := none
  callId : Option String := none
  toolName : Option String := none
  argumentsJson : Option String := none
  failureStage : Option String := none
  failureKind : Option String := none
  failureHttpStatus : Option ℤ := none
  failureRetryable : Option ℤ := none
  failureMessage : Option String := none
deriving DecidableEq, Repr

/-- A row of `turns`, without its key. -/
structure TurnRow where
  runId : ℤ
  promptPosition : ℤ
  status : String
deriving DecidableEq, Repr

/-- A row of `plan_items`, without its key. -/
structure PlanRow where
  step : String
  status : String
deriving DecidableEq, Repr

/-- The tables: one row per session, and rows by session and position (or, for turns,
by session and ordinal). -/
structure Database where
  sessions : Table ℤ SessionRow
  messages : Children ℤ MessageRow
  transcriptItems : Children ℤ TranscriptRow
  turns : Children ℤ TurnRow
  planItems : Children ℤ PlanRow

/-! ### Checks of single columns -/

/-- `invalid_stored`. -/
def invalidStored (field reason : String) : SessionStoreError :=
  .invalidStoredData field reason

/-- `database_error`. -/
def databaseError (operation source : String) : SessionStoreError :=
  .database operation source

/-- `sqlite_u64`. -/
def sqliteU64 (value : ℕ) (field : String) : Except SessionStoreError ℤ :=
  (SessionStore.sqliteU64 value field).map fun _ => (value : ℤ)

/-- `sqlite_session_id`. -/
def sqliteSessionId (id : SessionId) : Except SessionStoreError ℤ :=
  sqliteU64 id.value "session id"

/-- `stored_u64`. -/
def storedU64 (value : ℤ) (field : String) : Except SessionStoreError ℕ :=
  if value < 0 then .error (invalidStored field "value is negative") else .ok value.toNat

/-- `u16::try_from`. -/
def storedU16 (value : ℤ) (field : String) : Except SessionStoreError UInt16 :=
  if 0 ≤ value ∧ value < 2 ^ 16 then .ok (UInt16.ofNat value.toNat)
  else .error (invalidStored field "value is out of range")

/-- `stored_session_id`. -/
def storedSessionId (value : ℤ) : Except SessionStoreError SessionId :=
  if value ≤ 0 then .error (invalidStored "session id" "identifier is not positive")
  else .ok ⟨value.toNat⟩

/-- `stored_title`. -/
def storedTitle (value : String) : Except SessionStoreError SessionTitle :=
  match SessionTitle.parse value with
  | none => .error (invalidStored "session title" "title violates validation rules")
  | some title => .ok title

/-- The title source in a column. -/
def storedTitleSource (value : String) : Except SessionStoreError TitleSource :=
  match TitleSource.fromStored value with
  | none => .error (invalidStored "title source" "value is unsupported")
  | some source => .ok source

/-- The reasoning level in a column. -/
def storedReasoning (value : String) : Except SessionStoreError ReasoningLevel :=
  match ReasoningLevel.parse value with
  | none => .error (invalidStored "reasoning level" "value is unsupported")
  | some level => .ok level

/-- `stored_bool`. -/
def storedBool (value : ℤ) (field : String) : Except SessionStoreError Bool :=
  if value = 0 then .ok false
  else if value = 1 then .ok true
  else .error (invalidStored field "value is not zero or one")

/-- `required_stored`. -/
def requiredStored (value : Option α) (field : String) : Except SessionStoreError α :=
  match value with
  | none => .error (invalidStored field "required value is absent")
  | some a => .ok a

/-- `stored_timestamp`. -/
def storedTimestamp (C : Codec) (value field : String) : Except SessionStoreError Timestamp :=
  match C.parseTimestamp value with
  | none => .error (invalidStored field "value is not an RFC 3339 timestamp")
  | some t => .ok t

/-- A position is the one that is expected next. -/
def checkPosition (field : String) (expected : ℕ) (position : ℤ) : Except SessionStoreError Unit :=
  if position < 0 then .error (invalidStored field "position is negative or too large")
  else if position ≠ expected then
    .error (invalidStored field "positions are not contiguous from zero")
  else .ok ()

theorem sqliteU64_eq_ok {value : ℕ} {field : String} {i : ℤ} :
    sqliteU64 value field = .ok i ↔ value ≤ i64Max ∧ i = value := by
  unfold sqliteU64 SessionStore.sqliteU64
  split_ifs with h
  · simp [Except.map, h, eq_comm]
  · simp [Except.map, h]

@[simp] theorem storedU64_natCast (n : ℕ) (field : String) : storedU64 n field = .ok n := by
  rw [storedU64, if_neg (by omega), Int.toNat_natCast]

@[simp] theorem storedU16_toNat (value : UInt16) (field : String) :
    storedU16 value.toNat field = .ok value := by
  have hlt := value.toNat_lt
  rw [storedU16, if_pos (by omega), Int.toNat_natCast, UInt16.ofNat_toNat]

theorem storedSessionId_natCast {id : SessionId} (h : 0 < id.value) :
    storedSessionId id.value = .ok id := by
  rw [storedSessionId, if_neg (by omega), Int.toNat_natCast]

@[simp] theorem storedTitle_text (title : SessionTitle) : storedTitle title.text = .ok title := by
  rw [storedTitle, SessionTitle.parse_text]

@[simp] theorem storedTitleSource_asStored (source : TitleSource) :
    storedTitleSource source.asStored = .ok source := by
  rw [storedTitleSource, TitleSource.fromStored_asStored]

@[simp] theorem storedReasoning_asStr (level : ReasoningLevel) :
    storedReasoning level.asStr = .ok level := by
  rw [storedReasoning, ReasoningLevel.parse_asStr]

@[simp] theorem storedBool_ite (b : Bool) (field : String) :
    storedBool (if b then 1 else 0) field = .ok b := by
  cases b <;> rfl

theorem storedTimestamp_of_parse {C : Codec} {value : String} {t : Timestamp}
    (h : C.parseTimestamp value = some t) (field : String) : storedTimestamp C value field = .ok t := by
  rw [storedTimestamp, h]

@[simp] theorem checkPosition_self (field : String) (n : ℕ) : checkPosition field n n = .ok () := by
  simp [checkPosition]

/-- A position that passes is the expected one. -/
theorem checkPosition_eq_ok {field : String} {n : ℕ} {i : ℤ} (h : checkPosition field n i = .ok ()) :
    i = n := by
  unfold checkPosition at h
  split_ifs at h with _ hne
  exact not_not.1 hne

/-! ### Messages -/

/-- The column of a role. -/
def roleAsStored : Role → String
  | .user => "user"
  | .assistant => "assistant"

/-- The role in a column. -/
def storedRole (value : String) : Except SessionStoreError Role :=
  if value = "user" then .ok .user
  else if value = "assistant" then .ok .assistant
  else .error (invalidStored "message role" "role is unsupported")

@[simp] theorem storedRole_roleAsStored (role : Role) : storedRole (roleAsStored role) = .ok role := by
  cases role <;> rfl

/-- A message in the history of `checkpoint_sync`. -/
def encodeMessage (position : ℕ) (message : Message) : Except SessionStoreError (ℤ × MessageRow) := do
  let position ← sqliteU64 position "message position"
  .ok (position, ⟨roleAsStored message.role, message.text⟩)

/-- A row of the history in `load_record`. -/
def decodeMessage (expected : ℕ) (row : ℤ × MessageRow) : Except SessionStoreError Message := do
  checkPosition "message position" expected row.1
  let role ← storedRole row.2.role
  .ok ⟨role, row.2.text⟩

/-! ### Transcript items -/

/-- `run_stage_as_stored`. -/
def runStageAsStored : RunStage → String
  | .startup => "startup"
  | .modelRequest => "model_request"
  | .toolExecution => "tool_execution"
  | .finalization => "finalization"

/-- `stored_run_stage`. -/
def storedRunStage (value : String) : Except SessionStoreError RunStage :=
  if value = "startup" then .ok .startup
  else if value = "model_request" then .ok .modelRequest
  else if value = "tool_execution" then .ok .toolExecution
  else if value = "finalization" then .ok .finalization
  else .error (invalidStored "failure stage" "value is unsupported")

/-- `run_failure_kind_as_stored`. -/
def runFailureKindAsStored : RunFailureKind → String × Option UInt16
  | .authentication => ("authentication", none)
  | .transport => ("transport", none)
  | .httpRejected status => ("http_rejected", some status)
  | .protocol => ("protocol", none)
  | .emptyResponse => ("empty_response", none)
  | .budgetExhausted => ("budget_exhausted", none)
  | .runtimeInfrastructure => ("runtime_infrastructure", none)
  | .toolInfrastructure => ("tool_infrastructure", none)

/-- `stored_run_failure_kind`. -/
def storedRunFailureKind (value : String) (httpStatus : Option ℤ) :
    Except SessionStoreError RunFailureKind :=
  if value = "authentication" then .ok .authentication
  else if value = "transport" then .ok .transport
  else if value = "http_rejected" then do
    let status ← requiredStored httpStatus "failure HTTP status"
    let status ← storedU16 status "failure HTTP status"
    .ok (.httpRejected status)
  else if value = "protocol" then .ok .protocol
  else if value = "empty_response" then .ok .emptyResponse
  else if value = "budget_exhausted" then .ok .budgetExhausted
  else if value = "runtime_infrastructure" then .ok .runtimeInfrastructure
  else if value = "tool_infrastructure" then .ok .toolInfrastructure
  else .error (invalidStored "failure kind" "value is unsupported")

@[simp] theorem storedRunStage_runStageAsStored (stage : RunStage) :
    storedRunStage (runStageAsStored stage) = .ok stage := by
  cases stage <;> rfl

theorem storedRunFailureKind_httpRejected {value : ℤ} {status : UInt16}
    (h : storedU16 value "failure HTTP status" = .ok status) :
    storedRunFailureKind "http_rejected" (some value) = .ok (.httpRejected status) := by
  simp [storedRunFailureKind, requiredStored, h, bind, Except.bind]

/-- **Every failure kind is read back,** with the status of a rejected request. -/
@[simp] theorem storedRunFailureKind_runFailureKindAsStored (kind : RunFailureKind) :
    storedRunFailureKind (runFailureKindAsStored kind).1
      ((runFailureKindAsStored kind).2.map fun s => (s.toNat : ℤ)) = .ok kind := by
  cases kind with
  | httpRejected status => exact storedRunFailureKind_httpRejected (storedU16_toNat status _)
  | _ => rfl

/-- `encode_transcript_item`. -/
def encodeTranscriptItem (C : Codec) (position : ℤ) (item : TranscriptItem) :
    Except SessionStoreError (ℤ × TranscriptRow) :=
  match item with
  | .user text => .ok (position, { kind := "user", text := some text })
  | .assistant text => .ok (position, { kind := "assistant", text := some text })
  | .toolStarted runId callId name arguments => do
    let runId ← sqliteU64 runId "transcript run id"
    .ok (position,
      { kind := "tool_started"
        runId := some runId
        callId := some callId
        toolName := some name
        argumentsJson := some (C.formatJson arguments) })
  | .failed runId failure => do
    let runId ← sqliteU64 runId "transcript run id"
    .ok (position,
      { kind := "failed"
        runId := some runId
        failureStage := some (runStageAsStored failure.stage)
        failureKind := some (runFailureKindAsStored failure.kind).1
        failureHttpStatus := (runFailureKindAsStored failure.kind).2.map fun s => (s.toNat : ℤ)
        failureRetryable := some (if failure.retryable then 1 else 0)
        failureMessage := some failure.message })
  | .cancelled runId => do
    let runId ← sqliteU64 runId "transcript run id"
    .ok (position, { kind := "cancelled", runId := some runId })

/-- `stored_transcript_item`. -/
def storedTranscriptItem (C : Codec) (row : TranscriptRow) :
    Except SessionStoreError TranscriptItem :=
  if row.kind = "user" then do
    let text ← requiredStored row.text "user transcript text"
    .ok (.user text)
  else if row.kind = "assistant" then do
    let text ← requiredStored row.text "assistant transcript text"
    .ok (.assistant text)
  else if row.kind = "tool_started" then do
    let argumentsJson ← requiredStored row.argumentsJson "tool arguments"
    match C.parseJson argumentsJson with
    | none => .error (invalidStored "tool arguments" "value is not valid JSON")
    | some arguments => do
      let runId ← requiredStored row.runId "tool run id"
      let runId ← storedU64 runId "tool run id"
      let callId ← requiredStored row.callId "tool call id"
      let name ← requiredStored row.toolName "tool name"
      .ok (.toolStarted runId callId name arguments)
  else if row.kind = "failed" then do
    let runId ← requiredStored row.runId "failed run id"
    let runId ← storedU64 runId "failed run id"
    let stage ← requiredStored row.failureStage "failure stage"
    let stage ← storedRunStage stage
    let kind ← requiredStored row.failureKind "failure kind"
    let kind ← storedRunFailureKind kind row.failureHttpStatus
    let retryable ← requiredStored row.failureRetryable "failure retryable flag"
    let retryable ← storedBool retryable "failure retryable flag"
    let message ← requiredStored row.failureMessage "failure message"
    .ok (.failed runId ⟨stage, kind, retryable, message⟩)
  else if row.kind = "cancelled" then do
    let runId ← requiredStored row.runId "cancelled run id"
    let runId ← storedU64 runId "cancelled run id"
    .ok (.cancelled runId)
  else .error (invalidStored "transcript kind" "value is unsupported")

/-- A transcript item in `checkpoint_sync`. -/
def encodeItem (C : Codec) (position : ℕ) (item : TranscriptItem) :
    Except SessionStoreError (ℤ × TranscriptRow) := do
  let position ← sqliteU64 position "transcript position"
  encodeTranscriptItem C position item

/-- A row of the transcript in `load_record`. -/
def decodeItem (C : Codec) (expected : ℕ) (row : ℤ × TranscriptRow) :
    Except SessionStoreError TranscriptItem := do
  checkPosition "transcript position" expected row.1
  storedTranscriptItem C row.2

/-! ### Turns -/

/-- `turn_status_as_stored`. -/
def turnStatusAsStored : TurnStatus → String
  | .running => "running"
  | .completed => "completed"
  | .failed => "failed"
  | .cancelled => "cancelled"
  | .interrupted => "interrupted"

/-- `stored_turn_status`. -/
def storedTurnStatus (value : String) : Except SessionStoreError TurnStatus :=
  if value = "running" then .ok .running
  else if value = "completed" then .ok .completed
  else if value = "failed" then .ok .failed
  else if value = "cancelled" then .ok .cancelled
  else if value = "interrupted" then .ok .interrupted
  else .error (invalidStored "turn status" "value is unsupported")

@[simp] theorem storedTurnStatus_turnStatusAsStored (status : TurnStatus) :
    storedTurnStatus (turnStatusAsStored status) = .ok status := by
  cases status <;> rfl

/-- A turn in `checkpoint_sync`, kept under its own ordinal. -/
def encodeTurn (_ : ℕ) (turn : DurableTurn) : Except SessionStoreError (ℤ × TurnRow) := do
  let ordinal ← sqliteU64 turn.ordinal "turn ordinal"
  let runId ← sqliteU64 turn.runId "turn run id"
  let promptPosition ← sqliteU64 turn.promptPosition "turn prompt position"
  .ok (ordinal, ⟨runId, promptPosition, turnStatusAsStored turn.status⟩)

/-- A row of the turns in `load_record`. -/
def decodeTurn (expected : ℕ) (row : ℤ × TurnRow) : Except SessionStoreError DurableTurn := do
  let ordinal ← storedU64 row.1 "turn ordinal"
  if ordinal ≠ expected then
    .error (invalidStored "turn ordinal" "ordinals are not contiguous from zero")
  else do
    let runId ← storedU64 row.2.runId "turn run id"
    let promptPosition ← storedU64 row.2.promptPosition "turn prompt position"
    let status ← storedTurnStatus row.2.status
    .ok ⟨ordinal, runId, promptPosition, status⟩

/-! ### Plans -/

/-- A plan item in `checkpoint_sync`. -/
def encodePlanItem (position : ℕ) (item : PlanItem) : Except SessionStoreError (ℤ × PlanRow) := do
  let position ← sqliteU64 position "plan position"
  .ok (position, ⟨item.step, item.status.asStr⟩)

/-- A row of the plan in `load_record`. -/
def decodePlanItem (expected : ℕ) (row : ℤ × PlanRow) : Except SessionStoreError PlanItem := do
  checkPosition "plan position" expected row.1
  match PlanStatus.fromStr row.2.status with
  | none => .error (invalidStored "plan status" "value is unsupported")
  | some status =>
    match PlanItem.parse row.2.step status with
    | none => .error (invalidStored "plan item" "step violates validation rules")
    | some item => .ok item

/-! ### Sessions -/

/-- `stored_record`: the columns of a session, without the items of other tables. -/
def storedRecord (C : Codec) (id : ℤ) (row : SessionRow) :
    Except SessionStoreError SessionRecord := do
  let reasoning ← storedReasoning row.reasoning
  let contextTokens ← storedU64 row.contextTokens "context token count"
  let id ← storedSessionId id
  let title ← storedTitle row.title
  let titleSource ← storedTitleSource row.titleSource
  let titleRevision ← storedU64 row.titleRevision "title revision"
  let createdAt ← storedTimestamp C row.createdAt "creation time"
  let lastActivity ← storedTimestamp C row.lastActivity "last activity"
  .ok
    { id, title, titleSource, titleRevision
      cwd := row.cwd
      settings := ⟨row.model, reasoning, contextTokens⟩
      transcript := []
      turns := []
      history := []
      plan := []
      createdAt, lastActivity }

end Schema
end Moh
