/-
# Conversions between messages and values of the session

`rpc/convert.rs`: the writers and the readers of a session snapshot and of an event
envelope.  A writer returns the message its builder holds, or the first error; a
reader reads the fields in the order of the source.  Timestamps and JSON are printed
and read by libraries (`TextFormats`).
-/

import Moh.Library.Utf8
import Moh.Rpc.Client
import Moh.Rpc.Wire
import Moh.Session.Schema

namespace Moh
namespace Rpc

/-- What the conversions print and read with `chrono` and `serde_json`: a timestamp
is read with its offset from UTC, in seconds. -/
structure TextFormats where
  formatTimestamp : Timestamp → String
  parseTimestamp : String → Option (Timestamp × ℤ)
  formatJson : Value → Option String
  parseJson : String → Option Value

/-! ### Fields -/

/-- `CAPNP_LIST_LIMIT`. -/
def capnpListLimit : ℕ := 2 ^ 29

/-- `MAX_RPC_IDENTIFIER_BYTES`. -/
def maxRpcIdentifierBytes : ℕ := 4 * 1024

/-- `str::as_bytes`. -/
def asBytes (value : String) : List UInt8 := Utf8.encode value.toList

/-- `validate_wire_text_length`: the text and its terminator.  (Where the addition
overflows in the source, the error is the same.) -/
def validateWireTextLength (length : ℕ) (field : String) : Except RpcConversionError Unit :=
  if capnpListLimit ≤ length + 1 then .error (.fieldTooLong field) else .ok ()

/-- `validate_wire_data_length`. -/
def validateWireDataLength (length : ℕ) (field : String) : Except RpcConversionError Unit :=
  if capnpListLimit ≤ length then .error (.fieldTooLong field) else .ok ()

/-- `validate_wire_list_length`. -/
def validateWireListLength (length : ℕ) (field : String) : Except RpcConversionError ℕ :=
  if capnpListLimit ≤ length then .error (.listTooLong field) else .ok length

/-- `validate_wire_inline_composite_list_length`. -/
def validateWireInlineCompositeListLength (length wordsPerElement : ℕ) (field : String) :
    Except RpcConversionError ℕ := do
  let wireLength ← validateWireListLength length field
  if capnpListLimit ≤ length * wordsPerElement then .error (.listTooLong field)
  else .ok wireLength

/-- `checked_text`. -/
def checkedText (value field : String) : Except RpcConversionError Wire.Text := do
  validateWireTextLength (asBytes value).length field
  .ok (asBytes value)

/-- `checked_data`. -/
def checkedData (value : List UInt8) (field : String) : Except RpcConversionError Wire.Data := do
  validateWireDataLength value.length field
  .ok value

/-- `wire_struct_list_len`, for a struct of so many words. -/
def wireStructListLen (words length : ℕ) (field : String) : Except RpcConversionError ℕ :=
  validateWireInlineCompositeListLength length words field

/-- The question mark on a `capnp::Result`. -/
def follow {α : Type} (pointer : Wire.Pointer α) : Except RpcConversionError α :=
  pointer.mapError .capnp

/-- `text.to_str()`, with its error. -/
def toStr (text : Wire.Text) (field : String) : Except RpcConversionError String :=
  if Utf8.hasErrors text then .error (.invalidText field)
  else .ok (String.ofList (Utf8.decodeLossy text))

/-- `read_text`. -/
def readText (value : Wire.Pointer Wire.Text) (field : String) :
    Except RpcConversionError String := do
  toStr (← follow value) field

/-- `read_inbound_text`. -/
def readInboundText (value : Wire.Pointer Wire.Text) (limit : ℕ) (field : String) :
    Except RpcConversionError String := do
  let value ← follow value
  validateInboundFieldLength value.length limit field
  toStr value field

/-- `read_inbound_data`. -/
def readInboundData (value : Wire.Pointer Wire.Data) (limit : ℕ) (field : String) :
    Except RpcConversionError (List UInt8) := do
  let value ← follow value
  validateInboundFieldLength value.length limit field
  .ok value

/-- `write_timestamp`. -/
def writeTimestamp (F : TextFormats) (value : Timestamp) : String := F.formatTimestamp value

/-- `read_timestamp`. -/
def readTimestamp (F : TextFormats) (value : Wire.Pointer Wire.Text) (field : String) :
    Except RpcConversionError Timestamp := do
  let value ← readText value field
  match F.parseTimestamp value with
  | none => .error (.invalidTimestamp field)
  | some (parsed, offset) =>
    if offset ≠ 0 then .error (.invalidTimestamp field) else .ok parsed

/-- `value.map(..).map_err(|error| unknown_enum(name, error))`. -/
def readEnum {α β : Type} (name : String) (f : α → β) (value : Wire.Enumerant α) :
    Except RpcConversionError β :=
  (value.map f).mapError (.unknownEnum name)

/-- `reader.which().map_err(|error| unknown_union(name, error))`. -/
def which {α : Type} (name : String) (value : Wire.Enumerant α) : Except RpcConversionError α :=
  value.mapError (.unknownUnion name)

end Rpc

/-- `SessionId::from_str`: `session-` and the digits of a positive `u64` without
leading zeros. -/
def SessionId.fromStr (value : String) : Option SessionId :=
  match value.toList with
  | 's' :: 'e' :: 's' :: 's' :: 'i' :: 'o' :: 'n' :: '-' :: number =>
    if number.isEmpty || number.head? == some '0' || !number.all Char.isDigit then none
    else if u64Max < Nat.ofDigitChars 10 number 0 then none
    else if Nat.ofDigitChars 10 number 0 = 0 then none
    else some ⟨Nat.ofDigitChars 10 number 0⟩
  | _ => none

namespace Rpc

/-! ### Settings and the catalog -/

/-- `write_reasoning_level`. -/
def writeReasoningLevel : ReasoningLevel → Wire.ReasoningLevel
  | .none => .none
  | .minimal => .minimal
  | .low => .low
  | .medium => .medium
  | .high => .high
  | .xhigh => .xhigh
  | .max => .max

/-- `read_reasoning_level`. -/
def readReasoningLevel :
    Wire.Enumerant Wire.ReasoningLevel → Except RpcConversionError ReasoningLevel :=
  readEnum "ReasoningLevel" fun
    | .none => .none
    | .minimal => .minimal
    | .low => .low
    | .medium => .medium
    | .high => .high
    | .xhigh => .xhigh
    | .max => .max

/-- `write_session_settings`. -/
def writeSessionSettings (value : SessionSettings) :
    Except RpcConversionError Wire.SessionSettings := do
  validateInboundFieldLength (asBytes value.model).length maxRpcIdentifierBytes "model"
  let model ← checkedText value.model "model"
  .ok {
    model := .ok model
    reasoning := .ok (writeReasoningLevel value.reasoning)
    contextTokens := value.contextTokens }

/-- `read_session_settings`. -/
def readSessionSettings (reader : Wire.SessionSettings) :
    Except RpcConversionError SessionSettings := do
  let model ← readInboundText reader.model maxRpcIdentifierBytes "model"
  let reasoning ← readReasoningLevel reader.reasoning
  .ok { model, reasoning, contextTokens := reader.contextTokens }

/-- `write_model_info`. -/
def writeModelInfo (value : ModelInfoDto) : Except RpcConversionError Wire.ModelInfo := do
  let id ← checkedText value.id "id"
  let displayName ← checkedText value.displayName "displayName"
  let description ← checkedText value.description "description"
  let _ ← validateWireListLength value.reasoningEfforts.length "reasoningEfforts"
  let message : Wire.ModelInfo := {
    id := .ok id
    displayName := .ok displayName
    description := .ok description
    reasoningEfforts :=
      .ok (value.reasoningEfforts.map fun effort => .ok (writeReasoningLevel effort)) }
  match value.defaultReasoning with
  | none => .ok message
  | some reasoning =>
    .ok { message with
      hasDefaultReasoning := true
      defaultReasoning := .ok (writeReasoningLevel reasoning) }

/-- `read_model_info`. -/
def readModelInfo (reader : Wire.ModelInfo) : Except RpcConversionError ModelInfoDto := do
  let efforts ← follow reader.reasoningEfforts
  let reasoningEfforts ← efforts.mapM readReasoningLevel
  let defaultReasoning ←
    (if reader.hasDefaultReasoning then some reader.defaultReasoning else none).mapM
      readReasoningLevel
  let id ← readText reader.id "id"
  let displayName ← readText reader.displayName "displayName"
  let description ← readText reader.description "description"
  .ok { id, displayName, description, reasoningEfforts, defaultReasoning }

/-- The words of a `ModelInfo`: one of data and four pointers. -/
def modelInfoWords : ℕ := 1 + 4

/-- `write_model_catalog`. -/
def writeModelCatalog :
    ModelCatalogState → Except RpcConversionError (Wire.Enumerant Wire.ModelCatalog)
  | .loading => .ok (.ok .loading)
  | .ready models => do
    let _ ← wireStructListLen modelInfoWords models.length "ready"
    let list ← models.mapM writeModelInfo
    .ok (.ok (.ready (.ok list)))
  | .failed message => do
    let message ← checkedText message "catalogFailed"
    .ok (.ok (.failed (.ok message)))

/-- `read_model_catalog`. -/
def readModelCatalog (reader : Wire.Enumerant Wire.ModelCatalog) :
    Except RpcConversionError ModelCatalogState := do
  match ← which "ModelCatalog" reader with
  | .loading => .ok .loading
  | .ready models =>
    let values ← (← follow models).mapM readModelInfo
    .ok (.ready values)
  | .failed message =>
    let message ← readText message "catalogFailed"
    .ok (.failed message)

/-! ### The summary -/

/-- `write_session_summary`. -/
def writeSessionSummary (F : TextFormats) (value : SessionSummary) :
    Except RpcConversionError Wire.SessionSummary := do
  let id ← checkedText value.id.display "id"
  let title ← checkedText value.title.text "title"
  let cwd ← checkedData value.cwd "cwd"
  let cwdDisplay ← checkedText (String.ofList value.cwdDisplay) "cwdDisplay"
  let lastActivity ← checkedText (writeTimestamp F value.lastActivity) "lastActivity"
  .ok {
    id := .ok id
    title := .ok title
    cwd := .ok cwd
    cwdDisplay := .ok cwdDisplay
    titleRevision := value.titleRevision
    busy := value.busy
    attachedClients := value.attachedClients
    lastActivity := .ok lastActivity
    running := value.running
    runningJobs := value.runningJobs }

/-- `SessionId::from_str`, with the error of the readers. -/
def readSessionId (value : String) : Except RpcConversionError SessionId :=
  match SessionId.fromStr value with
  | none => .error .invalidSessionId
  | some id => .ok id

/-- `SessionTitle::parse`, with the error of the readers. -/
def readSessionTitle (value : String) : Except RpcConversionError SessionTitle :=
  match SessionTitle.parse value with
  | none => .error .invalidSessionTitle
  | some title => .ok title

/-- `read_session_summary`. -/
def readSessionSummary (F : TextFormats) (reader : Wire.SessionSummary) :
    Except RpcConversionError SessionSummary := do
  let id ← readSessionId (← readText reader.id "id")
  let title ← readSessionTitle (← readText reader.title "title")
  let cwd ← readInboundData reader.cwd maxRpcCwdBytes "cwd"
  let cwdDisplay ← readText reader.cwdDisplay "cwdDisplay"
  let lastActivity ← readTimestamp F reader.lastActivity "lastActivity"
  .ok {
    id
    title
    titleRevision := reader.titleRevision
    cwd
    cwdDisplay := cwdDisplay.toList
    runningJobs := reader.runningJobs
    running := reader.running
    busy := reader.busy
    attachedClients := reader.attachedClients
    lastActivity }

/-! ### Run failures -/

/-- `wire_run_stage`. -/
def wireRunStage : RunStage → Wire.RunStage
  | .startup => .startup
  | .modelRequest => .modelRequest
  | .toolExecution => .toolExecution
  | .finalization => .finalization

/-- `domain_run_stage`. -/
def domainRunStage : Wire.Enumerant Wire.RunStage → Except RpcConversionError RunStage :=
  readEnum "RunStage" fun
    | .startup => .startup
    | .modelRequest => .modelRequest
    | .toolExecution => .toolExecution
    | .finalization => .finalization

/-- The `match` of `write_run_failure`: the kind, and the status if there is one. -/
def wireRunFailureKind : RunFailureKind → Wire.RunFailureKind × Option UInt16
  | .authentication => (.authentication, none)
  | .transport => (.transport, none)
  | .httpRejected status => (.httpRejected, some status)
  | .protocol => (.protocol, none)
  | .emptyResponse => (.emptyResponse, none)
  | .budgetExhausted => (.budgetExhausted, none)
  | .runtimeInfrastructure => (.runtimeInfrastructure, none)
  | .toolInfrastructure => (.toolInfrastructure, none)

/-- `write_run_failure`. -/
def writeRunFailure (value : RunFailureSnapshot) : Except RpcConversionError Wire.RunFailure := do
  let message ← checkedText value.message "message"
  let failure : Wire.RunFailure := {
    stage := .ok (wireRunStage value.stage)
    kind := .ok (wireRunFailureKind value.kind).1
    retryable := value.retryable
    message := .ok message }
  match (wireRunFailureKind value.kind).2 with
  | none => .ok failure
  | some status => .ok { failure with hasHttpStatus := true, httpStatus := status }

/-- The `match` of `read_run_failure`. -/
def domainRunFailureKind (status : UInt16) :
    Wire.RunFailureKind → Bool → Except RpcConversionError RunFailureKind
  | .httpRejected, true => .ok (.httpRejected status)
  | .httpRejected, false => .error .invalidHttpStatusGuard
  | _, true => .error .invalidHttpStatusGuard
  | .authentication, false => .ok .authentication
  | .transport, false => .ok .transport
  | .protocol, false => .ok .protocol
  | .emptyResponse, false => .ok .emptyResponse
  | .budgetExhausted, false => .ok .budgetExhausted
  | .runtimeInfrastructure, false => .ok .runtimeInfrastructure
  | .toolInfrastructure, false => .ok .toolInfrastructure

/-- `read_run_failure`. -/
def readRunFailure (reader : Wire.RunFailure) : Except RpcConversionError RunFailureSnapshot := do
  let wireKind ← readEnum "RunFailureKind" id reader.kind
  let kind ← domainRunFailureKind reader.httpStatus wireKind reader.hasHttpStatus
  let stage ← domainRunStage reader.stage
  let message ← readText reader.message "message"
  .ok { stage, kind, retryable := reader.retryable, message }

/-! ### Plans and jobs -/

/-- `write_plan_status`. -/
def writePlanStatus : PlanStatus → Wire.PlanStatus
  | .pending => .pending
  | .inProgress => .inProgress
  | .completed => .completed
  | .blocked => .blocked
  | .cancelled => .cancelled

/-- `read_plan_status`. -/
def readPlanStatus : Wire.Enumerant Wire.PlanStatus → Except RpcConversionError PlanStatus :=
  readEnum "PlanStatus" fun
    | .pending => .pending
    | .inProgress => .inProgress
    | .completed => .completed
    | .blocked => .blocked
    | .cancelled => .cancelled

/-- `write_plan_item`. -/
def writePlanItem (value : PlanItem) : Except RpcConversionError Wire.PlanItem := do
  let step ← checkedText value.step "plan.step"
  .ok { step := .ok step, status := .ok (writePlanStatus value.status) }

/-- `read_plan_item`. -/
def readPlanItem (reader : Wire.PlanItem) : Except RpcConversionError PlanItem := do
  let step ← readText reader.step "plan.step"
  let status ← readPlanStatus reader.status
  match PlanItem.parse step status with
  | none => .error .invalidPlanItem
  | some item => .ok item

/-- The words of a `PlanItem`: one of data and one pointer. -/
def planItemWords : ℕ := 1 + 1

/-- `wire_struct_list_len` and `write_plan_items`. -/
def writePlanItems (plan : List PlanItem) (field : String) :
    Except RpcConversionError (Wire.Pointer (List Wire.PlanItem)) := do
  let _ ← wireStructListLen planItemWords plan.length field
  let list ← plan.mapM writePlanItem
  .ok (.ok list)

/-- `read_plan_items`. -/
def readPlanItems (plan : Wire.Pointer (List Wire.PlanItem)) :
    Except RpcConversionError (List PlanItem) := do
  (← follow plan).mapM readPlanItem

/-- `wire_job_kind`. -/
def wireJobKind : JobKind → Wire.JobKind
  | .bash => .bash

/-- `domain_job_kind`. -/
def domainJobKind : Wire.Enumerant Wire.JobKind → Except RpcConversionError JobKind :=
  readEnum "JobKind" fun
    | .bash => .bash

/-- `wire_job_state`. -/
def wireJobState : JobState → Wire.JobState
  | .running => .running
  | .completed => .completed
  | .failed => .failed
  | .cancelled => .cancelled

/-- `domain_job_state`. -/
def domainJobState : Wire.Enumerant Wire.JobState → Except RpcConversionError JobState :=
  readEnum "JobState" fun
    | .running => .running
    | .completed => .completed
    | .failed => .failed
    | .cancelled => .cancelled

/-- `write_job_snapshot`. -/
def writeJobSnapshot (F : TextFormats) (value : JobSnapshotDto) :
    Except RpcConversionError Wire.JobSnapshot := do
  let id ← checkedText value.id "id"
  let title ← checkedText value.title "title"
  let startedAt ← checkedText (writeTimestamp F value.startedAt) "startedAt"
  let completedAt ← checkedText ((value.completedAt.map (writeTimestamp F)).getD "") "completedAt"
  let details ← checkedText value.details "details"
  .ok {
    id := .ok id
    kind := .ok (wireJobKind value.kind)
    state := .ok (wireJobState value.state)
    title := .ok title
    startedAt := .ok startedAt
    completedAt := .ok completedAt
    details := .ok details }

/-- `read_job_snapshot`. -/
def readJobSnapshot (F : TextFormats) (reader : Wire.JobSnapshot) :
    Except RpcConversionError JobSnapshotDto := do
  let completedAt ← readText reader.completedAt "completedAt"
  let completedAt ←
    (if completedAt.isEmpty then none else some completedAt).mapM fun completedAt =>
      readTimestamp F (.ok (asBytes completedAt)) "completedAt"
  let id ← readText reader.id "id"
  let kind ← domainJobKind reader.kind
  let state ← domainJobState reader.state
  let title ← readText reader.title "title"
  let startedAt ← readTimestamp F reader.startedAt "startedAt"
  let details ← readText reader.details "details"
  .ok { id, kind, state, title, startedAt, completedAt, details }

/-- The words of a `JobSnapshot`: one of data and five pointers. -/
def jobSnapshotWords : ℕ := 1 + 5

/-- `wire_struct_list_len` and `write_job_list`. -/
def writeJobList (F : TextFormats) (jobs : List JobSnapshotDto) (field : String) :
    Except RpcConversionError (Wire.Pointer (List Wire.JobSnapshot)) := do
  let _ ← wireStructListLen jobSnapshotWords jobs.length field
  let list ← jobs.mapM (writeJobSnapshot F)
  .ok (.ok list)

/-- `read_job_list`. -/
def readJobList (F : TextFormats) (jobs : Wire.Pointer (List Wire.JobSnapshot)) :
    Except RpcConversionError (List JobSnapshotDto) := do
  (← follow jobs).mapM (readJobSnapshot F)

/-! ### The transcript -/

/-- `write_tool_started`. -/
def writeToolStarted (F : TextFormats) (runId : ℕ) (callId name : String) (arguments : Value) :
    Except RpcConversionError Wire.ToolStartedRecord :=
  match F.formatJson arguments with
  | none => .error .invalidToolArguments
  | some arguments => do
    let callId ← checkedText callId "callId"
    let name ← checkedText name "name"
    let argumentsJson ← checkedText arguments "argumentsJson"
    .ok {
      runId
      callId := .ok callId
      name := .ok name
      argumentsJson := .ok argumentsJson }

/-- `read_tool_started`. -/
def readToolStarted (F : TextFormats) (reader : Wire.ToolStartedRecord) :
    Except RpcConversionError (ℕ × String × String × Value) := do
  let arguments ← readText reader.argumentsJson "argumentsJson"
  match F.parseJson arguments with
  | none => .error .invalidToolArguments
  | some arguments =>
    let callId ← readText reader.callId "callId"
    let name ← readText reader.name "name"
    .ok (reader.runId, callId, name, arguments)

/-- A run and its failure, in a transcript item or an event. -/
def writeFailed (runId : ℕ) (failure : RunFailureSnapshot) :
    Except RpcConversionError Wire.FailedRecord := do
  let failure ← writeRunFailure failure
  .ok { runId, failure := .ok failure }

/-- `write_transcript_item`. -/
def writeTranscriptItem (F : TextFormats) :
    TranscriptItem → Except RpcConversionError (Wire.Enumerant Wire.TranscriptItem)
  | .user text => do
    let text ← checkedText text "user"
    .ok (.ok (.user (.ok text)))
  | .assistant text => do
    let text ← checkedText text "assistant"
    .ok (.ok (.assistant (.ok text)))
  | .toolStarted runId callId name arguments => do
    let tool ← writeToolStarted F runId callId name arguments
    .ok (.ok (.toolStarted (.ok tool)))
  | .failed runId failure => do
    let failed ← writeFailed runId failure
    .ok (.ok (.failed (.ok failed)))
  | .cancelled runId => .ok (.ok (.cancelledRunId runId))

/-- `read_transcript_item`. -/
def readTranscriptItem (F : TextFormats) (reader : Wire.Enumerant Wire.TranscriptItem) :
    Except RpcConversionError TranscriptItem := do
  match ← which "TranscriptItem" reader with
  | .user text =>
    let text ← readText text "user"
    .ok (.user text)
  | .assistant text =>
    let text ← readText text "assistant"
    .ok (.assistant text)
  | .toolStarted tool =>
    let (runId, callId, name, arguments) ← readToolStarted F (← follow tool)
    .ok (.toolStarted runId callId name arguments)
  | .failed failed =>
    let failed ← follow failed
    let failure ← readRunFailure (← follow failed.failure)
    .ok (.failed failed.runId failure)
  | .cancelledRunId runId => .ok (.cancelled runId)

/-- The words of a `TranscriptItem`: two of data and one pointer. -/
def transcriptItemWords : ℕ := 2 + 1

/-! ### Snapshots -/

/-- `write_active_run`. -/
def writeActiveRun (value : ActiveRunSnapshot) : Except RpcConversionError Wire.ActiveRun := do
  let prompt ← checkedText value.prompt "prompt"
  let assistantText ← checkedText value.assistantText "assistantText"
  .ok { runId := value.runId, prompt := .ok prompt, assistantText := .ok assistantText }

/-- `read_active_run`. -/
def readActiveRun (reader : Wire.ActiveRun) : Except RpcConversionError ActiveRunSnapshot := do
  let prompt ← readText reader.prompt "prompt"
  let assistantText ← readText reader.assistantText "assistantText"
  .ok { runId := reader.runId, prompt, assistantText }

/-- A persistence warning, written with `unwrap_or("")`. -/
def writePersistenceWarning (warning : Option String) :
    Except RpcConversionError (Wire.Pointer Wire.Text) := do
  let warning ← checkedText (warning.getD "") "persistenceWarning"
  .ok (.ok warning)

/-- A persistence warning, read with `(!warning.is_empty()).then_some(warning)`. -/
def readPersistenceWarning (warning : Wire.Pointer Wire.Text) :
    Except RpcConversionError (Option String) := do
  let warning ← readText warning "persistenceWarning"
  .ok (if warning.isEmpty then none else some warning)

/-- `write_session_snapshot`. -/
def writeSessionSnapshot (F : TextFormats) (value : SessionSnapshot) :
    Except RpcConversionError Wire.SessionSnapshot := do
  let summary ← writeSessionSummary F value.summary
  let _ ← wireStructListLen transcriptItemWords value.transcript.length "transcript"
  let transcript ← value.transcript.mapM (writeTranscriptItem F)
  let activeRun ← value.activeRun.mapM writeActiveRun
  let settings ← writeSessionSettings value.settings
  let catalog ← writeModelCatalog value.catalog
  let plan ← writePlanItems value.plan "plan"
  let jobs ← writeJobList F value.jobs "jobs"
  let persistenceWarning ← writePersistenceWarning value.persistenceWarning
  .ok {
    summary := .ok summary
    transcript := .ok transcript
    activeRun := activeRun.map .ok
    settings := .ok settings
    catalog := .ok catalog
    plan
    jobs
    persistenceWarning
    sequence := value.sequence
    busy := value.busy }

/-- `read_session_snapshot`. -/
def readSessionSnapshot (F : TextFormats) (reader : Wire.SessionSnapshot) :
    Except RpcConversionError SessionSnapshot := do
  let transcript ← (← follow reader.transcript).mapM (readTranscriptItem F)
  let activeRun ← (← reader.activeRun.mapM follow).mapM readActiveRun
  let persistenceWarning ← readPersistenceWarning reader.persistenceWarning
  let summary ← readSessionSummary F (← follow reader.summary)
  let settings ← readSessionSettings (← follow reader.settings)
  let catalog ← readModelCatalog (← follow reader.catalog)
  let plan ← readPlanItems reader.plan
  let jobs ← readJobList F reader.jobs
  .ok {
    summary
    transcript
    activeRun
    settings
    catalog
    plan
    jobs
    persistenceWarning
    sequence := reader.sequence
    busy := reader.busy }

/-! ### Events -/

/-- The `match` of `write_event_envelope`. -/
def writeEvent (F : TextFormats) : SessionEvent → Except RpcConversionError Wire.Event
  | .titleChanged title titleRevision => do
    let title ← checkedText title.text "title"
    .ok (.titleChanged (.ok { title := .ok title, titleRevision }))
  | .started runId prompt => do
    let prompt ← checkedText prompt "prompt"
    .ok (.started (.ok { runId, prompt := .ok prompt }))
  | .assistantDelta runId text => do
    let text ← checkedText text "text"
    .ok (.assistantDelta (.ok { runId, text := .ok text }))
  | .contextUsage runId inputTokens lastActivity => do
    let lastActivity ← checkedText (writeTimestamp F lastActivity) "lastActivity"
    .ok (.contextUsage (.ok { runId, inputTokens, lastActivity := .ok lastActivity }))
  | .toolStarted runId callId name arguments => do
    let tool ← writeToolStarted F runId callId name arguments
    .ok (.toolStarted (.ok tool))
  | .toolFinished runId callId name => do
    let callId ← checkedText callId "callId"
    let name ← checkedText name "name"
    .ok (.toolFinished (.ok { runId, callId := .ok callId, name := .ok name }))
  | .completed runId response lastActivity => do
    let response ← checkedText response "response"
    let lastActivity ← checkedText (writeTimestamp F lastActivity) "lastActivity"
    .ok (.completed (.ok { runId, response := .ok response, lastActivity := .ok lastActivity }))
  | .failed runId failure => do
    let failed ← writeFailed runId failure
    .ok (.failed (.ok failed))
  | .cancelled runId => .ok (.cancelledRunId runId)
  | .settingsChanged settings lastActivity => do
    let settings ← writeSessionSettings settings
    let lastActivity ← checkedText (writeTimestamp F lastActivity) "lastActivity"
    .ok (.settingsChanged (.ok { settings := .ok settings, lastActivity := .ok lastActivity }))
  | .planChanged plan => do
    let plan ← writePlanItems plan "planChanged"
    .ok (.planChanged plan)
  | .jobsChanged jobs => do
    let jobs ← writeJobList F jobs "jobsChanged"
    .ok (.jobsChanged jobs)
  | .catalogChanged catalog => do
    let catalog ← writeModelCatalog catalog
    .ok (.catalogChanged (.ok catalog))
  | .persistenceWarning warning => do
    let warning ← writePersistenceWarning warning
    .ok (.persistenceWarning warning)
  | .deleted sessionId => do
    let sessionId ← checkedText sessionId.display "sessionId"
    .ok (.deleted (.ok { sessionId := .ok sessionId }))

/-- `write_event_envelope`. -/
def writeEventEnvelope (F : TextFormats) (value : SessionEventEnvelope) :
    Except RpcConversionError Wire.EventEnvelope := do
  let event ← writeEvent F value.event
  .ok { sequence := value.sequence, event := .ok event }

/-- The `match` of `read_event_envelope`. -/
def readEvent (F : TextFormats) : Wire.Event → Except RpcConversionError SessionEvent
  | .titleChanged event => do
    let event ← follow event
    let title ← readSessionTitle (← readText event.title "title")
    .ok (.titleChanged title event.titleRevision)
  | .started event => do
    let event ← follow event
    let prompt ← readText event.prompt "prompt"
    .ok (.started event.runId prompt)
  | .assistantDelta event => do
    let event ← follow event
    let text ← readText event.text "text"
    .ok (.assistantDelta event.runId text)
  | .contextUsage event => do
    let event ← follow event
    let lastActivity ← readTimestamp F event.lastActivity "lastActivity"
    .ok (.contextUsage event.runId event.inputTokens lastActivity)
  | .toolStarted event => do
    let (runId, callId, name, arguments) ← readToolStarted F (← follow event)
    .ok (.toolStarted runId callId name arguments)
  | .toolFinished event => do
    let event ← follow event
    let callId ← readText event.callId "callId"
    let name ← readText event.name "name"
    .ok (.toolFinished event.runId callId name)
  | .completed event => do
    let event ← follow event
    let response ← readText event.response "response"
    let lastActivity ← readTimestamp F event.lastActivity "lastActivity"
    .ok (.completed event.runId response lastActivity)
  | .failed event => do
    let event ← follow event
    let failure ← readRunFailure (← follow event.failure)
    .ok (.failed event.runId failure)
  | .cancelledRunId runId => .ok (.cancelled runId)
  | .settingsChanged event => do
    let event ← follow event
    let settings ← readSessionSettings (← follow event.settings)
    let lastActivity ← readTimestamp F event.lastActivity "lastActivity"
    .ok (.settingsChanged settings lastActivity)
  | .planChanged plan => do
    let plan ← readPlanItems plan
    .ok (.planChanged plan)
  | .jobsChanged jobs => do
    let jobs ← readJobList F jobs
    .ok (.jobsChanged jobs)
  | .catalogChanged catalog => do
    let catalog ← readModelCatalog (← follow catalog)
    .ok (.catalogChanged catalog)
  | .persistenceWarning warning => do
    let warning ← readPersistenceWarning warning
    .ok (.persistenceWarning warning)
  | .deleted event => do
    let event ← follow event
    let sessionId ← readSessionId (← readText event.sessionId "sessionId")
    .ok (.deleted sessionId)

/-- `read_event_envelope`. -/
def readEventEnvelope (F : TextFormats) (reader : Wire.EventEnvelope) :
    Except RpcConversionError SessionEventEnvelope := do
  let event ← readEvent F (← which "EventEnvelope" reader.event)
  .ok { sequence := reader.sequence, event }

end Rpc
end Moh
