/-
# Errors of a provider attempt

`runtime/rig/codex.rs`: `AttemptError` and how it becomes the failure of a run
(`mapAttemptError`); `providers/codex/model.rs`, `auth.rs`: the errors it carries.
What the client library says of its own errors, the HTTP status and the text, is a
field of them.  A failure of the credentials is told by the status 401
(`isUnauthorized`).
-/

import Moh.Harness.Types

namespace Moh
namespace Codex

/-- `AuthError`, without its fields, of which no failure tells. -/
inductive AuthError where
  | homeDirectoryUnavailable
  | fileRequired
  | read
  | malformed
  | unsupportedAuthMode
  | missingCredentialField
  | refreshFailed
  | concurrentCredentialChange
  | credentialStoreBusy
  | persist
  | refreshTransport
deriving DecidableEq, Repr

/-- `CodexModelError`. -/
inductive CodexModelError where
  | auth (error : AuthError)
  | client
  | catalogTransport
  | catalogRejected (status : UInt16)
  | catalogResponse
deriving DecidableEq, Repr

/-- The kinds of `CompletionError` that are told apart. -/
inductive CompletionErrorKind where
  | httpError
  | urlError
  | responseError (message : String)
  | other
deriving DecidableEq, Repr

/-- `CompletionError`, with its `provider_response_status()` and its `to_string()`. -/
structure CompletionError where
  kind : CompletionErrorKind
  status : Option UInt16
  display : String
deriving DecidableEq, Repr

/-- The kinds of `PromptError` that are told apart. -/
inductive PromptErrorKind where
  | completionError (error : CompletionError)
  | maxTurnsError
  | promptCancelled (reason : String)
  | other
deriving DecidableEq, Repr

/-- `PromptError`, with its `provider_response_status()`. -/
structure PromptError where
  kind : PromptErrorKind
  status : Option UInt16
deriving DecidableEq, Repr

/-- `StreamingError`. -/
inductive StreamingError where
  | completion (error : CompletionError)
  | prompt (error : PromptError)
deriving DecidableEq, Repr

/-- `AttemptError`. -/
inductive AttemptError where
  | model (error : CodexModelError)
  | completion (error : CompletionError)
  | agent (error : StreamingError)
  | empty
  | budgetExhausted
deriving DecidableEq, Repr

/-- `is_unauthorized`. -/
def isUnauthorized (error : AttemptError) : Bool :=
  let status := match error with
    | .completion error => error.status
    | .agent (.completion error) => error.status
    | .agent (.prompt error) => error.status
    | _ => none
  status == some 401

/-- `budget_failure`. -/
def budgetFailure (stage : RunStage) : RunFailure :=
  ⟨stage, .budgetExhausted, false, "Codex model call budget was exhausted"⟩

/-- `protocol_failure`. -/
def protocolFailure : RunFailure :=
  ⟨.modelRequest, .protocol, false, "Codex response was malformed or incompatible"⟩

/-- `map_auth_error`. -/
def mapAuthError (error : AuthError) : RunFailure :=
  match error with
  | .homeDirectoryUnavailable | .fileRequired | .malformed | .unsupportedAuthMode
  | .missingCredentialField | .refreshFailed =>
    ⟨.modelRequest, .authentication, false, "Codex authentication failed"⟩
  | .refreshTransport =>
    ⟨.modelRequest, .transport, true, "Codex credential refresh transport failed"⟩
  | .read =>
    ⟨.modelRequest, .runtimeInfrastructure, true, "Codex credential store could not be read"⟩
  | .concurrentCredentialChange =>
    ⟨.modelRequest, .runtimeInfrastructure, true, "Codex credentials changed during refresh"⟩
  | .credentialStoreBusy =>
    ⟨.modelRequest, .runtimeInfrastructure, true, "Codex credential store is busy"⟩
  | .persist =>
    ⟨.modelRequest, .runtimeInfrastructure, true,
      "Codex credential update could not be persisted"⟩

/-- `map_model_error`. -/
def mapModelError (error : CodexModelError) : RunFailure :=
  match error with
  | .auth error => mapAuthError error
  | .client | .catalogTransport | .catalogRejected _ | .catalogResponse => protocolFailure

/-- `CodexTransportError`. -/
inductive CodexTransportError where
  | httpRejected (status : UInt16)
  | transport
  | incompatibleResponse
deriving DecidableEq, Repr

/-- `is_stream_transport_error`. -/
def isStreamTransportError (message : List Char) : Bool :=
  "Http client error:".toList.isPrefixOf message || "Http error:".toList.isPrefixOf message ||
    message == "Stream ended".toList ||
    message == "Request in error state, cannot access headers".toList

/-- `classify_completion_error`. -/
def classifyCompletionError (error : CompletionError) : CodexTransportError :=
  match error.status with
  | some status => .httpRejected status
  | none =>
    match error.kind with
    | .httpError | .urlError => .transport
    | .responseError _ | .other =>
      if "ProviderError: ".toList.isPrefixOf error.display.toList &&
          isStreamTransportError (error.display.toList.drop 15) then .transport
      else .incompatibleResponse

/-- `map_completion_error`. -/
def mapCompletionError (error : CompletionError) : RunFailure :=
  if error.kind = .responseError "Codex model call budget was exhausted" then
    budgetFailure .modelRequest
  else
    match classifyCompletionError error with
    | .httpRejected status =>
      if status = 401 then
        ⟨.modelRequest, .authentication, false, "Codex authentication failed"⟩
      else
        ⟨.modelRequest, .httpRejected status, status == 429 || decide (500 ≤ status),
          "Codex request was rejected with HTTP status " ++ toString status⟩
    | .transport => ⟨.modelRequest, .transport, true, "Codex request transport failed"⟩
    | .incompatibleResponse => protocolFailure

/-- `map_agent_error`; the reasons are the codes of the tools that stop a run. -/
def mapAgentError (error : StreamingError) : RunFailure :=
  match error with
  | .completion error => mapCompletionError error
  | .prompt error =>
    match error.kind with
    | .completionError error => mapCompletionError error
    | .maxTurnsError => budgetFailure .modelRequest
    | .promptCancelled reason =>
      if reason = "MOH_READ_RUNTIME" then
        ⟨.toolExecution, .runtimeInfrastructure, false, "read tool runtime failed"⟩
      else if reason = "MOH_WRITE_RUNTIME" then
        ⟨.toolExecution, .runtimeInfrastructure, false, "write tool runtime failed"⟩
      else if reason = "MOH_PLAN_RUNTIME" then
        ⟨.toolExecution, .runtimeInfrastructure, false, "update plan tool runtime failed"⟩
      else protocolFailure
    | .other => protocolFailure

/-- `map_attempt_error`. -/
def mapAttemptError (error : AttemptError) : RunFailure :=
  match error with
  | .model error => mapModelError error
  | .completion error => mapCompletionError error
  | .agent error => mapAgentError error
  | .empty => ⟨.finalization, .emptyResponse, false, "Codex returned no assistant text"⟩
  | .budgetExhausted => budgetFailure .modelRequest

end Codex
end Moh
