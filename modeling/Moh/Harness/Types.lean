/-
# Model-facing values of one run

`harness/types.rs`, `harness/error.rs` and the JSON values of `serde_json` that
tool arguments are made of.  An engine yields `EngineEvent`s; the harness turns
them into the `RunEvent`s of the run that it numbered.
-/

import Moh.Session.Plan

namespace Moh

/-- `serde_json::Number`: an unsigned, a negative or a binary64 number. -/
inductive Number where
  | posInt (n : ℕ)
  | negInt (n : ℤ)
  | float (bits : UInt64)
deriving DecidableEq, Repr

/-- `serde_json::Value`: the model-provided arguments of a tool call. -/
inductive Value where
  | null
  | bool (b : Bool)
  | number (n : Number)
  | string (s : String)
  | array (items : List Value)
  | object (fields : List (String × Value))

/-- The model-facing role of a text message. -/
inductive Role where
  | user
  | assistant
deriving DecidableEq, Repr

/-- A committed text-only message in model-facing session history. -/
structure Message where
  role : Role
  text : String
deriving DecidableEq, Repr

/-- Per-run execution context: the working directory and the accepted plan. -/
structure RunContext where
  cwd : List UInt8
  plan : List PlanItem
deriving DecidableEq, Repr

/-- A model-neutral request started by a run engine. -/
structure RunRequest where
  prompt : String
  history : List Message
  context : RunContext
deriving DecidableEq, Repr

/-- The lifecycle stage where a run failure occurred. -/
inductive RunStage where
  | startup
  | modelRequest
  | toolExecution
  | finalization
deriving DecidableEq, Repr

/-- A model-neutral classification of a run failure. -/
inductive RunFailureKind where
  | authentication
  | transport
  | httpRejected (status : UInt16)
  | protocol
  | emptyResponse
  | budgetExhausted
  | runtimeInfrastructure
  | toolInfrastructure
deriving DecidableEq, Repr

/-- Structured information about an unsuccessful run, without its source chain:
`RunFailure`, whose transport-safe copy is `RunFailureSnapshot`. -/
structure RunFailure where
  stage : RunStage
  kind : RunFailureKind
  retryable : Bool
  message : String
deriving DecidableEq, Repr

/-- Errors of harness commands before an engine event is available. -/
inductive HarnessError where
  | busy
  | notRunning
  | runIdExhausted
deriving DecidableEq, Repr

/-- An event yielded by a model-neutral run engine. -/
inductive EngineEvent where
  | assistantDelta (text : String)
  | contextUsage (inputTokens : ℕ)
  | toolStarted (callId name : String) (arguments : Value)
  | toolFinished (callId name : String)
  | completed (response : String)

/-- An observable lifecycle event produced by the harness for one run. -/
inductive RunEvent where
  | started (runId : ℕ)
  | assistantDelta (runId : ℕ) (text : String)
  | contextUsage (runId inputTokens : ℕ)
  | toolStarted (runId : ℕ) (callId name : String) (arguments : Value)
  | toolFinished (runId : ℕ) (callId name : String)
  | completed (runId : ℕ) (response : String)
  | failed (runId : ℕ) (failure : RunFailure)
  | cancelled (runId : ℕ)

end Moh
