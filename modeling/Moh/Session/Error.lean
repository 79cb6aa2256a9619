/-
# Command failures

The errors of `session/actor.rs`, and the maps between the error types that the
actor's handlers apply with `map_err`.
-/

import Moh.Session.Projection
import Moh.Session.Store

namespace Moh

/-- Stable command failure category. -/
inductive ErrorCode where
  | busy
  | notRunning
  | sessionNotFound
  | ambiguousTitle
  | sessionNameConflict
  | invalidArgument
  | modelNotFound
  | unsupportedReasoning
  | jobNotFound
  | backendStarting
  | backendUnavailable
  | persistence
  | sessionDeleting
  | sessionDeleted
  | internal
deriving DecidableEq, Repr

/-- Typed failures returned by session actor commands. -/
inductive SessionCommandError where
  | reported (code : ErrorCode) (message : String)
  | busy
  | notRunning
  | runIdExhausted
  | modelNotFound (model : String)
  | unsupportedReasoning (model reasoning : String)
  | invalidJobId (id : String)
  | invalidPrompt
  | jobNotFound (id : String)
  | persistence (message : String)
  | job (message : String)
  | projection (message : String)
  | deleting
  | unavailable
deriving DecidableEq, Repr

/-- `impl Display for SessionCommandError`. -/
def SessionCommandError.message : SessionCommandError → String
  | .reported _ message => message
  | .busy => "a run is already active"
  | .notRunning => "there is no active run"
  | .runIdExhausted => "run identifier space is exhausted"
  | .modelNotFound model => "model " ++ model ++ " was not found"
  | .unsupportedReasoning model reasoning =>
    "model " ++ model ++ " does not support reasoning effort " ++ reasoning
  | .invalidJobId id => "job identifier " ++ id ++ " is malformed"
  | .invalidPrompt => "the first session prompt must contain non-whitespace text"
  | .jobNotFound id => "job " ++ id ++ " was not found"
  | .persistence message => "session persistence failed: " ++ message
  | .job message => "session job command failed: " ++ message
  | .projection message => "session projection failed: " ++ message
  | .deleting => "session is being deleted"
  | .unavailable => "session actor is unavailable"

/-- `durable_invariant`. -/
def durableInvariant (message : String) : SessionCommandError := .projection message

/-- `map_harness_error`. -/
def mapHarnessError : HarnessError → SessionCommandError
  | .busy => .busy
  | .notRunning => .notRunning
  | .runIdExhausted => .runIdExhausted

/-- `map_projection_error`. -/
def mapProjectionError (error : ProjectionError) : SessionCommandError := .projection error.message

/-- `map_store_error`. -/
def mapStoreError (error : SessionStoreError) : SessionCommandError := .persistence error.message

/-- `map_job_error`. -/
def mapJobError : JobRegistryError → SessionCommandError
  | .malformedId => .invalidJobId ""
  | .notFound id => .jobNotFound (displayJobId id)
  | error => .job error.message

end Moh
