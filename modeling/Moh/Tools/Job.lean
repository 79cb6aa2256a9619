/-
# The registry of background jobs

`tools/job.rs`: `JobRegistry` keeps the running jobs and the last terminal ones, a
`JobLease` is the one producer of a running job and a `JobUpdater` publishes its details.
Every operation is one critical section, with the notification of the observers and the
release of details behind it, under a lock that is never poisoned; `shutdown` waits
between two of them.  An operation of the model reports, next to its result, which job
it started or settled and which snapshots had their details released.
-/

import Moh.Library.Counter
import Moh.Library.Table
import Moh.Session.Types

namespace Moh
namespace Tools

/-- `MAX_RUNNING_JOBS`. -/
def maxRunningJobs : ℕ := 16

/-- `MAX_TERMINAL_JOBS`. -/
def maxTerminalJobs : ℕ := 64

/-- `JobState::terminal`. -/
def terminal : JobState → Bool
  | .running => false
  | _ => true

/-- `dyn JobDetails`: what a producer published, or `ProducerDisappeared`. -/
inductive JobDetails (D : Type) where
  | published (details : D)
  | producerDisappeared
deriving DecidableEq

/-- An immutable point-in-time view of a job. -/
structure JobSnapshot (D : Type) where
  id : JobId
  kind : JobKind
  state : JobState
  title : String
  startedAt : Timestamp
  completedAt : Option Timestamp
  details : JobDetails D
deriving DecidableEq

/-- `JobEntry`; `cancellation` is the value of the watch. -/
structure JobEntry (D : Type) where
  snapshot : JobSnapshot D
  token : ℕ
  cancellation : Bool
  cleaned : Bool
deriving DecidableEq

/-- `RegistryState` and the version that observers watch. -/
structure JobRegistry (D : Type) where
  jobs : Table JobId (JobEntry D)
  terminalOrder : List JobId
  nextId : ℕ
  nextToken : ℕ
  shuttingDown : Bool
  version : ℕ

/-- What an operation returns and does: the jobs it started, the snapshots it settled
jobs with, and the snapshots whose details it released. -/
structure Outcome (D α : Type) where
  result : Except JobRegistryError α
  registry : JobRegistry D
  started : List JobId := []
  settled : List (JobSnapshot D) := []
  cleaned : List (JobSnapshot D) := []

variable {D : Type}

/-- The entry of a running job. -/
def JobEntry.isRunning (entry : JobEntry D) : Bool := entry.snapshot.state == .running

/-- What `cleanup` gets of an entry: nothing when it was cleaned already. -/
def JobEntry.uncleaned (entry : JobEntry D) : List (JobSnapshot D) :=
  if entry.cleaned then [] else [entry.snapshot]

/-- What is cleaned at once when details are replaced behind the cleanup of an entry. -/
def JobEntry.replaced (entry : JobEntry D) : List (JobSnapshot D) :=
  if entry.cleaned then [entry.snapshot] else []

namespace JobRegistry

/-- `JobRegistry::new`. -/
def new : JobRegistry D where
  jobs := .empty
  terminalOrder := []
  nextId := 0
  nextToken := 0
  shuttingDown := false
  version := 0

/-- `running_count`. -/
def runningCount (r : JobRegistry D) : ℕ := r.jobs.rows.countP fun row => row.2.isRunning

/-- `notify`. -/
def notify (r : JobRegistry D) : Except JobRegistryError Unit × JobRegistry D :=
  match checkedSucc r.version with
  | none => (.error .invariant, r)
  | some version => (.ok (), { r with version := version })

/-- `evict`: while too many terminal jobs are retained, the first one that settled goes. -/
def evictFrom (jobs : Table JobId (JobEntry D)) : List JobId →
    List (JobSnapshot D) × Table JobId (JobEntry D) × List JobId
  | [] => ([], jobs, [])
  | id :: order =>
    if maxTerminalJobs < (id :: order).length then
      let (cleanup, rest) := evictFrom (jobs.remove id) order
      (((jobs.find id).map JobEntry.uncleaned).getD [] ++ cleanup, rest)
    else ([], jobs, id :: order)

@[inherit_doc evictFrom]
def evict (r : JobRegistry D) : List (JobSnapshot D) × JobRegistry D :=
  let (cleanup, jobs, terminalOrder) := evictFrom r.jobs r.terminalOrder
  (cleanup, { r with jobs := jobs, terminalOrder := terminalOrder })

/-- `start`; where the observers cannot be notified the job is there, but no lease. -/
def start (r : JobRegistry D) (kind : JobKind) (title : String) (details : D) (now : Timestamp) :
    Outcome D JobId :=
  if r.shuttingDown then { result := .error .shuttingDown, registry := r }
  else if maxRunningJobs ≤ r.runningCount then { result := .error .capacity, registry := r }
  else
    match checkedSucc r.nextId with
    | none => { result := .error .idExhausted, registry := r }
    | some nextId =>
      match checkedSucc r.nextToken with
      | none => { result := .error .idExhausted, registry := { r with nextId := nextId } }
      | some nextToken =>
        let entry : JobEntry D :=
          { snapshot :=
              { id := r.nextId
                kind := kind
                state := .running
                title := title
                startedAt := now
                completedAt := none
                details := .published details }
            token := r.nextToken
            cancellation := false
            cleaned := false }
        let (cleanup, evicted) := evict
          { r with jobs := r.jobs.put r.nextId entry, nextId := nextId, nextToken := nextToken }
        let (notified, registry) := evicted.notify
        { result := notified.map fun _ => r.nextId
          registry := registry
          started := [r.nextId]
          cleaned := cleanup }

/-- The entry of a job that its producer still owns. -/
def owned (r : JobRegistry D) (id : JobId) (token : ℕ) : Except JobRegistryError (JobEntry D) :=
  match r.jobs.find id with
  | none => .error (.notFound id)
  | some entry =>
    if entry.token ≠ token ∨ terminal entry.snapshot.state then .error (.alreadySettled id)
    else .ok entry

/-- `JobRegistry::update`. -/
def update (r : JobRegistry D) (id : JobId) (token : ℕ) (details : D) : Outcome D Unit :=
  match r.owned id token with
  | .error error => { result := .error error, registry := r }
  | .ok entry =>
    let updated := { entry with snapshot := { entry.snapshot with details := .published details } }
    let (notified, registry) := { r with jobs := r.jobs.modify id fun _ => updated }.notify
    { result := notified, registry := registry, cleaned := updated.replaced }

/-- `JobRegistry::finish`. -/
def finish (r : JobRegistry D) (id : JobId) (token : ℕ) (state : JobState) (details : JobDetails D)
    (now : Timestamp) : Outcome D Unit :=
  if terminal state = false then { result := .error .invariant, registry := r }
  else
    match r.owned id token with
    | .error error => { result := .error error, registry := r }
    | .ok entry =>
      let settled :=
        { entry with
          snapshot :=
            { entry.snapshot with state := state, completedAt := some now, details := details } }
      let (cleanup, evicted) := evict
        { r with
          jobs := r.jobs.modify id fun _ => settled
          terminalOrder := r.terminalOrder ++ [id] }
      let (notified, registry) := evicted.notify
      { result := notified
        registry := registry
        settled := [settled.snapshot]
        cleaned := settled.replaced ++ cleanup }

/-- `JobLease::finish`, without the drop of a lease that is not settled. -/
def finishLease (r : JobRegistry D) (id : JobId) (state : JobState) (details : JobDetails D)
    (now : Timestamp) : Outcome D Unit :=
  match r.jobs.find id with
  | none => { result := .error (.notFound id), registry := r }
  | some entry => r.finish id entry.token state details now

/-- `JobLease::drop` of a lease that is not settled. -/
def dropLease (r : JobRegistry D) (id : JobId) (now : Timestamp) : Outcome D Unit :=
  { r.finishLease id .failed .producerDisappeared now with result := .ok () }

/-- `request_cancel`. -/
def requestCancel (r : JobRegistry D) (id : JobId) : Outcome D (Option (JobSnapshot D)) :=
  match r.jobs.find id with
  | none => { result := .error (.notFound id), registry := r }
  | some entry =>
    if terminal entry.snapshot.state then { result := .ok (some entry.snapshot), registry := r }
    else
      let (notified, registry) :=
        { r with jobs := r.jobs.modify id fun _ => { entry with cancellation := true } }.notify
      { result := notified.map fun _ => none, registry := registry }

/-- `shutdown`, up to its wait: no job starts any more and all are cancelled. -/
def shutdown (r : JobRegistry D) : Outcome D Unit :=
  let cancelled := r.jobs.mapRows fun _ entry =>
    { entry with cancellation := entry.cancellation || entry.isRunning }
  let (notified, registry) := { r with shuttingDown := true, jobs := cancelled }.notify
  { result := notified, registry := registry }

/-- `cleanup_retained`, with which `shutdown` ends however its wait ended. -/
def cleanupRetained (r : JobRegistry D) : Outcome D Unit where
  result := .ok ()
  registry := { r with jobs := r.jobs.mapRows fun _ entry => { entry with cleaned := true } }
  cleaned := r.jobs.rows.filterMap fun row =>
    if row.2.cleaned then none else some row.2.snapshot

end JobRegistry

/-! ### The registry with its producers -/

/-- One operation.  An updater may be any pair of an identifier and a token; `finish`
leaves the lease to `drop` where it failed. -/
inductive JobOperation (D : Type) where
  | start (kind : JobKind) (title : String) (details : D) (now : Timestamp)
  | update (id : JobId) (token : ℕ) (details : D)
  | finish (id : JobId) (state : JobState) (details : JobDetails D) (now : Timestamp)
  | drop (id : JobId) (now : Timestamp)
  | cancel (id : JobId)
  | shutdown
  | endShutdown

/-- The registry, the live leases, and what happened so far: the jobs started, the
leases handed out, the snapshots that jobs settled with and those whose details were
released, and whether a shutdown has come to its end. -/
structure JobWorld (D : Type) where
  registry : JobRegistry D
  leases : List JobId
  started : List JobId
  granted : List JobId
  settled : List (JobSnapshot D)
  cleaned : List (JobSnapshot D)
  shutDown : Bool

namespace JobWorld

/-- A registry that was never used. -/
def new : JobWorld D := ⟨.new, [], [], [], [], [], false⟩

/-- The world behind an operation. -/
def record {α : Type} (w : JobWorld D) (o : Outcome D α) : JobWorld D :=
  { w with
    registry := o.registry
    started := w.started ++ o.started
    settled := w.settled ++ o.settled
    cleaned := w.cleaned ++ o.cleaned }

/-- A lease is gone. -/
def release (w : JobWorld D) (id : JobId) : JobWorld D :=
  { w with leases := w.leases.filter (· ≠ id) }

/-- A lease is handed out. -/
def grant (w : JobWorld D) (id : JobId) : JobWorld D :=
  { w with leases := w.leases ++ [id], granted := w.granted ++ [id] }

/-- One step; what needs a lease that is gone, or a shutdown that did not begin, does not
happen. -/
def step (w : JobWorld D) : JobOperation D → JobWorld D
  | .start kind title details now =>
    let o := w.registry.start kind title details now
    match o.result with
    | .ok id => (w.record o).grant id
    | .error _ => w.record o
  | .update id token details => w.record (w.registry.update id token details)
  | .finish id state details now =>
    if id ∈ w.leases then
      let o := w.registry.finishLease id state details now
      match o.result with
      | .ok () => (w.record o).release id
      | .error _ => w.record o
    else w
  | .drop id now =>
    if id ∈ w.leases then (w.record (w.registry.dropLease id now)).release id else w
  | .cancel id => w.record (w.registry.requestCancel id)
  | .shutdown => w.record w.registry.shutdown
  | .endShutdown =>
    if w.registry.shuttingDown then { w.record w.registry.cleanupRetained with shutDown := true }
    else w

end JobWorld
end Tools
end Moh
