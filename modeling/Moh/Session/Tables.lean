/-
# Operations on the tables

`session/store.rs`: `load_sync` and `checkpoint_sync` statement by statement.  A row
is rejected by the constraints of its table (`ChildTable`), and any statement may
fail; both operations run in one transaction.  The rows of a session decode to a
record (`Holds`), and a calm `load_record` returns just that record
(`calm_loadRecord`).
-/

import Moh.Session.Schema

namespace Moh
namespace Schema

open Fallible Transaction

/-- A procedure of the store. -/
abbrev StoreProc (α : Type) := Sql Database SessionStoreError α

/-! ### Tables of items -/

/-- A table whose rows belong to sessions: where it is, and its `CHECK` constraints. -/
structure ChildTable (ρ : Type) where
  get : Database → Children ℤ ρ
  put : Database → Children ℤ ρ → Database
  check : ℤ → ρ → Bool
  get_put : ∀ db c, get (put db c) = c
  put_get : ∀ db, put db (get db) = db
  put_put : ∀ db c c', put (put db c) c' = put db c'
  sessions_put : ∀ db c, (put db c).sessions = db.sessions

/-- The table `messages`. -/
def messages : ChildTable MessageRow where
  get db := db.messages
  put db c := { db with messages := c }
  check _ row := row.role ∈ ["user", "assistant"]
  get_put _ _ := rfl
  put_get _ := rfl
  put_put _ _ _ := rfl
  sessions_put _ _ := rfl

/-- The table `transcript_items`. -/
def transcriptItems : ChildTable TranscriptRow where
  get db := db.transcriptItems
  put db c := { db with transcriptItems := c }
  check _ row := row.kind ∈ ["user", "assistant", "tool_started", "failed", "cancelled"] ∧
    ∀ retryable ∈ row.failureRetryable, retryable ∈ [0, 1]
  get_put _ _ := rfl
  put_get _ := rfl
  put_put _ _ _ := rfl
  sessions_put _ _ := rfl

/-- The table `turns`. -/
def turns : ChildTable TurnRow where
  get db := db.turns
  put db c := { db with turns := c }
  check _ row := row.status ∈ ["running", "completed", "failed", "cancelled", "interrupted"]
  get_put _ _ := rfl
  put_get _ := rfl
  put_put _ _ _ := rfl
  sessions_put _ _ := rfl

/-- The table `plan_items`. -/
def planItems : ChildTable PlanRow where
  get db := db.planItems
  put db c := { db with planItems := c }
  check position row := 0 ≤ position ∧
    row.status ∈ ["pending", "in_progress", "completed", "blocked", "cancelled"]
  get_put _ _ := rfl
  put_get _ := rfl
  put_put _ _ _ := rfl
  sessions_put _ _ := rfl

section
variable {ρ : Type}

/-- `INSERT INTO table (session_id, position, ..) VALUES ..`. -/
def insertRow (T : ChildTable ρ) (id : ℤ) (row : ℤ × ρ) (db : Database) : Except String Database :=
  if !T.check row.1 row.2 then .error "CHECK constraint failed"
  else match (T.get db).insert id row.1 row.2 with
    | none => .error "UNIQUE constraint failed"
    | some c =>
      if db.sessions.find id = none then .error "FOREIGN KEY constraint failed"
      else .ok (T.put db c)

/-- The rows of a session replaced. -/
def setRows (T : ChildTable ρ) (id : ℤ) (t : Table ℤ ρ) (db : Database) : Database :=
  T.put db ((T.get db).set id t)

/-- `DELETE FROM table WHERE session_id = ?1`. -/
def deleteRows (T : ChildTable ρ) (id : ℤ) (db : Database) : Except String (Unit × Database) :=
  .ok ((), setRows T id .empty db)

end

/-- `UPDATE sessions SET .. WHERE id = ?`, with the number of changed rows. -/
def updateSession (id : ℤ) (f : SessionRow → SessionRow) (db : Database) :
    Except String (ℕ × Database) :=
  match db.sessions.find id with
  | none => .ok (0, db)
  | some row =>
    if (f row).titleSource ∈ ["fallback", "generated", "manual"] then
      .ok (1, { db with sessions := db.sessions.mapRows fun k r => if k = id then f r else r })
    else .error "CHECK constraint failed"

/-- `UPDATE turns SET status = 'interrupted' WHERE session_id = ?1 AND status = 'running'`. -/
def interruptTurns (id : ℤ) (db : Database) : Except String (Unit × Database) :=
  .ok ((), setRows turns id
    ((db.turns id).mapRows fun _ row =>
      if row.status = "running" then { row with status := "interrupted" } else row) db)

/-! ### Operations -/

/-- `SELECT .. WHERE session_id = ?1 ORDER BY position`, prepared and run. -/
def selectRows {ρ : Type} (prepare load : String) (T : ChildTable ρ) (id : ℤ) :
    StoreProc (List (ℤ × ρ)) := do
  statement (databaseError prepare)
  query (databaseError load) fun db => (T.get db id).rows

/-- `load_record`. -/
def loadRecord (C : Codec) (id : SessionId) : StoreProc SessionRecord := do
  let sqliteId ← ofExcept (sqliteSessionId id)
  let row ← query (databaseError "load session") fun db => db.sessions.find sqliteId
  let row ← ofExcept (match row with
    | none => .error (.notFound id.display)
    | some row => .ok row)
  let record ← ofExcept (storedRecord C sqliteId row)
  let rows ← selectRows "prepare session-history load" "load session history" messages sqliteId
  let history ← readRows (databaseError "read session history") decodeMessage 0 rows
  let rows ← selectRows "prepare transcript load" "load transcript" transcriptItems sqliteId
  let transcript ← readRows (databaseError "read transcript") (decodeItem C) 0 rows
  let rows ← selectRows "prepare turns load" "load turns" turns sqliteId
  let turns ← readRows (databaseError "read turns") decodeTurn 0 rows
  let rows ← selectRows "prepare session-plan load" "load session plan" planItems sqliteId
  let plan ← readRows (databaseError "read session plan") decodePlanItem 0 rows
  ofExcept (SessionStore.validatePlan plan)
  pure { record with history, transcript, turns, plan }

/-- The loop of `load_sync`: a failure for each interrupted run, from a position on. -/
def appendInterrupted (C : Codec) (id : ℤ) : ℕ → List ℕ → StoreProc Unit
  | _, [] => pure ()
  | n, runId :: runIds => do
    let position ← ofExcept (sqliteU64 n "transcript position")
    let item ← ofExcept
      (encodeTranscriptItem C position (.failed runId SessionStore.interruptedFailure))
    execute (databaseError "append interrupted-turn failure") fun db =>
      (insertRow transcriptItems id item db).map fun db => ((), db)
    appendInterrupted C id (n + 1) runIds

/-- The runs that were still running. -/
def runningTurns (turns : List DurableTurn) : List ℕ :=
  (turns.filter fun turn => turn.status = .running).map DurableTurn.runId

/-- The transaction of `load_sync`: the record, whose running turns are interrupted
first. -/
def recoverRecord (C : Codec) (id : SessionId) : StoreProc SessionRecord := do
  let record ← loadRecord C id
  if runningTurns record.turns = [] then pure record
  else do
    let sqliteId ← ofExcept (sqliteSessionId id)
    execute (databaseError "interrupt running session turns") (interruptTurns sqliteId)
    statement (databaseError "prepare interrupted-turn transcript append")
    appendInterrupted C sqliteId record.transcript.length (runningTurns record.turns)
    loadRecord C id

/-- `load_sync`. -/
def loadSync (C : Codec) (id : SessionId) : StoreProc SessionRecord :=
  transaction (databaseError "begin session-load transaction")
    (databaseError "commit session load") (recoverRecord C id)

/-- The transaction of `checkpoint_sync`: the columns of the session, and its items
replaced by encoded ones. -/
def replaceSession (C : Codec) (record : SessionRecord) (id titleRevision contextTokens : ℤ)
    (history : List (ℤ × MessageRow)) (transcript : List (ℤ × TranscriptRow))
    (turnRows : List (ℤ × TurnRow)) (plan : List (ℤ × PlanRow)) : StoreProc Unit := do
  let updated ← execute (databaseError "checkpoint metadata") (updateSession id fun row =>
    { row with
      title := record.title.text
      titleSource := record.titleSource.asStored
      titleRevision
      model := record.settings.model
      reasoning := record.settings.reasoning.asStr
      contextTokens
      lastActivity := C.formatTimestamp record.lastActivity })
  if updated = 0 then Proc.fail (.notFound record.id.display)
  else do
    execute (databaseError "replace session history") (deleteRows messages id)
    execute (databaseError "replace session plan") (deleteRows planItems id)
    statement (databaseError "prepare session-history checkpoint")
    writeRows (databaseError "checkpoint session history") (insertRow messages id) history
    statement (databaseError "prepare session-plan checkpoint")
    writeRows (databaseError "checkpoint session plan") (insertRow planItems id) plan
    execute (databaseError "replace session transcript") (deleteRows transcriptItems id)
    statement (databaseError "prepare transcript checkpoint")
    writeRows (databaseError "checkpoint transcript") (insertRow transcriptItems id) transcript
    execute (databaseError "replace session turns") (deleteRows turns id)
    statement (databaseError "prepare turns checkpoint")
    writeRows (databaseError "checkpoint turns") (insertRow turns id) turnRows

/-- `checkpoint_sync`. -/
def checkpointSync (C : Codec) (record : SessionRecord) : StoreProc Unit := do
  ofExcept (SessionStore.validatePlan record.plan)
  let id ← ofExcept (sqliteSessionId record.id)
  let titleRevision ← ofExcept (sqliteU64 record.titleRevision "title revision")
  let contextTokens ← ofExcept (sqliteU64 record.settings.contextTokens "context token count")
  let history ← ofExcept (collect encodeMessage 0 record.history)
  let transcript ← ofExcept (collect (encodeItem C) 0 record.transcript)
  let turnRows ← ofExcept (collect encodeTurn 0 record.turns)
  let plan ← ofExcept (collect encodePlanItem 0 record.plan)
  transaction (databaseError "begin checkpoint transaction") (databaseError "commit checkpoint")
    (replaceSession C record id titleRevision contextTokens history transcript turnRows plan)

/-- `SessionStore::run`: the worker, or a poisoned lock, may keep an operation from
running at all. -/
def run {α : Type} (setup : Option SessionStoreError) (operation : StoreProc α) : StoreProc α :=
  match setup with
  | some e => Proc.fail e
  | none => operation

/-- `SessionRepository::load`. -/
def load (C : Codec) (setup : Option SessionStoreError) (id : SessionId) :
    StoreProc SessionRecord :=
  run setup (loadSync C id)

/-- `SessionRepository::checkpoint`. -/
def checkpoint (C : Codec) (setup : Option SessionStoreError) (record : SessionRecord) :
    StoreProc Unit :=
  run setup (checkpointSync C record)

end Schema
end Moh
