/-
# The durable session repository

`session/store.rs`, at the level of records: a row holds what `load_record`
returns for it.  Every operation runs in one transaction, so an operation that
fails leaves the store as it was; `attempt` is a call whose connection, lock or
worker may fail as well (`fault`).  `checkpoint` replaces everything but the
working directory and the creation time, `updateMetadata` only the columns of
the `sessions` table, and `rename` and `compareAndSetGeneratedTitle` only the
title columns.
-/

import Moh.Library.Fallible
import Moh.Session.Types
import Mathlib.Data.List.AList

namespace Moh

/-- Failures while operating the durable session repository. -/
inductive SessionStoreError where
  | notFound (selector : String)
  | ambiguousTitle (title : SessionTitle) (ids : List SessionId)
  | invalidStoredData (field reason : String)
  | valueOutOfRange (field : String)
  | database (operation source : String)
  | connectionPoisoned
  | worker (source : String)
deriving DecidableEq

/-- `impl Display for SessionStoreError`. -/
def SessionStoreError.message : SessionStoreError → String
  | .notFound selector => "session " ++ selector ++ " was not found"
  | .ambiguousTitle title _ =>
    "session title " ++ title.text ++ " is ambiguous; select a session ID"
  | .invalidStoredData field reason => "session store contains invalid " ++ field ++ ": " ++ reason
  | .valueOutOfRange field => "session " ++ field ++ " exceeds SQLite's supported range"
  | .database operation source => "session-store " ++ operation ++ " failed: " ++ source
  | .connectionPoisoned => "session-store connection is unavailable after a previous panic"
  | .worker source => "session-store blocking worker failed: " ++ source

/-- The rows of the `sessions` table with the items that belong to each, and the
identifier that `AUTOINCREMENT` assigns next. -/
structure SessionStore where
  rows : AList fun _ : SessionId => SessionRecord
  nextId : ℕ

namespace SessionStore

/-! ### Range and plan checks -/

/-- `sqlite_u64`: the value fits a signed 64-bit column. -/
def sqliteU64 (value : ℕ) (field : String) : Except SessionStoreError Unit :=
  if value ≤ i64Max then .ok () else .error (.valueOutOfRange field)

/-- The checks of one item after the other, up to the first that fails. -/
def checkAll {α : Type} (check : α → Except SessionStoreError Unit) :
    List α → Except SessionStoreError Unit
  | [] => .ok ()
  | x :: xs =>
    match check x with
    | .error error => .error error
    | .ok () => checkAll check xs

/-- `i64::try_from(position)` for the positions of a list. -/
def checkPositions (count : ℕ) (field : String) : Except SessionStoreError Unit :=
  if count ≤ i64Max + 1 then .ok () else .error (.valueOutOfRange field)

/-- `validate_plan`. -/
def validatePlan (plan : List PlanItem) : Except SessionStoreError Unit :=
  if plan.any fun item => !item.validate then
    .error (.invalidStoredData "plan" "contains an invalid item")
  else if maxPlanItems < plan.length then
    .error (.invalidStoredData "plan" "contains more than 32 items")
  else if 1 < inProgressCount plan then
    .error (.invalidStoredData "plan" "contains more than one in_progress item")
  else .ok ()

/-- The range checks of `encode_transcript_item`. -/
def checkTranscriptItem : TranscriptItem → Except SessionStoreError Unit
  | .user _ => .ok ()
  | .assistant _ => .ok ()
  | .toolStarted runId _ _ _ => sqliteU64 runId "transcript run id"
  | .failed runId _ => sqliteU64 runId "transcript run id"
  | .cancelled runId => sqliteU64 runId "transcript run id"

/-- The range checks of one turn. -/
def checkTurn (turn : DurableTurn) : Except SessionStoreError Unit := do
  sqliteU64 turn.ordinal "turn ordinal"
  sqliteU64 turn.runId "turn run id"
  sqliteU64 turn.promptPosition "turn prompt position"

/-- Everything `checkpoint_sync` checks before it opens its transaction. -/
def checkRecord (record : SessionRecord) : Except SessionStoreError Unit := do
  validatePlan record.plan
  sqliteU64 record.id.value "session id"
  sqliteU64 record.titleRevision "title revision"
  sqliteU64 record.settings.contextTokens "context token count"
  checkPositions record.history.length "message position"
  checkPositions record.transcript.length "transcript position"
  checkAll checkTranscriptItem record.transcript
  checkAll checkTurn record.turns

/-! ### Operations -/

/-- A row by its identifier, as `load_record` reads it. -/
def loadRecord (store : SessionStore) (id : SessionId) :
    Except SessionStoreError SessionRecord := do
  sqliteU64 id.value "session id"
  match store.rows.lookup id with
  | none => .error (.notFound id.display)
  | some row =>
    validatePlan row.plan
    .ok row

/-- Replaces one row. -/
def setRow (store : SessionStore) (id : SessionId) (row : SessionRecord) : SessionStore :=
  { store with rows := store.rows.insert id row }

/-- The row `materialize_sync` inserts. -/
def materializedRecord (request : MaterializeSession) (id : SessionId) : SessionRecord where
  id := id
  title := request.title
  titleSource := .fallback
  titleRevision := 0
  cwd := request.cwd
  settings := request.settings
  transcript := [.user request.prompt]
  turns := [⟨0, request.runId, 0, .running⟩]
  history := []
  plan := []
  createdAt := request.createdAt
  lastActivity := request.createdAt

@[simp] theorem materializedRecord_id (request : MaterializeSession) (id : SessionId) :
    (materializedRecord request id).id = id := rfl

/-- `materialize_sync`. -/
def materializeSync (store : SessionStore) (request : MaterializeSession) :
    Except SessionStoreError (SessionRecord × SessionStore) := do
  sqliteU64 request.settings.contextTokens "context token count"
  sqliteU64 request.runId "turn run id"
  if i64Max < store.nextId then
    .error (.database "materialize session" "database or disk is full")
  else
    let id : SessionId := ⟨store.nextId⟩
    let record := materializedRecord request id
    .ok (record, { rows := store.rows.insert id record, nextId := store.nextId + 1 })

/-- The failure `load_sync` appends for each turn that was still running. -/
def interruptedFailure : RunFailureSnapshot :=
  ⟨.finalization, .runtimeInfrastructure, true, "run interrupted by backend restart"⟩

/-- A record whose running turns `load_sync` interrupted. -/
def interrupted (record : SessionRecord) : SessionRecord :=
  { record with
    turns := record.turns.map fun turn =>
      if turn.status = .running then { turn with status := .interrupted } else turn
    transcript := record.transcript ++
      (record.turns.filter fun turn => turn.status = .running).map fun turn =>
        .failed turn.runId interruptedFailure }

/-- `load_sync`: the row, whose running turns are interrupted first. -/
def loadSync (store : SessionStore) (id : SessionId) :
    Except SessionStoreError (SessionRecord × SessionStore) := do
  let record ← store.loadRecord id
  if record.turns.any fun turn => turn.status = .running then
    let record := interrupted record
    checkPositions record.transcript.length "transcript position"
    .ok (record, store.setRow id record)
  else .ok (record, store)

/-- The list-facing columns of a row. -/
def summary (row : SessionRecord) : SessionSummary where
  id := row.id
  title := row.title
  titleRevision := row.titleRevision
  cwd := row.cwd
  cwdDisplay := Utf8.decodeLossy row.cwd
  runningJobs := 0
  running := false
  busy := false
  attachedClients := 0
  lastActivity := row.lastActivity

/-- `list_sync`: newest first, by activity and then by identifier. -/
def listSync (store : SessionStore) (scope : SessionListScope) :
    Except SessionStoreError (List SessionSummary × SessionStore) :=
  let rows := store.rows.entries.map fun entry => summary entry.2
  let rows := rows.filter fun row =>
    match scope with
    | .project cwd => row.cwd == cwd
    | .all => true
  .ok (rows.mergeSort fun a b =>
    b.lastActivity < a.lastActivity ||
      (a.lastActivity = b.lastActivity && b.id.value ≤ a.id.value), store)

/-- The next title revision, within the range of its column. -/
def nextRevision (revision : ℕ) : Except SessionStoreError ℕ :=
  match checkedSucc revision with
  | none => .error (.valueOutOfRange "title revision")
  | some next => do
    sqliteU64 next "title revision"
    .ok next

/-- `rename_sync`. -/
def renameSync (store : SessionStore) (id : SessionId) (title : SessionTitle) :
    Except SessionStoreError (SessionRecord × SessionStore) := do
  let record ← store.loadRecord id
  let titleRevision ← nextRevision record.titleRevision
  let record :=
    { record with title := title, titleSource := .manual, titleRevision := titleRevision }
  .ok (record, store.setRow id record)

/-- `compare_and_set_generated_title_sync`: nothing happens when the title was
set by hand or its revision moved on. -/
def compareAndSetGeneratedTitleSync (store : SessionStore) (id : SessionId)
    (expectedRevision : ℕ) (title : SessionTitle) :
    Except SessionStoreError (Option SessionRecord × SessionStore) := do
  sqliteU64 id.value "session id"
  sqliteU64 expectedRevision "title revision"
  match store.rows.lookup id with
  | none => .error (.notFound id.display)
  | some row =>
    if row.titleSource = .manual ∨ row.titleRevision ≠ expectedRevision then .ok (none, store)
    else do
      let titleRevision ← nextRevision row.titleRevision
      validatePlan row.plan
      let record :=
        { row with title := title, titleSource := .generated, titleRevision := titleRevision }
      .ok (some record, store.setRow id record)

/-- `delete_sync`. -/
def deleteSync (store : SessionStore) (id : SessionId) :
    Except SessionStoreError (Unit × SessionStore) := do
  sqliteU64 id.value "session id"
  match store.rows.lookup id with
  | none => .error (.notFound id.display)
  | some _ => .ok ((), { store with rows := store.rows.erase id })

/-- `checkpoint_sync`: an `UPDATE`, which never creates a row. -/
def checkpointSync (store : SessionStore) (record : SessionRecord) :
    Except SessionStoreError (Unit × SessionStore) := do
  checkRecord record
  match store.rows.lookup record.id with
  | none => .error (.notFound record.id.display)
  | some row =>
    .ok ((), store.setRow record.id { record with cwd := row.cwd, createdAt := row.createdAt })

/-- `update_metadata_sync`: the columns of the `sessions` table alone. -/
def updateMetadataSync (store : SessionStore) (record : SessionRecord) :
    Except SessionStoreError (Unit × SessionStore) := do
  sqliteU64 record.id.value "session id"
  sqliteU64 record.titleRevision "title revision"
  sqliteU64 record.settings.contextTokens "context token count"
  match store.rows.lookup record.id with
  | none => .error (.notFound record.id.display)
  | some row =>
    .ok ((), store.setRow record.id
      { row with
        title := record.title
        titleSource := record.titleSource
        titleRevision := record.titleRevision
        settings := record.settings
        lastActivity := record.lastActivity })

/-- One repository call: the worker, the connection or the transaction may fail
(`fault`), and a call that fails changes nothing. -/
def attempt {α : Type} (fault : Option SessionStoreError) (store : SessionStore)
    (result : Except SessionStoreError (α × SessionStore)) :
    Except SessionStoreError α × SessionStore :=
  match fault, result with
  | some error, _ => (.error error, store)
  | none, .error error => (.error error, store)
  | none, .ok (value, next) => (.ok value, next)

section Calls

variable (fault : Option SessionStoreError) (store : SessionStore)

/-- `SessionRepository::materialize`. -/
def materialize (request : MaterializeSession) : Except SessionStoreError SessionRecord × SessionStore :=
  attempt fault store (store.materializeSync request)

/-- `SessionRepository::load`. -/
def load (id : SessionId) : Except SessionStoreError SessionRecord × SessionStore :=
  attempt fault store (store.loadSync id)

/-- `SessionRepository::list`. -/
def list (scope : SessionListScope) : Except SessionStoreError (List SessionSummary) × SessionStore :=
  attempt fault store (store.listSync scope)

/-- `SessionRepository::rename`. -/
def rename (id : SessionId) (title : SessionTitle) :
    Except SessionStoreError SessionRecord × SessionStore :=
  attempt fault store (store.renameSync id title)

/-- `SessionRepository::compare_and_set_generated_title`. -/
def compareAndSetGeneratedTitle (id : SessionId) (expectedRevision : ℕ) (title : SessionTitle) :
    Except SessionStoreError (Option SessionRecord) × SessionStore :=
  attempt fault store (store.compareAndSetGeneratedTitleSync id expectedRevision title)

/-- `SessionRepository::delete`. -/
def delete (id : SessionId) : Except SessionStoreError Unit × SessionStore :=
  attempt fault store (store.deleteSync id)

/-- `SessionRepository::checkpoint`. -/
def checkpoint (record : SessionRecord) : Except SessionStoreError Unit × SessionStore :=
  attempt fault store (store.checkpointSync record)

/-- `SessionRepository::update_metadata`. -/
def updateMetadata (record : SessionRecord) : Except SessionStoreError Unit × SessionStore :=
  attempt fault store (store.updateMetadataSync record)

end Calls

/-! ### What each call does -/

@[simp] theorem lookup_setRow (store : SessionStore) (id : SessionId) (row : SessionRecord) :
    (store.setRow id row).rows.lookup id = some row := AList.lookup_insert _

theorem lookup_setRow_of_ne (store : SessionStore) {id id' : SessionId} (h : id' ≠ id)
    (row : SessionRecord) : (store.setRow id row).rows.lookup id' = store.rows.lookup id' :=
  AList.lookup_insert_ne h

section Specs

variable {fault : Option SessionStoreError} {store next : SessionStore}

theorem attempt_eq_ok {α : Type} {result : Except SessionStoreError (α × SessionStore)} {value : α}
    (h : attempt fault store result = (.ok value, next)) : result = .ok (value, next) := by
  unfold attempt at h
  split at h
  · simp at h
  · simp at h
  · simp only [Prod.mk.injEq, Except.ok.injEq] at h
    rw [h.1, h.2]

/-- **A call that fails changes nothing.** -/
theorem attempt_eq_error {α : Type} {result : Except SessionStoreError (α × SessionStore)}
    {error : SessionStoreError} (h : attempt fault store result = (.error error, next)) :
    next = store := by
  unfold attempt at h
  split at h
  · exact (Prod.mk.inj h).2.symm
  · exact (Prod.mk.inj h).2.symm
  · simp at h

theorem sqliteU64_eq_ok {value : ℕ} {field : String} (h : sqliteU64 value field = .ok ()) :
    value ≤ i64Max := by
  unfold sqliteU64 at h
  split_ifs at h with hle
  exact hle

theorem loadRecord_eq_ok {id : SessionId} {record : SessionRecord}
    (h : store.loadRecord id = .ok record) : store.rows.lookup id = some record := by
  unfold loadRecord at h
  obtain ⟨-, -, h⟩ := Fallible.bind_eq_ok_iff.1 h
  cases hl : store.rows.lookup id with
  | none => simp [hl] at h
  | some row =>
    simp only [hl] at h
    obtain ⟨-, -, h⟩ := Fallible.bind_eq_ok_iff.1 h
    rw [Except.ok.inj h]

theorem nextRevision_eq_ok {revision next : ℕ} (h : nextRevision revision = .ok next) :
    next = revision + 1 ∧ next ≤ i64Max := by
  unfold nextRevision at h
  cases hs : checkedSucc revision with
  | none => simp [hs] at h
  | some n =>
    obtain ⟨-, rfl⟩ := checkedSucc_eq_some_iff.1 hs
    simp only [hs] at h
    obtain ⟨_, hrange, h⟩ := Fallible.bind_eq_ok_iff.1 h
    obtain rfl := Except.ok.inj h
    exact ⟨rfl, sqliteU64_eq_ok hrange⟩

/-- The title columns of one row were changed, and the next revision is theirs. -/
structure Retitled (store : SessionStore) (id : SessionId) (persisted : SessionRecord)
    (next : SessionStore) : Prop where
  row : ∃ row, store.rows.lookup id = some row ∧
    persisted =
      { row with
        title := persisted.title
        titleSource := persisted.titleSource
        titleRevision := row.titleRevision + 1 }
  written : next = store.setRow id persisted

/-- **A rename changes the title columns of its row.** -/
theorem rename_eq_ok {id : SessionId} {title : SessionTitle} {persisted : SessionRecord}
    (h : store.rename fault id title = (.ok persisted, next)) :
    store.Retitled id persisted next ∧ persisted.title = title ∧ persisted.titleSource = .manual := by
  have hs := attempt_eq_ok h
  unfold renameSync at hs
  obtain ⟨row, hrow, hs⟩ := Fallible.bind_eq_ok_iff.1 hs
  obtain ⟨revision, hrevision, hs⟩ := Fallible.bind_eq_ok_iff.1 hs
  obtain ⟨rfl, -⟩ := nextRevision_eq_ok hrevision
  simp only [Except.ok.injEq, Prod.mk.injEq] at hs
  obtain ⟨rfl, rfl⟩ := hs
  exact ⟨⟨⟨row, loadRecord_eq_ok hrow, rfl⟩, rfl⟩, rfl, rfl⟩

/-- **A generated title is rejected, or written** over a title that was not set by
hand and still has the expected revision. -/
theorem compareAndSetGeneratedTitle_cases {id : SessionId} {expectedRevision : ℕ}
    {title : SessionTitle} {persisted : Option SessionRecord}
    (h : store.compareAndSetGeneratedTitle fault id expectedRevision title = (.ok persisted, next)) :
    (persisted = none ∧ next = store) ∨
      ∃ row record, store.rows.lookup id = some row ∧ row.titleSource ≠ .manual ∧
        row.titleRevision = expectedRevision ∧
        record =
          { row with
            title := title
            titleSource := .generated
            titleRevision := row.titleRevision + 1 } ∧
        persisted = some record ∧ next = store.setRow id record := by
  have hs := attempt_eq_ok h
  unfold compareAndSetGeneratedTitleSync at hs
  obtain ⟨-, -, hs⟩ := Fallible.bind_eq_ok_iff.1 hs
  obtain ⟨-, -, hs⟩ := Fallible.bind_eq_ok_iff.1 hs
  cases hl : store.rows.lookup id with
  | none => simp [hl] at hs
  | some row =>
    simp only [hl] at hs
    split_ifs at hs with hrejected
    · simp only [Except.ok.injEq, Prod.mk.injEq] at hs
      exact .inl ⟨hs.1.symm, hs.2.symm⟩
    · push Not at hrejected
      obtain ⟨revision, hrevision, hs⟩ := Fallible.bind_eq_ok_iff.1 hs
      obtain ⟨-, -, hs⟩ := Fallible.bind_eq_ok_iff.1 hs
      obtain ⟨rfl, -⟩ := nextRevision_eq_ok hrevision
      simp only [Except.ok.injEq, Prod.mk.injEq] at hs
      exact .inr ⟨row, _, rfl, hrejected.1, hrejected.2, rfl, hs.1.symm, hs.2.symm⟩

/-- **A generated title changes nothing, or the title columns of its row.** -/
theorem compareAndSetGeneratedTitle_eq_ok {id : SessionId} {expectedRevision : ℕ}
    {title : SessionTitle} {persisted : Option SessionRecord}
    (h : store.compareAndSetGeneratedTitle fault id expectedRevision title = (.ok persisted, next)) :
    (persisted = none ∧ next = store) ∨
      ∃ record, persisted = some record ∧ store.Retitled id record next := by
  rcases compareAndSetGeneratedTitle_cases h with hsame | ⟨row, record, hl, -, -, rfl, hp, hn⟩
  · exact .inl hsame
  · exact .inr ⟨_, hp, ⟨row, hl, rfl⟩, hn⟩

/-- **A loaded record is its row,** whose running turns were interrupted. -/
theorem load_eq_ok {id : SessionId} {record : SessionRecord}
    (h : store.load fault id = (.ok record, next)) :
    next.rows.lookup id = some record ∧ (∀ turn ∈ record.turns, turn.status ≠ .running) ∧
      ∃ row, store.rows.lookup id = some row ∧
        (next = store ∧ record = row ∨
          next = store.setRow id record ∧ record = interrupted row) := by
  have hs := attempt_eq_ok h
  unfold loadSync at hs
  obtain ⟨row, hrow, hs⟩ := Fallible.bind_eq_ok_iff.1 hs
  have hl := loadRecord_eq_ok hrow
  split_ifs at hs with hany
  · obtain ⟨-, -, hs⟩ := Fallible.bind_eq_ok_iff.1 hs
    simp only [Except.ok.injEq, Prod.mk.injEq] at hs
    obtain ⟨rfl, rfl⟩ := hs
    refine ⟨lookup_setRow .., fun turn hturn => ?_, row, hl, .inr ⟨rfl, rfl⟩⟩
    obtain ⟨turn', -, rfl⟩ := List.mem_map.1 hturn
    split_ifs with hstatus
    · simp
    · exact hstatus
  · simp only [Except.ok.injEq, Prod.mk.injEq] at hs
    obtain ⟨rfl, rfl⟩ := hs
    refine ⟨hl, fun turn hturn hstatus => hany ?_, row, hl, .inl ⟨rfl, rfl⟩⟩
    exact List.any_eq_true.2 ⟨turn, hturn, by simpa using hstatus⟩

/-- **A new row gets the next identifier.** -/
theorem materialize_eq_ok {request : MaterializeSession} {record : SessionRecord}
    (h : store.materialize fault request = (.ok record, next)) :
    record = materializedRecord request ⟨store.nextId⟩ ∧
      next = { rows := store.rows.insert ⟨store.nextId⟩ record, nextId := store.nextId + 1 } := by
  have hs := attempt_eq_ok h
  unfold materializeSync at hs
  obtain ⟨-, -, hs⟩ := Fallible.bind_eq_ok_iff.1 hs
  obtain ⟨-, -, hs⟩ := Fallible.bind_eq_ok_iff.1 hs
  split_ifs at hs
  simp only [Except.ok.injEq, Prod.mk.injEq] at hs
  obtain ⟨rfl, rfl⟩ := hs
  exact ⟨rfl, rfl⟩

/-- A deletion removes the row. -/
theorem delete_eq_ok {id : SessionId} (h : store.delete fault id = (.ok (), next)) :
    next = { store with rows := store.rows.erase id } := by
  have hs := attempt_eq_ok h
  unfold deleteSync at hs
  obtain ⟨-, -, hs⟩ := Fallible.bind_eq_ok_iff.1 hs
  cases hl : store.rows.lookup id with
  | none => simp [hl] at hs
  | some row =>
    simp only [hl, Except.ok.injEq, Prod.mk.injEq, true_and] at hs
    exact hs.symm

/-- A list changes nothing. -/
theorem list_snd (fault : Option SessionStoreError) (store : SessionStore)
    (scope : SessionListScope) : (store.list fault scope).2 = store := by
  unfold list attempt listSync
  cases fault <;> rfl

/-- **A checkpoint fails, or replaces everything but the working directory and
the creation time of the row.** -/
theorem checkpoint_cases (fault : Option SessionStoreError) (store : SessionStore)
    (record : SessionRecord) :
    (∃ error, store.checkpoint fault record = (.error error, store)) ∨
      ∃ row, store.rows.lookup record.id = some row ∧
        store.checkpoint fault record = (.ok (), store.setRow record.id
          { record with cwd := row.cwd, createdAt := row.createdAt }) := by
  cases hc : store.checkpoint fault record with
  | mk result next =>
    cases result with
    | error error =>
      obtain rfl := attempt_eq_error hc
      exact .inl ⟨error, rfl⟩
    | ok u =>
      have hs := attempt_eq_ok hc
      unfold checkpointSync at hs
      obtain ⟨-, -, hs⟩ := Fallible.bind_eq_ok_iff.1 hs
      cases hl : store.rows.lookup record.id with
      | none => simp [hl] at hs
      | some row =>
        simp only [hl, Except.ok.injEq, Prod.mk.injEq, true_and] at hs
        exact .inr ⟨row, rfl, by rw [← hs]⟩

/-- **A metadata update fails, or replaces the columns of the `sessions` table.** -/
theorem updateMetadata_cases (fault : Option SessionStoreError) (store : SessionStore)
    (record : SessionRecord) :
    (∃ error, store.updateMetadata fault record = (.error error, store)) ∨
      ∃ row, store.rows.lookup record.id = some row ∧
        store.updateMetadata fault record = (.ok (), store.setRow record.id
          { row with
            title := record.title
            titleSource := record.titleSource
            titleRevision := record.titleRevision
            settings := record.settings
            lastActivity := record.lastActivity }) := by
  cases hc : store.updateMetadata fault record with
  | mk result next =>
    cases result with
    | error error =>
      obtain rfl := attempt_eq_error hc
      exact .inl ⟨error, rfl⟩
    | ok u =>
      have hs := attempt_eq_ok hc
      unfold updateMetadataSync at hs
      obtain ⟨-, -, hs⟩ := Fallible.bind_eq_ok_iff.1 hs
      obtain ⟨-, -, hs⟩ := Fallible.bind_eq_ok_iff.1 hs
      obtain ⟨-, -, hs⟩ := Fallible.bind_eq_ok_iff.1 hs
      cases hl : store.rows.lookup record.id with
      | none => simp [hl] at hs
      | some row =>
        simp only [hl, Except.ok.injEq, Prod.mk.injEq, true_and] at hs
        exact .inr ⟨row, rfl, by rw [← hs]⟩

end Specs

end SessionStore
end Moh
