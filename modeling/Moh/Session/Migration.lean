/-
# Migration of legacy databases

`session/store.rs`: `initialize_database` and `migrate_legacy_to_v3`.  A database of
version 1, or of version 2 without titles, has only sessions and messages (and plans,
in version 2); the current tables are filled from them in one transaction.
-/

import Moh.Session.Interrupted

namespace Moh
namespace Schema

open Fallible Transaction

/-! ### Databases on disk -/

/-- `LegacySessionRow`, without its key. -/
structure LegacySessionRow where
  name : Option String
  cwd : List UInt8
  model : String
  reasoning : String
  contextTokens : ℤ
  createdAt : String
  lastActivity : String
deriving DecidableEq, Repr

/-- The tables of version 1, or with a table of plans those of version 2.  A position is
a 64-bit column, and the rows of the plans meet its `CHECK` constraints. -/
structure LegacyDatabase where
  sessions : Table ℤ LegacySessionRow
  messages : Children ℤ MessageRow
  plans : Option (Children ℤ PlanRow)
  positions : ∀ i, ∀ x ∈ (messages i).rows, x.1 ≤ i64Max
  checked : ∀ c ∈ plans, ∀ i, ∀ x ∈ (c i).rows, planItems.check x.1 x.2 = true

/-- Tables without rows. -/
def Database.empty : Database := ⟨.empty, fun _ => .empty, fun _ => .empty, fun _ => .empty,
  fun _ => .empty⟩

/-- A database on disk, and what a migration makes of it on its way. -/
inductive StoreFile where
  | blank
  | legacy (old : LegacyDatabase)
  /-- The legacy tables under their new names. -/
  | renamed (old : LegacyDatabase)
  /-- The renamed tables and the current ones. -/
  | migrating (old : LegacyDatabase) (new : Database)
  /-- Version 2 with titles: the current tables but for the one of plans. -/
  | titled (sessions : Table ℤ SessionRow) (messages : Children ℤ MessageRow)
    (transcriptItems : Children ℤ TranscriptRow) (turns : Children ℤ TurnRow)
  | current (db : Database)
  | unsupported (version : ℕ)

/-- `PRAGMA user_version`. -/
def StoreFile.userVersion : StoreFile → ℕ
  | .blank => 0
  | .legacy old => if old.plans = none then 1 else 2
  | .renamed old => if old.plans = none then 1 else 2
  | .migrating old _ => if old.plans = none then 1 else 2
  | .titled .. => 2
  | .current _ => 3
  | .unsupported version => version

/-- `table_has_column` for the titles of sessions. -/
def StoreFile.hasTitles : StoreFile → Bool
  | .legacy _ => false
  | .renamed _ => false
  | .blank => false
  | .unsupported _ => false
  | .migrating .. => true
  | .titled .. => true
  | .current _ => true

/-- `rusqlite::Error`, and a panic of the worker. -/
inductive SqliteError where
  | failure (code : String)
  | invalidQuery
  | panicked
deriving DecidableEq, Repr

/-- `InitializationError`, without the preparation of the file. -/
inductive InitializationError where
  | database (source : SqliteError)
  | corrupt
  | unsupportedVersion (found : ℕ)
deriving DecidableEq, Repr

/-- `is_corruption`. -/
def isCorruption : SqliteError → Bool
  | .failure code => code = "SQLITE_CORRUPT" || code = "SQLITE_NOTADB"
  | _ => false

/-- `classify_initialization_error`. -/
def classify (e : SqliteError) : InitializationError :=
  if isCorruption e then .corrupt else .database e

/-- An error of SQLite itself, by its code. -/
def sqliteFailure (code : String) : InitializationError := classify (.failure code)

/-- A procedure that opens a database. -/
abbrev InitProc (α : Type) := Sql StoreFile InitializationError α

/-! ### Statements of the migration -/

/-- `ALTER TABLE .. RENAME TO ..`. -/
def renameTables : StoreFile → Except String (Unit × StoreFile)
  | .legacy old => .ok ((), .renamed old)
  | _ => .error "SQLITE_ERROR"

/-- `SESSION_SCHEMA` next to the renamed tables. -/
def createTables : StoreFile → Except String (Unit × StoreFile)
  | .renamed old => .ok ((), .migrating old .empty)
  | .blank => .ok ((), .current .empty)
  | _ => .error "SQLITE_ERROR"

/-- A statement on the current tables. -/
def onTables (f : Database → Except String Database) :
    StoreFile → Except String (Unit × StoreFile)
  | .migrating old new => (f new).map fun new => ((), .migrating old new)
  | _ => .error "SQLITE_ERROR"

/-- `INSERT INTO sessions`. -/
def insertSession (id : ℤ) (row : SessionRow) (db : Database) : Except String Database :=
  if row.titleSource ∈ ["fallback", "generated", "manual"] then
    match db.sessions.insert id row with
    | none => .error "SQLITE_CONSTRAINT"
    | some sessions => .ok { db with sessions }
  else .error "SQLITE_CONSTRAINT"

/-- `INSERT INTO plan_items SELECT .. WHERE session_id IN (SELECT id FROM sessions)`. -/
def copyPlans : StoreFile → Except String (Unit × StoreFile)
  | .migrating old new =>
    match old.plans with
    | none => .error "SQLITE_ERROR"
    | some plans => .ok ((), .migrating old
        { new with planItems := fun i =>
            if new.sessions.find i = none then new.planItems i else plans i })
  | _ => .error "SQLITE_ERROR"

/-- `DROP TABLE ..; PRAGMA user_version = 3;`. -/
def dropTables : StoreFile → Except String (Unit × StoreFile)
  | .migrating _ new => .ok ((), .current new)
  | _ => .error "SQLITE_ERROR"

/-- `ADD_PLAN_TABLE_TO_SESSION_V2`. -/
def addPlanTable : StoreFile → Except String (Unit × StoreFile)
  | .titled sessions messages transcriptItems turns =>
    .ok ((), .current ⟨sessions, messages, transcriptItems, turns, fun _ => .empty⟩)
  | _ => .error "SQLITE_ERROR"

/-- `SELECT .. FROM v1_sessions ORDER BY id`. -/
def legacySessions : StoreFile → List (ℤ × LegacySessionRow)
  | .renamed old => old.sessions.rows
  | .migrating old _ => old.sessions.rows
  | _ => []

/-- `SELECT .. FROM v1_messages WHERE session_id = ?1 ORDER BY position`. -/
def legacyMessages (id : ℤ) : StoreFile → List (ℤ × MessageRow)
  | .migrating old _ => (old.messages id).rows
  | _ => []

/-! ### The migration -/

/-- The error of a session that cannot be migrated. -/
def invalidLegacy : InitializationError := classify .invalidQuery

/-- Each row is at its position and has one of the two roles. -/
def checkLegacyRows : ℕ → List (ℤ × MessageRow) → Except InitializationError Unit
  | _, [] => .ok ()
  | expected, row :: rows =>
    if row.1 ≠ expected ∨ row.2.role ∉ ["user", "assistant"] then .error invalidLegacy
    else checkLegacyRows (expected + 1) rows

/-- `as_chunks::<2>`. -/
def chunkPairs {α : Type} : List α → List (α × α) × List α
  | a :: b :: rest => ((a, b) :: (chunkPairs rest).1, (chunkPairs rest).2)
  | rest => ([], rest)

/-- The checks of the messages of a session, and their pairs. -/
def checkLegacyMessages (rows : List (ℤ × MessageRow)) :
    Except InitializationError (List ((ℤ × MessageRow) × (ℤ × MessageRow))) := do
  checkLegacyRows 0 rows
  if (chunkPairs rows).2 ≠ [] ∨
      (chunkPairs rows).1.any (fun p => p.1.2.role ≠ "user" || p.2.2.role ≠ "assistant") then
    .error invalidLegacy
  else .ok (chunkPairs rows).1

/-- The title of a session: its name, or the fallback for its first message. -/
def legacyTitle (name : Option String) (firstMessage : String) :
    Except InitializationError (SessionTitle × TitleSource) :=
  match name with
  | some name =>
    match SessionTitle.parse name with
    | none => .error invalidLegacy
    | some title => .ok (title, .manual)
  | none =>
    match fallbackTitle firstMessage with
    | none => .error (classify .panicked)
    | some title => .ok (title, .fallback)

/-- The row of a session with its new title. -/
def migratedRow (legacy : LegacySessionRow) (title : SessionTitle) (source : TitleSource) :
    SessionRow where
  title := title.text
  titleSource := source.asStored
  titleRevision := 0
  cwd := legacy.cwd
  model := legacy.model
  reasoning := legacy.reasoning
  contextTokens := legacy.contextTokens
  createdAt := legacy.createdAt
  lastActivity := legacy.lastActivity

/-- The messages of a session into both tables. -/
def migrateMessages (id : ℤ) : List (ℤ × MessageRow) → InitProc Unit
  | [] => pure ()
  | row :: rows => do
    execute sqliteFailure (onTables (insertRow messages id row))
    execute sqliteFailure (onTables (insertRow transcriptItems id
      (row.1, { kind := row.2.role, text := some row.2.text })))
    migrateMessages id rows

/-- A completed turn for each pair of messages. -/
def migrateTurns (id : ℤ) : ℕ → List ((ℤ × MessageRow) × (ℤ × MessageRow)) → InitProc Unit
  | _, [] => pure ()
  | ordinal, pair :: pairs => do
    ofExcept (if ordinal ≤ i64Max then .ok () else .error invalidLegacy)
    execute sqliteFailure (onTables (insertRow turns id
      (ordinal, ⟨ordinal + 1, pair.1.1, "completed"⟩)))
    migrateTurns id (ordinal + 1) pairs

/-- One session of the loop of `migrate_legacy_to_v3`. -/
def migrateSession (id : ℤ) (legacy : LegacySessionRow) : InitProc Unit := do
  let rows ← query sqliteFailure (legacyMessages id)
  match rows with
  | [] => pure ()
  | first :: rest => do
    let pairs ← ofExcept (checkLegacyMessages (first :: rest))
    let title ← ofExcept (legacyTitle legacy.name first.2.text)
    execute sqliteFailure (onTables (insertSession id (migratedRow legacy title.1 title.2)))
    migrateMessages id (first :: rest)
    migrateTurns id 0 pairs

/-- The loop of `migrate_legacy_to_v3`. -/
def migrateSessions : List (ℤ × LegacySessionRow) → InitProc Unit
  | [] => pure ()
  | row :: rows => do
    migrateSession row.1 row.2
    migrateSessions rows

/-- `migrate_legacy_to_v3`. -/
def migrateLegacyToV3 (preservePlan : Bool) : InitProc Unit := do
  execute sqliteFailure renameTables
  let sessions ← query sqliteFailure legacySessions
  execute sqliteFailure createTables
  migrateSessions sessions
  if preservePlan then execute sqliteFailure copyPlans
  else pure ()
  execute sqliteFailure dropTables

/-- The transaction of `initialize_database`: what is done depends on the version. -/
def upgrade : InitProc Unit := do
  let version ← query sqliteFailure StoreFile.userVersion
  if version = 0 then execute sqliteFailure createTables
  else if version = 1 then migrateLegacyToV3 false
  else if version = 2 then do
    let titled ← query sqliteFailure StoreFile.hasTitles
    if titled then execute sqliteFailure addPlanTable else migrateLegacyToV3 true
  else if version = 3 then pure ()
  else Proc.fail (.unsupportedVersion version)

/-- `initialize_database` once the file is prepared: it is opened, foreign keys are
switched on and a quick check is made, whose verdict may be a failure, before the
transaction. -/
def initializeDatabase : InitProc Unit := do
  statement sqliteFailure
  statement sqliteFailure
  statement sqliteFailure
  transaction sqliteFailure sqliteFailure upgrade

/-! ### Messages in pairs -/

/-- The rows of questions and their answers. -/
def pairRows (texts : List (String × String)) : List MessageRow :=
  texts.flatMap fun t => [⟨"user", t.1⟩, ⟨"assistant", t.2⟩]

@[simp] theorem pairRows_cons (t : String × String) (texts : List (String × String)) :
    pairRows (t :: texts) = ⟨"user", t.1⟩ :: ⟨"assistant", t.2⟩ :: pairRows texts := rfl

/-- The rows of each pair, from a position on. -/
def pairsFrom : ℕ → List (String × String) → List ((ℤ × MessageRow) × (ℤ × MessageRow))
  | _, [] => []
  | n, t :: texts =>
    (((n : ℤ), ⟨"user", t.1⟩), (((n + 1 : ℕ) : ℤ), ⟨"assistant", t.2⟩)) :: pairsFrom (n + 2) texts

/-- Rows in pairs pass the checks. -/
theorem chunkPairs_enumerate (n : ℕ) (texts : List (String × String)) :
    chunkPairs (Table.enumerate n (pairRows texts)) = (pairsFrom n texts, []) := by
  induction texts generalizing n with
  | nil => rfl
  | cons t texts ih =>
    rw [pairRows_cons, Table.enumerate, Table.enumerate, chunkPairs, ih, pairsFrom]

theorem checkLegacyRows_enumerate (n : ℕ) (texts : List (String × String)) :
    checkLegacyRows n (Table.enumerate n (pairRows texts)) = .ok () := by
  induction texts generalizing n with
  | nil => rfl
  | cons t texts ih =>
    rw [pairRows_cons, Table.enumerate, Table.enumerate, checkLegacyRows, if_neg (by simp),
      checkLegacyRows, if_neg (by simp)]
    exact ih (n + 2)

theorem mem_pairsFrom {n : ℕ} {texts : List (String × String)} :
    ∀ p ∈ pairsFrom n texts, p.1.2.role = "user" ∧ p.2.2.role = "assistant" := by
  induction texts generalizing n with
  | nil => simp [pairsFrom]
  | cons t texts ih => exact List.forall_mem_cons.2 ⟨⟨rfl, rfl⟩, ih⟩

/-- Rows that pass the checks come in pairs. -/
theorem exists_texts {n : ℕ} : ∀ {rows : List (ℤ × MessageRow)}, checkLegacyRows n rows = .ok () →
    (chunkPairs rows).2 = [] →
    (∀ p ∈ (chunkPairs rows).1, p.1.2.role = "user" ∧ p.2.2.role = "assistant") →
    ∃ texts, rows = Table.enumerate n (pairRows texts)
  | [], _, _, _ => ⟨[], rfl⟩
  | [_], _, hrest, _ => by simp [chunkPairs] at hrest
  | a :: b :: rows, hcheck, hrest, hpairs => by
    rw [checkLegacyRows] at hcheck
    split_ifs at hcheck with ha
    rw [checkLegacyRows] at hcheck
    split_ifs at hcheck with hb
    push Not at ha hb
    obtain ⟨⟨hua, hab⟩, hpairs⟩ := List.forall_mem_cons.1 hpairs
    obtain ⟨texts, rfl⟩ := exists_texts hcheck hrest hpairs
    obtain ⟨ka, ra, ta⟩ := a
    obtain ⟨kb, rb, tb⟩ := b
    obtain rfl : ka = n := ha.1
    obtain rfl : kb = (n + 1 : ℕ) := hb.1
    obtain rfl : ra = "user" := hua
    obtain rfl : rb = "assistant" := hab
    exact ⟨(ta, tb) :: texts, rfl⟩

/-- **A session passes the checks iff its messages come in pairs,** each at its
position. -/
theorem checkLegacyMessages_eq_ok {rows : List (ℤ × MessageRow)}
    {pairs : List ((ℤ × MessageRow) × (ℤ × MessageRow))} :
    checkLegacyMessages rows = .ok pairs ↔
      ∃ texts, rows = Table.enumerate 0 (pairRows texts) ∧ pairs = pairsFrom 0 texts := by
  unfold checkLegacyMessages
  rw [bind_eq_ok_iff]
  constructor
  · rintro ⟨⟨⟩, hcheck, h⟩
    split_ifs at h with hbad
    push Not at hbad
    obtain rfl := Except.ok.inj h
    have hroles : ∀ p ∈ (chunkPairs rows).1, p.1.2.role = "user" ∧ p.2.2.role = "assistant" := by
      simpa using hbad.2
    obtain ⟨texts, rfl⟩ := exists_texts hcheck hbad.1 hroles
    exact ⟨texts, rfl, by rw [chunkPairs_enumerate]⟩
  · rintro ⟨texts, rfl, rfl⟩
    refine ⟨(), checkLegacyRows_enumerate 0 texts, ?_⟩
    rw [chunkPairs_enumerate, if_neg]
    simpa using fun a b c d hp => mem_pairsFrom _ hp

/-! ### Calm runs of the loops -/

variable {old : LegacyDatabase} {db : Database} {i : ℤ}

/-- The transcript row of a message. -/
def itemRow (row : MessageRow) : TranscriptRow := { kind := row.role, text := some row.text }

/-- The turns of pairs, from an ordinal on. -/
def turnRowsFrom : ℕ → List ((ℤ × MessageRow) × (ℤ × MessageRow)) → List TurnRow
  | _, [] => []
  | n, pair :: pairs => ⟨n + 1, pair.1.1, "completed"⟩ :: turnRowsFrom (n + 1) pairs

theorem steady_migrateMessages (i : ℤ) (rows : List (ℤ × MessageRow)) :
    Steady (migrateMessages i rows) := by
  induction rows with
  | nil => exact steady_pure ()
  | cons row rows ih => exact (steady_execute ..).bind fun _ => (steady_execute ..).bind fun _ => ih

theorem steady_migrateTurns (i : ℤ) (n : ℕ) (pairs : List ((ℤ × MessageRow) × (ℤ × MessageRow))) :
    Steady (migrateTurns i n pairs) := by
  induction pairs generalizing n with
  | nil => exact steady_pure ()
  | cons pair pairs ih =>
    exact (steady_ofExcept _).bind fun _ => (steady_execute ..).bind fun _ => ih (n + 1)

theorem steady_migrateSession (i : ℤ) (legacy : LegacySessionRow) :
    Steady (migrateSession i legacy) := by
  refine (steady_query ..).bind fun rows => ?_
  cases rows with
  | nil => exact steady_pure ()
  | cons first rest =>
    refine (steady_ofExcept _).bind fun pairs => (steady_ofExcept _).bind fun title => ?_
    refine (steady_execute ..).bind fun _ => (steady_migrateMessages ..).bind fun _ => ?_
    exact steady_migrateTurns ..

theorem steady_migrateSessions (rows : List (ℤ × LegacySessionRow)) :
    Steady (migrateSessions rows) := by
  induction rows with
  | nil => exact steady_pure ()
  | cons row rows ih => exact (steady_migrateSession ..).bind fun _ => ih

theorem setRows_self {ρ : Type} {T : ChildTable ρ} {t : Table ℤ ρ} (h : T.get db i = t) :
    setRows T i t db = db := by
  rw [← h, setRows, Children.set_eq_self, T.put_get]

/-- **The messages go to both tables.** -/
theorem calm_migrateMessages {ms rows : List MessageRow} (hsession : db.sessions.find i ≠ none)
    (hms : db.messages i = .ofList ms) (hts : db.transcriptItems i = .ofList (ms.map itemRow))
    (hroles : ∀ row ∈ rows, row.role ∈ ["user", "assistant"]) :
    calm (migrateMessages i (Table.enumerate ms.length rows)) (.migrating old db) =
      .ok ((), .migrating old (setRows transcriptItems i (.ofList ((ms ++ rows).map itemRow))
        (setRows messages i (.ofList (ms ++ rows)) db))) := by
  induction rows generalizing ms db with
  | nil =>
    rw [List.append_nil, setRows_self (T := messages) hms, setRows_self (T := transcriptItems) hts]
    rfl
  | cons row rows ih =>
    obtain ⟨hrole, hroles⟩ := List.forall_mem_cons.1 hroles
    have hfirst : insertRow messages i (ms.length, row) db =
        .ok (setRows messages i (.ofList (ms ++ [row])) db) :=
      insertRow_ofList hsession hms (by simpa [messages] using hrole)
    have hkind : transcriptItems.check (ms.map itemRow).length (itemRow row) = true := by
      have hkind : row.role = "user" ∨ row.role = "assistant" := by simpa using hrole
      rcases hkind with h | h <;> simp [transcriptItems, itemRow, h]
    have hsecond : insertRow transcriptItems i ((ms.map itemRow).length, itemRow row)
        (setRows messages i (.ofList (ms ++ [row])) db) =
        .ok (setRows transcriptItems i (.ofList (ms.map itemRow ++ [itemRow row]))
          (setRows messages i (.ofList (ms ++ [row])) db)) :=
      insertRow_ofList hsession hts hkind
    rw [List.length_map] at hsecond
    rw [Table.enumerate, migrateMessages, calm_execute_bind, onTables, hfirst]
    change calm (execute _ _ >>= _) _ = _
    rw [calm_execute_bind, onTables]
    change ((insertRow transcriptItems i (ms.length, itemRow row) _).map _).mapError _ >>= _ = _
    rw [hsecond]
    have hlen : (ms ++ [row]).length = ms.length + 1 := by simp
    have hms' : (setRows transcriptItems i (.ofList (ms.map itemRow ++ [itemRow row]))
        (setRows messages i (.ofList (ms ++ [row])) db)).messages i = .ofList (ms ++ [row]) :=
      Children.set_self ..
    have hts' : (setRows transcriptItems i (.ofList (ms.map itemRow ++ [itemRow row]))
        (setRows messages i (.ofList (ms ++ [row])) db)).transcriptItems i =
          .ofList ((ms ++ [row]).map itemRow) := by
      rw [List.map_append]
      exact Children.set_self ..
    have hsession' : (setRows transcriptItems i (.ofList (ms.map itemRow ++ [itemRow row]))
        (setRows messages i (.ofList (ms ++ [row])) db)).sessions.find i ≠ none := hsession
    have hrest := ih hsession' hms' hts' hroles
    rw [hlen] at hrest
    refine hrest.trans ?_
    simp [setRows, messages, transcriptItems]

/-- **A turn for each pair.** -/
theorem calm_migrateTurns {ts : List TurnRow}
    {pairs : List ((ℤ × MessageRow) × (ℤ × MessageRow))} (hsession : db.sessions.find i ≠ none)
    (hts : db.turns i = .ofList ts) (hfits : ts.length + pairs.length ≤ i64Max + 1) :
    calm (migrateTurns i ts.length pairs) (.migrating old db) =
      .ok ((), .migrating old (setRows turns i (.ofList (ts ++ turnRowsFrom ts.length pairs)) db)) := by
  induction pairs generalizing ts db with
  | nil =>
    rw [turnRowsFrom, List.append_nil, setRows_self (T := turns) hts]
    rfl
  | cons pair pairs ih =>
    have hinsert : insertRow turns i (ts.length, ⟨ts.length + 1, pair.1.1, "completed"⟩) db =
        .ok (setRows turns i (.ofList (ts ++ [⟨ts.length + 1, pair.1.1, "completed"⟩])) db) :=
      insertRow_ofList hsession hts rfl
    rw [List.length_cons] at hfits
    rw [migrateTurns, if_pos (by omega), calm_ofExcept_bind]
    change calm (execute _ _ >>= _) _ = _
    rw [calm_execute_bind, onTables, hinsert]
    have hlen : (ts ++ [(⟨ts.length + 1, pair.1.1, "completed"⟩ : TurnRow)]).length =
        ts.length + 1 := by simp
    have hts' : (setRows turns i (.ofList (ts ++ [⟨ts.length + 1, pair.1.1, "completed"⟩]))
        db).turns i = .ofList (ts ++ [⟨ts.length + 1, pair.1.1, "completed"⟩]) :=
      Children.set_self ..
    have hsession' : (setRows turns i (.ofList (ts ++ [⟨ts.length + 1, pair.1.1, "completed"⟩]))
        db).sessions.find i ≠ none := hsession
    have hrest := ih hsession' hts' (by rw [hlen]; omega)
    rw [hlen] at hrest
    refine hrest.trans ?_
    simp [setRows, turns, turnRowsFrom]

/-! ### One session -/

@[simp] theorem length_pairRows (texts : List (String × String)) :
    (pairRows texts).length = 2 * texts.length := by
  induction texts with
  | nil => rfl
  | cons t texts ih =>
    rw [pairRows_cons, List.length_cons, List.length_cons, ih, List.length_cons]
    omega

@[simp] theorem length_pairsFrom (n : ℕ) (texts : List (String × String)) :
    (pairsFrom n texts).length = texts.length := by
  induction texts generalizing n with
  | nil => rfl
  | cons t texts ih => exact congrArg (· + 1) (ih (n + 2))

theorem role_of_mem_pairRows {texts : List (String × String)} :
    ∀ row ∈ pairRows texts, row.role ∈ ["user", "assistant"] := by
  intro row hrow
  obtain ⟨t, -, ht⟩ := List.mem_flatMap.1 hrow
  simp only [List.mem_cons, List.not_mem_nil, or_false] at ht
  rcases ht with rfl | rfl <;> simp

/-- A session with messages that the migration accepts. -/
structure Acceptable (old : LegacyDatabase) (i : ℤ) (legacy : LegacySessionRow)
    (texts : List (String × String)) (title : SessionTitle) (source : TitleSource) : Prop where
  rows : (old.messages i).rows = Table.enumerate 0 (pairRows texts)
  title : ∃ t rest, texts = t :: rest ∧ legacyTitle legacy.name t.1 = .ok (title, source)

/-- The tables with the rows of one session more. -/
def filled (i : ℤ) (texts : List (String × String)) (sessions : Table ℤ SessionRow)
    (db : Database) : Database :=
  setRows turns i (.ofList (turnRowsFrom 0 (pairsFrom 0 texts)))
    (setRows transcriptItems i (.ofList ((pairRows texts).map itemRow))
      (setRows messages i (.ofList (pairRows texts)) { db with sessions }))

/-- There are no rows of the session yet. -/
structure Untouched (db : Database) (i : ℤ) : Prop where
  messages : db.messages i = .empty
  transcriptItems : db.transcriptItems i = .empty
  turns : db.turns i = .empty

theorem Acceptable.fits {legacy : LegacySessionRow} {texts : List (String × String)}
    {title : SessionTitle} {source : TitleSource} (h : Acceptable old i legacy texts title source) :
    texts.length ≤ i64Max + 1 := by
  obtain ⟨t, rest, rfl, -⟩ := h.title
  have hlast : 2 * rest.length + 1 < (pairRows (t :: rest)).length := by
    rw [length_pairRows, List.length_cons]
    omega
  obtain ⟨row, hrow⟩ : ∃ row, (((0 + (2 * rest.length + 1) : ℕ) : ℤ), row) ∈
      Table.enumerate 0 (pairRows (t :: rest)) := Table.exists_mem_enumerate hlast
  have hle := old.positions i _ (h.rows ▸ hrow)
  simp only at hle
  rw [List.length_cons]
  omega

/-- **A session that is accepted is filled in.** -/
theorem calm_migrateSession_of_acceptable {legacy : LegacySessionRow}
    {texts : List (String × String)} {title : SessionTitle} {source : TitleSource}
    {sessions : Table ℤ SessionRow} (hfresh : Untouched db i)
    (h : Acceptable old i legacy texts title source)
    (hsessions : db.sessions.insert i (migratedRow legacy title source) = some sessions) :
    calm (migrateSession i legacy) (.migrating old db) =
      .ok ((), .migrating old (filled i texts sessions db)) := by
  have hfits := h.fits
  have hrows := h.rows
  obtain ⟨t, rest, rfl, htitle⟩ := h.title
  have hfind : sessions.find i ≠ none := by
    rw [Table.find_insert hsessions, if_pos rfl]
    exact nofun
  have hsource : (migratedRow legacy title source).titleSource ∈
      ["fallback", "generated", "manual"] := by
    cases source <;> simp [migratedRow, TitleSource.asStored]
  have hinsert : insertSession i (migratedRow legacy title source) db =
      .ok { db with sessions } := by
    rw [insertSession, if_pos hsource, hsessions]
  have hcheck : checkLegacyMessages (Table.enumerate 0 (pairRows (t :: rest))) =
      .ok (pairsFrom 0 (t :: rest)) := checkLegacyMessages_eq_ok.2 ⟨_, rfl, rfl⟩
  have hmessages := @calm_migrateMessages old { db with sessions } i [] (pairRows (t :: rest)) hfind
    hfresh.messages hfresh.transcriptItems role_of_mem_pairRows
  have hturns := @calm_migrateTurns old
    (setRows transcriptItems i (.ofList ((pairRows (t :: rest)).map itemRow))
      (setRows messages i (.ofList (pairRows (t :: rest))) { db with sessions }))
    i [] (pairsFrom 0 (t :: rest)) hfind hfresh.turns (by simpa using hfits)
  unfold migrateSession
  rw [calm_query_bind]
  change calm (match (old.messages i).rows with
    | [] => pure ()
    | first :: rest => _) _ = _
  rw [hrows]
  change calm (ofExcept (checkLegacyMessages (Table.enumerate 0 (pairRows (t :: rest)))) >>= _) _ = _
  rw [calm_ofExcept_bind, hcheck]
  change calm (ofExcept (legacyTitle legacy.name t.1) >>= _) _ = _
  rw [calm_ofExcept_bind, htitle]
  change calm (execute sqliteFailure (onTables (insertSession i _)) >>= _) _ = _
  rw [calm_execute_bind, onTables, hinsert]
  change calm (migrateMessages i (Table.enumerate 0 (pairRows (t :: rest))) >>= _) _ = _
  rw [calm_bind (steady_migrateMessages ..)]
  exact (congrArg (· >>= _) hmessages).trans hturns

/-- The migration gets past the session: it has no messages, or it is accepted. -/
def Passes (old : LegacyDatabase) (i : ℤ) (legacy : LegacySessionRow) : Prop :=
  (old.messages i).rows = [] ∨ ∃ texts title source, Acceptable old i legacy texts title source

/-- A session that is migrated passes. -/
theorem passes_of_calm {legacy : LegacySessionRow} {f : StoreFile}
    (h : calm (migrateSession i legacy) (.migrating old db) = .ok ((), f)) :
    Passes old i legacy := by
  unfold migrateSession at h
  rw [calm_query_bind] at h
  change calm (match (old.messages i).rows with
    | [] => pure ()
    | first :: rest => _) _ = _ at h
  cases hrows : (old.messages i).rows with
  | nil => exact .inl hrows
  | cons first rest =>
    rw [hrows] at h
    change calm (ofExcept (checkLegacyMessages (first :: rest)) >>= _) _ = _ at h
    rw [calm_ofExcept_bind, bind_eq_ok_iff] at h
    obtain ⟨pairs, hpairs, h⟩ := h
    obtain ⟨texts, htexts, -⟩ := checkLegacyMessages_eq_ok.1 hpairs
    change calm (ofExcept (legacyTitle legacy.name first.2.text) >>= _) _ = _ at h
    rw [calm_ofExcept_bind, bind_eq_ok_iff] at h
    obtain ⟨⟨title, source⟩, htitle, -⟩ := h
    cases texts with
    | nil => cases htexts
    | cons t texts =>
      refine .inr ⟨t :: texts, title, source, hrows.trans htexts, t, texts, rfl, ?_⟩
      rw [pairRows_cons, Table.enumerate] at htexts
      rw [(List.cons.inj htexts).1] at htitle
      exact htitle

/-- A session without messages is passed over. -/
theorem calm_migrateSession_of_nil {legacy : LegacySessionRow} (h : (old.messages i).rows = []) :
    calm (migrateSession i legacy) (.migrating old db) = .ok ((), .migrating old db) := by
  unfold migrateSession
  rw [calm_query_bind]
  change calm (match (old.messages i).rows with
    | [] => pure ()
    | first :: rest => _) _ = _
  rw [h]
  rfl

/-! ### All sessions -/

/-- What the tables hold of a session once the migration has passed it. -/
def Filled (old : LegacyDatabase) (db : Database) (i : ℤ) (legacy : LegacySessionRow) : Prop :=
  ((old.messages i).rows = [] ∧ db.sessions.find i = none ∧ Untouched db i) ∨
  ∃ texts title source, Acceptable old i legacy texts title source ∧
    db.sessions.find i = some (migratedRow legacy title source) ∧
    db.messages i = .ofList (pairRows texts) ∧
    db.transcriptItems i = .ofList ((pairRows texts).map itemRow) ∧
    db.turns i = .ofList (turnRowsFrom 0 (pairsFrom 0 texts))

/-- The tables hold the same of a session. -/
structure SameSession (db db' : Database) (i : ℤ) : Prop where
  row : db'.sessions.find i = db.sessions.find i
  messages : db'.messages i = db.messages i
  transcriptItems : db'.transcriptItems i = db.transcriptItems i
  turns : db'.turns i = db.turns i

theorem SameSession.trans {db₁ db₂ db₃ : Database} (h : SameSession db₁ db₂ i)
    (h' : SameSession db₂ db₃ i) : SameSession db₁ db₃ i :=
  ⟨h'.row.trans h.row, h'.messages.trans h.messages,
    h'.transcriptItems.trans h.transcriptItems, h'.turns.trans h.turns⟩

theorem Untouched.congr {db' : Database} (h : Untouched db i) (hsame : SameSession db db' i) :
    Untouched db' i :=
  ⟨hsame.messages.trans h.messages, hsame.transcriptItems.trans h.transcriptItems,
    hsame.turns.trans h.turns⟩

theorem Filled.congr {db' : Database} {legacy : LegacySessionRow} (h : Filled old db i legacy)
    (hsame : SameSession db db' i) : Filled old db' i legacy := by
  rcases h with ⟨hnil, hfind, hfresh⟩ | ⟨texts, title, source, hacc, hfind, hms, hts, htu⟩
  · exact .inl ⟨hnil, hsame.row.trans hfind, hfresh.congr hsame⟩
  · exact .inr ⟨texts, title, source, hacc, hsame.row.trans hfind, hsame.messages.trans hms,
      hsame.transcriptItems.trans hts, hsame.turns.trans htu⟩

/-- Filling in one session leaves the others. -/
theorem sameSession_filled {j : ℤ} {texts : List (String × String)} {row : SessionRow}
    {sessions : Table ℤ SessionRow} (hsessions : db.sessions.insert i row = some sessions)
    (h : j ≠ i) : SameSession db (filled i texts sessions db) j where
  row := by
    change sessions.find j = _
    rw [Table.find_insert hsessions, if_neg h]
  messages := Children.set_of_ne _ h _
  transcriptItems := Children.set_of_ne _ h _
  turns := Children.set_of_ne _ h _

/-- **One session is filled in,** and the others stay. -/
theorem exists_step {legacy : LegacySessionRow} (hbelow : ∀ x ∈ db.sessions.rows, x.1 < i)
    (hfresh : Untouched db i) (hnone : db.sessions.find i = none) (hpass : Passes old i legacy) :
    ∃ db', calm (migrateSession i legacy) (.migrating old db) = .ok ((), .migrating old db') ∧
      Filled old db' i legacy ∧ (∀ j, j ≠ i → SameSession db db' j) ∧
      db'.planItems = db.planItems ∧ ∀ x ∈ db'.sessions.rows, x ∈ db.sessions.rows ∨ x.1 = i := by
  rcases hpass with hnil | ⟨texts, title, source, hacc⟩
  · exact ⟨db, calm_migrateSession_of_nil hnil, .inl ⟨hnil, hnone, hfresh⟩,
      fun j _ => ⟨rfl, rfl, rfl, rfl⟩, rfl, fun x hx => .inl hx⟩
  · obtain ⟨sessions, hsessions, hrows⟩ :=
      Table.insert_of_lt (r := migratedRow legacy title source) hbelow
    refine ⟨filled i texts sessions db, calm_migrateSession_of_acceptable hfresh hacc hsessions,
      .inr ⟨texts, title, source, hacc, ?_, Children.set_self .., Children.set_self ..,
        Children.set_self ..⟩, fun j hj => sameSession_filled hsessions hj, rfl, fun x hx => ?_⟩
    · change sessions.find i = _
      rw [Table.find_insert hsessions, if_pos rfl]
    · change x ∈ sessions.rows at hx
      rw [hrows, List.mem_append, List.mem_singleton] at hx
      exact hx.imp id (congrArg Prod.fst)

/-- **The loop of the migration** gets to its end iff it gets past every session, and
has filled in each of them then. -/
theorem calm_migrateSessions {rows : List (ℤ × LegacySessionRow)}
    (hsorted : rows.Pairwise fun a b => a.1 < b.1)
    (hbelow : ∀ x ∈ db.sessions.rows, ∀ y ∈ rows, x.1 < y.1)
    (hfresh : ∀ y ∈ rows, Untouched db y.1 ∧ db.sessions.find y.1 = none) :
    ((∀ y ∈ rows, Passes old y.1 y.2) ∧ ∃ db',
      calm (migrateSessions rows) (.migrating old db) = .ok ((), .migrating old db') ∧
      (∀ y ∈ rows, Filled old db' y.1 y.2) ∧
      (∀ j, (∀ y ∈ rows, y.1 ≠ j) → SameSession db db' j) ∧ db'.planItems = db.planItems) ∨
    (∃ y ∈ rows, ¬Passes old y.1 y.2) ∧
      ∃ e, calm (migrateSessions rows) (.migrating old db) = .error e := by
  induction rows generalizing db with
  | nil =>
    exact .inl ⟨by simp, db, rfl, by simp, fun j _ => ⟨rfl, rfl, rfl, rfl⟩, rfl⟩
  | cons y rows ih =>
    obtain ⟨hhead, hsorted⟩ := List.pairwise_cons.1 hsorted
    obtain ⟨⟨hyfresh, hynone⟩, hfresh⟩ := List.forall_mem_cons.1 hfresh
    by_cases hpass : Passes old y.1 y.2
    · obtain ⟨db₁, hstep, hfilled, hsame, hplans, hkeys⟩ := exists_step
        (fun x hx => hbelow x hx y List.mem_cons_self) hyfresh hynone hpass
      have hbelow₁ : ∀ x ∈ db₁.sessions.rows, ∀ z ∈ rows, x.1 < z.1 := by
        intro x hx z hz
        rcases hkeys x hx with hx | hx
        · exact hbelow x hx z (List.mem_cons_of_mem _ hz)
        · rw [hx]
          exact hhead z hz
      have hfresh₁ : ∀ z ∈ rows, Untouched db₁ z.1 ∧ db₁.sessions.find z.1 = none := by
        intro z hz
        have hne : z.1 ≠ y.1 := ne_of_gt (hhead z hz)
        exact ⟨(hfresh z hz).1.congr (hsame _ hne), (hsame _ hne).row.trans (hfresh z hz).2⟩
      have hcalm : calm (migrateSessions (y :: rows)) (.migrating old db) =
          calm (migrateSessions rows) (.migrating old db₁) := by
        rw [migrateSessions, calm_bind (steady_migrateSession ..), hstep]
        rfl
      rw [hcalm]
      rcases ih hsorted hbelow₁ hfresh₁ with ⟨hpasses, db', hrun, hall, hothers, hplans'⟩ |
        ⟨⟨z, hz, hfails⟩, herror⟩
      · refine .inl ⟨List.forall_mem_cons.2 ⟨hpass, hpasses⟩, db', hrun, ?_, ?_, hplans'.trans hplans⟩
        · have hy : ∀ z ∈ rows, z.1 ≠ y.1 := fun z hz => ne_of_gt (hhead z hz)
          exact List.forall_mem_cons.2 ⟨hfilled.congr (hothers _ hy), hall⟩
        · intro j hj
          obtain ⟨hyj, hj⟩ := List.forall_mem_cons.1 hj
          exact (hsame j (Ne.symm hyj)).trans (hothers j hj)
      · exact .inr ⟨⟨z, List.mem_cons_of_mem _ hz, hfails⟩, herror⟩
    · refine .inr ⟨⟨y, List.mem_cons_self, hpass⟩, ?_⟩
      rw [migrateSessions, calm_bind (steady_migrateSession ..)]
      cases hstep : calm (migrateSession y.1 y.2) (.migrating old db) with
      | error e => exact ⟨e, rfl⟩
      | ok r => exact absurd (passes_of_calm hstep) hpass

end Schema
end Moh
