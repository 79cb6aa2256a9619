/-
# The store round trip

`session/store.rs`: `checkpoint_sync` and `load_sync`.  The rows a record is
encoded to decode to that record (`collect_round_trip`, with one lemma for each table),
a checkpoint replaces all rows of its session by them (`calm_replaceSession`), so
the rows then hold the record (`holds_of_checkpoint`) and a load returns it
(`load_checkpoint`).  A checkpoint that fails changes no row.
-/

import Moh.Session.Tables

namespace Moh
namespace Schema

open Fallible Transaction

variable {C : Codec} {db db' : Database} {id : SessionId} {record : SessionRecord}

/-! ### Steady procedures -/

theorem steady_selectRows {ρ : Type} (prepare load : String) (T : ChildTable ρ) (id : ℤ) :
    Steady (selectRows prepare load T id) :=
  (steady_statement _).bind fun _ => steady_query ..

theorem steady_loadRecord (C : Codec) (id : SessionId) : Steady (loadRecord C id) := by
  refine (steady_ofExcept _).bind fun sqliteId => (steady_query _ _).bind fun row => ?_
  refine (steady_ofExcept _).bind fun row => (steady_ofExcept _).bind fun record => ?_
  refine (steady_selectRows ..).bind fun rows => (steady_readRows ..).bind fun history => ?_
  refine (steady_selectRows ..).bind fun rows => (steady_readRows ..).bind fun transcript => ?_
  refine (steady_selectRows ..).bind fun rows => (steady_readRows ..).bind fun turns => ?_
  refine (steady_selectRows ..).bind fun rows => (steady_readRows ..).bind fun plan => ?_
  exact (steady_ofExcept _).bind fun _ => steady_pure _

theorem steady_appendInterrupted (C : Codec) (id : ℤ) (n : ℕ) (runIds : List ℕ) :
    Steady (appendInterrupted C id n runIds) := by
  induction runIds generalizing n with
  | nil => exact steady_pure ()
  | cons runId runIds ih =>
    refine (steady_ofExcept _).bind fun position => (steady_ofExcept _).bind fun item => ?_
    exact (steady_execute _ _).bind fun _ => ih (n + 1)

theorem steady_recoverRecord (C : Codec) (id : SessionId) : Steady (recoverRecord C id) := by
  refine (steady_loadRecord C id).bind fun record => ?_
  split_ifs
  · exact steady_pure record
  · refine (steady_ofExcept _).bind fun sqliteId => (steady_execute _ _).bind fun _ => ?_
    refine (steady_statement _).bind fun _ => (steady_appendInterrupted ..).bind fun _ => ?_
    exact steady_loadRecord C id

theorem steady_run {α : Type} {setup : Option SessionStoreError} {operation : StoreProc α}
    (h : Steady operation) : Steady (run setup operation) := by
  cases setup with
  | none => exact h
  | some e => exact steady_fail e

theorem steady_load (C : Codec) (setup : Option SessionStoreError) (id : SessionId) :
    Steady (load C setup id) :=
  steady_run (steady_transaction (steady_recoverRecord C id))

theorem steady_replaceSession (C : Codec) (record : SessionRecord) (id revision tokens : ℤ)
    (history : List (ℤ × MessageRow)) (transcript : List (ℤ × TranscriptRow))
    (turnRows : List (ℤ × TurnRow)) (plan : List (ℤ × PlanRow)) :
    Steady (replaceSession C record id revision tokens history transcript turnRows plan) := by
  refine (steady_execute _ _).bind fun updated => ?_
  split_ifs
  · exact steady_fail _
  · refine (steady_execute _ _).bind fun _ => (steady_execute _ _).bind fun _ => ?_
    refine (steady_statement _).bind fun _ => (steady_writeRows ..).bind fun _ => ?_
    refine (steady_statement _).bind fun _ => (steady_writeRows ..).bind fun _ => ?_
    refine (steady_execute _ _).bind fun _ => ?_
    refine (steady_statement _).bind fun _ => (steady_writeRows ..).bind fun _ => ?_
    refine (steady_execute _ _).bind fun _ => ?_
    exact (steady_statement _).bind fun _ => steady_writeRows ..

theorem steady_checkpointSync (C : Codec) (record : SessionRecord) :
    Steady (checkpointSync C record) := by
  refine (steady_ofExcept _).bind fun _ => (steady_ofExcept _).bind fun id => ?_
  refine (steady_ofExcept _).bind fun titleRevision => (steady_ofExcept _).bind fun tokens => ?_
  refine (steady_ofExcept _).bind fun history => (steady_ofExcept _).bind fun transcript => ?_
  refine (steady_ofExcept _).bind fun turnRows => (steady_ofExcept _).bind fun plan => ?_
  exact steady_transaction (steady_replaceSession ..)

/-! ### What the rows of a session hold -/

@[simp] theorem calm_selectRows_bind {ρ α : Type} (prepare load : String) (T : ChildTable ρ) (id : ℤ)
    (f : List (ℤ × ρ) → StoreProc α) :
    calm (selectRows prepare load T id >>= f) db = calm (f (T.get db id).rows) db := by
  rw [selectRows, Proc.bind_assoc, calm_statement_bind, calm_query_bind]

/-- The rows of a session decode to the record. -/
structure Holds (C : Codec) (db : Database) (id : SessionId) (record : SessionRecord) : Prop where
  fits : id.value ≤ i64Max
  row : ∃ row, db.sessions.find id.value = some row ∧ storedRecord C id.value row =
    .ok { record with transcript := [], turns := [], history := [], plan := [] }
  history : collect decodeMessage 0 (db.messages id.value).rows = .ok record.history
  transcript : collect (decodeItem C) 0 (db.transcriptItems id.value).rows = .ok record.transcript
  turns : collect decodeTurn 0 (db.turns id.value).rows = .ok record.turns
  plan : collect decodePlanItem 0 (db.planItems id.value).rows = .ok record.plan
  valid : SessionStore.validatePlan record.plan = .ok ()

/-- The columns of a session say nothing of the items. -/
theorem storedRecord_items {i : ℤ} {row : SessionRow} (h : storedRecord C i row = .ok record) :
    { record with transcript := [], turns := [], history := [], plan := [] } = record := by
  unfold storedRecord at h
  simp only [bind_eq_ok_iff] at h
  obtain ⟨_, -, _, -, _, -, _, -, _, -, _, -, _, -, _, -, h⟩ := h
  obtain rfl := Except.ok.inj h
  rfl

/-- **A calm `load_record` returns what the rows hold,** and changes nothing. -/
theorem calm_loadRecord :
    calm (loadRecord C id) db = .ok (record, db') ↔ db' = db ∧ Holds C db id record := by
  simp only [loadRecord, calm_ofExcept_bind, calm_query_bind, calm_selectRows_bind,
    calm_readRows_bind, calm_pure, bind_eq_ok_iff, sqliteU64_eq_ok, sqliteSessionId]
  constructor
  · rintro ⟨_, ⟨hfits, rfl⟩, row, hrow, header, hheader, history, hhistory, transcript, htranscript,
      turns, hturns, plan, hplan, ⟨⟩, hvalid, h⟩
    obtain ⟨rfl, rfl⟩ := Prod.mk.inj (Except.ok.inj h)
    cases hfind : db.sessions.find id.value with
    | none => simp [hfind] at hrow
    | some row' =>
      rw [hfind] at hrow
      obtain rfl := Except.ok.inj hrow
      refine ⟨rfl, hfits, ⟨row', hfind, ?_⟩, hhistory, htranscript, hturns, hplan, hvalid⟩
      rw [hheader, ← storedRecord_items hheader]
  · rintro ⟨rfl, hfits, ⟨row, hfind, hheader⟩, hhistory, htranscript, hturns, hplan, hvalid⟩
    exact ⟨_, ⟨hfits, rfl⟩, row, by rw [hfind], _, hheader, _, hhistory, _, htranscript, _, hturns, _,
      hplan, (), hvalid, rfl⟩

/-! ### Rows that are written -/

/-- **Rows that are encoded decode to what they encode,** and are in the order of
their positions. -/
theorem collect_round_trip {α ρ : Type} {encode : ℕ → α → Except SessionStoreError (ℤ × ρ)}
    (decode : ℕ → ℤ × ρ → Except SessionStoreError α) (check : ℤ → ρ → Bool) {n : ℕ} {xs : List α}
    {ys : List (ℤ × ρ)}
    (h : ∀ i x y, xs[i]? = some x → encode (n + i) x = .ok y →
      y.1 = (n + i : ℕ) ∧ check y.1 y.2 = true ∧ decode (n + i) y = .ok x)
    (hys : collect encode n xs = .ok ys) :
    collect decode n ys = .ok xs ∧ (∃ rs, ys = Table.enumerate n rs) ∧
      ∀ y ∈ ys, check y.1 y.2 = true := by
  induction xs generalizing n ys with
  | nil =>
    obtain rfl := Except.ok.inj hys
    exact ⟨rfl, ⟨[], rfl⟩, by simp⟩
  | cons x xs ih =>
    obtain ⟨y, rest, hy, hrest, rfl⟩ := collect_cons_eq_ok.1 hys
    obtain ⟨hkey, hcheck, hdecode⟩ := h 0 x y rfl hy
    have hxs : ∀ i x' y', xs[i]? = some x' → encode (n + 1 + i) x' = .ok y' →
        y'.1 = (n + 1 + i : ℕ) ∧ check y'.1 y'.2 = true ∧ decode (n + 1 + i) y' = .ok x' := by
      intro i x' y' hx' hy'
      have hnum : n + 1 + i = n + (i + 1) := by omega
      rw [hnum] at hy' ⊢
      exact h (i + 1) x' y' (by simpa using hx') hy'
    obtain ⟨hdecodes, ⟨rs, rfl⟩, hchecks⟩ := ih hxs hrest
    refine ⟨collect_cons_eq_ok.2 ⟨x, xs, hdecode, hdecodes, rfl⟩, ⟨y.2 :: rs, ?_⟩, ?_⟩
    · rw [Nat.add_zero] at hkey
      rw [Table.enumerate, ← hkey]
    · exact List.forall_mem_cons.2 ⟨hcheck, hchecks⟩

/-- A row at the position that follows is inserted. -/
theorem insertRow_ofList {ρ : Type} {T : ChildTable ρ} {i : ℤ} {rs : List ρ} {r : ρ}
    (hsession : db.sessions.find i ≠ none) (hget : T.get db i = .ofList rs)
    (hcheck : T.check rs.length r = true) :
    insertRow T i (rs.length, r) db = .ok (setRows T i (.ofList (rs ++ [r])) db) := by
  have hinsert : (T.get db i).insert (rs.length : ℤ) r = some (.ofList (rs ++ [r])) := by
    rw [hget, Table.insert_ofList]
  simp [insertRow, hcheck, Children.insert_eq_set hinsert, hsession, setRows]

/-- **Rows at the positions that follow are inserted.** -/
theorem writeAll_insertRow {ρ : Type} {T : ChildTable ρ} {i : ℤ} {rs ss : List ρ}
    (hsession : db.sessions.find i ≠ none) (hget : T.get db i = .ofList rs)
    (hcheck : ∀ x ∈ Table.enumerate rs.length ss, T.check x.1 x.2 = true) :
    writeAll (insertRow T i) (Table.enumerate rs.length ss) db =
      .ok (setRows T i (.ofList (rs ++ ss)) db) := by
  induction ss generalizing rs db with
  | nil =>
    rw [List.append_nil, ← hget, setRows, Children.set_eq_self, T.put_get]
    rfl
  | cons s ss ih =>
    obtain ⟨hs, hss⟩ := List.forall_mem_cons.1 hcheck
    have hlen : rs.length + 1 = (rs ++ [s]).length := by simp
    rw [Table.enumerate, writeAll, insertRow_ofList hsession hget hs]
    change writeAll (insertRow T i) (Table.enumerate (rs.length + 1) ss)
      (setRows T i (.ofList (rs ++ [s])) db) = _
    rw [hlen] at hss ⊢
    rw [ih (by rwa [setRows, T.sessions_put]) (by rw [setRows, T.get_put, Children.set_self]) hss,
      List.append_assoc, List.singleton_append]
    simp only [setRows, T.get_put, T.put_put, Children.set_set]

/-! ### Rows of each table -/

theorem encodeMessage_round_trip {n : ℕ} {message : Message} {y : ℤ × MessageRow}
    (h : encodeMessage n message = .ok y) :
    y.1 = n ∧ messages.check y.1 y.2 = true ∧ decodeMessage n y = .ok message := by
  obtain ⟨_, hn, hy⟩ := bind_eq_ok_iff.1 h
  obtain ⟨-, rfl⟩ := sqliteU64_eq_ok.1 hn
  obtain rfl := Except.ok.inj hy
  refine ⟨rfl, ?_, ?_⟩
  · cases message.role <;> rfl
  · simp [decodeMessage, bind, Except.bind]

/-- The arguments of a tool call are read back as they were printed. -/
def KeepsArguments (C : Codec) (item : TranscriptItem) : Prop :=
  ∀ runId callId name arguments, item = .toolStarted runId callId name arguments →
    C.parseJson (C.formatJson arguments) = some arguments

theorem encodeItem_round_trip {n : ℕ} {item : TranscriptItem} {y : ℤ × TranscriptRow}
    (hitem : KeepsArguments C item) (h : encodeItem C n item = .ok y) :
    y.1 = n ∧ transcriptItems.check y.1 y.2 = true ∧ decodeItem C n y = .ok item := by
  obtain ⟨_, hn, hy⟩ := bind_eq_ok_iff.1 h
  obtain ⟨-, rfl⟩ := sqliteU64_eq_ok.1 hn
  cases item with
  | user text =>
    obtain rfl := Except.ok.inj hy
    simp [transcriptItems, decodeItem, storedTranscriptItem, requiredStored, bind, Except.bind]
  | assistant text =>
    obtain rfl := Except.ok.inj hy
    simp [transcriptItems, decodeItem, storedTranscriptItem, requiredStored, bind, Except.bind]
  | toolStarted runId callId name arguments =>
    obtain ⟨_, hrun, hy⟩ := bind_eq_ok_iff.1 hy
    obtain ⟨-, rfl⟩ := sqliteU64_eq_ok.1 hrun
    obtain rfl := Except.ok.inj hy
    simp [transcriptItems, decodeItem, storedTranscriptItem, requiredStored, bind, Except.bind,
      hitem _ _ _ _ rfl]
  | failed runId failure =>
    obtain ⟨_, hrun, hy⟩ := bind_eq_ok_iff.1 hy
    obtain ⟨-, rfl⟩ := sqliteU64_eq_ok.1 hrun
    obtain rfl := Except.ok.inj hy
    simp [transcriptItems, decodeItem, storedTranscriptItem, requiredStored, bind, Except.bind]
  | cancelled runId =>
    obtain ⟨_, hrun, hy⟩ := bind_eq_ok_iff.1 hy
    obtain ⟨-, rfl⟩ := sqliteU64_eq_ok.1 hrun
    obtain rfl := Except.ok.inj hy
    simp [transcriptItems, decodeItem, storedTranscriptItem, requiredStored, bind, Except.bind]

theorem encodeTurn_round_trip {n : ℕ} {turn : DurableTurn} {y : ℤ × TurnRow}
    (hordinal : turn.ordinal = n) (h : encodeTurn n turn = .ok y) :
    y.1 = n ∧ turns.check y.1 y.2 = true ∧ decodeTurn n y = .ok turn := by
  obtain ⟨_, hord, h⟩ := bind_eq_ok_iff.1 h
  obtain ⟨_, hrun, h⟩ := bind_eq_ok_iff.1 h
  obtain ⟨_, hprompt, h⟩ := bind_eq_ok_iff.1 h
  obtain ⟨-, rfl⟩ := sqliteU64_eq_ok.1 hord
  obtain ⟨-, rfl⟩ := sqliteU64_eq_ok.1 hrun
  obtain ⟨-, rfl⟩ := sqliteU64_eq_ok.1 hprompt
  obtain rfl := Except.ok.inj h
  refine ⟨by rw [hordinal], ?_, ?_⟩
  · cases turn.status <;> rfl
  · simp [decodeTurn, bind, Except.bind, hordinal]
    rw [← hordinal]

theorem encodePlanItem_round_trip {n : ℕ} {item : PlanItem} {y : ℤ × PlanRow}
    (hvalid : item.validate = true) (h : encodePlanItem n item = .ok y) :
    y.1 = n ∧ planItems.check y.1 y.2 = true ∧ decodePlanItem n y = .ok item := by
  obtain ⟨_, hn, hy⟩ := bind_eq_ok_iff.1 h
  obtain ⟨-, rfl⟩ := sqliteU64_eq_ok.1 hn
  obtain rfl := Except.ok.inj hy
  refine ⟨rfl, ?_, ?_⟩
  · rcases item with ⟨step, status⟩
    cases status <;> simp [planItems, PlanStatus.asStr]
  · simp [decodePlanItem, bind, Except.bind, PlanItem.parse_of_validate hvalid]

/-! ### The checkpoint -/

/-- The row of a session after a checkpoint of the record. -/
def checkpointRow (C : Codec) (record : SessionRecord) (row : SessionRow) : SessionRow :=
  { row with
    title := record.title.text
    titleSource := record.titleSource.asStored
    titleRevision := record.titleRevision
    model := record.settings.model
    reasoning := record.settings.reasoning.asStr
    contextTokens := record.settings.contextTokens
    lastActivity := C.formatTimestamp record.lastActivity }

theorem storedRecord_checkpointRow {row : SessionRow} {createdAt : Timestamp}
    (hid : 0 < record.id.value) (hcreated : C.parseTimestamp row.createdAt = some createdAt)
    (hactivity : C.parseTimestamp (C.formatTimestamp record.lastActivity) =
      some record.lastActivity) :
    storedRecord C record.id.value (checkpointRow C record row) =
      .ok { record with
        cwd := row.cwd, createdAt, transcript := [], turns := [], history := [], plan := [] } := by
  simp [storedRecord, checkpointRow, storedSessionId_natCast hid, storedTimestamp_of_parse hcreated,
    storedTimestamp_of_parse hactivity, bind, Except.bind]

theorem validate_of_validatePlan {plan : List PlanItem}
    (h : SessionStore.validatePlan plan = .ok ()) : ∀ item ∈ plan, item.validate = true := by
  unfold SessionStore.validatePlan at h
  split_ifs at h with hany
  simpa using hany

/-- The rows of a session after its items were replaced. -/
def replaced (id : ℤ) (hs : List MessageRow) (ps : List PlanRow) (is : List TranscriptRow)
    (ts : List TurnRow) (db : Database) : Database :=
  setRows turns id (.ofList ts) (setRows transcriptItems id (.ofList is)
    (setRows planItems id (.ofList ps) (setRows messages id (.ofList hs) db)))

theorem updateSession_of_find {i : ℤ} {f : SessionRow → SessionRow} {row : SessionRow}
    (hrow : db.sessions.find i = some row)
    (hcheck : (f row).titleSource ∈ ["fallback", "generated", "manual"]) :
    updateSession i f db = .ok (1, { db with
      sessions := db.sessions.mapRows fun k r => if k = i then f r else r }) := by
  simp only [updateSession, hrow]
  rw [if_pos hcheck]

/-- Rows into a table that holds none of the session. -/
theorem writeAll_empty {ρ : Type} {T : ChildTable ρ} {i : ℤ} {ss : List ρ}
    (hsession : db.sessions.find i ≠ none) (hget : T.get db i = .empty)
    (hcheck : ∀ x ∈ Table.enumerate 0 ss, T.check x.1 x.2 = true) :
    writeAll (insertRow T i) (Table.enumerate 0 ss) db = .ok (setRows T i (.ofList ss) db) :=
  @writeAll_insertRow _ ρ T i [] ss hsession hget hcheck

/-- **The transaction of a checkpoint** replaces everything it is given. -/
theorem calm_replaceSession {row : SessionRow} {hs : List MessageRow} {ps : List PlanRow}
    {is : List TranscriptRow} {ts : List TurnRow} {i : ℤ}
    (hrow : db.sessions.find i = some row)
    (hhs : ∀ x ∈ Table.enumerate 0 hs, messages.check x.1 x.2 = true)
    (hps : ∀ x ∈ Table.enumerate 0 ps, planItems.check x.1 x.2 = true)
    (his : ∀ x ∈ Table.enumerate 0 is, transcriptItems.check x.1 x.2 = true)
    (hts : ∀ x ∈ Table.enumerate 0 ts, turns.check x.1 x.2 = true) :
    calm (replaceSession C record i record.titleRevision record.settings.contextTokens
      (Table.enumerate 0 hs) (Table.enumerate 0 is) (Table.enumerate 0 ts)
      (Table.enumerate 0 ps)) db =
      .ok ((), replaced i hs ps is ts { db with
        sessions := db.sessions.mapRows fun k r =>
          if k = i then checkpointRow C record r else r }) := by
  have hfind : ∀ f : ℤ → SessionRow → SessionRow, (db.sessions.mapRows f).find i ≠ none := by
    intro f
    rw [Table.find_mapRows, hrow]
    exact nofun
  unfold replaceSession
  have hsource : record.titleSource.asStored ∈ ["fallback", "generated", "manual"] := by
    cases record.titleSource <;> simp [TitleSource.asStored]
  rw [calm_execute_bind, updateSession_of_find hrow hsource]
  change calm _ _ = _
  simp only [Nat.one_ne_zero, ↓reduceIte]
  rw [calm_execute_bind]
  change calm _ _ = _
  rw [calm_execute_bind]
  change calm _ _ = _
  rw [calm_statement_bind, calm_writeRows_bind, writeAll_empty (hfind _) (Children.set_self ..) hhs]
  change calm _ _ = _
  rw [calm_statement_bind, calm_writeRows_bind, writeAll_empty (hfind _) (Children.set_self ..) hps]
  change calm _ _ = _
  rw [calm_execute_bind]
  change calm _ _ = _
  rw [calm_statement_bind, calm_writeRows_bind, writeAll_empty (hfind _) (Children.set_self ..) his]
  change calm _ _ = _
  rw [calm_execute_bind]
  change calm _ _ = _
  rw [calm_statement_bind, calm_writeRows, writeAll_empty (hfind _) (Children.set_self ..) hts]
  simp [replaced, setRows, messages, planItems, transcriptItems, turns, Except.map,
    Except.mapError, checkpointRow]

/-- The ordinals of the turns are their positions. -/
def Contiguous (turns : List DurableTurn) : Prop :=
  ∀ i (turn : DurableTurn), turns[i]? = some turn → turn.ordinal = i

/-- What a record needs that its library codecs print and read again. -/
structure Codec.Keeps (C : Codec) (record : SessionRecord) : Prop where
  activity : C.parseTimestamp (C.formatTimestamp record.lastActivity) = some record.lastActivity
  arguments : ∀ item ∈ record.transcript, KeepsArguments C item

/-- **A successful checkpoint stores the record,** but for its working directory and
creation time, which stay. -/
theorem holds_of_checkpoint {row : SessionRow} {createdAt : Timestamp}
    (h : calm (checkpointSync C record) db = .ok ((), db'))
    (hid : 0 < record.id.value) (hrow : db.sessions.find record.id.value = some row)
    (hcreated : C.parseTimestamp row.createdAt = some createdAt)
    (hcontiguous : Contiguous record.turns) (hC : Codec.Keeps C record) :
    Holds C db' record.id { record with cwd := row.cwd, createdAt } := by
  unfold checkpointSync at h
  simp only [calm_ofExcept_bind, bind_eq_ok_iff, sqliteSessionId, sqliteU64_eq_ok] at h
  obtain ⟨⟨⟩, hvalid, _, ⟨hfits, rfl⟩, _, ⟨-, rfl⟩, _, ⟨-, rfl⟩, history, hhistory, transcript,
    htranscript, turnRows, hturns, plan, hplan, h⟩ := h
  rw [calm_transaction (steady_replaceSession ..)] at h
  obtain ⟨hhistory, ⟨hs, rfl⟩, hhs⟩ := collect_round_trip decodeMessage
    messages.check (fun i x y _ hy => encodeMessage_round_trip hy) hhistory
  obtain ⟨htranscript, ⟨is, rfl⟩, his⟩ := collect_round_trip (decodeItem C)
    transcriptItems.check (fun i x y hx hy =>
      encodeItem_round_trip (hC.arguments x (List.mem_of_getElem? hx)) hy) htranscript
  obtain ⟨hturns, ⟨ts, rfl⟩, hts⟩ := collect_round_trip decodeTurn turns.check
    (fun i x y hx hy =>
      encodeTurn_round_trip (by rw [hcontiguous i x hx, Nat.zero_add]) hy) hturns
  obtain ⟨hplan, ⟨ps, rfl⟩, hps⟩ := collect_round_trip decodePlanItem
    planItems.check (fun i x y hx hy =>
      encodePlanItem_round_trip (validate_of_validatePlan hvalid x (List.mem_of_getElem? hx)) hy)
    hplan
  rw [calm_replaceSession hrow hhs hps his hts] at h
  obtain ⟨-, rfl⟩ := Prod.mk.inj (Except.ok.inj h)
  refine ⟨hfits, ⟨checkpointRow C record row, ?_, ?_⟩, ?_, ?_, ?_, ?_, hvalid⟩
  · change (db.sessions.mapRows _).find _ = _
    rw [Table.find_mapRows, hrow]
    simp
  · exact storedRecord_checkpointRow hid hcreated hC.activity
  · exact (congrArg _ (congrArg Table.rows (Children.set_self ..))).trans hhistory
  · exact (congrArg _ (congrArg Table.rows (Children.set_self ..))).trans htranscript
  · exact (congrArg _ (congrArg Table.rows (Children.set_self ..))).trans hturns
  · exact (congrArg _ (congrArg Table.rows (Children.set_self ..))).trans hplan

/-- A load of a session without running turns returns the record, and writes
nothing. -/
theorem calm_load_of_holds (h : Holds C db id record) (hturns : runningTurns record.turns = []) :
    calm (load C none id) db = .ok (record, db) := by
  have hload : calm (loadRecord C id) db = .ok (record, db) := calm_loadRecord.2 ⟨rfl, h⟩
  unfold load run loadSync
  rw [calm_transaction (steady_recoverRecord C id), recoverRecord,
    calm_bind (steady_loadRecord C id), hload]
  change calm (if runningTurns record.turns = [] then pure record else _) db = _
  rw [if_pos hturns, calm_pure]

/-- Whatever fails, a load that returns returns what a calm one does. -/
theorem load_eq_ok {setup : Option SessionStoreError} {c c' : Connection Database}
    (h : load C setup id c = (.ok record, c')) :
    calm (load C none id) c.db = .ok (record, c'.db) := by
  cases setup with
  | none => exact (steady_load C none id).calm_eq_ok h
  | some e => cases h

theorem checkpoint_eq_ok {setup : Option SessionStoreError} {c c' : Connection Database}
    (h : checkpoint C setup record c = (.ok (), c')) :
    calm (checkpointSync C record) c.db = .ok ((), c'.db) := by
  cases setup with
  | none => exact (steady_checkpointSync C record).calm_eq_ok h
  | some e => cases h

theorem atomic_checkpoint (C : Codec) (setup : Option SessionStoreError) (record : SessionRecord) :
    Atomic (checkpoint C setup record) := by
  cases setup with
  | some e => exact atomic_fail e
  | none =>
    refine atomic_ofExcept_bind fun _ => atomic_ofExcept_bind fun id => ?_
    refine atomic_ofExcept_bind fun titleRevision => atomic_ofExcept_bind fun tokens => ?_
    refine atomic_ofExcept_bind fun history => atomic_ofExcept_bind fun transcript => ?_
    exact atomic_ofExcept_bind fun turnRows => atomic_ofExcept_bind fun plan => atomic_transaction

theorem runningTurns_eq_nil {turns : List DurableTurn}
    (h : ∀ turn ∈ turns, turn.status ≠ .running) : runningTurns turns = [] := by
  simpa [runningTurns] using h

/-- **The store round trip:** after a successful checkpoint of a record without
running turns, for a session that exists, every load that returns returns the
record with the working directory and the creation time that were stored, and a
load in which no statement fails returns.  A checkpoint that fails changes no row. -/
theorem load_checkpoint (C : Codec) (setup : Option SessionStoreError) (record : SessionRecord)
    (c c' : Connection Database) :
    (∀ row createdAt, 0 < record.id.value → c.db.sessions.find record.id.value = some row →
      C.parseTimestamp row.createdAt = some createdAt → Codec.Keeps C record →
      Contiguous record.turns → (∀ turn ∈ record.turns, turn.status ≠ .running) →
      checkpoint C setup record c = (.ok (), c') →
      load C none record.id ⟨c'.db, []⟩ =
        (.ok { record with cwd := row.cwd, createdAt }, ⟨c'.db, []⟩) ∧
      ∀ setup' faults loaded c'', load C setup' record.id ⟨c'.db, faults⟩ = (.ok loaded, c'') →
        loaded = { record with cwd := row.cwd, createdAt } ∧ c''.db = c'.db) ∧
    ∀ e, checkpoint C setup record c = (.error e, c') → c'.db = c.db := by
  refine ⟨fun row createdAt hid hrow hcreated hC hcontiguous hrunning h => ?_, fun e h =>
    atomic_checkpoint C setup record h⟩
  have hholds := holds_of_checkpoint (checkpoint_eq_ok h) hid hrow hcreated hcontiguous hC
  have hcalm := calm_load_of_holds hholds (runningTurns_eq_nil hrunning)
  refine ⟨apply_of_calm_eq_ok (steady_load C none record.id) hcalm, ?_⟩
  intro setup' faults loaded c'' hload
  have hloaded := (load_eq_ok hload).symm.trans hcalm
  obtain ⟨rfl, hdb⟩ := Prod.mk.inj (Except.ok.inj hloaded)
  exact ⟨rfl, hdb⟩

/-- The epoch and the value `null`, as the libraries print them. -/
def sampleCodec : Codec where
  formatTimestamp _ := "1970-01-01T00:00:00.000000000Z"
  parseTimestamp value := if value = "1970-01-01T00:00:00.000000000Z" then some 0 else none
  formatJson _ := "null"
  parseJson value := if value = "null" then some .null else none

/-- One session, as `materialize_sync` leaves it after its first turn. -/
def sampleDatabase : Database where
  sessions := ⟨[(1, ⟨"hello", "fallback", 0, [0x2F], "model", "medium", 0,
    "1970-01-01T00:00:00.000000000Z", "1970-01-01T00:00:00.000000000Z"⟩)], by simp⟩
  messages _ := .empty
  transcriptItems _ := .empty
  turns _ := .empty
  planItems _ := .empty

/-- A record of the session with an item of each kind. -/
def sampleRecord : SessionRecord :=
  { emptyRecord with
    transcript := [.user "hello", .toolStarted 0 "call" "bash" .null, .assistant "hi",
      .failed 0 ⟨.modelRequest, .httpRejected 503, true, "unavailable"⟩, .cancelled 1]
    turns := [⟨0, 0, 0, .failed⟩, ⟨1, 1, 4, .cancelled⟩]
    history := [⟨.user, "hello"⟩, ⟨.assistant, "hi"⟩]
    plan := [⟨"Inspect", .inProgress⟩] }

theorem load_checkpoint_sample :
    load sampleCodec none ⟨1⟩
      ⟨(checkpoint sampleCodec none sampleRecord ⟨sampleDatabase, []⟩).2.db, []⟩ =
      (.ok { sampleRecord with cwd := [0x2F] },
        ⟨(checkpoint sampleCodec none sampleRecord ⟨sampleDatabase, []⟩).2.db, []⟩) := by
  have hok : (checkpoint sampleCodec none sampleRecord ⟨sampleDatabase, []⟩).1 = .ok () := by
    decide +kernel
  have hrow : sampleDatabase.sessions.find 1 = some ⟨"hello", "fallback", 0, [0x2F], "model",
      "medium", 0, "1970-01-01T00:00:00.000000000Z", "1970-01-01T00:00:00.000000000Z"⟩ := by
    decide
  have hepoch : sampleCodec.parseTimestamp "1970-01-01T00:00:00.000000000Z" = some 0 := by
    decide
  rcases hrun : checkpoint sampleCodec none sampleRecord ⟨sampleDatabase, []⟩ with ⟨result, c'⟩
  rw [hrun] at hok
  obtain rfl : result = .ok () := hok
  refine ((load_checkpoint sampleCodec none sampleRecord ⟨sampleDatabase, []⟩ c').1 _ 0 (by decide)
    hrow hepoch ⟨hepoch, ?_⟩ ?_ (by decide) hrun).1
  · intro item hitem runId callId name arguments heq
    simp [sampleRecord] at hitem
    rcases hitem with rfl | rfl | rfl | rfl | rfl <;> cases heq
    rfl
  · intro i turn hi
    rcases i with _ | _ | i <;> simp [sampleRecord] at hi <;> subst hi <;> rfl

end Schema
end Moh
