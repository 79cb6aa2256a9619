/-
# Crash recovery on load

`session/store.rs`: `load_sync`.  Turns that were still running when the backend
stopped are interrupted, and for each of them a failure is appended to the
transcript (`calm_appendInterrupted`).  The record that is returned is what the rows
then hold, and it has no running turn, so that a second load finds nothing to do
(`load_recovers`).
-/

import Moh.Session.RoundTrip

namespace Moh
namespace Schema

open Fallible Transaction

variable {C : Codec} {db db' : Database} {id : SessionId} {record loaded : SessionRecord}

/-! ### The rows of an interrupted session -/

/-- The row of the failure that is appended for a run. -/
def interruptedRow (runId : ℕ) : TranscriptRow where
  kind := "failed"
  runId := some runId
  failureStage := some "finalization"
  failureKind := some "runtime_infrastructure"
  failureRetryable := some 1
  failureMessage := some SessionStore.interruptedFailure.message

/-- The item of the failure that is appended for a run. -/
def interruptedItem (runId : ℕ) : TranscriptItem :=
  .failed runId SessionStore.interruptedFailure

theorem encode_interruptedItem {position : ℤ} {runId : ℕ} {y : ℤ × TranscriptRow} :
    encodeTranscriptItem C position (interruptedItem runId) = .ok y ↔
      runId ≤ i64Max ∧ y = (position, interruptedRow runId) := by
  unfold encodeTranscriptItem interruptedItem
  rw [bind_eq_ok_iff]
  constructor
  · rintro ⟨i, hi, hy⟩
    obtain ⟨hfits, rfl⟩ := sqliteU64_eq_ok.1 hi
    exact ⟨hfits, (Except.ok.inj hy).symm⟩
  · rintro ⟨hfits, rfl⟩
    exact ⟨runId, sqliteU64_eq_ok.2 ⟨hfits, rfl⟩, rfl⟩

theorem decode_interruptedRow (n runId : ℕ) :
    decodeItem C n (n, interruptedRow runId) = .ok (interruptedItem runId) := by
  have hcheck : checkPosition "transcript position" n n = .ok () := checkPosition_self ..
  simp [decodeItem, hcheck, storedTranscriptItem, interruptedRow, requiredStored, bind, Except.bind]
  rfl

/-- **What the loop of `load_sync` appends,** and when it gets to its end. -/
theorem calm_appendInterrupted {i : ℤ} {rs : List TranscriptRow} {runIds : List ℕ}
    (hsession : db.sessions.find i ≠ none) (hget : db.transcriptItems i = .ofList rs) :
    calm (appendInterrupted C i rs.length runIds) db = .ok ((), db') ↔
      (∀ k < runIds.length, rs.length + k ≤ i64Max) ∧ (∀ runId ∈ runIds, runId ≤ i64Max) ∧
      db' = setRows transcriptItems i (.ofList (rs ++ runIds.map interruptedRow)) db := by
  induction runIds generalizing rs db with
  | nil =>
    have hsame : setRows transcriptItems i (.ofList rs) db = db := by
      rw [← hget]
      exact congrArg _ (Children.set_eq_self ..)
    simp [appendInterrupted, hsame, eq_comm]
  | cons runId runIds ih =>
    have hinsert : insertRow transcriptItems i (rs.length, interruptedRow runId) db =
        .ok (setRows transcriptItems i (.ofList (rs ++ [interruptedRow runId])) db) :=
      insertRow_ofList hsession hget rfl
    have hlen : (rs ++ [interruptedRow runId]).length = rs.length + 1 := by simp
    have hrest : calm (appendInterrupted C i (rs.length + 1) runIds)
        (setRows transcriptItems i (.ofList (rs ++ [interruptedRow runId])) db) = .ok ((), db') ↔
        (∀ k < runIds.length, rs.length + 1 + k ≤ i64Max) ∧ (∀ runId ∈ runIds, runId ≤ i64Max) ∧
        db' = setRows transcriptItems i
          (.ofList (rs ++ (runId :: runIds).map interruptedRow)) db := by
      have hsession' : (setRows transcriptItems i (.ofList (rs ++ [interruptedRow runId]))
          db).sessions.find i ≠ none := hsession
      have hget' : (setRows transcriptItems i (.ofList (rs ++ [interruptedRow runId]))
          db).transcriptItems i = .ofList (rs ++ [interruptedRow runId]) := Children.set_self ..
      rw [← hlen, ih hsession' hget']
      simp [setRows, transcriptItems]
    have hstep : calm (appendInterrupted C i rs.length (runId :: runIds)) db = .ok ((), db') ↔
        rs.length ≤ i64Max ∧ runId ≤ i64Max ∧ calm (appendInterrupted C i (rs.length + 1) runIds)
          (setRows transcriptItems i (.ofList (rs ++ [interruptedRow runId])) db) =
            .ok ((), db') := by
      rw [appendInterrupted, calm_ofExcept_bind, bind_eq_ok_iff]
      constructor
      · rintro ⟨_, hn, h⟩
        obtain ⟨hfits, rfl⟩ := sqliteU64_eq_ok.1 hn
        rw [calm_ofExcept_bind, bind_eq_ok_iff] at h
        obtain ⟨y, hy, h⟩ := h
        obtain ⟨hrun, rfl⟩ := encode_interruptedItem.1 hy
        rw [calm_execute_bind, hinsert] at h
        exact ⟨hfits, hrun, h⟩
      · rintro ⟨hfits, hrun, h⟩
        refine ⟨rs.length, sqliteU64_eq_ok.2 ⟨hfits, rfl⟩, ?_⟩
        rw [calm_ofExcept_bind, bind_eq_ok_iff]
        refine ⟨_, encode_interruptedItem.2 ⟨hrun, rfl⟩, ?_⟩
        rw [calm_execute_bind, hinsert]
        exact h
    rw [hstep, hrest, List.forall_mem_cons]
    constructor
    · rintro ⟨hfits, hrun, hfitsAll, hrunAll, hdb⟩
      refine ⟨fun k hk => ?_, ⟨hrun, hrunAll⟩, hdb⟩
      rcases k with _ | k
      · exact hfits
      · have := hfitsAll k (by simpa using hk)
        omega
    · rintro ⟨hfits, ⟨hrun, hrunAll⟩, hdb⟩
      refine ⟨hfits 0 (by simp), hrun, fun k hk => ?_, hrunAll, hdb⟩
      have := hfits (k + 1) (by simpa using hk)
      omega

/-! ### What the interrupted rows hold -/

/-- Rows that decode are at their positions. -/
theorem rows_of_collect {α ρ : Type} {decode : ℕ → ℤ × ρ → Except SessionStoreError α}
    (h : ∀ n y x, decode n y = .ok x → y.1 = n) {n : ℕ} {ys : List (ℤ × ρ)} {xs : List α}
    (hys : collect decode n ys = .ok xs) :
    ∃ rs, ys = Table.enumerate n rs ∧ rs.length = xs.length := by
  induction ys generalizing n xs with
  | nil =>
    obtain rfl := Except.ok.inj hys
    exact ⟨[], rfl, rfl⟩
  | cons y ys ih =>
    obtain ⟨x, rest, hx, hrest, rfl⟩ := collect_cons_eq_ok.1 hys
    obtain ⟨rs, rfl, hlen⟩ := ih hrest
    refine ⟨y.2 :: rs, ?_, by simp [hlen]⟩
    rw [Table.enumerate, ← h n y x hx]

/-- Rows changed one by one decode to changed elements. -/
theorem collect_map {α ρ : Type} {decode : ℕ → ℤ × ρ → Except SessionStoreError α} {f : α → α}
    {g : ℤ × ρ → ℤ × ρ} (h : ∀ n y x, decode n y = .ok x → decode n (g y) = .ok (f x)) {n : ℕ}
    {ys : List (ℤ × ρ)} {xs : List α} (hys : collect decode n ys = .ok xs) :
    collect decode n (ys.map g) = .ok (xs.map f) := by
  induction ys generalizing n xs with
  | nil =>
    obtain rfl := Except.ok.inj hys
    rfl
  | cons y ys ih =>
    obtain ⟨x, rest, hx, hrest, rfl⟩ := collect_cons_eq_ok.1 hys
    exact collect_cons_eq_ok.2 ⟨f x, rest.map f, h n y x hx, ih hrest, rfl⟩

/-- A turn that is interrupted if it was running. -/
def interruptTurn (turn : DurableTurn) : DurableTurn :=
  if turn.status = .running then { turn with status := .interrupted } else turn

theorem storedTurnStatus_eq_running {value : String} (h : storedTurnStatus value = .ok .running) :
    value = "running" := by
  unfold storedTurnStatus at h
  split_ifs at h with hvalue
  · exact hvalue
  all_goals cases h

/-- An interrupted row decodes to the interrupted turn. -/
theorem decodeTurn_interrupted {n : ℕ} {y : ℤ × TurnRow} {turn : DurableTurn}
    (h : decodeTurn n y = .ok turn) :
    decodeTurn n (y.1, if y.2.status = "running" then { y.2 with status := "interrupted" } else y.2) =
      .ok (interruptTurn turn) := by
  unfold decodeTurn at h ⊢
  obtain ⟨ordinal, hordinal, h⟩ := bind_eq_ok_iff.1 h
  split_ifs at h with hne
  obtain ⟨runId, hrun, h⟩ := bind_eq_ok_iff.1 h
  obtain ⟨prompt, hprompt, h⟩ := bind_eq_ok_iff.1 h
  obtain ⟨status, hstatus, h⟩ := bind_eq_ok_iff.1 h
  obtain rfl := Except.ok.inj h
  refine bind_eq_ok_iff.2 ⟨ordinal, hordinal, ?_⟩
  rw [if_neg hne]
  by_cases hvalue : y.2.status = "running"
  · obtain rfl : status = .running := by
      rw [hvalue] at hstatus
      exact (Except.ok.inj hstatus).symm
    rw [if_pos hvalue]
    exact bind_eq_ok_iff.2 ⟨runId, hrun, bind_eq_ok_iff.2 ⟨prompt, hprompt, rfl⟩⟩
  · have hother : status ≠ .running := by
      rintro rfl
      exact hvalue (storedTurnStatus_eq_running hstatus)
    rw [if_neg hvalue, interruptTurn, if_neg hother]
    exact bind_eq_ok_iff.2 ⟨runId, hrun, bind_eq_ok_iff.2 ⟨prompt, hprompt,
      bind_eq_ok_iff.2 ⟨status, hstatus, rfl⟩⟩⟩

/-- The failures that were appended decode to their items. -/
theorem collect_interrupted (n : ℕ) (runIds : List ℕ) :
    collect (decodeItem C) n (Table.enumerate n (runIds.map interruptedRow)) =
      .ok (runIds.map interruptedItem) := by
  induction runIds generalizing n with
  | nil => rfl
  | cons runId runIds ih =>
    exact collect_cons_eq_ok.2 ⟨_, _, decode_interruptedRow n runId, ih (n + 1), rfl⟩

/-! ### The load -/

/-- The database after a load that interrupts running turns. -/
def recovered (i : ℤ) (rs : List TranscriptRow) (runIds : List ℕ) (db : Database) : Database :=
  setRows transcriptItems i (.ofList (rs ++ runIds.map interruptedRow))
    (setRows turns i ((db.turns i).mapRows fun _ row =>
      if row.status = "running" then { row with status := "interrupted" } else row) db)

/-- A record whose running turns are interrupted. -/
def interruptedRecord (record : SessionRecord) : SessionRecord :=
  { record with
    turns := record.turns.map interruptTurn
    transcript := record.transcript ++ (runningTurns record.turns).map interruptedItem }

theorem runningTurns_interruptedRecord (record : SessionRecord) :
    runningTurns (interruptedRecord record).turns = [] := by
  refine runningTurns_eq_nil fun turn hturn => ?_
  obtain ⟨before, -, rfl⟩ := List.mem_map.1 hturn
  unfold interruptTurn
  split_ifs with h
  · simp
  · exact h

/-- **The rows hold the interrupted record.** -/
theorem holds_recovered {rs : List TranscriptRow} (h : Holds C db id record)
    (hrs : db.transcriptItems id.value = .ofList rs) :
    Holds C (recovered id.value rs (runningTurns record.turns) db) id (interruptedRecord record) := by
  obtain ⟨row, hrow, hheader⟩ := h.row
  refine ⟨h.fits, ⟨row, hrow, hheader⟩, h.history, ?_, ?_, h.plan, h.valid⟩
  · have htable : (recovered id.value rs (runningTurns record.turns) db).transcriptItems id.value =
        .ofList (rs ++ (runningTurns record.turns).map interruptedRow) := Children.set_self ..
    have hrows : ((recovered id.value rs (runningTurns record.turns) db).transcriptItems
        id.value).rows = Table.enumerate 0 rs ++
          Table.enumerate (0 + rs.length) ((runningTurns record.turns).map interruptedRow) := by
      rw [htable, Table.rows_ofList, Table.enumerate_append]
    have hold : collect (decodeItem C) 0 (Table.enumerate 0 rs) = .ok record.transcript := by
      have htranscript := h.transcript
      rwa [hrs] at htranscript
    rw [hrows]
    exact collect_append_eq_ok.2 ⟨_, _, hold, by
      rw [Table.length_enumerate]
      exact collect_interrupted .., rfl⟩
  · have htable : (recovered id.value rs (runningTurns record.turns) db).turns id.value =
        (db.turns id.value).mapRows fun _ row =>
          if row.status = "running" then { row with status := "interrupted" } else row :=
      Children.set_self ..
    have hmap : collect decodeTurn 0 ((db.turns id.value).rows.map fun y =>
        (y.1, if y.2.status = "running" then { y.2 with status := "interrupted" } else y.2)) =
        .ok (record.turns.map interruptTurn) :=
      collect_map (fun n y x hy => decodeTurn_interrupted hy) h.turns
    rw [htable]
    exact hmap

/-- A transcript that decodes is a table by position. -/
theorem Holds.transcript_ofList (h : Holds C db id record) :
    ∃ rs, db.transcriptItems id.value = .ofList rs ∧ rs.length = record.transcript.length := by
  have hkey : ∀ n (y : ℤ × TranscriptRow) x, decodeItem C n y = .ok x → y.1 = n := by
    intro n y x hy
    obtain ⟨⟨⟩, hcheck, -⟩ := bind_eq_ok_iff.1 hy
    exact checkPosition_eq_ok hcheck
  obtain ⟨rs, hrs, hlen⟩ := rows_of_collect hkey h.transcript
  exact ⟨rs, Table.ext hrs, hlen⟩

/-- Rows hold one record at most. -/
theorem Holds.unique (h : Holds C db id record) (h' : Holds C db id loaded) : record = loaded := by
  have hload := calm_loadRecord.2 ⟨rfl, h⟩
  rw [calm_loadRecord.2 ⟨rfl, h'⟩] at hload
  exact (Prod.mk.inj (Except.ok.inj hload)).1.symm

/-- **A calm load of rows that decode:** nothing happens without running turns, and
otherwise they are interrupted, if the positions and run ids fit their columns. -/
theorem calm_load_eq_ok (h : Holds C db id record) :
    calm (load C none id) db = .ok (loaded, db') ↔
      (runningTurns record.turns = [] ∧ loaded = record ∧ db' = db) ∨
      runningTurns record.turns ≠ [] ∧
        (∀ k < (runningTurns record.turns).length, record.transcript.length + k ≤ i64Max) ∧
        (∀ runId ∈ runningTurns record.turns, runId ≤ i64Max) ∧
        loaded = interruptedRecord record ∧
        ∃ rs, db.transcriptItems id.value = .ofList rs ∧
          db' = recovered id.value rs (runningTurns record.turns) db := by
  obtain ⟨rs, hrs, hlen⟩ := h.transcript_ofList
  obtain ⟨row, hrow, -⟩ := h.row
  have hload : calm (loadRecord C id) db = .ok (record, db) := calm_loadRecord.2 ⟨rfl, h⟩
  by_cases hrunning : runningTurns record.turns = []
  · rw [calm_load_of_holds h hrunning]
    simp [hrunning, eq_comm]
  · have hunfold : calm (load C none id) db =
        calm (appendInterrupted C id.value rs.length (runningTurns record.turns) >>= fun _ =>
          loadRecord C id) (setRows turns id.value ((db.turns id.value).mapRows fun _ row =>
            if row.status = "running" then { row with status := "interrupted" } else row) db) := by
      unfold load run loadSync
      rw [calm_transaction (steady_recoverRecord C id), recoverRecord,
        calm_bind (steady_loadRecord C id), hload]
      change calm (if runningTurns record.turns = [] then pure record else _) db = _
      rw [if_neg hrunning, calm_ofExcept_bind, sqliteSessionId,
        sqliteU64_eq_ok.2 ⟨h.fits, rfl⟩]
      change calm (execute _ _ >>= _) db = _
      rw [calm_execute_bind]
      change calm (statement _ >>= _) _ = _
      rw [calm_statement_bind, hlen]
    have hget : (setRows turns id.value ((db.turns id.value).mapRows fun _ row =>
        if row.status = "running" then { row with status := "interrupted" } else row)
          db).transcriptItems id.value = .ofList rs := hrs
    have hsession : (setRows turns id.value ((db.turns id.value).mapRows fun _ row =>
        if row.status = "running" then { row with status := "interrupted" } else row)
          db).sessions.find id.value ≠ none := by
      change db.sessions.find id.value ≠ none
      rw [hrow]
      exact Option.some_ne_none row
    rw [hunfold, calm_bind (steady_appendInterrupted ..), bind_eq_ok_iff, ← hlen]
    constructor
    · rintro ⟨⟨⟨⟩, db₂⟩, happend, hreload⟩
      obtain ⟨hfits, hruns, rfl⟩ := (calm_appendInterrupted hsession hget).1 happend
      obtain ⟨rfl, hloaded⟩ := calm_loadRecord.1 hreload
      exact .inr ⟨hrunning, hfits, hruns, hloaded.unique (holds_recovered h hrs), rs, hrs, rfl⟩
    · rintro (⟨hnil, -⟩ | ⟨-, hfits, hruns, rfl, rs', hrs', rfl⟩)
      · exact absurd hnil hrunning
      · obtain rfl : rs = rs' := Table.ofList_injective (hrs.symm.trans hrs')
        refine ⟨⟨(), _⟩, (calm_appendInterrupted hsession hget).2 ⟨hfits, hruns, rfl⟩, ?_⟩
        exact calm_loadRecord.2 ⟨rfl, holds_recovered h hrs⟩

/-- What a load makes of a session: the record it returns, and the rows it leaves. -/
structure Recovery (C : Codec) (id : SessionId) (record loaded : SessionRecord)
    (db db' : Database) : Prop where
  turns : loaded.turns = record.turns.map interruptTurn
  transcript : loaded.transcript =
    record.transcript ++ (runningTurns record.turns).map interruptedItem
  rest : loaded = { record with turns := loaded.turns, transcript := loaded.transcript }
  settled : ∀ turn ∈ loaded.turns, turn.status ≠ .running
  stored : Holds C db' id loaded
  grows : (db.transcriptItems id.value).rows <+: (db'.transcriptItems id.value).rows
  contiguous : ∃ rs, db'.transcriptItems id.value = .ofList rs
  kept : db'.sessions = db.sessions ∧ db'.messages = db.messages ∧ db'.planItems = db.planItems
  others : ∀ i, i ≠ (id.value : ℤ) →
    db'.transcriptItems i = db.transcriptItems i ∧ db'.turns i = db.turns i
  again : load C none id ⟨db', []⟩ = (.ok loaded, ⟨db', []⟩)
  stable : ∀ setup faults loaded' c', load C setup id ⟨db', faults⟩ = (.ok loaded', c') →
    loaded' = loaded ∧ c'.db = db'

theorem interruptTurn_of_ne {turn : DurableTurn} (h : turn.status ≠ .running) :
    interruptTurn turn = turn := if_neg h

theorem interruptedRecord_of_nil (h : runningTurns record.turns = []) :
    interruptedRecord record = record := by
  have hne : ∀ turn ∈ record.turns, turn.status ≠ .running := by
    simpa [runningTurns] using h
  have hturns : record.turns.map interruptTurn = record.turns := by
    rw [List.map_congr_left fun turn hturn => interruptTurn_of_ne (hne turn hturn), List.map_id']
  rw [interruptedRecord, hturns, h, List.map_nil, List.append_nil]

/-- Rows that hold a record without running turns stay as they are. -/
theorem stable_of_holds (h : Holds C db id loaded) (hnone : runningTurns loaded.turns = []) :
    load C none id ⟨db, []⟩ = (.ok loaded, ⟨db, []⟩) ∧
    ∀ setup faults loaded' c', load C setup id ⟨db, faults⟩ = (.ok loaded', c') →
      loaded' = loaded ∧ c'.db = db := by
  have hcalm := calm_load_of_holds h hnone
  refine ⟨apply_of_calm_eq_ok (steady_load C none id) hcalm, fun setup faults loaded' c' hload => ?_⟩
  have heq := (load_eq_ok hload).symm.trans hcalm
  exact Prod.mk.inj (Except.ok.inj heq)

/-- **Every load that returns has recovered the session.** -/
theorem recovery_of_calm (h : Holds C db id record)
    (hload : calm (load C none id) db = .ok (loaded, db')) : Recovery C id record loaded db db' := by
  have hloaded : loaded = interruptedRecord record := by
    rcases (calm_load_eq_ok h).1 hload with ⟨hnil, rfl, -⟩ | ⟨-, -, -, hloaded, -⟩
    · exact (interruptedRecord_of_nil hnil).symm
    · exact hloaded
  have hnone : runningTurns loaded.turns = [] := by
    rw [hloaded]
    exact runningTurns_interruptedRecord record
  have hsettled : ∀ turn ∈ loaded.turns, turn.status ≠ .running := by
    simpa [runningTurns] using hnone
  rcases (calm_load_eq_ok h).1 hload with ⟨hnil, heq, rfl⟩ | ⟨-, -, -, -, rs, hrs, rfl⟩
  · have hstored : Holds C db' id loaded := heq ▸ h
    obtain ⟨rs, hrs, -⟩ := h.transcript_ofList
    obtain ⟨hagain, hstable⟩ := stable_of_holds hstored hnone
    exact
      { turns := by rw [hloaded]; rfl
        transcript := by rw [hloaded]; rfl
        rest := by rw [hloaded]; rfl
        settled := hsettled
        stored := hstored
        grows := List.prefix_rfl
        contiguous := ⟨rs, hrs⟩
        kept := ⟨rfl, rfl, rfl⟩
        others := fun _ _ => ⟨rfl, rfl⟩
        again := hagain
        stable := hstable }
  · have hstored : Holds C (recovered id.value rs (runningTurns record.turns) db) id loaded := by
      rw [hloaded]
      exact holds_recovered h hrs
    have htable : (recovered id.value rs (runningTurns record.turns) db).transcriptItems id.value =
        .ofList (rs ++ (runningTurns record.turns).map interruptedRow) := Children.set_self ..
    obtain ⟨hagain, hstable⟩ := stable_of_holds hstored hnone
    exact
      { turns := by rw [hloaded]; rfl
        transcript := by rw [hloaded]; rfl
        rest := by rw [hloaded]; rfl
        settled := hsettled
        stored := hstored
        grows := by
          rw [htable, hrs, Table.rows_ofList, Table.rows_ofList, Table.enumerate_append]
          exact List.prefix_append ..
        contiguous := ⟨_, htable⟩
        kept := ⟨rfl, rfl, rfl⟩
        others := fun i hi => ⟨Children.set_of_ne _ hi _, Children.set_of_ne _ hi _⟩
        again := hagain
        stable := hstable }

/-- **A load recovers a session from a crash,** whatever fails and however many of
its turns were running: a load that returns has interrupted them, a load that fails
changed nothing, and a load in which no statement fails returns if what is appended
fits its columns. -/
theorem load_recovers (C : Codec) (setup : Option SessionStoreError) (c : Connection Database)
    (h : Holds C c.db id record) :
    (∀ loaded c', load C setup id c = (.ok loaded, c') → Recovery C id record loaded c.db c'.db) ∧
    (∀ e c', load C setup id c = (.error e, c') → c'.db = c.db) ∧
    ((∀ k < (runningTurns record.turns).length, record.transcript.length + k ≤ i64Max) →
      (∀ runId ∈ runningTurns record.turns, runId ≤ i64Max) →
      ∃ loaded db', load C none id ⟨c.db, []⟩ = (.ok loaded, ⟨db', []⟩)) := by
  refine ⟨fun loaded c' hload => recovery_of_calm h (load_eq_ok hload), fun e c' hload => ?_,
    fun hfits hruns => ?_⟩
  · cases setup with
    | some e => exact atomic_fail e hload
    | none => exact atomic_transaction hload
  · obtain ⟨rs, hrs, -⟩ := h.transcript_ofList
    by_cases hnil : runningTurns record.turns = []
    · have hcalm := (calm_load_eq_ok h).2 (.inl ⟨hnil, rfl, rfl⟩)
      exact ⟨_, _, apply_of_calm_eq_ok (steady_load C none id) hcalm⟩
    · have hcalm := (calm_load_eq_ok h).2 (.inr ⟨hnil, hfits, hruns, rfl, rs, hrs, rfl⟩)
      exact ⟨_, _, apply_of_calm_eq_ok (steady_load C none id) hcalm⟩

/-- A session whose backend stopped while two of its three turns were running. -/
def sampleStopped : Database where
  sessions := sampleDatabase.sessions
  messages _ := .empty
  transcriptItems _ := .ofList [{ kind := "user", text := some "hello" }]
  turns _ := .ofList [⟨0, 0, "running"⟩, ⟨1, 0, "completed"⟩, ⟨2, 0, "running"⟩]
  planItems _ := .empty

/-- What the rows of `sampleStopped` hold. -/
def sampleStoppedRecord : SessionRecord :=
  { sampleRecord with
    title := ⟨"hello", by decide⟩
    cwd := [0x2F]
    transcript := [.user "hello"]
    turns := [⟨0, 0, 0, .running⟩, ⟨1, 1, 0, .completed⟩, ⟨2, 2, 0, .running⟩]
    history := []
    plan := [] }

theorem holds_sampleStopped : Holds sampleCodec sampleStopped ⟨1⟩ sampleStoppedRecord := by
  refine ⟨by decide, ⟨_, rfl, ?_⟩, ?_, ?_, ?_, ?_, ?_⟩
  · rfl
  · rfl
  · rfl
  · decide
  · decide
  · decide

theorem load_recovers_sample : ∃ loaded db',
    load sampleCodec none ⟨1⟩ ⟨sampleStopped, []⟩ = (.ok loaded, ⟨db', []⟩) ∧
      Recovery sampleCodec ⟨1⟩ sampleStoppedRecord loaded sampleStopped db' := by
  obtain ⟨hrecovers, -, hreturns⟩ := load_recovers sampleCodec none ⟨sampleStopped, []⟩
    holds_sampleStopped
  obtain ⟨loaded, db', hload⟩ := hreturns (by decide) (by decide)
  exact ⟨loaded, db', hload, hrecovers loaded _ hload⟩

end Schema
end Moh
