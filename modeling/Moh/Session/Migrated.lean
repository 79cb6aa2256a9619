/-
# Migrated conversations

`session/store.rs`: what `initialize_database` makes of a legacy database.  Every
session passes the migration iff its messages alternate at their positions and
its name is a title (`passes_iff`); the rows it is given then hold its
conversation (`exists_record`), so a load returns it (`migration_preserves`).  A migration
that fails leaves the file as it was.
-/

import Moh.Session.Migration

namespace Moh
namespace Schema

open Fallible Transaction

variable {C : Codec} {old : LegacyDatabase} {db : Database} {i : ℤ} {legacy : LegacySessionRow}

/-! ### Sessions that pass -/

/-- Messages of the user and the assistant in turn, each at its position. -/
structure Alternating (rows : List (ℤ × MessageRow)) : Prop where
  even : rows.length % 2 = 0
  row : ∀ (k : ℕ) row, rows[k]? = some row →
    row.1 = k ∧ row.2.role = if k % 2 = 0 then "user" else "assistant"

/-- Messages that alternate from a position on come in pairs. -/
theorem exists_texts_of_alternating {n : ℕ} : ∀ {rows : List (ℤ × MessageRow)},
    rows.length % 2 = 0 →
    (∀ (k : ℕ) row, rows[k]? = some row →
      row.1 = ((n + k : ℕ) : ℤ) ∧ row.2.role = if k % 2 = 0 then "user" else "assistant") →
    ∃ texts, rows = Table.enumerate n (pairRows texts)
  | [], _, _ => ⟨[], rfl⟩
  | [_], heven, _ => by simp at heven
  | (ka, ⟨ra, ta⟩) :: (kb, ⟨rb, tb⟩) :: rows, heven, hrow => by
    obtain ⟨rfl, rfl⟩ := hrow 0 _ rfl
    obtain ⟨rfl, rfl⟩ := hrow 1 _ rfl
    have hrest : ∀ (k : ℕ) row, rows[k]? = some row →
        row.1 = ((n + 2 + k : ℕ) : ℤ) ∧ row.2.role = if k % 2 = 0 then "user" else "assistant" := by
      intro k row hk
      have hk := hrow (k + 2) row (by simpa using hk)
      rw [Nat.add_mod_right] at hk
      rwa [show n + 2 + k = n + (k + 2) by omega]
    rw [List.length_cons, List.length_cons] at heven
    obtain ⟨texts, rfl⟩ := exists_texts_of_alternating (by omega) hrest
    exact ⟨(ta, tb) :: texts, rfl⟩

theorem getElem?_enumerate {ρ : Type} (n k : ℕ) (rs : List ρ) :
    (Table.enumerate n rs)[k]? = rs[k]?.map fun r => (((n + k : ℕ) : ℤ), r) := by
  induction rs generalizing n k with
  | nil => rfl
  | cons r rs ih =>
    rw [Table.enumerate]
    cases k with
    | zero => rfl
    | succ k =>
      rw [List.getElem?_cons_succ, List.getElem?_cons_succ, ih, Nat.add_right_comm, Nat.add_assoc]

theorem role_of_pairRows {texts : List (String × String)} {k : ℕ} {row : MessageRow}
    (h : (pairRows texts)[k]? = some row) :
    row.role = if k % 2 = 0 then "user" else "assistant" := by
  induction texts generalizing k with
  | nil => cases h
  | cons t texts ih =>
    rw [pairRows_cons] at h
    match k, h with
    | 0, h =>
      obtain rfl := Option.some.inj h
      rfl
    | 1, h =>
      obtain rfl := Option.some.inj h
      rfl
    | k + 2, h =>
      rw [Nat.add_mod_right]
      exact ih h

/-- **Messages alternate iff they come in pairs.** -/
theorem alternating_iff {rows : List (ℤ × MessageRow)} :
    Alternating rows ↔ ∃ texts, rows = Table.enumerate 0 (pairRows texts) := by
  constructor
  · intro h
    exact exists_texts_of_alternating h.even fun k row hk => by simpa using h.row k row hk
  · rintro ⟨texts, rfl⟩
    refine ⟨by rw [Table.length_enumerate, length_pairRows, Nat.mul_mod_right], fun k row hk => ?_⟩
    rw [getElem?_enumerate, Option.map_eq_some_iff] at hk
    obtain ⟨row, hk, rfl⟩ := hk
    exact ⟨by simp, role_of_pairRows hk⟩

/-- The title of a session is found unless its name is not a title. -/
theorem exists_legacyTitle {name : Option String} (firstMessage : String) :
    (∃ r, legacyTitle name firstMessage = .ok r) ↔
      ∀ text ∈ name, ∃ title, SessionTitle.parse text = some title := by
  unfold legacyTitle
  cases name with
  | none =>
    obtain ⟨title, htitle⟩ := exists_fallbackTitle firstMessage
    refine iff_of_true ⟨(title, .fallback), ?_⟩ (by simp)
    rw [htitle]
  | some text =>
    cases hparse : SessionTitle.parse text <;> simp [hparse]

/-- **A session passes iff** it has no messages, or they alternate and its name is a
title. -/
theorem passes_iff : Passes old i legacy ↔ (old.messages i).rows ≠ [] →
    Alternating (old.messages i).rows ∧
      ∀ text ∈ legacy.name, ∃ title, SessionTitle.parse text = some title := by
  constructor
  · rintro (hnil | ⟨texts, title, source, hrows, t, rest, -, htitle⟩) hne
    · exact absurd hnil hne
    · exact ⟨alternating_iff.2 ⟨texts, hrows⟩, (exists_legacyTitle t.1).1 ⟨_, htitle⟩⟩
  · intro h
    by_cases hnil : (old.messages i).rows = []
    · exact .inl hnil
    · obtain ⟨halt, hname⟩ := h hnil
      obtain ⟨texts, hrows⟩ := alternating_iff.1 halt
      cases texts with
      | nil => exact .inl hrows
      | cons t rest =>
        obtain ⟨⟨title, source⟩, htitle⟩ := (exists_legacyTitle t.1).2 hname
        exact .inr ⟨t :: rest, title, source, hrows, t, rest, rfl, htitle⟩

/-! ### The whole migration -/

/-- The rows of the legacy plans, if there is a table of plans. -/
def LegacyDatabase.planRows (old : LegacyDatabase) : Children ℤ PlanRow :=
  old.plans.getD fun _ => .empty

/-- What the current tables hold after the migration. -/
structure Migrated (old : LegacyDatabase) (db : Database) : Prop where
  filled : ∀ y ∈ old.sessions.rows, Filled old db y.1 y.2
  absent : ∀ i, (∀ y ∈ old.sessions.rows, y.1 ≠ i) → db.sessions.find i = none ∧ Untouched db i
  plans : ∀ i, db.planItems i = if db.sessions.find i = none then .empty else old.planRows i

theorem steady_migrateLegacyToV3 (preservePlan : Bool) : Steady (migrateLegacyToV3 preservePlan) := by
  refine (steady_execute ..).bind fun _ => (steady_query ..).bind fun sessions => ?_
  refine (steady_execute ..).bind fun _ => (steady_migrateSessions _).bind fun _ => ?_
  cases preservePlan with
  | true => exact (steady_execute ..).bind fun _ => steady_execute ..
  | false => exact steady_execute ..

theorem steady_upgrade : Steady upgrade := by
  refine (steady_query ..).bind fun version => ?_
  split_ifs
  · exact steady_execute ..
  · exact steady_migrateLegacyToV3 false
  · refine (steady_query ..).bind fun titled => ?_
    split_ifs
    · exact steady_execute ..
    · exact steady_migrateLegacyToV3 true
  · exact steady_pure ()
  · exact steady_fail _

theorem steady_initializeDatabase : Steady initializeDatabase :=
  (steady_statement _).bind fun _ => (steady_statement _).bind fun _ =>
    (steady_statement _).bind fun _ => steady_transaction steady_upgrade

theorem atomic_initializeDatabase : Atomic initializeDatabase :=
  atomic_statement_bind (atomic_statement_bind (atomic_statement_bind atomic_transaction))

/-- The copy of the plans, where there are any. -/
theorem calm_copyPlans {α : Type} (f : Unit → InitProc α)
    (hplans : ∀ i, db.planItems i = .empty) :
    ∃ db', calm (if old.plans ≠ none then execute sqliteFailure copyPlans >>= f else f ())
        (.migrating old db) = calm (f ()) (.migrating old db') ∧
      db' = { db with planItems := db'.planItems } ∧
      ∀ i, db'.planItems i = if db.sessions.find i = none then .empty else old.planRows i := by
  cases h : old.plans with
  | none =>
    refine ⟨db, rfl, rfl, fun i => ?_⟩
    rw [hplans, LegacyDatabase.planRows, h]
    split_ifs <;> rfl
  | some plans =>
    refine ⟨{ db with planItems := fun i =>
      if db.sessions.find i = none then db.planItems i else plans i }, ?_, rfl, fun i => ?_⟩
    · rw [if_pos (by simp), calm_execute_bind, copyPlans, h]
      rfl
    · change (if db.sessions.find i = none then db.planItems i else plans i) = _
      rw [LegacyDatabase.planRows, h, hplans]
      rfl

/-- The rows of the sessions are untouched by a copy of the plans. -/
theorem sameSession_plans {db' : Database} (h : db' = { db with planItems := db'.planItems })
    (i : ℤ) : SameSession db db' i := by
  rw [h]
  exact ⟨rfl, rfl, rfl, rfl⟩

/-- **The migration of a legacy database** succeeds iff every session passes, and has
filled in the current tables then. -/
theorem calm_migrateLegacyToV3 (old : LegacyDatabase) :
    ((∀ y ∈ old.sessions.rows, Passes old y.1 y.2) ∧ ∃ db,
      calm (migrateLegacyToV3 (old.plans ≠ none)) (.legacy old) = .ok ((), .current db) ∧
      Migrated old db) ∨
    (∃ y ∈ old.sessions.rows, ¬Passes old y.1 y.2) ∧
      ∃ e, calm (migrateLegacyToV3 (old.plans ≠ none)) (.legacy old) = .error e := by
  have hstart : calm (migrateLegacyToV3 (old.plans ≠ none)) (.legacy old) =
      calm (migrateSessions old.sessions.rows >>= fun _ =>
        if old.plans ≠ none then execute sqliteFailure copyPlans >>= fun _ =>
          execute sqliteFailure dropTables
        else execute sqliteFailure dropTables) (.migrating old .empty) := by
    rw [migrateLegacyToV3, calm_execute_bind, renameTables]
    change calm (query _ _ >>= _) _ = _
    rw [calm_query_bind, calm_execute_bind]
    change calm _ _ = _
    simp only [decide_eq_true_eq]
    rfl
  rw [hstart, calm_bind (steady_migrateSessions _)]
  have hfresh : ∀ i, Untouched Database.empty i ∧ Database.empty.sessions.find i = none :=
    fun i => ⟨⟨rfl, rfl, rfl⟩, rfl⟩
  rcases @calm_migrateSessions old .empty _ old.sessions.sorted (by simp [Database.empty])
    (fun y _ => hfresh y.1) with ⟨hpass, db, hrun, hfilled, hsame, hplans⟩ | ⟨hfails, e, hrun⟩
  · refine .inl ⟨hpass, ?_⟩
    rw [hrun]
    obtain ⟨db', hcopy, hdb', hitems⟩ := @calm_copyPlans old db _
      (fun _ => execute sqliteFailure dropTables) (fun i => by rw [hplans]; rfl)
    have hrest := sameSession_plans hdb'
    refine ⟨db', hcopy, fun y hy => (hfilled y hy).congr (hrest y.1), fun j hj => ?_, fun j => ?_⟩
    · have hj := (hsame j hj).trans (hrest j)
      exact ⟨hj.row.trans (hfresh j).2, (hfresh j).1.congr hj⟩
    · rw [hitems, (hrest j).row]
  · refine .inr ⟨hfails, e, ?_⟩
    rw [hrun]
    rfl

theorem calm_initializeDatabase (old : LegacyDatabase) :
    calm initializeDatabase (.legacy old) =
      calm (migrateLegacyToV3 (old.plans ≠ none)) (.legacy old) := by
  rw [initializeDatabase, calm_statement_bind, calm_statement_bind, calm_statement_bind,
    calm_transaction steady_upgrade, upgrade, calm_query_bind, StoreFile.userVersion]
  cases h : old.plans with
  | none => rfl
  | some plans =>
    simp only [reduceCtorEq, ↓reduceIte]
    rfl

/-! ### Conversations -/

/-- The message of a row whose role is one of the two. -/
def legacyMessage (row : MessageRow) : Message :=
  ⟨if row.role = "user" then .user else .assistant, row.text⟩

/-- A message as an item of the transcript. -/
def mirror (message : Message) : TranscriptItem :=
  match message.role with
  | .user => .user message.text
  | .assistant => .assistant message.text

/-- A session that the migration keeps and whose columns the loader accepts. -/
structure Sound (C : Codec) (old : LegacyDatabase) (i : ℤ) (legacy : LegacySessionRow) : Prop where
  alternating : Alternating (old.messages i).rows
  name : ∀ text ∈ legacy.name, ∃ title, SessionTitle.parse text = some title
  positive : 0 < i
  fits : i ≤ i64Max
  reasoning : ∃ level, ReasoningLevel.parse legacy.reasoning = some level
  contextTokens : 0 ≤ legacy.contextTokens
  createdAt : ∃ t, C.parseTimestamp legacy.createdAt = some t
  lastActivity : ∃ t, C.parseTimestamp legacy.lastActivity = some t
  plan : ∃ plan, collect decodePlanItem 0 (old.planRows i).rows = .ok plan ∧
    SessionStore.validatePlan plan = .ok ()

/-- A record that has everything of the legacy session. -/
structure Preserved (C : Codec) (old : LegacyDatabase) (id : SessionId) (legacy : LegacySessionRow)
    (record : SessionRecord) : Prop where
  key : record.id = id
  cwd : record.cwd = legacy.cwd
  model : record.settings.model = legacy.model
  reasoning : ReasoningLevel.parse legacy.reasoning = some record.settings.reasoning
  contextTokens : legacy.contextTokens = record.settings.contextTokens
  createdAt : C.parseTimestamp legacy.createdAt = some record.createdAt
  lastActivity : C.parseTimestamp legacy.lastActivity = some record.lastActivity
  history : record.history = (old.messages id.value).rows.map fun row => legacyMessage row.2
  transcript : record.transcript = record.history.map mirror
  turns : record.turns = (List.range ((old.messages id.value).rows.length / 2)).map fun k =>
    ⟨k, k + 1, 2 * k, .completed⟩
  prompts : ∀ turn ∈ record.turns, ∃ text, record.transcript[turn.promptPosition]? = some (.user text)
  title : match legacy.name with
    | some name => record.title.text = name ∧ record.titleSource = .manual
    | none => ∃ first rest, (old.messages id.value).rows = first :: rest ∧
        fallbackTitle first.2.text = some record.title ∧ record.titleSource = .fallback
  plan : collect decodePlanItem 0 (old.planRows id.value).rows = .ok record.plan

/-- Rows that decode one by one, at their positions. -/
theorem collect_enumerate {α ρ σ : Type} {decode : ℕ → ℤ × ρ → Except SessionStoreError α}
    {f : σ → α} {g : σ → ρ} {xs : List σ} (h : ∀ k, ∀ x ∈ xs, decode k ((k : ℤ), g x) = .ok (f x))
    (n : ℕ) : collect decode n (Table.enumerate n (xs.map g)) = .ok (xs.map f) := by
  induction xs generalizing n with
  | nil => rfl
  | cons x xs ih =>
    have hxs : ∀ k, ∀ x ∈ xs, decode k ((k : ℤ), g x) = .ok (f x) :=
      fun k x hx => h k x (List.mem_cons_of_mem _ hx)
    exact collect_cons_eq_ok.2 ⟨f x, xs.map f, h n x List.mem_cons_self, ih hxs (n + 1), rfl⟩

theorem decodeMessage_of_role {k : ℕ} {row : MessageRow} (h : row.role ∈ ["user", "assistant"]) :
    decodeMessage k (k, row) = .ok (legacyMessage row) := by
  have hrole : row.role = "user" ∨ row.role = "assistant" := by simpa using h
  rcases hrole with hrole | hrole <;>
    simp [decodeMessage, legacyMessage, storedRole, hrole, bind, Except.bind]

theorem decodeItem_itemRow {k : ℕ} {row : MessageRow} (h : row.role ∈ ["user", "assistant"]) :
    decodeItem C k (k, itemRow row) = .ok (mirror (legacyMessage row)) := by
  have hrole : row.role = "user" ∨ row.role = "assistant" := by simpa using h
  rcases hrole with hrole | hrole <;>
    simp [decodeItem, storedTranscriptItem, itemRow, requiredStored, mirror, legacyMessage, hrole,
      bind, Except.bind]

/-- The turns of pairs decode to completed turns, each at the prompt of its pair. -/
theorem collect_turnRowsFrom (n : ℕ) (texts : List (String × String)) :
    collect decodeTurn n (Table.enumerate n (turnRowsFrom n (pairsFrom (2 * n) texts))) =
      .ok ((List.range' n texts.length).map fun k => ⟨k, k + 1, 2 * k, .completed⟩) := by
  induction texts generalizing n with
  | nil => rfl
  | cons t texts ih =>
    have hfirst : decodeTurn n ((n : ℤ), ⟨n + 1, ((2 * n : ℕ) : ℤ), "completed"⟩) =
        .ok ⟨n, n + 1, 2 * n, .completed⟩ := by
      have hrun : storedU64 ((n : ℤ) + 1) "turn run id" = .ok (n + 1) := storedU64_natCast (n + 1) _
      have hprompt : storedU64 ((2 * n : ℕ) : ℤ) "turn prompt position" = .ok (2 * n) :=
        storedU64_natCast (2 * n) _
      simp only [decodeTurn, storedU64_natCast, bind, Except.bind, ne_eq, not_true_eq_false,
        ↓reduceIte, hrun, hprompt]
      rfl
    exact collect_cons_eq_ok.2 ⟨_, _, hfirst, ih (n + 1), rfl⟩

/-- The columns of a session are read back. -/
theorem storedRecord_migratedRow {id : SessionId} {title : SessionTitle} {source : TitleSource}
    {level : ReasoningLevel} {tokens : ℕ} {createdAt lastActivity : Timestamp} (hid : 0 < id.value)
    (hlevel : ReasoningLevel.parse legacy.reasoning = some level)
    (htokens : legacy.contextTokens = tokens)
    (hcreated : C.parseTimestamp legacy.createdAt = some createdAt)
    (hactivity : C.parseTimestamp legacy.lastActivity = some lastActivity) :
    storedRecord C id.value (migratedRow legacy title source) =
      .ok ⟨id, title, source, 0, legacy.cwd, ⟨legacy.model, level, tokens⟩, [], [], [], [],
        createdAt, lastActivity⟩ := by
  have hrevision : storedU64 0 "title revision" = .ok 0 := rfl
  simp [storedRecord, migratedRow, storedReasoning, hlevel, htokens, hrevision,
    storedSessionId_natCast hid, storedTimestamp_of_parse hcreated,
    storedTimestamp_of_parse hactivity, bind, Except.bind]

/-- The prompts of a conversation are at the even positions. -/
theorem getElem?_mirror {rows : List (ℤ × MessageRow)} (h : Alternating rows) {k : ℕ}
    (hk : k < rows.length / 2) :
    ∃ text, ((rows.map fun row => legacyMessage row.2).map mirror)[2 * k]? = some (.user text) := by
  have hlt : 2 * k < rows.length := by omega
  have hrow : rows[2 * k]? = some rows[2 * k] := List.getElem?_eq_getElem hlt
  obtain ⟨-, hrole⟩ := h.row _ _ hrow
  rw [if_pos (Nat.mul_mod_right 2 k)] at hrole
  refine ⟨rows[2 * k].2.text, ?_⟩
  rw [List.getElem?_map, List.getElem?_map, hrow]
  simp [legacyMessage, mirror, hrole]

/-- **The rows of a kept session hold its conversation.** -/
theorem exists_record {id : SessionId} (hsound : Sound C old id.value legacy)
    (hfilled : Filled old db id.value legacy) (hne : (old.messages id.value).rows ≠ [])
    (hplans : db.planItems id.value = old.planRows id.value) :
    ∃ record, Holds C db id record ∧ Preserved C old id legacy record := by
  rcases hfilled with ⟨hnil, -, -⟩ | ⟨texts, title, source, hacc, hfind, hms, hts, htu⟩
  · exact absurd hnil hne
  obtain ⟨level, hlevel⟩ := hsound.reasoning
  obtain ⟨tokens, htokens⟩ := Int.eq_ofNat_of_zero_le hsound.contextTokens
  obtain ⟨createdAt, hcreated⟩ := hsound.createdAt
  obtain ⟨lastActivity, hactivity⟩ := hsound.lastActivity
  obtain ⟨plan, hplan, hvalid⟩ := hsound.plan
  have hpositive := hsound.positive
  have hfits := hsound.fits
  have hhistory : collect decodeMessage 0 (db.messages id.value).rows =
      .ok ((pairRows texts).map legacyMessage) := by
    have hdecode : ∀ k : ℕ, ∀ row ∈ pairRows texts,
        decodeMessage k ((k : ℤ), row) = .ok (legacyMessage row) :=
      fun k row hrow => decodeMessage_of_role (role_of_mem_pairRows row hrow)
    have hcollect := collect_enumerate hdecode 0
    rw [List.map_id_fun'] at hcollect
    rw [hms]
    exact hcollect
  have htranscript : collect (decodeItem C) 0 (db.transcriptItems id.value).rows =
      .ok ((pairRows texts).map fun row => mirror (legacyMessage row)) := by
    rw [hts]
    exact collect_enumerate (fun k row hrow => decodeItem_itemRow (role_of_mem_pairRows row hrow)) 0
  have hturns : collect decodeTurn 0 (db.turns id.value).rows =
      .ok ((List.range' 0 texts.length).map fun k => ⟨k, k + 1, 2 * k, .completed⟩) := by
    rw [htu]
    exact collect_turnRowsFrom 0 texts
  have hrows : (pairRows texts).map legacyMessage =
      (old.messages id.value).rows.map fun row => legacyMessage row.2 := by
    have hsnd := congrArg (List.map legacyMessage) (Table.map_snd_enumerate 0 (pairRows texts))
    rw [List.map_map] at hsnd
    rw [hacc.rows, ← hsnd]
    rfl
  have hlength : (old.messages id.value).rows.length / 2 = texts.length := by
    rw [hacc.rows, Table.length_enumerate, length_pairRows, Nat.mul_div_cancel_left _ (by decide)]
  have hitems : ((pairRows texts).map fun row => mirror (legacyMessage row)) =
      ((pairRows texts).map legacyMessage).map mirror := by
    rw [List.map_map]
    rfl
  refine ⟨⟨id, title, source, 0, legacy.cwd, ⟨legacy.model, level, tokens⟩, _, _, _, plan, createdAt,
    lastActivity⟩, ⟨by omega, ⟨_, hfind, ?_⟩, hhistory, htranscript, hturns, ?_, hvalid⟩, ?_⟩
  · exact storedRecord_migratedRow (by omega) hlevel htokens hcreated hactivity
  · rw [hplans, hplan]
  · refine ⟨rfl, rfl, rfl, hlevel, htokens, hcreated, hactivity, hrows, hitems, ?_, ?_, ?_, hplan⟩
    · rw [hlength, List.range_eq_range']
    · intro turn hturn
      obtain ⟨k, hk, rfl⟩ := List.mem_map.1 hturn
      change ∃ text, ((pairRows texts).map fun row => mirror (legacyMessage row))[2 * k]? = _
      rw [hitems, hrows]
      refine getElem?_mirror hsound.alternating ?_
      rw [List.mem_range'_1] at hk
      omega
    · obtain ⟨t, rest, rfl, htitle⟩ := hacc.title
      cases hname : legacy.name with
      | some name =>
        rw [hname] at htitle
        unfold legacyTitle at htitle
        cases hparse : SessionTitle.parse name with
        | none => simp [hparse] at htitle
        | some parsed =>
          simp only [hparse, Except.ok.injEq, Prod.mk.injEq] at htitle
          obtain ⟨rfl, rfl⟩ := htitle
          unfold SessionTitle.parse at hparse
          split_ifs at hparse
          obtain rfl := Option.some.inj hparse
          exact ⟨rfl, rfl⟩
      | none =>
        rw [hname] at htitle
        unfold legacyTitle at htitle
        cases hfallback : fallbackTitle t.1 with
        | none => simp [hfallback] at htitle
        | some parsed =>
          simp only [hfallback, Except.ok.injEq, Prod.mk.injEq] at htitle
          obtain ⟨rfl, rfl⟩ := htitle
          exact ⟨_, _, hacc.rows, hfallback, rfl⟩

/-- The migration keeps the session: it has messages. -/
def Kept (old : LegacyDatabase) (i : ℤ) : Prop :=
  (∃ legacy, (i, legacy) ∈ old.sessions.rows) ∧ (old.messages i).rows ≠ []

/-- The migration has dropped the session: no table has a row of it. -/
structure Dropped (db : Database) (i : ℤ) : Prop where
  row : db.sessions.find i = none
  untouched : Untouched db i
  plan : db.planItems i = .empty

/-- **A session is kept iff it has messages,** and with it exactly its plan. -/
theorem kept_or_dropped (h : Migrated old db) (i : ℤ) :
    (Kept old i → db.sessions.find i ≠ none ∧ db.planItems i = old.planRows i) ∧
      (¬Kept old i → Dropped db i) := by
  constructor
  · rintro ⟨⟨legacy, hmem⟩, hne⟩
    rcases h.filled _ hmem with ⟨hnil, -⟩ | ⟨texts, title, source, -, hfind, -⟩
    · exact absurd hnil hne
    · have hfind : db.sessions.find i ≠ none := by
        rw [hfind]
        exact nofun
      exact ⟨hfind, by rw [h.plans, if_neg hfind]⟩
  · intro hkept
    have hgone : db.sessions.find i = none ∧ Untouched db i := by
      by_cases hmem : ∃ legacy, (i, legacy) ∈ old.sessions.rows
      · obtain ⟨legacy, hmem⟩ := hmem
        rcases h.filled _ hmem with ⟨-, hfind, hfresh⟩ | ⟨texts, title, source, hacc, -⟩
        · exact ⟨hfind, hfresh⟩
        · refine absurd ⟨⟨legacy, hmem⟩, ?_⟩ hkept
          obtain ⟨t, rest, rfl, -⟩ := hacc.title
          rw [hacc.rows, pairRows_cons, Table.enumerate]
          exact List.cons_ne_nil _ _
      · refine h.absent i fun y hy heq => hmem ⟨y.2, ?_⟩
        rwa [← heq]
    exact ⟨hgone.1, hgone.2, by rw [h.plans, if_pos hgone.1]⟩

/-- A sound conversation that was migrated is loaded as the record that preserves it. -/
theorem exists_loaded {id : SessionId} (hmigrated : Migrated old db)
    (hsound : Sound C old id.value legacy) (hmem : ((id.value : ℤ), legacy) ∈ old.sessions.rows)
    (hne : (old.messages id.value).rows ≠ []) :
    ∃ record, Preserved C old id legacy record ∧
      load C none id ⟨db, []⟩ = (.ok record, ⟨db, []⟩) ∧
      ∀ setup faults loaded c'', load C setup id ⟨db, faults⟩ = (.ok loaded, c'') →
        loaded = record ∧ c''.db = db := by
  have hplans := (kept_or_dropped hmigrated id.value).1 ⟨⟨legacy, hmem⟩, hne⟩
  obtain ⟨record, hholds, hpreserved⟩ := exists_record hsound (hmigrated.filled _ hmem) hne hplans.2
  have hturns : runningTurns record.turns = [] := by
    refine runningTurns_eq_nil fun turn hturn => ?_
    rw [hpreserved.turns] at hturn
    obtain ⟨k, -, rfl⟩ := List.mem_map.1 hturn
    exact nofun
  have hcalm := calm_load_of_holds hholds hturns
  refine ⟨record, hpreserved, apply_of_calm_eq_ok (steady_load C none id) hcalm, ?_⟩
  intro setup faults loaded c'' hload
  obtain ⟨rfl, hdb⟩ := Prod.mk.inj (Except.ok.inj ((load_eq_ok hload).symm.trans hcalm))
  exact ⟨rfl, hdb⟩

/-- A session with messages that do not alternate, or with a name that is no title, does not
pass. -/
theorem not_passes (hne : (old.messages i).rows ≠ [])
    (hbad : ¬Alternating (old.messages i).rows ∨
      ∃ text ∈ legacy.name, SessionTitle.parse text = none) : ¬Passes old i legacy := by
  intro hpass
  obtain ⟨halt, hname⟩ := passes_iff.1 hpass hne
  rcases hbad with hbad | ⟨text, htext, hnone⟩
  · exact hbad halt
  · obtain ⟨title, htitle⟩ := hname text htext
    cases hnone.symm.trans htitle

/-- **Migration preserves conversations.** When every session with messages is sound, the
migration of a legacy database succeeds unless a statement fails, and whenever it
succeeds a load of such a session returns a record that preserves it, sessions
without messages are dropped and plans stay with the sessions that are kept.
When a session with messages does not alternate or has an invalid name, the migration fails;
and whenever it fails the file is as it was. -/
theorem migration_preserves (C : Codec) (old : LegacyDatabase) (faults : List (Option String))
    (result : Except InitializationError Unit) (c' : Connection StoreFile)
    (h : initializeDatabase ⟨.legacy old, faults⟩ = (result, c')) :
    ((∀ i legacy, (i, legacy) ∈ old.sessions.rows → (old.messages i).rows ≠ [] →
        Sound C old i legacy) →
      (faults = [] → result = .ok ()) ∧
      (result = .ok () → ∃ db, c'.db = .current db ∧
        (∀ id legacy, ((id.value : ℤ), legacy) ∈ old.sessions.rows →
          (old.messages id.value).rows ≠ [] → ∃ record, Preserved C old id legacy record ∧
            load C none id ⟨db, []⟩ = (.ok record, ⟨db, []⟩) ∧
            ∀ setup faults loaded c'', load C setup id ⟨db, faults⟩ = (.ok loaded, c'') →
              loaded = record ∧ c''.db = db) ∧
        ∀ i, (Kept old i → db.sessions.find i ≠ none ∧ db.planItems i = old.planRows i) ∧
          (¬Kept old i → Dropped db i))) ∧
    ((∃ i legacy, (i, legacy) ∈ old.sessions.rows ∧ (old.messages i).rows ≠ [] ∧
        (¬Alternating (old.messages i).rows ∨
          ∃ text ∈ legacy.name, SessionTitle.parse text = none)) → ∃ e, result = .error e) ∧
    ∀ e, result = .error e → c'.db = .legacy old := by
  have hok : result = .ok () → calm initializeDatabase (.legacy old) = .ok ((), c'.db) := by
    rintro rfl
    exact steady_initializeDatabase.calm_eq_ok h
  rw [calm_initializeDatabase] at hok
  refine ⟨fun hsound => ?_, ?_, ?_⟩
  · have hpass : ∀ y ∈ old.sessions.rows, Passes old y.1 y.2 := by
      intro y hy
      refine passes_iff.2 fun hne => ?_
      have hy := hsound y.1 y.2 hy hne
      exact ⟨hy.alternating, hy.name⟩
    rcases calm_migrateLegacyToV3 old with ⟨-, db, hrun, hmigrated⟩ | ⟨⟨y, hy, hfails⟩, -⟩
    · refine ⟨?_, fun hresult => ⟨db, ?_, fun id legacy hmem hne =>
        exists_loaded hmigrated (hsound _ _ hmem hne) hmem hne, kept_or_dropped hmigrated⟩⟩
      · rintro rfl
        rw [← calm_initializeDatabase] at hrun
        have happly := apply_of_calm_eq_ok steady_initializeDatabase hrun
        exact (Prod.mk.inj (h.symm.trans happly)).1
      · exact (Prod.mk.inj (Except.ok.inj ((hok hresult).symm.trans hrun))).2
    · exact absurd (hpass y hy) hfails
  · rintro ⟨i, legacy, hmem, hne, hbad⟩
    cases hresult : result with
    | error e => exact ⟨e, rfl⟩
    | ok a =>
      rcases calm_migrateLegacyToV3 old with ⟨hpass, -⟩ | ⟨-, e, hrun⟩
      · exact absurd (hpass _ hmem) (not_passes hne hbad)
      · cases (hok hresult).symm.trans hrun
  · rintro e rfl
    exact atomic_initializeDatabase h

/-- A database of version 2 with a conversation that has a plan and a session without
messages. -/
def sampleLegacy : LegacyDatabase where
  sessions := ⟨[
    (1, ⟨none, [0x2F], "model", "medium", 0, "1970-01-01T00:00:00.000000000Z",
      "1970-01-01T00:00:00.000000000Z"⟩),
    (2, ⟨none, [0x2F], "model", "medium", 0, "", ""⟩)], by simp⟩
  messages := fun i => if i = 1 then .ofList [⟨"user", "hello"⟩, ⟨"assistant", "hi"⟩] else .empty
  plans := some fun i => if i = 1 then .ofList [⟨"Inspect", "pending"⟩] else .empty
  positions := by
    intro i x hx
    split_ifs at hx with hi
    · rw [Table.rows_ofList] at hx
      have hbounds := Table.bounds_of_mem_enumerate hx
      simp only [List.length_cons, List.length_nil, i64Max] at hbounds ⊢
      omega
    · simp at hx
  checked := by
    rintro c hc i x hx
    obtain rfl := Option.some.inj hc
    dsimp only at hx
    split_ifs at hx with hi
    · obtain rfl : x = (0, ⟨"Inspect", "pending"⟩) := by simpa [Table.enumerate] using hx
      decide
    · simp at hx

/-- The conversation of the sample is sound. -/
theorem sound_sampleLegacy : ∀ i legacy, (i, legacy) ∈ sampleLegacy.sessions.rows →
    (sampleLegacy.messages i).rows ≠ [] → Sound sampleCodec sampleLegacy i legacy := by
  intro i legacy hmem hne
  have hmem : (i, legacy) = (1, ⟨none, [0x2F], "model", "medium", 0,
      "1970-01-01T00:00:00.000000000Z", "1970-01-01T00:00:00.000000000Z"⟩) ∨
      (i, legacy) = (2, ⟨none, [0x2F], "model", "medium", 0, "", ""⟩) := by
    simpa [sampleLegacy] using hmem
  rcases hmem with hmem | hmem
  · obtain ⟨rfl, rfl⟩ := Prod.mk.inj hmem
    refine ⟨alternating_iff.2 ⟨[("hello", "hi")], rfl⟩, nofun, by decide, by decide,
      ⟨.medium, by decide⟩, by decide, ⟨0, by decide⟩, ⟨0, by decide⟩,
      ⟨[⟨"Inspect", .pending⟩], by decide +kernel, by decide +kernel⟩⟩
  · obtain ⟨rfl, -⟩ := Prod.mk.inj hmem
    exact absurd rfl hne

theorem migration_preserves_sample : ∃ db record,
    (initializeDatabase ⟨.legacy sampleLegacy, []⟩).2.db = .current db ∧
      load sampleCodec none ⟨1⟩ ⟨db, []⟩ = (.ok record, ⟨db, []⟩) ∧
      record.history = [⟨.user, "hello"⟩, ⟨.assistant, "hi"⟩] ∧ Dropped db 2 := by
  obtain ⟨hsucceeds, hkeeps⟩ := (migration_preserves sampleCodec sampleLegacy [] _ _ rfl).1
    sound_sampleLegacy
  obtain ⟨db, hdb, hsessions, hdropped⟩ := hkeeps (hsucceeds rfl)
  obtain ⟨record, hpreserved, hload, -⟩ := hsessions ⟨1⟩ _ List.mem_cons_self (by decide)
  exact ⟨db, record, hdb, hload, hpreserved.history,
    (hdropped 2).2 fun hkept => hkept.2 rfl⟩

end Schema
end Moh
