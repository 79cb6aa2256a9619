/-
# What an actor leaves alone

An actor writes the row of its own session and no other one: it never creates or
removes a row, and it never changes what session it is (`Core.frame_effects`).
Apart from the commands of the session manager, no input changes whether the actor
is shutting down or deleting, or ends its loop, and none touches the run of
another session (`Session.step_keeps`).
-/

import Moh.Session.Reachable

namespace Moh

namespace SessionStore

/-- The store after the actor of one session wrote to it. -/
structure Frame (id : SessionId) (store store' : SessionStore) : Prop where
  nextId : store'.nextId = store.nextId
  others : ∀ id', id' ≠ id → store'.rows.lookup id' = store.rows.lookup id'
  own : store'.rows.lookup id = store.rows.lookup id ∨
    ∃ row row', store.rows.lookup id = some row ∧ store'.rows.lookup id = some row' ∧
      row'.cwd = row.cwd ∧ row'.createdAt = row.createdAt ∧ (row.id = id → row'.id = id)

namespace Frame

variable {id : SessionId} {store store' store'' : SessionStore}

theorem refl (id : SessionId) (store : SessionStore) : Frame id store store :=
  ⟨rfl, fun _ _ => rfl, .inl rfl⟩

theorem trans (h : Frame id store store') (h' : Frame id store' store'') :
    Frame id store store'' := by
  refine ⟨h'.nextId.trans h.nextId, fun i hi => (h'.others i hi).trans (h.others i hi), ?_⟩
  rcases h'.own with he' | ⟨row', row'', hl', hl'', hcwd', hcreated', hid'⟩
  · rw [he']
    exact h.own
  · rcases h.own with he | ⟨row, row₁, hl, hl₁, hcwd, hcreated, hid⟩
    · exact .inr ⟨row', row'', he ▸ hl', hl'', hcwd', hcreated', hid'⟩
    · obtain rfl := Option.some.inj (hl₁.symm.trans hl')
      exact .inr ⟨row, row'', hl, hl'', hcwd'.trans hcwd, hcreated'.trans hcreated,
        fun h => hid' (hid h)⟩

/-- A row that is replaced by another state of its session. -/
theorem setRow {row row' : SessionRecord} (hl : store.rows.lookup id = some row)
    (hcwd : row'.cwd = row.cwd) (hcreated : row'.createdAt = row.createdAt)
    (hid : row.id = id → row'.id = id) : Frame id store (store.setRow id row') :=
  ⟨rfl, fun _ hi => lookup_setRow_of_ne store hi row',
    .inr ⟨row, row', hl, lookup_setRow .., hcwd, hcreated, hid⟩⟩

/-- A row is there after the actor wrote iff it was there before. -/
theorem isSome (h : Frame id store store') (i : SessionId) :
    (store'.rows.lookup i).isSome = (store.rows.lookup i).isSome := by
  by_cases hi : i = id
  · subst hi
    rcases h.own with he | ⟨row, row', hl, hl', -⟩
    · rw [he]
    · rw [hl, hl']
      rfl
  · rw [h.others i hi]

end Frame

/-- A checkpoint writes one row. -/
theorem frame_checkpoint (store : SessionStore) (fault : Option SessionStoreError)
    (record : SessionRecord) : Frame record.id store (store.checkpoint fault record).2 := by
  rcases store.checkpoint_cases fault record with ⟨error, h⟩ | ⟨row, hl, h⟩
  · rw [h]
    exact .refl _ _
  · rw [h]
    exact .setRow hl rfl rfl fun _ => rfl

/-- So does a metadata update. -/
theorem frame_updateMetadata (store : SessionStore) (fault : Option SessionStoreError)
    (record : SessionRecord) : Frame record.id store (store.updateMetadata fault record).2 := by
  rcases store.updateMetadata_cases fault record with ⟨error, h⟩ | ⟨row, hl, h⟩
  · rw [h]
    exact .refl _ _
  · rw [h]
    exact .setRow hl rfl rfl fun h => h

/-- A list writes nothing. -/
theorem frame_list (id : SessionId) (store : SessionStore) (fault : Option SessionStoreError)
    (scope : SessionListScope) : Frame id store (store.list fault scope).2 := by
  rw [list_snd]
  exact .refl _ _

/-- A load writes its row, if it interrupts a turn. -/
theorem frame_load (id : SessionId) (store : SessionStore) (fault : Option SessionStoreError) :
    Frame id store (store.load fault id).2 := by
  cases hl : store.load fault id with
  | mk result next =>
    cases result with
    | error error =>
      obtain rfl := attempt_eq_error hl
      exact .refl _ _
    | ok record =>
      obtain ⟨-, -, row, hrow, ⟨rfl, -⟩ | ⟨rfl, rfl⟩⟩ := load_eq_ok hl
      · exact .refl _ _
      · exact .setRow hrow rfl rfl fun h => h

/-- New title columns are written to one row. -/
theorem frame_retitled {id : SessionId} {store next : SessionStore} {persisted : SessionRecord}
    (hr : store.Retitled id persisted next) : Frame id store next := by
  obtain ⟨⟨row, hl, hrow⟩, rfl⟩ := hr
  have hid := congrArg SessionRecord.id hrow
  have hcwd := congrArg SessionRecord.cwd hrow
  have hcreated := congrArg SessionRecord.createdAt hrow
  exact .setRow hl hcwd hcreated fun h => hid.trans h

theorem frame_rename (id : SessionId) (title : SessionTitle) (store : SessionStore)
    (fault : Option SessionStoreError) : Frame id store (store.rename fault id title).2 := by
  cases hr : store.rename fault id title with
  | mk result next =>
    cases result with
    | error error =>
      obtain rfl := attempt_eq_error hr
      exact .refl _ _
    | ok persisted => exact frame_retitled (rename_eq_ok hr).1

end SessionStore

/-! ### Effects -/

namespace Core

/-- The pending record of a core is its live one. -/
def Pending (c : Core) : Prop := ∀ record, c.dirty = some record → record = c.record

/-- What an actor leaves alone, whatever it does. -/
structure Frame (c c' : Core) : Prop where
  session : SameSession c.record c'.record
  deleting : c.deleting = true → c'.deleting = true
  store : SessionStore.Frame c.record.id c.store c'.store

variable {a : Option Registration} {c c' c'' : Core}

theorem Frame.refl (c : Core) : c.Frame c := ⟨⟨rfl, rfl, rfl⟩, id, .refl _ _⟩

theorem Frame.trans (h : c.Frame c') (h' : c'.Frame c'') : c.Frame c'' := by
  refine ⟨⟨h'.session.id.trans h.session.id, h'.session.cwd.trans h.session.cwd,
    h'.session.createdAt.trans h.session.createdAt⟩, fun hd => h'.deleting (h.deleting hd), ?_⟩
  have hs := h'.store
  rw [h.session.id] at hs
  exact h.store.trans hs

theorem Pending.effect (hp : c.Pending) (he : Effect a c c') : c'.Pending := by
  cases he with
  | attached _ => exact hp
  | observed _ _ _ _ => exact hp
  | noticed _ => exact hp
  | gaveUp _ _ => exact hp
  | condemned => exact hp
  | @settled event record h write told hm hw ht =>
    intro r hr
    simp only [settle] at hr
    split at hr
    · simp at hr
    · exact (Option.some.inj hr).symm
  | retitled hr =>
    intro r hr
    obtain ⟨pending, -, rfl⟩ := Option.map_eq_some_iff.1 hr
    rfl
  | @flushed pending write hd hl hw =>
    intro r hr
    simp only at hr
    split at hr
    · simp at hr
    · exact (Option.some.inj hr).symm

/-- A repository call of a move writes the row of the session. -/
theorem frame_writes {record : SessionRecord}
    {write : Except SessionStoreError Unit × SessionStore} (hs : SameSession c.record record)
    (hw : c.Writes record write) : SessionStore.Frame c.record.id c.store write.2 := by
  rcases hw with ⟨fault, rfl⟩ | ⟨-, -, fault, rfl⟩
  · have h := c.store.frame_checkpoint fault record
    rwa [hs.id] at h
  · have h := c.store.frame_updateMetadata fault record
    rwa [hs.id] at h

/-- **What every effect leaves alone.** -/
theorem frame_effect (hp : c.Pending) (he : Effect a c c') : c.Frame c' := by
  cases he with
  | attached _ => exact ⟨⟨rfl, rfl, rfl⟩, id, .refl _ _⟩
  | observed _ _ _ _ => exact ⟨⟨rfl, rfl, rfl⟩, id, .refl _ _⟩
  | noticed _ => exact ⟨⟨rfl, rfl, rfl⟩, id, .refl _ _⟩
  | gaveUp _ _ => exact ⟨⟨rfl, rfl, rfl⟩, id, .refl _ _⟩
  | condemned => exact ⟨⟨rfl, rfl, rfl⟩, fun _ => rfl, .refl _ _⟩
  | @settled event record h write told hm hw ht =>
    exact ⟨hm.sameSession, id, frame_writes hm.sameSession hw⟩
  | @retitled persisted store hr =>
    exact ⟨⟨rfl, rfl, rfl⟩, id, SessionStore.frame_retitled hr⟩
  | @flushed pending write hd hl hw =>
    obtain ⟨fault, rfl⟩ := hw
    obtain rfl := hp pending hd
    exact ⟨⟨rfl, rfl, rfl⟩, id, c.store.frame_checkpoint fault c.record⟩

theorem Pending.effects (hp : c.Pending) (he : Effects a c c') : c'.Pending := by
  induction he with
  | refl => exact hp
  | tail _ he ih => exact ih.effect he

theorem frame_effects (hp : c.Pending) (he : Effects a c c') : c.Frame c' := by
  induction he with
  | refl => exact .refl _
  | tail hs he ih => exact ih.trans (frame_effect (hp.effects hs) he)

end Core

/-! ### The terminal event -/

namespace Stream

theorem mem_log_accept {st : Stream} {event : SessionEvent} {e : SessionEventEnvelope}
    (he : e ∈ (st.accept event).2.log) : e ∈ st.log ∨ e.event = event := by
  unfold accept at he
  split_ifs at he
  · rcases List.mem_append.1 he with he | he
    · exact .inl he
    · obtain rfl := List.mem_singleton.1 he
      exact .inr rfl
  · exact .inl he

theorem log_broadcastSome (st : Stream) (envelope : Option SessionEventEnvelope) :
    (st.broadcastSome envelope).log = st.log := by
  cases envelope <;> rfl

/-- An event that is emitted is all that the log can gain. -/
theorem mem_log_emit {st : Stream} {event : SessionEvent} {e : SessionEventEnvelope}
    (he : e ∈ (st.emit event).log) : e ∈ st.log ∨ e.event = event := by
  rw [emit, log_broadcastSome] at he
  exact mem_log_accept he

/-- The log gains nothing but persistence warnings. -/
theorem mem_log_transition {st : Stream} {told : Option (Option String)}
    {e : SessionEventEnvelope} (he : e ∈ (st.broadcastPersistenceTransition told).log) :
    e ∈ st.log ∨ e.event.isDeleted = false := by
  cases told with
  | none => exact .inl he
  | some warning =>
    rw [broadcastPersistenceTransition_some] at he
    rcases mem_log_emit he with he | he
    · exact .inl he
    · exact .inr (by rw [he]; rfl)

/-- No event of the log is the terminal one. -/
def Undeleted (st : Stream) : Prop := ∀ e ∈ st.log, e.event.isDeleted = false

theorem Undeleted.emit {st : Stream} (h : st.Undeleted) {event : SessionEvent}
    (hevent : event.isDeleted = false) : (st.emit event).Undeleted := by
  intro e he
  rcases mem_log_emit he with he | he
  · exact h e he
  · rwa [he]

theorem Undeleted.transition {st : Stream} (h : st.Undeleted) (told : Option (Option String)) :
    (st.broadcastPersistenceTransition told).Undeleted := by
  intro e he
  exact (mem_log_transition he).elim (h e) fun he => he

end Stream

/-- No move projects the terminal event. -/
theorem Move.isDeleted {record record' : SessionRecord} {h h' : Harness} {event : SessionEvent}
    (hm : Move record h (some event) record' h') : event.isDeleted = false := by
  cases hm <;> rfl

/-- **Before a deletion begins no terminal event is sent.** -/
theorem Core.undeleted_effects {a : Option Registration} {c c' : Core}
    (hc : c.deleting = false → c.stream.Undeleted) (he : Effects a c c') :
    c'.deleting = false → c'.stream.Undeleted := by
  induction he with
  | refl => exact hc
  | tail _ he ih =>
    intro hl
    cases he with
    | attached _ => exact ih hl
    | observed hp hg hi hlog =>
      intro e he
      rw [hlog hl] at he
      exact ih hl e he
    | noticed hn => exact (ih hl).emit (by cases hn <;> rfl)
    | gaveUp _ _ => exact ih hl
    | condemned => exact absurd hl (by simp)
    | @settled event record h write told hm hw ht =>
      refine Stream.Undeleted.transition ?_ told
      cases event with
      | none => exact ih hl
      | some event => exact (ih hl).emit hm.isDeleted
    | retitled hr => exact (ih hl).emit rfl
    | flushed hd hl' hw => exact (ih hl).transition _

/-! ### Inputs -/

namespace Session

/-- The flags of an actor and the runs of other sessions stay as they are. -/
structure Keeps (s t : Session) : Prop where
  id : t.record.id = s.record.id
  shuttingDown : t.shuttingDown = s.shuttingDown
  deleting : t.deleting = s.deleting
  exited : t.exited = s.exited
  activity : ∀ id, id ≠ s.record.id → (t.activity.hasRun id ↔ s.activity.hasRun id)

variable {s t u : Session}

theorem Keeps.refl (s : Session) : s.Keeps s := ⟨rfl, rfl, rfl, rfl, fun _ _ => Iff.rfl⟩

theorem Keeps.trans (h : s.Keeps t) (h' : t.Keeps u) : s.Keeps u :=
  ⟨h'.id.trans h.id, h'.shuttingDown.trans h.shuttingDown, h'.deleting.trans h.deleting,
    h'.exited.trans h.exited,
    fun id hid => (h'.activity id (by rwa [h.id])).trans (h.activity id hid)⟩

theorem keeps_setRun (s : Session) (running : Bool) : s.Keeps (s.setRun running) :=
  ⟨rfl, rfl, rfl, rfl, fun id hid => by simp [setRun, ActivityTracker.hasRun_setRun, hid]⟩

theorem keeps_project (s : Session) (event : SessionEvent) : s.Keeps (s.project event).2 :=
  ⟨rfl, rfl, rfl, rfl, fun _ _ => Iff.rfl⟩

theorem keeps_persistenceResult (s : Session) (result : Except SessionStoreError Unit) :
    s.Keeps (s.persistenceResult result).2 := by
  cases result <;> exact ⟨rfl, rfl, rfl, rfl, fun _ _ => Iff.rfl⟩

/-- A write and its announcement. -/
theorem keeps_announced (s : Session) (store : SessionStore)
    (result : Except SessionStoreError Unit) (envelope : Option SessionEventEnvelope) :
    s.Keeps (({ s with store := store }.persistenceResult result).2.announce envelope
      ({ s with store := store }.persistenceResult result).1) :=
  have h : s.Keeps { s with store := store } := ⟨rfl, rfl, rfl, rfl, fun _ _ => Iff.rfl⟩
  (h.trans (keeps_persistenceResult _ result)).trans ⟨rfl, rfl, rfl, rfl, fun _ _ => Iff.rfl⟩

/-- A record of the same session. -/
theorem keeps_withRecord {record : SessionRecord} (h : SameSession s.record record) :
    s.Keeps { s with record := record } :=
  ⟨h.id, rfl, rfl, rfl, fun _ _ => Iff.rfl⟩

/-- A durable change: projected, written and announced. -/
theorem keeps_committed {event : SessionEvent} {record : SessionRecord}
    {envelope : Option SessionEventEnvelope} (hs : SameSession s.record record)
    (hp : s.project event = (.ok envelope, t)) (env : Env) :
    s.Keeps (({ t with record := record }.persistCheckpoint env).2.announce envelope
      ({ t with record := record }.persistCheckpoint env).1) := by
  have ht := keeps_project s event
  have hrecord : (s.project event).2.record = s.record := rfl
  rw [hp] at ht hrecord
  have hs' : SameSession t.record record := by rwa [hrecord]
  exact (ht.trans (keeps_withRecord hs')).trans (keeps_announced _ _ _ _)

theorem submit_keeps (s : Session) (env : Env) (prompt : String) :
    s.Keeps (s.submit env prompt).2 := by
  unfold submit
  cases s.ensureMutable with
  | error error => exact .refl s
  | ok u =>
    cases hsub : s.harness.submit prompt ⟨s.record.cwd, s.record.plan⟩ with
    | mk result h =>
      cases result with
      | error error => exact .refl s
      | ok runId =>
        have hh : s.Keeps { s with harness := h } := ⟨rfl, rfl, rfl, rfl, fun _ _ => Iff.rfl⟩
        cases hr : applyDurableEvent s.record (.started runId prompt) with
        | error error =>
          simp only [hr]
          exact ⟨rfl, rfl, rfl, rfl, fun _ _ => Iff.rfl⟩
        | ok record =>
          have hs := sameSession_of_applyDurableEvent hr
          have hp := keeps_project { s with harness := h } (.started runId prompt)
          cases hproj : { s with harness := h }.project (.started runId prompt) with
          | mk result t =>
            rw [hproj] at hp
            cases result with
            | error error =>
              simp only [hr, hproj]
              exact (hh.trans hp).trans ⟨rfl, rfl, rfl, rfl, fun _ _ => Iff.rfl⟩
            | ok envelope =>
              simp only [hr, hproj]
              exact (hh.trans (keeps_committed (s := { s with harness := h }) hs hproj env)).trans
                (keeps_setRun _ _)

theorem cancel_keeps (s : Session) (env : Env) : s.Keeps (s.cancel env).2 := by
  unfold cancel
  cases s.ensureMutable with
  | error error => exact .refl s
  | ok u =>
    cases hcan : s.harness.cancel with
    | mk result h =>
      cases result with
      | error error => exact .refl s
      | ok runId =>
        have hs : s.Keeps { s with harness := h } := ⟨rfl, rfl, rfl, rfl, fun _ _ => Iff.rfl⟩
        have hh := hs.trans (keeps_setRun { s with harness := h } false)
        have hrecord : ({ s with harness := h }.setRun false).record = s.record := rfl
        simp only
        generalize { s with harness := h }.setRun false = t at hh hrecord
        cases hr : applyDurableEvent t.record (.cancelled runId) with
        | error error => exact hh
        | ok record =>
          have hp := keeps_project t (.cancelled runId)
          cases hproj : t.project (.cancelled runId) with
          | mk result u =>
            rw [hproj] at hp
            cases result with
            | error error => exact hh.trans hp
            | ok envelope =>
              exact hh.trans (keeps_committed (sameSession_of_applyDurableEvent hr) hproj env)

theorem installPersistedTitle_keeps (s : Session) (persisted : SessionRecord) :
    s.Keeps (s.installPersistedTitle persisted).2 := by
  have hs : s.Keeps
      { s with
        record :=
          { s.record with
            title := persisted.title
            titleSource := persisted.titleSource
            titleRevision := persisted.titleRevision } } :=
    keeps_withRecord ⟨rfl, rfl, rfl⟩
  unfold installPersistedTitle
  cases hd : s.dirty with
  | none =>
    simp only [Option.isSome_none, Bool.false_eq_true, if_false, project_titleChanged]
    exact hs.trans ⟨rfl, rfl, rfl, rfl, fun _ _ => Iff.rfl⟩
  | some pending =>
    simp only [Option.isSome_some, if_true, project_titleChanged]
    exact hs.trans ⟨rfl, rfl, rfl, rfl, fun _ _ => Iff.rfl⟩

theorem rename_keeps (s : Session) (env : Env) (title : SessionTitle) :
    s.Keeps (s.rename env title).2 := by
  unfold rename
  cases s.ensureMutable with
  | error error => exact .refl s
  | ok u =>
    cases s.store.rename env.fault s.record.id title with
    | mk result store =>
      have hs : s.Keeps { s with store := store } := ⟨rfl, rfl, rfl, rfl, fun _ _ => Iff.rfl⟩
      cases result with
      | error error => exact hs
      | ok persisted => exact hs.trans (installPersistedTitle_keeps _ persisted)

theorem applyGeneratedTitle_keeps (s : Session) (env : Env) (expectedRevision : ℕ)
    (generated : Except TitleGenerationError String) :
    s.Keeps (s.applyGeneratedTitle env expectedRevision generated).2 := by
  unfold applyGeneratedTitle
  cases s.ensureMutable with
  | error error => exact .refl s
  | ok u =>
    cases generated with
    | error error => exact .refl s
    | ok generated =>
      cases hg : sanitizeGeneratedTitle generated with
      | none =>
        simp only [hg]
        exact .refl s
      | some title =>
        simp only [hg]
        cases s.store.compareAndSetGeneratedTitle env.fault s.record.id expectedRevision title with
        | mk result store =>
          have hs : s.Keeps { s with store := store } := ⟨rfl, rfl, rfl, rfl, fun _ _ => Iff.rfl⟩
          rcases result with error | _ | persisted
          · exact hs
          · exact hs
          · exact hs.trans (installPersistedTitle_keeps _ persisted)

theorem changeSettings_keeps (s : Session) (env : Env) (settings : SessionSettings) :
    s.Keeps (s.changeSettings env settings).2 := by
  have hs : s.Keeps
      { s with record := { s.record with settings := settings, lastActivity := env.now } } :=
    keeps_withRecord ⟨rfl, rfl, rfl⟩
  have hp := project_of_valid (e := .settingsChanged settings env.now)
    (s := { s with record := { s.record with settings := settings, lastActivity := env.now } }) rfl
  unfold changeSettings
  simp only [hp]
  refine (hs.trans ?_).trans (keeps_announced _ _ _ _)
  exact ⟨rfl, rfl, rfl, rfl, fun _ _ => Iff.rfl⟩

theorem selectModel_keeps (s : Session) (env : Env) (model : String) :
    s.Keeps (s.selectModel env model).2 := by
  unfold selectModel
  cases s.ensureMutable with
  | error error => exact .refl s
  | ok u =>
    simp only
    split_ifs
    · exact .refl s
    · have hs : s.Keeps { s with activeModel := model } := ⟨rfl, rfl, rfl, rfl, fun _ _ => Iff.rfl⟩
      exact hs.trans (changeSettings_keeps _ env _)

theorem selectReasoning_keeps (s : Session) (env : Env) (reasoning : ReasoningLevel) :
    s.Keeps (s.selectReasoning env reasoning).2 := by
  unfold selectReasoning
  cases s.ensureMutable with
  | error error => exact .refl s
  | ok u =>
    simp only
    split_ifs
    · exact .refl s
    · have hs : s.Keeps { s with activeReasoning := reasoning } :=
        ⟨rfl, rfl, rfl, rfl, fun _ _ => Iff.rfl⟩
      exact hs.trans (changeSettings_keeps _ env _)

theorem flush_keeps (s : Session) (env : Env) : s.Keeps (s.flush env).2 := by
  unfold flush
  cases s.dirty with
  | none => exact .refl s
  | some pending =>
    cases hw : s.store.checkpoint env.fault pending with
    | mk result store =>
      simp only [hw]
      cases result <;> exact ⟨rfl, rfl, rfl, rfl, fun _ _ => Iff.rfl⟩

theorem attach_keeps (s : Session) (env : Env) (connectionId : ConnectionId)
    (attachmentId : AttachmentId) : s.Keeps (s.attach env connectionId attachmentId).2 := by
  unfold attach
  split_ifs
  · exact .refl s
  · cases jobSnapshots env <;> exact ⟨rfl, rfl, rfl, rfl, fun _ _ => Iff.rfl⟩

theorem handleJobsChanged_keeps (s : Session) (env : Env) : s.Keeps (s.handleJobsChanged env) := by
  unfold handleJobsChanged
  split_ifs
  · exact .refl s
  cases jobSnapshots env with
  | error error => exact .refl s
  | ok jobs =>
    have hp := project_of_valid (s := s) (e := .jobsChanged jobs) rfl
    simp only [hp]
    exact ⟨rfl, rfl, rfl, rfl, fun _ _ => Iff.rfl⟩

theorem handlePlanUpdate_keeps (s : Session) (env : Env) (plan : List PlanItem)
    (explanation : Option String) : s.Keeps (s.handlePlanUpdate env plan explanation).2 := by
  unfold handlePlanUpdate
  cases s.stream.projectStrict (.planChanged plan) with
  | mk result stream =>
    cases result with
    | error error => exact .refl s
    | ok event =>
      have hs : s.Keeps { s with record := { s.record with plan := plan }, stream := stream } :=
        ⟨rfl, rfl, rfl, rfl, fun _ _ => Iff.rfl⟩
      exact hs.trans (keeps_announced _ _ _ _)

theorem persistDurableRunEvent_keeps (s : Session) (env : Env) (event : SessionEvent)
    (commitHistory : Bool) : s.Keeps (s.persistDurableRunEvent env event commitHistory) := by
  unfold persistDurableRunEvent
  cases hr : applyDurableEvent s.record event with
  | error error => exact .refl s
  | ok record =>
    have hp := keeps_project s event
    cases hproj : s.project event with
    | mk result t =>
      rw [hproj] at hp
      cases result with
      | error error => exact hp
      | ok envelope =>
        have hs := sameSession_of_applyDurableEvent hr
        cases commitHistory with
        | false => exact keeps_committed hs hproj env
        | true =>
          have hs' : SameSession s.record { record with history := t.harness.history } :=
            ⟨hs.id, hs.cwd, hs.createdAt⟩
          exact keeps_committed hs' hproj env

theorem passOn_keeps (s : Session) (event : SessionEvent) : s.Keeps (s.passOn event) := by
  have hp := keeps_project s event
  unfold passOn
  cases hproj : s.project event with
  | mk result t =>
    rw [hproj] at hp
    cases result with
    | error error => exact hp
    | ok envelope => exact hp.trans ⟨rfl, rfl, rfl, rfl, fun _ _ => Iff.rfl⟩

theorem handleRunEvent_keeps (s : Session) (env : Env) (event : RunEvent) :
    s.Keeps (s.handleRunEvent env event) := by
  cases event with
  | started runId => exact .refl s
  | assistantDelta runId text => exact passOn_keeps s _
  | toolFinished runId callId name => exact passOn_keeps s _
  | toolStarted runId callId name arguments => exact persistDurableRunEvent_keeps s env _ _
  | completed runId response =>
    exact (keeps_setRun s false).trans (persistDurableRunEvent_keeps _ env _ _)
  | failed runId failure =>
    exact (keeps_setRun s false).trans (persistDurableRunEvent_keeps _ env _ _)
  | cancelled runId => exact (keeps_setRun s false).trans (persistDurableRunEvent_keeps _ env _ _)
  | contextUsage runId inputTokens =>
    have hs : s.Keeps
        { s with
          record :=
            { s.record with
              settings := { s.record.settings with contextTokens := inputTokens }
              lastActivity := env.now } } :=
      keeps_withRecord ⟨rfl, rfl, rfl⟩
    unfold handleRunEvent
    simp only
    generalize ({ s with
      record :=
        { s.record with
          settings := { s.record.settings with contextTokens := inputTokens }
          lastActivity := env.now } } : Session) = t at hs
    have hp := keeps_project t (.contextUsage runId inputTokens env.now)
    cases hproj : t.project (.contextUsage runId inputTokens env.now) with
    | mk result u =>
      rw [hproj] at hp
      cases result with
      | error error => exact hs.trans hp
      | ok envelope => exact (hs.trans hp).trans (keeps_announced _ _ _ _)

end Session

/-- The commands that begin with `ensure_mutable`. -/
def SessionCommand.asksMutable : SessionCommand → Bool
  | .attach _ _ => false
  | .detach _ _ => false
  | .detachConnection _ => false
  | .snapshot => false
  | .flush => false
  | .finishDelete => false
  | .abortDelete => false
  | .shutdown => false
  | _ => true

/-- The inputs that neither steer an actor nor end its loop. -/
def ActorInput.isOrdinary : ActorInput → Bool
  | .command c => !c.steers
  | .handlesDropped => false
  | _ => true

namespace Session

variable {s t : Session}

/-- **Every command but the four that steer the actor.** -/
theorem handleCommand_keeps (s : Session) (env : Env) {command : SessionCommand}
    (hc : command.steers = false) : s.Keeps (s.handleCommand env command).2 := by
  cases command with
  | attach connectionId attachmentId => exact attach_keeps s env connectionId attachmentId
  | detach connectionId attachmentId => exact ⟨rfl, rfl, rfl, rfl, fun _ _ => Iff.rfl⟩
  | detachConnection connectionId => exact ⟨rfl, rfl, rfl, rfl, fun _ _ => Iff.rfl⟩
  | snapshot => exact .refl s
  | submit prompt => exact submit_keeps s env prompt
  | cancel => exact cancel_keeps s env
  | rename title => exact rename_keeps s env title
  | applyGeneratedTitle expectedRevision generated =>
    exact applyGeneratedTitle_keeps s env expectedRevision generated
  | selectModel model => exact selectModel_keeps s env model
  | selectReasoning reasoning => exact selectReasoning_keeps s env reasoning
  | listJobs =>
    unfold handleCommand
    cases s.ensureMutable <;> exact .refl s
  | cancelJob id =>
    unfold handleCommand
    cases s.ensureMutable <;> exact .refl s
  | flush =>
    unfold handleCommand
    cases s.ensureNotDeleting with
    | error error => exact .refl s
    | ok u => exact flush_keeps s env
  | prepareDelete => simp [SessionCommand.steers] at hc
  | finishDelete => simp [SessionCommand.steers] at hc
  | abortDelete => simp [SessionCommand.steers] at hc
  | shutdown => simp [SessionCommand.steers] at hc

/-- **Every ordinary input.** -/
theorem step_keeps (s : Session) (env : Env) {input : ActorInput} (hi : input.isOrdinary = true) :
    s.Keeps (s.step (env, input)) := by
  unfold step
  cases input with
  | recv token => exact ⟨rfl, rfl, rfl, rfl, fun _ _ => Iff.rfl⟩
  | closeReceiver token => exact ⟨rfl, rfl, rfl, rfl, fun _ _ => Iff.rfl⟩
  | command command =>
    simp only
    split_ifs
    · exact .refl s
    · exact handleCommand_keeps s env (by simpa [ActorInput.isOrdinary] using hi)
  | run polled =>
    simp only
    split_ifs
    · exact .refl s
    · cases s.harness.nextEvent polled with
      | mk event h =>
        have hs : s.Keeps { s with harness := h } := ⟨rfl, rfl, rfl, rfl, fun _ _ => Iff.rfl⟩
        cases event with
        | none => exact .refl s
        | some event => exact hs.trans (handleRunEvent_keeps _ env event)
  | jobsChanged =>
    simp only
    split_ifs
    · exact .refl s
    · exact handleJobsChanged_keeps s env
  | planUpdate plan explanation =>
    simp only
    split_ifs
    · exact .refl s
    · exact handlePlanUpdate_keeps s env plan explanation
  | handlesDropped => simp [ActorInput.isOrdinary] at hi

/-! ### The commands that steer an actor -/

theorem keeps_clearActivity (s : Session) : s.Keeps s.clearActivity :=
  ⟨rfl, rfl, rfl, rfl, fun id hid => by simp [clearActivity, ActivityTracker.hasRun_setRun, hid]⟩

theorem ensureMutable_eq_ok_iff : s.ensureMutable = .ok () ↔
    s.deleting = false ∧ s.shuttingDown = false := by
  unfold ensureMutable ensureNotDeleting
  cases s.deleting <;> cases s.shuttingDown <;> simp

theorem quiesce_keeps (s : Session) : s.Keeps s.quiesce.2.2 := by
  unfold quiesce
  split_ifs
  · exact .refl s
  cases hcan : s.harness.cancel with
  | mk result h =>
    cases result with
    | error error => exact .refl s
    | ok runId =>
      have hs : s.Keeps { s with harness := h } := ⟨rfl, rfl, rfl, rfl, fun _ _ => Iff.rfl⟩
      have hh := hs.trans (keeps_setRun { s with harness := h } false)
      simp only
      generalize { s with harness := h }.setRun false = t at hh
      cases hr : applyDurableEvent t.record (.cancelled runId) with
      | error error => exact hh
      | ok record =>
        have ht := hh.trans (keeps_withRecord (sameSession_of_applyDurableEvent hr))
        have hp := keeps_project { t with record := record } (.cancelled runId)
        simp only
        cases hproj : { t with record := record }.project (.cancelled runId) with
        | mk result u =>
          rw [hproj] at hp
          cases result <;> exact ht.trans hp

/-- **What `prepare_delete` leaves is what the cancellation left,** but for the write
and its announcement. -/
theorem exists_prepareDelete (hm : s.ensureMutable = .ok ()) (env : Env) :
    ∃ store dirty stream, (s.prepareDelete env).2 =
      { { s with deleting := true }.quiesce.2.2 with
        store := store
        dirty := dirty
        stream := stream } := by
  unfold prepareDelete
  simp only [hm]
  generalize { s with deleting := true }.quiesce = q
  obtain ⟨cancellation, firstError, t⟩ := q
  simp only
  cases t.store.checkpoint env.fault t.record with
  | mk result store => cases result <;> exact ⟨_, _, _, rfl⟩

/-- An actor that can be changed begins the deletion. -/
theorem prepareDelete_keeps (hm : s.ensureMutable = .ok ()) (env : Env) :
    { s with deleting := true }.Keeps (s.prepareDelete env).2 := by
  have hq := quiesce_keeps { s with deleting := true }
  obtain ⟨store, dirty, stream, hprepare⟩ := exists_prepareDelete hm env
  rw [hprepare]
  exact hq.trans ⟨rfl, rfl, rfl, rfl, fun _ _ => Iff.rfl⟩

/-- An actor that cannot be changed refuses to begin it. -/
theorem prepareDelete_of_error {error : SessionCommandError} (hm : s.ensureMutable = .error error)
    (env : Env) : s.prepareDelete env = (.error error, s) := by
  unfold prepareDelete
  rw [hm]

/-- **A command that asks for a mutable actor is refused by any other,** and changes
nothing. -/
theorem handleCommand_of_immutable {error : SessionCommandError}
    (hm : s.ensureMutable = .error error) (env : Env) {command : SessionCommand}
    (hc : command.asksMutable = true) : (s.handleCommand env command).2 = s := by
  cases command with
  | submit prompt => simp only [handleCommand, submit, hm]
  | cancel => simp only [handleCommand, cancel, hm]
  | rename title => simp only [handleCommand, rename, hm]
  | applyGeneratedTitle expectedRevision generated =>
    simp only [handleCommand, applyGeneratedTitle, hm]
  | selectModel model => simp only [handleCommand, selectModel, hm]
  | selectReasoning reasoning => simp only [handleCommand, selectReasoning, hm]
  | listJobs => simp only [handleCommand, hm]
  | cancelJob id => simp only [handleCommand, hm]
  | prepareDelete => simp only [handleCommand, prepareDelete_of_error hm]
  | _ => cases hc

theorem handleCommand_finishDelete (hd : s.deleting = true) (env : Env) :
    s.handleCommand env .finishDelete = (.outcome (.ok .deleted),
      { s with
        stream := s.stream.emitTerminal (.deleted s.record.id) }.clearActivity.exit
          (.delete .deleted)) := by
  rw [handleCommand, finishDelete_of_deleting hd]

theorem handleCommand_abortDelete (hd : s.deleting = true) (env : Env) :
    s.handleCommand env .abortDelete =
      (.outcome (.ok .deleteAborted), s.clearActivity.exit (.delete .deleteAborted)) := by
  simp [handleCommand, abortDelete, ensureDeletePrepared, hd]

/-- Neither end of a deletion is possible before it began. -/
theorem handleCommand_of_not_deleting (hd : s.deleting = false) (env : Env)
    {command : SessionCommand} (hc : command = .finishDelete ∨ command = .abortDelete) :
    ∃ error, s.handleCommand env command = (.outcome (.error error), s) := by
  rcases hc with rfl | rfl
  · exact ⟨_, by simp only [handleCommand, finishDelete, ensureDeletePrepared, hd]; rfl⟩
  · exact ⟨_, by simp only [handleCommand, abortDelete, ensureDeletePrepared, hd]; rfl⟩

/-- **A `shutdown` ends the loop, or is refused,** or leaves the actor shutting
down. -/
theorem handleCommand_shutdown_cases (s : Session) (env : Env) :
    (∃ t, s.handleCommand env .shutdown = (.unit (.ok ()), t.exit .shutdown) ∧
      { s with shuttingDown := true }.Keeps t) ∨
    (∃ error t, s.handleCommand env .shutdown = (.unit (.error error), t) ∧
      (t = s ∨ { s with shuttingDown := true }.Keeps t)) := by
  unfold handleCommand
  cases s.ensureNotDeleting with
  | error error => exact .inr ⟨error, s, rfl, .inl rfl⟩
  | ok u =>
    have hf := flush_keeps { s with shuttingDown := true } env
    simp only
    unfold shutdown
    cases hr : { s with shuttingDown := true }.flush env with
    | mk result t =>
      rw [hr] at hf
      cases result with
      | error error => exact .inr ⟨error, t, rfl, .inr hf⟩
      | ok u =>
        cases env.jobsShutdown with
        | error error => exact .inr ⟨mapJobError error, t, rfl, .inr hf⟩
        | ok u =>
          exact .inl ⟨t.clearActivity, rfl, hf.trans (keeps_clearActivity t)⟩

/-! ### Every input -/

/-- What no input touches: the session the actor is for, and the runs of other
sessions; and an actor whose loop ended does not start again. -/
structure Spares (s t : Session) : Prop where
  id : t.record.id = s.record.id
  activity : ∀ id, id ≠ s.record.id → (t.activity.hasRun id ↔ s.activity.hasRun id)
  exited : s.exited.isSome = true → t.exited.isSome = true

theorem Keeps.spares (h : s.Keeps t) : s.Spares t :=
  ⟨h.id, h.activity, fun he => by rwa [h.exited]⟩

theorem handleCommand_spares (s : Session) (env : Env) (command : SessionCommand) :
    s.Spares (s.handleCommand env command).2 := by
  cases hc : command.steers with
  | false => exact (handleCommand_keeps s env hc).spares
  | true =>
    cases command with
    | prepareDelete =>
      cases hm : s.ensureMutable with
      | error error =>
        simp only [handleCommand, prepareDelete_of_error hm]
        exact (Keeps.refl s).spares
      | ok u =>
        have hk := prepareDelete_keeps hm env
        exact ⟨hk.id, hk.activity, fun he => by rw [← he]; exact congrArg Option.isSome hk.exited⟩
    | finishDelete =>
      cases hd : s.deleting with
      | false =>
        obtain ⟨error, he⟩ := handleCommand_of_not_deleting hd env (.inl rfl)
        rw [he]
        exact (Keeps.refl s).spares
      | true =>
        rw [handleCommand_finishDelete hd]
        exact ⟨rfl, (keeps_clearActivity _).activity, fun _ => rfl⟩
    | abortDelete =>
      cases hd : s.deleting with
      | false =>
        obtain ⟨error, he⟩ := handleCommand_of_not_deleting hd env (.inr rfl)
        rw [he]
        exact (Keeps.refl s).spares
      | true =>
        rw [handleCommand_abortDelete hd]
        exact ⟨rfl, (keeps_clearActivity s).activity, fun _ => rfl⟩
    | shutdown =>
      rcases handleCommand_shutdown_cases s env with ⟨t, he, hk⟩ | ⟨error, t, he, rfl | hk⟩
      · rw [he]
        exact ⟨hk.id, hk.activity, fun _ => rfl⟩
      · rw [he]
        exact (Keeps.refl t).spares
      · rw [he]
        exact ⟨hk.id, hk.activity, fun hs => by rw [← hs]; exact congrArg Option.isSome hk.exited⟩
    | _ => simp [SessionCommand.steers] at hc

/-- **No input touches the run of another session** or starts an actor again. -/
theorem step_spares (s : Session) (env : Env) (input : ActorInput) :
    s.Spares (s.step (env, input)) := by
  cases hi : input.isOrdinary with
  | true => exact (step_keeps s env hi).spares
  | false =>
    cases input with
    | command command =>
      unfold step
      simp only
      split_ifs
      · exact (Keeps.refl s).spares
      · exact handleCommand_spares s env command
    | handlesDropped =>
      unfold step
      simp only
      split_ifs
      · exact (Keeps.refl s).spares
      · exact (Keeps.refl s).spares
      · cases env.jobsShutdown with
        | ok u => exact ⟨rfl, (keeps_clearActivity s).activity, fun _ => rfl⟩
        | error error => exact ⟨rfl, fun _ _ => Iff.rfl, fun _ => rfl⟩
    | _ => simp [ActorInput.isOrdinary] at hi

/-- **Only a command that steers the actor changes its flags.** -/
theorem flags_of_step (s : Session) (env : Env) {input : ActorInput}
    (hi : ∀ c, input = .command c → c.steers = false) :
    (s.step (env, input)).shuttingDown = s.shuttingDown ∧
      (s.step (env, input)).deleting = s.deleting := by
  cases ho : input.isOrdinary with
  | true =>
    have hk := step_keeps s env ho
    exact ⟨hk.shuttingDown, hk.deleting⟩
  | false =>
    cases input with
    | command c => simp [ActorInput.isOrdinary, hi c rfl] at ho
    | handlesDropped =>
      unfold step
      simp only
      split_ifs
      · exact ⟨rfl, rfl⟩
      · exact ⟨rfl, rfl⟩
      · cases env.jobsShutdown <;> exact ⟨rfl, rfl⟩
    | _ => simp [ActorInput.isOrdinary] at ho

/-- Only the end of a deletion and a shutdown end the loop with a reply. -/
theorem exited_of_handleCommand (he : s.exited = none) (env : Env) {command : SessionCommand}
    (hx : (s.handleCommand env command).2.exited.isSome = true) :
    command = .finishDelete ∨ command = .abortDelete ∨ command = .shutdown := by
  by_contra hne
  simp only [not_or] at hne
  have hnone : (s.handleCommand env command).2.exited = none := by
    by_cases hp : command = .prepareDelete
    · subst hp
      cases hm : s.ensureMutable with
      | error error =>
        simp only [handleCommand, prepareDelete_of_error hm]
        exact he
      | ok u => exact (prepareDelete_keeps hm env).exited.trans he
    · refine (handleCommand_keeps s env ?_).exited.trans he
      cases command <;> simp_all [SessionCommand.steers]
  rw [hnone] at hx
  exact absurd hx (by simp)

end Session

end Moh
