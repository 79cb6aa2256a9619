/-
# Active runs are registered

`session/actor.rs`: an actor registers its active run with the activity tracker when
a submission ends, and takes it off when the run is over.  Between two handlers every
active run of an actor whose loop goes on is registered (`Session.Covered`), whatever
fails on the way; no handler touches the connections of the tracker, and what it
changes there advances the generation (`Session.Books`).
-/

import Moh.Session.Frame

namespace Moh
namespace Session

/-- An active run of an actor whose loop goes on is registered. -/
def Covered (s : Session) : Prop :=
  s.exited = none → s.harness.isRunning = true → s.activity.hasRun s.record.id

/-- What a handler does to the activity tracker. -/
structure Books (s t : Session) : Prop where
  continues : s.activity.Continues t.activity
  covered : s.Covered → t.Covered

/-- Neither the harness nor the activity tracker changes. -/
structure Still (s t : Session) : Prop where
  id : t.record.id = s.record.id
  exited : t.exited = s.exited
  harness : t.harness = s.harness
  activity : t.activity = s.activity

variable {s t u : Session} {h : Harness}

theorem Books.refl (s : Session) : s.Books s := ⟨.refl _, id⟩

theorem Books.trans (h : s.Books t) (h' : t.Books u) : s.Books u :=
  ⟨h.continues.trans h'.continues, fun hc => h'.covered (h.covered hc)⟩

theorem Still.refl (s : Session) : s.Still s := ⟨rfl, rfl, rfl, rfl⟩

theorem Still.trans (h : s.Still t) (h' : t.Still u) : s.Still u :=
  ⟨h'.id.trans h.id, h'.exited.trans h.exited, h'.harness.trans h.harness,
    h'.activity.trans h.activity⟩

theorem Still.books (h : s.Still t) : s.Books t := by
  refine ⟨by rw [h.activity]; exact .refl _, fun hc he hr => ?_⟩
  rw [h.activity, h.id]
  exact hc (h.exited ▸ he) (h.harness ▸ hr)

/-- An actor whose harness is idle has nothing to register. -/
theorem books_of_idle (hc : s.activity.Continues t.activity) (hi : t.harness.isRunning = false) :
    s.Books t :=
  ⟨hc, fun _ _ hr => absurd (hi.symm.trans hr) (by simp)⟩

/-- So has one whose loop ended. -/
theorem books_of_exited (hc : s.activity.Continues t.activity) (hx : t.exited.isSome = true) :
    s.Books t :=
  ⟨hc, fun _ he => absurd hx (by simp [he])⟩

theorem books_clearActivity (s : Session) (reason : ActorExit) :
    s.Books (s.clearActivity.exit reason) :=
  books_of_exited ((ActivityTracker.continues_setRun ..).trans
    (ActivityTracker.continues_setRunningJobs ..)) rfl

/-- A run that is over is taken off. -/
theorem books_dropped (s : Session) (hi : h.isRunning = false) :
    s.Books ({ s with harness := h }.setRun false) :=
  books_of_idle (ActivityTracker.continues_setRun ..) hi

/-! ### What changes neither -/

theorem still_project (s : Session) (event : SessionEvent) : s.Still (s.project event).2 :=
  ⟨rfl, rfl, rfl, rfl⟩

theorem still_of_project {event : SessionEvent}
    {result : Except SessionCommandError (Option SessionEventEnvelope)}
    (hp : s.project event = (result, t)) : s.Still t := by
  have ht := still_project s event
  rwa [hp] at ht

/-- A write and its announcement. -/
theorem still_announced (s : Session) (store : SessionStore)
    (result : Except SessionStoreError Unit) (envelope : Option SessionEventEnvelope) :
    s.Still (({ s with store := store }.persistenceResult result).2.announce envelope
      ({ s with store := store }.persistenceResult result).1) := by
  cases result <;> exact ⟨rfl, rfl, rfl, rfl⟩

/-- A durable change: projected, written and announced. -/
theorem still_committed {event : SessionEvent} {record : SessionRecord}
    {envelope : Option SessionEventEnvelope} (hs : SameSession s.record record)
    (hp : s.project event = (.ok envelope, t)) (env : Env) :
    s.Still (({ t with record := record }.persistCheckpoint env).2.announce envelope
      ({ t with record := record }.persistCheckpoint env).1) := by
  have ht := still_of_project hp
  have hr : t.Still { t with record := record } := by
    refine ⟨?_, rfl, rfl, rfl⟩
    rw [ht.id]
    exact hs.id
  exact (ht.trans hr).trans (still_announced _ _ _ _)

theorem still_installPersistedTitle (s : Session) (persisted : SessionRecord) :
    s.Still (s.installPersistedTitle persisted).2 := by
  unfold installPersistedTitle
  cases hd : s.dirty with
  | none =>
    simp only [Option.isSome_none, Bool.false_eq_true, if_false, project_titleChanged]
    exact ⟨rfl, rfl, rfl, rfl⟩
  | some pending =>
    simp only [Option.isSome_some, if_true, project_titleChanged]
    exact ⟨rfl, rfl, rfl, rfl⟩

theorem still_rename (s : Session) (env : Env) (title : SessionTitle) :
    s.Still (s.rename env title).2 := by
  unfold rename
  cases s.ensureMutable with
  | error error => exact .refl s
  | ok u =>
    cases s.store.rename env.fault s.record.id title with
    | mk result store =>
      have hs : s.Still { s with store := store } := ⟨rfl, rfl, rfl, rfl⟩
      cases result with
      | error error => exact hs
      | ok persisted => exact hs.trans (still_installPersistedTitle _ persisted)

theorem still_applyGeneratedTitle (s : Session) (env : Env) (expectedRevision : ℕ)
    (generated : Except TitleGenerationError String) :
    s.Still (s.applyGeneratedTitle env expectedRevision generated).2 := by
  unfold applyGeneratedTitle
  cases s.ensureMutable with
  | error error => exact .refl s
  | ok u =>
    cases generated with
    | error error => exact .refl s
    | ok generated =>
      cases hg : sanitizeGeneratedTitle generated with
      | none =>
        simp only [hg]
        exact .refl s
      | some title =>
        simp only [hg]
        cases s.store.compareAndSetGeneratedTitle env.fault s.record.id expectedRevision title with
        | mk result store =>
          have hs : s.Still { s with store := store } := ⟨rfl, rfl, rfl, rfl⟩
          rcases result with error | _ | persisted
          · exact hs
          · exact hs
          · exact hs.trans (still_installPersistedTitle _ persisted)

theorem still_changeSettings (s : Session) (env : Env) (settings : SessionSettings) :
    s.Still (s.changeSettings env settings).2 := by
  have hs : s.Still
      { s with record := { s.record with settings := settings, lastActivity := env.now } } :=
    ⟨rfl, rfl, rfl, rfl⟩
  unfold changeSettings
  simp only
  generalize ({ s with
    record := { s.record with settings := settings, lastActivity := env.now } } : Session) = t at hs
  cases hp : t.project (.settingsChanged settings env.now) with
  | mk result u =>
    have hu := hs.trans (still_of_project hp)
    cases result with
    | error error => exact hu
    | ok envelope => exact hu.trans (still_announced u _ _ _)

theorem still_selectModel (s : Session) (env : Env) (model : String) :
    s.Still (s.selectModel env model).2 := by
  unfold selectModel
  cases s.ensureMutable with
  | error error => exact .refl s
  | ok u =>
    simp only
    split_ifs
    · exact .refl s
    · have hs : s.Still { s with activeModel := model } := ⟨rfl, rfl, rfl, rfl⟩
      exact hs.trans (still_changeSettings _ env _)

theorem still_selectReasoning (s : Session) (env : Env) (reasoning : ReasoningLevel) :
    s.Still (s.selectReasoning env reasoning).2 := by
  unfold selectReasoning
  cases s.ensureMutable with
  | error error => exact .refl s
  | ok u =>
    simp only
    split_ifs
    · exact .refl s
    · have hs : s.Still { s with activeReasoning := reasoning } := ⟨rfl, rfl, rfl, rfl⟩
      exact hs.trans (still_changeSettings _ env _)

theorem still_flush (s : Session) (env : Env) : s.Still (s.flush env).2 := by
  unfold flush
  cases s.dirty with
  | none => exact .refl s
  | some pending =>
    cases hw : s.store.checkpoint env.fault pending with
    | mk result store =>
      simp only [hw]
      cases result <;> exact ⟨rfl, rfl, rfl, rfl⟩

theorem still_attach (s : Session) (env : Env) (connectionId : ConnectionId)
    (attachmentId : AttachmentId) : s.Still (s.attach env connectionId attachmentId).2 := by
  unfold attach
  split_ifs
  · exact .refl s
  · cases jobSnapshots env <;> exact ⟨rfl, rfl, rfl, rfl⟩

theorem still_handleJobsChanged (s : Session) (env : Env) : s.Still (s.handleJobsChanged env) := by
  unfold handleJobsChanged
  split_ifs
  · exact .refl s
  cases jobSnapshots env with
  | error error => exact .refl s
  | ok jobs =>
    simp only
    cases hp : s.project (.jobsChanged jobs) with
    | mk result t =>
      have ht := still_of_project hp
      cases result with
      | error error => exact ht
      | ok envelope => exact ht.trans ⟨rfl, rfl, rfl, rfl⟩

theorem still_handlePlanUpdate (s : Session) (env : Env) (plan : List PlanItem)
    (explanation : Option String) : s.Still (s.handlePlanUpdate env plan explanation).2 := by
  unfold handlePlanUpdate
  cases s.stream.projectStrict (.planChanged plan) with
  | mk result stream =>
    cases result with
    | error error => exact .refl s
    | ok event =>
      have hs : s.Still { s with record := { s.record with plan := plan }, stream := stream } :=
        ⟨rfl, rfl, rfl, rfl⟩
      exact hs.trans (still_announced _ _ _ _)

theorem still_persistDurableRunEvent (s : Session) (env : Env) (event : SessionEvent)
    (commitHistory : Bool) : s.Still (s.persistDurableRunEvent env event commitHistory) := by
  unfold persistDurableRunEvent
  cases hr : applyDurableEvent s.record event with
  | error error => exact .refl s
  | ok record =>
    cases hp : s.project event with
    | mk result t =>
      cases result with
      | error error => exact still_of_project hp
      | ok envelope =>
        have hs := sameSession_of_applyDurableEvent hr
        cases commitHistory with
        | false => exact still_committed hs hp env
        | true =>
          have hs' : SameSession s.record { record with history := t.harness.history } :=
            ⟨hs.id, hs.cwd, hs.createdAt⟩
          exact still_committed hs' hp env

theorem still_passOn (s : Session) (event : SessionEvent) : s.Still (s.passOn event) := by
  unfold passOn
  cases hp : s.project event with
  | mk result t =>
    have ht := still_of_project hp
    cases result with
    | error error => exact ht
    | ok envelope => exact ht.trans ⟨rfl, rfl, rfl, rfl⟩

/-! ### What starts and ends a run -/

/-- **A submission registers its run when it ends,** and a run that it gives up is
dropped before. -/
theorem books_submit (s : Session) (env : Env) (prompt : String) :
    s.Books (s.submit env prompt).2 := by
  unfold submit
  cases s.ensureMutable with
  | error error => exact .refl s
  | ok u =>
    cases hsub : s.harness.submit prompt ⟨s.record.cwd, s.record.plan⟩ with
    | mk result h =>
      cases result with
      | error error => exact .refl s
      | ok runId =>
        cases hr : applyDurableEvent s.record (.started runId prompt) with
        | error error =>
          simp only [hr]
          exact books_of_idle (.refl _) (by simp [Harness.isRunning])
        | ok record =>
          cases hp : { s with harness := h }.project (.started runId prompt) with
          | mk result t =>
            have ht := still_of_project hp
            cases result with
            | error error =>
              simp only [hr, hp]
              refine books_of_idle ?_ (by simp [Harness.isRunning])
              have ha : t.activity = s.activity := ht.activity
              rw [ha]
              exact .refl _
            | ok envelope =>
              simp only [hr, hp]
              have hc := still_committed (s := { s with harness := h })
                (sameSession_of_applyDurableEvent hr) hp env
              generalize (({ t with record := record }.persistCheckpoint env).2.announce envelope
                ({ t with record := record }.persistCheckpoint env).1) = u at hc
              have ha : u.activity = s.activity := hc.activity
              refine ⟨?_, fun _ _ _ => ?_⟩
              · simp only [setRun, ha]
                exact ActivityTracker.continues_setRun ..
              · simp [setRun, ActivityTracker.hasRun_setRun]

/-- **A cancellation takes its run off first.** -/
theorem books_cancel (s : Session) (env : Env) : s.Books (s.cancel env).2 := by
  unfold cancel
  cases s.ensureMutable with
  | error error => exact .refl s
  | ok u =>
    cases hcan : s.harness.cancel with
    | mk result h =>
      cases result with
      | error error => exact .refl s
      | ok runId =>
        obtain ⟨run, -, -, rfl⟩ := Harness.cancel_eq_ok hcan
        have hd := s.books_dropped (h := { s.harness with active := none }) rfl
        simp only
        generalize { s with harness := { s.harness with active := none } }.setRun false = t at hd
        cases hr : applyDurableEvent t.record (.cancelled runId) with
        | error error => exact hd
        | ok record =>
          cases hp : t.project (.cancelled runId) with
          | mk result u =>
            cases result with
            | error error => exact hd.trans (still_of_project hp).books
            | ok envelope =>
              exact hd.trans (still_committed (sameSession_of_applyDurableEvent hr) hp env).books

/-- So does a deletion. -/
theorem books_quiesce (s : Session) : s.Books s.quiesce.2.2 := by
  unfold quiesce
  split_ifs
  · exact .refl s
  cases hcan : s.harness.cancel with
  | mk result h =>
    cases result with
    | error error => exact .refl s
    | ok runId =>
      obtain ⟨run, -, -, rfl⟩ := Harness.cancel_eq_ok hcan
      have hd := s.books_dropped (h := { s.harness with active := none }) rfl
      simp only
      generalize { s with harness := { s.harness with active := none } }.setRun false = t at hd
      cases hr : applyDurableEvent t.record (.cancelled runId) with
      | error error => exact hd
      | ok record =>
        have hs : t.Still { t with record := record } :=
          ⟨(sameSession_of_applyDurableEvent hr).id, rfl, rfl, rfl⟩
        simp only
        cases hp : { t with record := record }.project (.cancelled runId) with
        | mk result u =>
          have hu := (hs.trans (still_of_project hp)).books
          cases result <;> exact hd.trans hu

theorem books_prepareDelete (s : Session) (env : Env) : s.Books (s.prepareDelete env).2 := by
  have hs : s.Still { s with deleting := true } := ⟨rfl, rfl, rfl, rfl⟩
  have hq := hs.books.trans (books_quiesce { s with deleting := true })
  cases hm : s.ensureMutable with
  | error error =>
    rw [prepareDelete_of_error hm]
    exact .refl s
  | ok u =>
    obtain ⟨store, dirty, stream, hprepare⟩ := exists_prepareDelete hm env
    have hlast : { s with deleting := true }.quiesce.2.2.Still (s.prepareDelete env).2 := by
      rw [hprepare]
      exact ⟨rfl, rfl, rfl, rfl⟩
    exact hq.trans hlast.books

/-- **The end of a run takes it off before anything is written.** -/
theorem books_run (s : Session) (env : Env) {event : RunEvent} {h : Harness}
    {polled : Option (Except RunFailure EngineEvent)}
    (hn : s.harness.nextEvent polled = (some event, h)) :
    s.Books ({ s with harness := h }.handleRunEvent env event) := by
  obtain ⟨run, -, hp⟩ := Harness.progress_of_nextEvent hn
  cases hp with
  | assistantDelta text => exact (still_passOn s _).books
  | toolFinished callId name => exact (still_passOn s _).books
  | toolStarted callId name arguments => exact (still_persistDurableRunEvent s env _ _).books
  | completed response =>
    exact (books_dropped s rfl).trans (still_persistDurableRunEvent _ env _ _).books
  | failed failure =>
    exact (books_dropped s rfl).trans (still_persistDurableRunEvent _ env _ _).books
  | contextUsage inputTokens =>
    have hs : s.Still
        { s with
          record :=
            { s.record with
              settings := { s.record.settings with contextTokens := inputTokens }
              lastActivity := env.now } } :=
      ⟨rfl, rfl, rfl, rfl⟩
    unfold handleRunEvent
    simp only
    generalize ({ s with
      record :=
        { s.record with
          settings := { s.record.settings with contextTokens := inputTokens }
          lastActivity := env.now } } : Session) = t at hs
    cases hp : t.project (.contextUsage run.id inputTokens env.now) with
    | mk result u =>
      have hu := hs.trans (still_of_project hp)
      cases result with
      | error error => exact hu.books
      | ok envelope => exact (hu.trans (still_announced u _ _ _)).books

/-! ### Every input -/

/-- **No command leaves a run behind that is not registered.** -/
theorem books_handleCommand (s : Session) (env : Env) (command : SessionCommand) :
    s.Books (s.handleCommand env command).2 := by
  cases command with
  | attach connectionId attachmentId => exact (still_attach s env connectionId attachmentId).books
  | detach connectionId attachmentId => exact Still.books ⟨rfl, rfl, rfl, rfl⟩
  | detachConnection connectionId => exact Still.books ⟨rfl, rfl, rfl, rfl⟩
  | snapshot => exact .refl s
  | submit prompt => exact books_submit s env prompt
  | cancel => exact books_cancel s env
  | rename title => exact (still_rename s env title).books
  | applyGeneratedTitle expectedRevision generated =>
    exact (still_applyGeneratedTitle s env expectedRevision generated).books
  | selectModel model => exact (still_selectModel s env model).books
  | selectReasoning reasoning => exact (still_selectReasoning s env reasoning).books
  | listJobs =>
    unfold handleCommand
    cases s.ensureMutable <;> exact .refl s
  | cancelJob id =>
    unfold handleCommand
    cases s.ensureMutable <;> exact .refl s
  | flush =>
    unfold handleCommand
    cases s.ensureNotDeleting with
    | error error => exact .refl s
    | ok u => exact (still_flush s env).books
  | prepareDelete => exact books_prepareDelete s env
  | finishDelete =>
    cases hd : s.deleting with
    | false =>
      obtain ⟨error, he⟩ := handleCommand_of_not_deleting hd env (.inl rfl)
      rw [he]
      exact .refl s
    | true =>
      have hs : s.Still { s with stream := s.stream.emitTerminal (.deleted s.record.id) } :=
        ⟨rfl, rfl, rfl, rfl⟩
      rw [handleCommand_finishDelete hd]
      exact hs.books.trans (books_clearActivity _ _)
  | abortDelete =>
    cases hd : s.deleting with
    | false =>
      obtain ⟨error, he⟩ := handleCommand_of_not_deleting hd env (.inr rfl)
      rw [he]
      exact .refl s
    | true =>
      rw [handleCommand_abortDelete hd]
      exact books_clearActivity s _
  | shutdown =>
    have hs : s.Still { s with shuttingDown := true } := ⟨rfl, rfl, rfl, rfl⟩
    have hf := hs.trans (still_flush { s with shuttingDown := true } env)
    unfold handleCommand
    cases s.ensureNotDeleting with
    | error error => exact .refl s
    | ok u =>
      simp only
      unfold shutdown
      generalize { s with shuttingDown := true }.flush env = r at hf
      obtain ⟨error | u, t⟩ := r
      · exact hf.books
      · cases env.jobsShutdown with
        | error error => exact hf.books
        | ok u => exact hf.books.trans (books_clearActivity t _)

/-- **No input does.** -/
theorem books_step (s : Session) (input : Env × ActorInput) : s.Books (s.step input) := by
  obtain ⟨env, input⟩ := input
  unfold step
  cases input with
  | recv token => exact Still.books ⟨rfl, rfl, rfl, rfl⟩
  | closeReceiver token => exact Still.books ⟨rfl, rfl, rfl, rfl⟩
  | command command =>
    simp only
    split_ifs
    · exact .refl s
    · exact books_handleCommand s env command
  | run polled =>
    simp only
    split_ifs
    · exact .refl s
    · cases hn : s.harness.nextEvent polled with
      | mk event h =>
        cases event with
        | none => exact .refl s
        | some event => exact books_run s env hn
  | jobsChanged =>
    simp only
    split_ifs
    · exact .refl s
    · exact (still_handleJobsChanged s env).books
  | planUpdate plan explanation =>
    simp only
    split_ifs
    · exact .refl s
    · exact (still_handlePlanUpdate s env plan explanation).books
  | handlesDropped =>
    simp only
    split_ifs
    · exact .refl s
    · exact .refl s
    · cases env.jobsShutdown with
      | ok u => exact books_clearActivity s _
      | error error => exact books_of_exited (.refl _) rfl

/-- An actor whose loop ended does nothing to the tracker. -/
theorem activity_step_of_exited (hx : s.exited.isSome = true) (input : Env × ActorInput) :
    (s.step input).activity = s.activity := by
  obtain ⟨env, input⟩ := input
  unfold step
  cases input <;> simp only [hx, if_true]

end Session
end Moh
