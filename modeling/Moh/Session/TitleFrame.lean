/-
# What changes the title of an actor

An actor holds the title of its session in its record, with its source and revision
(`SameTitle`).  Two commands change it, a rename and the completion of a generated
title; each has the repository write the title first and takes over what was written
(`rename_title`, `applyGeneratedTitle_title`).  Every other input leaves it as it is
(`step_sameTitle`), and whatever an actor does, its record has the title of its row
(`Core.Entitled.effects`).
-/

import Moh.Session.Sane

namespace Moh

/-- The records have one title, set by the same mechanism at the same revision. -/
structure SameTitle (record record' : SessionRecord) : Prop where
  title : record'.title = record.title
  source : record'.titleSource = record.titleSource
  revision : record'.titleRevision = record.titleRevision

namespace SameTitle

variable {r r' r'' : SessionRecord}

theorem refl (r : SessionRecord) : SameTitle r r := ⟨rfl, rfl, rfl⟩

theorem of_eq (h : r' = r) : SameTitle r r' := h ▸ .refl _

theorem symm (h : SameTitle r r') : SameTitle r' r :=
  ⟨h.title.symm, h.source.symm, h.revision.symm⟩

theorem trans (h : SameTitle r r') (h' : SameTitle r' r'') : SameTitle r r'' :=
  ⟨h'.title.trans h.title, h'.source.trans h.source, h'.revision.trans h.revision⟩

end SameTitle

/-! ### Durable events -/

theorem sameTitle_of_endTurn {record record' : SessionRecord} {runId : ℕ} {status : TurnStatus}
    {item : TranscriptItem} (h : endTurn record runId status item = .ok record') :
    SameTitle record record' := by
  unfold endTurn at h
  split at h
  · simp at h
  · obtain rfl := Except.ok.inj h
    exact ⟨rfl, rfl, rfl⟩

/-- **No durable event changes the title.** -/
theorem sameTitle_of_applyDurableEvent {record record' : SessionRecord} {event : SessionEvent}
    (h : applyDurableEvent record event = .ok record') : SameTitle record record' := by
  cases event with
  | started runId prompt =>
    obtain rfl := applyDurableEvent_started_eq_ok h
    exact ⟨rfl, rfl, rfl⟩
  | toolStarted runId callId name arguments =>
    simp only [applyDurableEvent] at h
    split at h
    · simp at h
    · obtain rfl := Except.ok.inj h
      exact ⟨rfl, rfl, rfl⟩
  | completed runId response lastActivity =>
    simp only [applyDurableEvent] at h
    split at h
    · simp at h
    · rename_i hend
      obtain rfl := Except.ok.inj h
      exact (sameTitle_of_endTurn hend).trans ⟨rfl, rfl, rfl⟩
  | failed runId failure => exact sameTitle_of_endTurn h
  | cancelled runId => exact sameTitle_of_endTurn h
  | _ =>
    obtain rfl := Except.ok.inj h
    exact .refl _

/-- The commands that may change the title. -/
def SessionCommand.retitles : SessionCommand → Bool
  | .rename _ => true
  | .applyGeneratedTitle _ _ => true
  | _ => false

/-- The inputs that may change the title. -/
def ActorInput.retitles : ActorInput → Bool
  | .command c => c.retitles
  | _ => false

/-- **A generated title is written** over a title that was not set by hand and still
has the expected revision. -/
theorem SessionStore.row_of_generated {fault : Option SessionStoreError} {store next : SessionStore}
    {id : SessionId} {expectedRevision : ℕ} {title : SessionTitle} {persisted : SessionRecord}
    (h : store.compareAndSetGeneratedTitle fault id expectedRevision title =
      (.ok (some persisted), next)) :
    ∃ row, store.rows.lookup id = some row ∧ row.titleSource ≠ .manual ∧
      row.titleRevision = expectedRevision ∧ persisted =
        { row with
          title := title
          titleSource := .generated
          titleRevision := row.titleRevision + 1 } := by
  rcases SessionStore.compareAndSetGeneratedTitle_cases h with
    ⟨hnone, -⟩ | ⟨row, record, hl, hsource, hrevision, rfl, hp, -⟩
  · cases hnone
  · exact ⟨row, hl, hsource, hrevision, Option.some.inj hp⟩

namespace Session

variable {s t : Session}

/-! ### The pieces of the handlers leave the record alone -/

@[simp] theorem record_setRun (s : Session) (running : Bool) : (s.setRun running).record = s.record :=
  rfl

@[simp] theorem record_clearActivity (s : Session) : s.clearActivity.record = s.record := rfl

@[simp] theorem record_exit (s : Session) (reason : ActorExit) : (s.exit reason).record = s.record :=
  rfl

@[simp] theorem record_announce (s : Session) (envelope : Option SessionEventEnvelope)
    (told : Option (Option String)) : (s.announce envelope told).record = s.record := rfl

@[simp] theorem record_project (s : Session) (event : SessionEvent) :
    (s.project event).2.record = s.record := rfl

theorem record_of_project {event : SessionEvent}
    {result : Except SessionCommandError (Option SessionEventEnvelope)}
    (h : s.project event = (result, t)) : t.record = s.record := by
  rw [← record_project s event, h]

@[simp] theorem record_persistenceResult (s : Session) (result : Except SessionStoreError Unit) :
    (s.persistenceResult result).2.record = s.record := by
  cases result <;> rfl

@[simp] theorem record_persistCheckpoint (s : Session) (env : Env) :
    (s.persistCheckpoint env).2.record = s.record := by
  simp [persistCheckpoint]

@[simp] theorem record_persistMetadata (s : Session) (env : Env) :
    (s.persistMetadata env).2.record = s.record := by
  simp [persistMetadata]

/-! ### Handlers that leave the title alone -/

theorem submit_sameTitle (s : Session) (env : Env) (prompt : String) :
    SameTitle s.record (s.submit env prompt).2.record := by
  unfold submit
  split
  · exact .refl _
  split
  · exact .refl _
  dsimp only
  split
  · exact .refl _
  · rename_i record hrecord
    have hsame := sameTitle_of_applyDurableEvent hrecord
    split
    · rename_i hproject
      rw [record_of_project hproject]
      exact .refl _
    · simpa using hsame

theorem cancel_sameTitle (s : Session) (env : Env) :
    SameTitle s.record (s.cancel env).2.record := by
  unfold cancel
  split
  · exact .refl _
  split
  · exact .refl _
  dsimp only
  split
  · exact .refl _
  · rename_i record hrecord
    have hsame := sameTitle_of_applyDurableEvent hrecord
    split
    · rename_i hproject
      rw [record_of_project hproject]
      exact .refl _
    · simpa using hsame

theorem changeSettings_sameTitle (s : Session) (env : Env) (settings : SessionSettings) :
    SameTitle s.record (s.changeSettings env settings).2.record := by
  unfold changeSettings
  dsimp only
  split
  · rename_i hproject
    rw [record_of_project hproject]
    exact ⟨rfl, rfl, rfl⟩
  · rename_i hproject
    rw [record_announce, record_persistMetadata, record_of_project hproject]
    exact ⟨rfl, rfl, rfl⟩

theorem selectModel_sameTitle (s : Session) (env : Env) (model : String) :
    SameTitle s.record (s.selectModel env model).2.record := by
  unfold selectModel
  split
  · exact .refl _
  · dsimp only
    split_ifs
    · exact .refl _
    · exact changeSettings_sameTitle { s with activeModel := model } env _

theorem selectReasoning_sameTitle (s : Session) (env : Env) (reasoning : ReasoningLevel) :
    SameTitle s.record (s.selectReasoning env reasoning).2.record := by
  unfold selectReasoning
  split
  · exact .refl _
  · dsimp only
    split_ifs
    · exact .refl _
    · exact changeSettings_sameTitle { s with activeReasoning := reasoning } env _

@[simp] theorem record_flush (s : Session) (env : Env) : (s.flush env).2.record = s.record := by
  unfold flush
  split
  · rfl
  · split <;> rfl

@[simp] theorem record_shutdown (s : Session) (env : Env) : (s.shutdown env).2.record = s.record := by
  have hflush := record_flush s env
  unfold shutdown
  split
  · rename_i hf
    rw [hf] at hflush
    exact hflush
  · rename_i hf
    rw [hf] at hflush
    split <;> exact hflush

theorem quiesce_sameTitle (s : Session) : SameTitle s.record s.quiesce.2.2.record := by
  unfold quiesce
  split_ifs
  · exact .refl _
  split
  · exact .refl _
  dsimp only
  split
  · exact .refl _
  · rename_i record hrecord
    have hsame := sameTitle_of_applyDurableEvent hrecord
    split
    all_goals
      rename_i hproject
      rw [record_of_project hproject]
      exact hsame

theorem prepareDelete_sameTitle (s : Session) (env : Env) :
    SameTitle s.record (s.prepareDelete env).2.record := by
  have hquiesce := quiesce_sameTitle { s with deleting := true }
  unfold prepareDelete
  split
  · exact .refl _
  · dsimp only
    split <;> exact hquiesce

@[simp] theorem record_finishDelete (s : Session) : s.finishDelete.2.record = s.record := by
  unfold finishDelete
  split
  · rfl
  · split
    all_goals
      rename_i hproject
      have hrecord := record_of_project hproject
      exact hrecord

@[simp] theorem record_abortDelete (s : Session) : s.abortDelete.2.record = s.record := by
  unfold abortDelete
  split <;> rfl

@[simp] theorem record_attach (s : Session) (env : Env) (connectionId : ConnectionId)
    (attachmentId : AttachmentId) : (s.attach env connectionId attachmentId).2.record = s.record := by
  unfold attach
  split_ifs
  · rfl
  · dsimp only
    split <;> rfl

@[simp] theorem record_handleJobsChanged (s : Session) (env : Env) :
    (s.handleJobsChanged env).record = s.record := by
  unfold handleJobsChanged
  split_ifs
  · rfl
  split
  · rfl
  · split
    all_goals
      rename_i hproject
      have hrecord := record_of_project hproject
      exact hrecord

theorem handlePlanUpdate_sameTitle (s : Session) (env : Env) (plan : List PlanItem)
    (explanation : Option String) :
    SameTitle s.record (s.handlePlanUpdate env plan explanation).2.record := by
  unfold handlePlanUpdate
  split
  · exact .refl _
  · dsimp only
    rw [record_announce, record_persistCheckpoint]
    exact ⟨rfl, rfl, rfl⟩

theorem persistDurableRunEvent_sameTitle (s : Session) (env : Env) (event : SessionEvent)
    (commitHistory : Bool) :
    SameTitle s.record (s.persistDurableRunEvent env event commitHistory).record := by
  unfold persistDurableRunEvent
  split
  · exact .refl _
  · rename_i record hrecord
    have hsame := sameTitle_of_applyDurableEvent hrecord
    split
    · rename_i hproject
      rw [record_of_project hproject]
      exact .refl _
    · dsimp only
      rw [record_announce, record_persistCheckpoint]
      split_ifs
      · exact hsame.trans ⟨rfl, rfl, rfl⟩
      · exact hsame

@[simp] theorem record_passOn (s : Session) (event : SessionEvent) :
    (s.passOn event).record = s.record := by
  unfold passOn
  split
  all_goals
    rename_i hproject
    have hrecord := record_of_project hproject
    exact hrecord

theorem handleRunEvent_sameTitle (s : Session) (env : Env) (event : RunEvent) :
    SameTitle s.record (s.handleRunEvent env event).record := by
  cases event with
  | contextUsage runId inputTokens =>
    unfold handleRunEvent
    dsimp only
    split
    all_goals
      rename_i hproject
      have hrecord := record_of_project hproject
      simp only [record_announce, record_persistMetadata, hrecord]
      exact ⟨rfl, rfl, rfl⟩
  | completed runId response => exact persistDurableRunEvent_sameTitle (s.setRun false) ..
  | toolStarted runId callId name arguments => exact persistDurableRunEvent_sameTitle ..
  | failed runId failure => exact persistDurableRunEvent_sameTitle (s.setRun false) ..
  | cancelled runId => exact persistDurableRunEvent_sameTitle (s.setRun false) ..
  | assistantDelta runId text =>
    rw [handleRunEvent, record_passOn]
    exact .refl _
  | toolFinished runId callId name =>
    rw [handleRunEvent, record_passOn]
    exact .refl _
  | started runId => exact .refl _

/-! ### Inputs -/

theorem handleCommand_sameTitle (s : Session) (env : Env) {command : SessionCommand}
    (hc : command.retitles = false) : SameTitle s.record (s.handleCommand env command).2.record := by
  cases command with
  | attach connectionId attachmentId =>
    have hrecord := record_attach s env connectionId attachmentId
    simp only [handleCommand, hrecord]
    exact .refl _
  | detach connectionId attachmentId => exact .refl _
  | detachConnection connectionId => exact .refl _
  | snapshot => exact .refl _
  | submit prompt => exact submit_sameTitle s env prompt
  | cancel => exact cancel_sameTitle s env
  | rename title => simp [SessionCommand.retitles] at hc
  | applyGeneratedTitle expectedRevision generated => simp [SessionCommand.retitles] at hc
  | prepareDelete => exact prepareDelete_sameTitle s env
  | finishDelete =>
    have hrecord := record_finishDelete s
    simp only [handleCommand]
    split
    all_goals
      rename_i hf
      rw [hf] at hrecord
      exact .of_eq hrecord
  | abortDelete =>
    have hrecord := record_abortDelete s
    simp only [handleCommand]
    split
    all_goals
      rename_i hf
      rw [hf] at hrecord
      exact .of_eq hrecord
  | selectModel model => exact selectModel_sameTitle s env model
  | selectReasoning reasoning => exact selectReasoning_sameTitle s env reasoning
  | listJobs =>
    simp only [handleCommand]
    split <;> exact .refl _
  | cancelJob id =>
    simp only [handleCommand]
    split <;> exact .refl _
  | flush =>
    have hrecord := record_flush s env
    simp only [handleCommand]
    split
    · exact .refl _
    · simp only [hrecord]
      exact .refl _
  | shutdown =>
    have hrecord := record_shutdown { s with shuttingDown := true } env
    simp only [handleCommand]
    split
    · exact .refl _
    · split
      all_goals
        rename_i hf
        rw [hf] at hrecord
        exact .of_eq hrecord

/-- **Every other input leaves the title as it is.** -/
theorem step_sameTitle (s : Session) (env : Env) {input : ActorInput} (hi : input.retitles = false) :
    SameTitle s.record (s.step (env, input)).record := by
  unfold step
  cases input with
  | recv token => exact .refl _
  | closeReceiver token => exact .refl _
  | command command =>
    simp only
    split_ifs
    · exact .refl _
    · exact handleCommand_sameTitle s env hi
  | run polled =>
    simp only
    split_ifs
    · exact .refl _
    split
    · exact .refl _
    · rename_i event harness hnext
      exact handleRunEvent_sameTitle { s with harness := harness } env event
  | jobsChanged =>
    simp only
    split_ifs
    · exact .refl _
    · rw [record_handleJobsChanged]
      exact .refl _
  | planUpdate plan explanation =>
    simp only
    split_ifs
    · exact .refl _
    · exact handlePlanUpdate_sameTitle s env plan explanation
  | handlesDropped =>
    simp only
    split_ifs
    · exact .refl _
    · exact .refl _
    · split <;> exact .refl _

/-! ### The two commands that change the title -/

/-- The record takes the title over. -/
theorem installPersistedTitle_title (s : Session) (persisted : SessionRecord) :
    SameTitle persisted (s.installPersistedTitle persisted).2.record := by
  unfold installPersistedTitle
  cases s.dirty with
  | none =>
    simp only [Option.isSome_none, Bool.false_eq_true, if_false, project_titleChanged]
    exact ⟨rfl, rfl, rfl⟩
  | some pending =>
    simp only [Option.isSome_some, if_true, project_titleChanged]
    exact ⟨rfl, rfl, rfl⟩

/-- **A rename** fails and changes nothing, or writes the title and takes it over. -/
theorem rename_title (s : Session) (env : Env) (title : SessionTitle) :
    SameTitle s.record (s.rename env title).2.record ∨
      ∃ row, s.store.rows.lookup s.record.id = some row ∧
        (s.rename env title).2.record.titleSource = .manual ∧
        (s.rename env title).2.record.titleRevision = row.titleRevision + 1 := by
  unfold rename
  split
  · exact .inl (.refl _)
  split
  · exact .inl (.refl _)
  · rename_i persisted store hrename
    obtain ⟨⟨⟨row, hrow, hpersisted⟩, -⟩, -, hsource⟩ := SessionStore.rename_eq_ok hrename
    have hinstall := installPersistedTitle_title { s with store := store } persisted
    refine .inr ⟨row, hrow, hinstall.source.trans hsource, hinstall.revision.trans ?_⟩
    rw [hpersisted]

/-- **A generated title** changes nothing, or is written over a title that was not
set by hand and still has the expected revision. -/
theorem applyGeneratedTitle_title (s : Session) (env : Env) (expectedRevision : ℕ)
    (generated : Except TitleGenerationError String) :
    SameTitle s.record (s.applyGeneratedTitle env expectedRevision generated).2.record ∨
      ∃ row, s.store.rows.lookup s.record.id = some row ∧ row.titleSource ≠ .manual ∧
        row.titleRevision = expectedRevision ∧
        (s.applyGeneratedTitle env expectedRevision generated).2.record.titleSource = .generated ∧
        (s.applyGeneratedTitle env expectedRevision generated).2.record.titleRevision =
          row.titleRevision + 1 := by
  unfold applyGeneratedTitle
  split
  · exact .inl (.refl _)
  split
  · exact .inl (.refl _)
  split
  · exact .inl (.refl _)
  split
  · exact .inl (.refl _)
  · exact .inl (.refl _)
  · rename_i persisted store hset
    obtain ⟨row, hrow, hmanual, hrevision, hpersisted⟩ := SessionStore.row_of_generated hset
    have hinstall := installPersistedTitle_title { s with store := store } persisted
    refine .inr ⟨row, hrow, hmanual, hrevision, hinstall.source.trans ?_,
      hinstall.revision.trans ?_⟩
    · rw [hpersisted]
    · rw [hpersisted]

end Session

namespace Core

variable {a : Option Registration} {c c' : Core}

/-! ### The record and the row -/

/-- The record of an actor has the title of its row, if there is one. -/
structure Entitled (c : Core) : Prop where
  pending : c.Pending
  row : ∀ row, c.store.rows.lookup c.record.id = some row → SameTitle c.record row

/-- What is written has the title of the record. -/
theorem sameTitle_of_writes {record row : SessionRecord}
    {write : Except SessionStoreError Unit × SessionStore} (hid : record.id = c.record.id)
    (hc : c.Entitled) (hsame : SameTitle c.record record) (hw : c.Writes record write)
    (hrow : write.2.rows.lookup c.record.id = some row) : SameTitle record row := by
  rcases hw with ⟨fault, rfl⟩ | ⟨-, -, fault, rfl⟩
  · rcases c.store.checkpoint_cases fault record with ⟨error, h⟩ | ⟨row', -, h⟩
    · rw [h] at hrow
      exact hsame.symm.trans (hc.row row hrow)
    · rw [h, ← hid, SessionStore.lookup_setRow] at hrow
      obtain rfl := Option.some.inj hrow
      exact ⟨rfl, rfl, rfl⟩
  · rcases c.store.updateMetadata_cases fault record with ⟨error, h⟩ | ⟨row', -, h⟩
    · rw [h] at hrow
      exact hsame.symm.trans (hc.row row hrow)
    · rw [h, ← hid, SessionStore.lookup_setRow] at hrow
      obtain rfl := Option.some.inj hrow
      exact ⟨rfl, rfl, rfl⟩

/-- No move changes the title. -/
theorem sameTitle_of_move {record record' : SessionRecord} {h h' : Harness}
    {event : Option SessionEvent} (hm : Move record h event record' h') :
    SameTitle record record' := by
  cases hm with
  | started hs hr => exact sameTitle_of_applyDurableEvent hr
  | toolStarted hrun hr => exact sameTitle_of_applyDurableEvent hr
  | completed hrun hr => exact (sameTitle_of_applyDurableEvent hr).trans ⟨rfl, rfl, rfl⟩
  | failed hrun hr => exact sameTitle_of_applyDurableEvent hr
  | cancelled hrun hr => exact sameTitle_of_applyDurableEvent hr
  | _ => exact ⟨rfl, rfl, rfl⟩

/-- **Every effect keeps the title of the record that of the row.** -/
theorem Entitled.effect (hc : c.Entitled) (he : Effect a c c') : c'.Entitled := by
  refine ⟨hc.pending.effect he, ?_⟩
  cases he with
  | attached _ => exact hc.row
  | observed _ _ _ _ => exact hc.row
  | noticed _ => exact hc.row
  | gaveUp _ _ => exact hc.row
  | condemned => exact hc.row
  | @settled event record h write told hm hw ht =>
    intro row hrow
    have hid := hm.sameSession.id
    refine sameTitle_of_writes hid hc (sameTitle_of_move hm) hw ?_
    rw [← hid]
    exact hrow
  | @retitled persisted store hr =>
    intro row hrow
    obtain ⟨-, rfl⟩ := hr
    simp only [SessionStore.lookup_setRow, Option.some.injEq] at hrow
    obtain rfl := hrow
    exact ⟨rfl, rfl, rfl⟩
  | @flushed pending write hd hl hw =>
    intro row hrow
    obtain ⟨fault, rfl⟩ := hw
    obtain rfl := hc.pending pending hd
    exact @sameTitle_of_writes c c.record row _ rfl hc (.refl _) (.inl ⟨fault, rfl⟩) hrow

theorem Entitled.effects (hc : c.Entitled) (he : Effects a c c') : c'.Entitled := by
  induction he with
  | refl => exact hc
  | tail _ he ih => exact ih.effect he

end Core
end Moh
