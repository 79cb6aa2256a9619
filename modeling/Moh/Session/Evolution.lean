/-
# How the stream of an actor evolves

Whatever an actor does with an input, its stream changes by a few moves (`Stream.Change`): an
event that validates is numbered and broadcast, the terminal event is sent, observers are
registered or leave, and a client receives from its channel.  Every input is a sequence of them
(`Session.step_changes`), whether or not the representations of the session agree.

For one registration that amounts to `Stream.Feeds`: what it was sent leads from the projection
of its `Attach` to a projection that the session passed through, and to the present one while
the observer is registered (`Feeds.change`).
-/

import Moh.Library.Replica
import Moh.Session.Frozen

namespace Moh
namespace Stream

/-- **One move of the stream,** in which the receivers with a number in `pumped` are left
alone. -/
inductive Change (pumped : ℕ → Prop) (st : Stream) : Stream → Prop where
  | emitted {event : SessionEvent} (hv : st.projection.validateEvent event = .ok ()) :
    Change pumped st (st.emit event)
  | ended (id : SessionId) : Change pumped st (st.emitTerminal (.deleted id))
  | cleared (reason : Departure) : Change pumped st (st.clear reason)
  | retained (keep : Observer → Bool) : Change pumped st (st.retain keep)
  | attached (connectionId : ConnectionId) (attachmentId : AttachmentId) :
    Change pumped st (st.push connectionId attachmentId)
  /-- A registration that is taken back at once. -/
  | withdrawn (connectionId : ConnectionId) (attachmentId : AttachmentId) :
    Change pumped st
      { st.push connectionId attachmentId with
        observers := (st.push connectionId attachmentId).observers.dropLast }
  | received {token : ℕ} (hn : ¬pumped token) : Change pumped st (st.recv token)
  | closed {token : ℕ} (hn : ¬pumped token) : Change pumped st (st.close token)

/-- A sequence of moves. -/
abbrev Changes (pumped : ℕ → Prop) : Stream → Stream → Prop :=
  Relation.ReflTransGen (Change pumped)

variable {pumped : ℕ → Prop} {st st' : Stream}

theorem Change.changes (h : Change pumped st st') : Changes pumped st st' := .single h

/-! ### What a handler does with an event -/

/-- An event that is projected validates. -/
theorem validate_of_project {event : SessionEvent} {envelope : Option SessionEventEnvelope}
    (h : st.project event = (.ok envelope, st')) : st.projection.validateEvent event = .ok () := by
  unfold project at h
  cases ha : st.projection.apply event with
  | ok result =>
    obtain ⟨e, p⟩ := result
    exact (SessionProjection.apply_eq_ok_iff.1 ha).2.1
  | error error =>
    cases error with
    | sequenceExhausted =>
      simp only [ha, SessionProjection.applyUnsequenced] at h
      cases hv : st.projection.validateEvent event with
      | ok u => rfl
      | error error => simp [hv] at h
    | _ => simp [ha] at h

/-- An event that is rejected changes nothing. -/
theorem eq_of_project_error {event : SessionEvent} {error : SessionCommandError}
    (h : st.project event = (.error error, st')) : st' = st := by
  unfold project at h
  cases ha : st.projection.apply event with
  | ok result => simp [ha] at h
  | error cause =>
    cases cause with
    | sequenceExhausted =>
      cases hu : st.projection.applyUnsequenced event with
      | ok p => simp [ha, hu] at h
      | error e =>
        simp only [ha, hu] at h
        exact (Prod.mk.inj h).2.symm
    | _ =>
      simp only [ha] at h
      exact (Prod.mk.inj h).2.symm

/-- **An event that is projected and broadcast is one move.** -/
theorem changes_of_project {event : SessionEvent} {envelope : Option SessionEventEnvelope}
    (h : st.project event = (.ok envelope, st')) :
    Changes pumped st (st'.broadcastSome envelope) := by
  have hv := validate_of_project h
  have hc : Change pumped st (st.emit event) := .emitted hv
  rw [emit, accept_of_project hv h] at hc
  exact hc.changes

/-- The change of the warning is a move, or nothing. -/
theorem changes_transition (st : Stream) (told : Option (Option String)) :
    Changes pumped st (st.broadcastPersistenceTransition told) := by
  cases told with
  | none => exact .refl
  | some warning =>
    rw [broadcastPersistenceTransition_some]
    exact Change.changes (.emitted rfl)

end Stream

/-! ### What an input does -/

/-- The receiver that an input is about is not pumped. -/
def ActorInput.Spares (pumped : ℕ → Prop) : ActorInput → Prop
  | .recv token => ¬pumped token
  | .closeReceiver token => ¬pumped token
  | _ => True

namespace Session

variable {s t : Session} {pumped : ℕ → Prop}

/-- The stream of the session changes by moves. -/
abbrev Changes (pumped : ℕ → Prop) (s t : Session) : Prop := s.stream.Changes pumped t.stream

theorem stream_persistenceResult (s : Session) (result : Except SessionStoreError Unit) :
    (s.persistenceResult result).2.stream = s.stream := by
  cases result <;> rfl

theorem stream_persistCheckpoint (s : Session) (env : Env) :
    (s.persistCheckpoint env).2.stream = s.stream :=
  stream_persistenceResult _ _

theorem stream_persistMetadata (s : Session) (env : Env) :
    (s.persistMetadata env).2.stream = s.stream :=
  stream_persistenceResult _ _

/-- A rejected event leaves the stream. -/
theorem stream_of_project_error {event : SessionEvent} {error : SessionCommandError}
    (h : s.project event = (.error error, t)) : t.stream = s.stream := by
  unfold project at h
  cases hp : s.stream.project event with
  | mk result stream =>
    rw [hp] at h
    obtain ⟨rfl, rfl⟩ := Prod.mk.inj h
    exact Stream.eq_of_project_error hp

/-- **An event that is projected and announced,** with whatever is done to the rest of the
session in between. -/
theorem changes_announce {event : SessionEvent} {envelope : Option SessionEventEnvelope}
    (h : s.project event = (.ok envelope, t)) {u : Session} (hu : u.stream = t.stream)
    (told : Option (Option String)) : s.Changes pumped (u.announce envelope told) := by
  unfold project at h
  cases hp : s.stream.project event with
  | mk result stream =>
    rw [hp] at h
    obtain ⟨rfl, rfl⟩ := Prod.mk.inj h
    refine (Stream.changes_of_project hp).trans ?_
    simp only [announce, hu]
    exact Stream.changes_transition _ told

/-- The same without a change of the warning. -/
theorem changes_broadcast {event : SessionEvent} {envelope : Option SessionEventEnvelope}
    (h : s.project event = (.ok envelope, t)) :
    s.Changes pumped { t with stream := t.stream.broadcastSome envelope } :=
  changes_announce h (u := t) rfl none

/-- The same with a record that is written in between. -/
theorem changes_checkpoint {event : SessionEvent} {envelope : Option SessionEventEnvelope}
    (h : s.project event = (.ok envelope, t)) (env : Env) (record : SessionRecord)
    (told : Option (Option String)) :
    s.Changes pumped
      (({ t with record := record }.persistCheckpoint env).2.announce envelope told) :=
  changes_announce h (stream_persistCheckpoint { t with record := record } env) told

theorem submit_changes (s : Session) (env : Env) (prompt : String) :
    s.Changes pumped (s.submit env prompt).2 := by
  unfold submit
  cases s.ensureMutable with
  | error error => exact .refl
  | ok u =>
    cases s.harness.submit prompt ⟨s.record.cwd, s.record.plan⟩ with
    | mk result h =>
      cases result with
      | error error => exact .refl
      | ok runId =>
        cases hr : applyDurableEvent s.record (.started runId prompt) with
        | error error =>
          simp only [hr]
          exact .refl
        | ok record =>
          cases hp : { s with harness := h }.project (.started runId prompt) with
          | mk result t =>
            cases result with
            | error error =>
              simp only [hr, hp]
              rw [Changes, stream_of_project_error hp]
            | ok envelope =>
              simp only [hr, hp]
              exact changes_checkpoint hp env record _

theorem cancel_changes (s : Session) (env : Env) : s.Changes pumped (s.cancel env).2 := by
  unfold cancel
  cases s.ensureMutable with
  | error error => exact .refl
  | ok u =>
    cases s.harness.cancel with
    | mk result h =>
      cases result with
      | error error => exact .refl
      | ok runId =>
        cases hr : applyDurableEvent s.record (.cancelled runId) with
        | error error =>
          simp only [setRun, hr]
          exact .refl
        | ok record =>
          cases hp : ({ s with harness := h }.setRun false).project (.cancelled runId) with
          | mk result t =>
            simp only [setRun] at hp
            cases result with
            | error error =>
              simp only [setRun, hr, hp]
              rw [Changes, stream_of_project_error hp]
            | ok envelope =>
              simp only [setRun, hr, hp]
              exact changes_checkpoint hp env record _

theorem installPersistedTitle_changes (s : Session) (persisted : SessionRecord) :
    s.Changes pumped (s.installPersistedTitle persisted).2 := by
  unfold installPersistedTitle
  simp only
  generalize hu : ite (s.dirty.isSome = true) _ _ = u
  have hstream : u.stream = s.stream := by
    rw [← hu]
    split_ifs <;> rfl
  cases hp : u.project (.titleChanged persisted.title persisted.titleRevision) with
  | mk result t =>
    rw [Changes, ← hstream]
    cases result with
    | error error => simp only [stream_of_project_error hp]; exact .refl
    | ok envelope => exact changes_broadcast hp

theorem rename_changes (s : Session) (env : Env) (title : SessionTitle) :
    s.Changes pumped (s.rename env title).2 := by
  unfold rename
  cases s.ensureMutable with
  | error error => exact .refl
  | ok u =>
    cases s.store.rename env.fault s.record.id title with
    | mk result store =>
      cases result with
      | error error => exact .refl
      | ok persisted => exact installPersistedTitle_changes { s with store := store } persisted

theorem applyGeneratedTitle_changes (s : Session) (env : Env) (expectedRevision : ℕ)
    (generated : Except TitleGenerationError String) :
    s.Changes pumped (s.applyGeneratedTitle env expectedRevision generated).2 := by
  unfold applyGeneratedTitle
  cases s.ensureMutable with
  | error error => exact .refl
  | ok u =>
    cases generated with
    | error error => exact .refl
    | ok generated =>
      cases hs : sanitizeGeneratedTitle generated with
      | none =>
        simp only [hs]
        exact .refl
      | some title =>
        simp only [hs]
        cases s.store.compareAndSetGeneratedTitle env.fault s.record.id expectedRevision title with
        | mk result store =>
          cases result with
          | error error => exact .refl
          | ok persisted =>
            cases persisted with
            | none => exact .refl
            | some persisted =>
              exact installPersistedTitle_changes { s with store := store } persisted

theorem changeSettings_changes (s : Session) (env : Env) (settings : SessionSettings) :
    s.Changes pumped (s.changeSettings env settings).2 := by
  unfold changeSettings
  simp only
  split
  · rename_i hp
    rw [Changes, stream_of_project_error hp]
  · rename_i hp
    exact changes_announce hp (stream_persistMetadata _ env) _

theorem selectModel_changes (s : Session) (env : Env) (model : String) :
    s.Changes pumped (s.selectModel env model).2 := by
  unfold selectModel
  cases s.ensureMutable with
  | error error => exact .refl
  | ok u =>
    simp only
    split_ifs
    · exact .refl
    · exact changeSettings_changes { s with activeModel := model } env _

theorem selectReasoning_changes (s : Session) (env : Env) (reasoning : ReasoningLevel) :
    s.Changes pumped (s.selectReasoning env reasoning).2 := by
  unfold selectReasoning
  cases s.ensureMutable with
  | error error => exact .refl
  | ok u =>
    simp only
    split_ifs
    · exact .refl
    · exact changeSettings_changes { s with activeReasoning := reasoning } env _

theorem flush_changes (s : Session) (env : Env) : s.Changes pumped (s.flush env).2 := by
  unfold flush
  cases s.dirty with
  | none => exact .refl
  | some record =>
    simp only
    cases s.store.checkpoint env.fault record with
    | mk result store =>
      cases result with
      | ok u => exact s.stream.changes_transition (some none)
      | error error => exact s.stream.changes_transition (some (some error.message))

theorem exit_changes (s : Session) (reason : ActorExit) : s.Changes pumped (s.exit reason) :=
  Stream.Change.changes (.cleared .actorExited)

theorem shutdown_changes (s : Session) (env : Env) : s.Changes pumped (s.shutdown env).2 := by
  have hf := @flush_changes pumped s env
  unfold shutdown
  cases hs : s.flush env with
  | mk result t =>
    rw [hs] at hf
    cases result with
    | error error => exact hf
    | ok u => cases env.jobsShutdown <;> exact hf

/-- What the cancellation within `prepare_delete` projects is broadcast afterwards. -/
theorem quiesce_changes (s u : Session) (hu : u.stream = s.quiesce.2.2.stream)
    (told : Option (Option String)) : s.Changes pumped (u.announce s.quiesce.1 told) := by
  have hstill : ∀ {v : Session}, v.stream = s.stream → s.Changes pumped (v.announce none told) :=
    fun {v} hv => by
      have hc := @Stream.changes_transition pumped v.stream told
      rw [hv] at hc
      simpa only [Changes, announce, Stream.broadcastSome, hv] using hc
  revert hu
  unfold quiesce
  split_ifs
  · exact fun hu => hstill hu
  · cases s.harness.cancel with
    | mk result h =>
      cases result with
      | error error => exact fun hu => hstill hu
      | ok runId =>
        simp only
        cases hr : applyDurableEvent ({ s with harness := h }.setRun false).record
            (.cancelled runId) with
        | error error => exact fun hu => hstill hu
        | ok record =>
          simp only
          cases hp : { { s with harness := h }.setRun false with record := record }.project
              (.cancelled runId) with
          | mk result t =>
            cases result with
            | error error =>
              intro hu
              have ht := stream_of_project_error hp
              exact hstill (hu.trans ht)
            | ok envelope => exact fun hu => changes_announce hp hu told

theorem prepareDelete_changes (s : Session) (env : Env) :
    s.Changes pumped (s.prepareDelete env).2 := by
  unfold prepareDelete
  cases s.ensureMutable with
  | error error => exact .refl
  | ok u =>
    have hq := @quiesce_changes pumped { s with deleting := true }
    cases hs : { s with deleting := true }.quiesce with
    | mk envelope rest =>
      obtain ⟨firstError, t⟩ := rest
      rw [hs] at hq
      simp only
      cases t.store.checkpoint env.fault t.record with
      | mk result store => cases result <;> exact hq _ rfl _

theorem finishDelete_changes (s : Session) (env : Env) :
    s.Changes pumped (s.handleCommand env .finishDelete).2 := by
  cases hd : s.deleting with
  | false =>
    have hf : s.finishDelete =
        (.error (durableInvariant "session deletion was not prepared"), s) := by
      unfold finishDelete ensureDeletePrepared
      rw [hd]
      rfl
    simp only [handleCommand, hf]
    exact .refl
  | true =>
    rw [handleCommand_finishDelete hd]
    exact Relation.ReflTransGen.tail (Stream.Change.changes (.ended s.record.id))
      (.cleared .actorExited)

theorem abortDelete_changes (s : Session) (env : Env) :
    s.Changes pumped (s.handleCommand env .abortDelete).2 := by
  unfold handleCommand abortDelete
  cases s.ensureDeletePrepared with
  | error error => exact .refl
  | ok u => exact s.clearActivity.exit_changes (.delete .deleteAborted)

theorem attach_changes (s : Session) (env : Env) (connectionId : ConnectionId)
    (attachmentId : AttachmentId) :
    s.Changes pumped (s.attach env connectionId attachmentId).2 := by
  unfold attach
  split_ifs
  · exact .refl
  cases jobSnapshots env with
  | ok jobs => exact Stream.Change.changes (.attached connectionId attachmentId)
  | error error => exact Stream.Change.changes (.withdrawn connectionId attachmentId)

/-- **Every command.** -/
theorem handleCommand_changes (s : Session) (env : Env) (command : SessionCommand) :
    s.Changes pumped (s.handleCommand env command).2 := by
  cases command with
  | attach connectionId attachmentId => exact attach_changes s env connectionId attachmentId
  | detach connectionId attachmentId => exact Stream.Change.changes (.retained _)
  | detachConnection connectionId => exact Stream.Change.changes (.retained _)
  | snapshot => exact .refl
  | submit prompt => exact submit_changes s env prompt
  | cancel => exact cancel_changes s env
  | rename title => exact rename_changes s env title
  | applyGeneratedTitle expectedRevision generated =>
    exact applyGeneratedTitle_changes s env expectedRevision generated
  | prepareDelete => exact prepareDelete_changes s env
  | finishDelete => exact finishDelete_changes s env
  | abortDelete => exact abortDelete_changes s env
  | selectModel model => exact selectModel_changes s env model
  | selectReasoning reasoning => exact selectReasoning_changes s env reasoning
  | listJobs =>
    unfold handleCommand
    cases s.ensureMutable <;> exact .refl
  | cancelJob id =>
    unfold handleCommand
    cases s.ensureMutable <;> exact .refl
  | flush =>
    unfold handleCommand
    cases s.ensureNotDeleting with
    | error error => exact .refl
    | ok u => exact flush_changes s env
  | shutdown =>
    unfold handleCommand
    cases s.ensureNotDeleting with
    | error error => exact .refl
    | ok u =>
      have hs := @shutdown_changes pumped { s with shuttingDown := true } env
      simp only
      cases hd : { s with shuttingDown := true }.shutdown env with
      | mk result t =>
        rw [hd] at hs
        cases result with
        | error error => exact hs
        | ok u => exact hs.trans (t.exit_changes .shutdown)

theorem handleJobsChanged_changes (s : Session) (env : Env) :
    s.Changes pumped (s.handleJobsChanged env) := by
  unfold handleJobsChanged
  split_ifs
  · exact .refl
  cases jobSnapshots env with
  | error error => exact .refl
  | ok jobs =>
    simp only
    cases hp : s.project (.jobsChanged jobs) with
    | mk result t =>
      cases result with
      | ok envelope => exact changes_broadcast hp
      | error error => simp only [Changes, stream_of_project_error hp]; exact .refl

theorem handlePlanUpdate_changes (s : Session) (env : Env) (plan : List PlanItem)
    (explanation : Option String) :
    s.Changes pumped (s.handlePlanUpdate env plan explanation).2 := by
  unfold handlePlanUpdate
  cases hp : s.stream.projectStrict (.planChanged plan) with
  | mk result stream =>
    cases result with
    | error error => exact .refl
    | ok envelope =>
      have hc : Stream.Change pumped s.stream (s.stream.emit (.planChanged plan)) := .emitted rfl
      rw [Stream.emit, Stream.accept_of_projectStrict hp] at hc
      refine hc.changes.trans ?_
      simp only [announce, stream_persistCheckpoint]
      exact Stream.changes_transition _ _

theorem passOn_changes (s : Session) (event : SessionEvent) :
    s.Changes pumped (s.passOn event) := by
  unfold passOn
  cases hp : s.project event with
  | mk result t =>
    cases result with
    | ok envelope => exact changes_broadcast hp
    | error error => simp only [Changes, stream_of_project_error hp]; exact .refl

theorem persistDurableRunEvent_changes (s : Session) (env : Env) (event : SessionEvent)
    (commitHistory : Bool) :
    s.Changes pumped (s.persistDurableRunEvent env event commitHistory) := by
  unfold persistDurableRunEvent
  cases applyDurableEvent s.record event with
  | error error => exact .refl
  | ok record =>
    simp only
    cases hp : s.project event with
    | mk result t =>
      cases result with
      | ok envelope =>
        exact changes_checkpoint hp env _ _
      | error error => simp only [Changes, stream_of_project_error hp]; exact .refl

/-- **Every event of the active run.** -/
theorem handleRunEvent_changes (s : Session) (env : Env) (event : RunEvent) :
    s.Changes pumped (s.handleRunEvent env event) := by
  cases event with
  | started runId => exact .refl
  | assistantDelta runId text => exact s.passOn_changes _
  | toolFinished runId callId name => exact s.passOn_changes _
  | toolStarted runId callId name arguments => exact s.persistDurableRunEvent_changes env _ false
  | completed runId response => exact (s.setRun false).persistDurableRunEvent_changes env _ true
  | failed runId failure => exact (s.setRun false).persistDurableRunEvent_changes env _ false
  | cancelled runId => exact (s.setRun false).persistDurableRunEvent_changes env _ false
  | contextUsage runId inputTokens =>
    simp only [handleRunEvent]
    split
    · rename_i hp
      rw [Changes, stream_of_project_error hp]
    · rename_i hp
      exact changes_announce hp (stream_persistMetadata _ env) _

/-- **Every input of an actor changes its stream by moves.** -/
theorem step_changes (s : Session) {input : Env × ActorInput} (hs : input.2.Spares pumped) :
    s.Changes pumped (s.step input) := by
  obtain ⟨env, input⟩ := input
  unfold step
  cases input with
  | recv token => exact Stream.Change.changes (.received hs)
  | closeReceiver token => exact Stream.Change.changes (.closed hs)
  | command command =>
    simp only
    split_ifs
    · exact .refl
    · exact handleCommand_changes s env command
  | run polled =>
    simp only
    split_ifs
    · exact .refl
    cases s.harness.nextEvent polled with
    | mk event h =>
      cases event with
      | none => exact .refl
      | some event => exact { s with harness := h }.handleRunEvent_changes env event
  | jobsChanged =>
    simp only
    split_ifs
    · exact .refl
    · exact handleJobsChanged_changes s env
  | planUpdate plan explanation =>
    simp only
    split_ifs
    · exact .refl
    · exact handlePlanUpdate_changes s env plan explanation
  | handlesDropped =>
    simp only
    split_ifs
    · exact .refl
    · exact .refl
    · cases env.jobsShutdown with
      | ok u => exact s.clearActivity.exit_changes .dropped
      | error error => exact s.exit_changes .dropped

end Session

/-! ### What one registration was sent -/

namespace Stream

open Replica

variable {pumped : ℕ → Prop} {st st' : Stream} {token : ℕ} {base : SessionProjection}
  {taken : List SessionEventEnvelope}

/-- The registration `token`: it joined at the projection `base`, and its client received
`taken`. -/
structure Joined (o : Observer) (token : ℕ) (base : SessionProjection)
    (taken : List SessionEventEnvelope) : Prop where
  token : o.key.token = token
  start : o.start = base.sequence
  taken : o.channel.received = taken

/-- **What the registration `token` was sent** leads from `base` to a projection that the
session passed through, and to the present one while the observer is registered. -/
def Feeds (st : Stream) (token : ℕ) (base : SessionProjection)
    (taken : List SessionEventEnvelope) : Prop :=
  (∃ o ∈ st.observers, Joined o token base taken ∧
    Emits SessionProjection.apply base o.channel.sent st.projection) ∨
  ∃ d ∈ st.departed, Joined d.1 token base taken ∧ ∃ p,
    Emits SessionProjection.apply base d.1.channel.sent p ∧ p.sequence ≤ st.projection.sequence

/-- The observers leave, or stay with what they were sent. -/
theorem Feeds.leave (h : st.Feeds token base taken) (hp : st'.projection = st.projection)
    (hlive : ∀ o ∈ st.observers, o ∈ st'.observers ∨ ∃ reason, (o, reason) ∈ st'.departed)
    (hgone : st.departed ⊆ st'.departed) : st'.Feeds token base taken := by
  rcases h with ⟨o, ho, hjoined, hsent⟩ | ⟨d, hd, hjoined, p, hsent, hle⟩
  · rcases hlive o ho with ho' | ⟨reason, ho'⟩
    · exact .inl ⟨o, ho', hjoined, hp ▸ hsent⟩
    · exact .inr ⟨_, ho', hjoined, _, hsent, hp ▸ Nat.le_refl _⟩
  · exact .inr ⟨d, hgone hd, hjoined, p, hsent, hp ▸ hle⟩

theorem Feeds.clear (h : st.Feeds token base taken) (reason : Departure) :
    (st.clear reason).Feeds token base taken := by
  refine h.leave rfl (fun o ho => .inr ⟨reason, ?_⟩) fun d hd => List.mem_append_left _ hd
  exact List.mem_append_right _ (List.mem_map.2 ⟨o, ho, rfl⟩)

/-- The projection moves on without the observers. -/
theorem Feeds.clear_of_le (h : st.Feeds token base taken) {p' : SessionProjection}
    (hle : st.projection.sequence ≤ p'.sequence) (reason : Departure) :
    ({ st with projection := p' }.clear reason).Feeds token base taken := by
  rcases h with ⟨o, ho, hjoined, hsent⟩ | ⟨d, hd, hjoined, p, hsent, hp⟩
  · refine .inr ⟨(o, reason), ?_, hjoined, _, hsent, hle⟩
    exact List.mem_append_right _ (List.mem_map.2 ⟨o, ho, rfl⟩)
  · exact .inr ⟨d, List.mem_append_left _ hd, hjoined, p, hsent, hp.trans hle⟩

theorem Feeds.retain (h : st.Feeds token base taken) (keep : Observer → Bool) :
    (st.retain keep).Feeds token base taken := by
  refine h.leave rfl (fun o ho => ?_) fun d hd => List.mem_append_left _ hd
  cases hk : keep o with
  | true => exact .inl (List.mem_filter.2 ⟨ho, hk⟩)
  | false =>
    refine .inr ⟨.detached, List.mem_append_right _ (List.mem_map.2 ⟨o, ?_, rfl⟩)⟩
    exact List.mem_filter.2 ⟨ho, by simp [hk]⟩

/-- **A numbered envelope reaches a registered observer,** or the observer leaves. -/
theorem Feeds.retainSent (h : st.Feeds token base taken) {event : SessionEvent}
    {envelope : SessionEventEnvelope} {p' : SessionProjection}
    (ha : st.projection.apply event = .ok (envelope, p')) (log : List SessionEventEnvelope)
    {send : Observer → Option Observer}
    (hsend : ∀ o o', send o = some o' →
      o' = { o with channel := { o.channel with queue := o.channel.queue ++ [envelope] } }) :
    ({ st with projection := p', log := log }.retainSent send).Feeds token base taken := by
  have hle : st.projection.sequence ≤ p'.sequence := by
    obtain ⟨-, -, -, rfl⟩ := SessionProjection.apply_eq_ok_iff.1 ha
    exact Nat.le_succ _
  rcases h with ⟨o, ho, hjoined, hsent⟩ | ⟨d, hd, hjoined, p, hsent, hp⟩
  · cases hs : send o with
    | some o' =>
      have ho' := hsend o o' hs
      subst ho'
      refine .inl ⟨_, List.mem_filterMap.2 ⟨o, ho, hs⟩,
        ⟨hjoined.token, hjoined.start, hjoined.taken⟩, ?_⟩
      have hmore := hsent.snoc ha
      rwa [Channel.sent, List.append_assoc] at hmore
    | none =>
      refine .inr ⟨(o, failure o), List.mem_append_right _ ?_, hjoined, _, hsent, hle⟩
      exact List.mem_map.2 ⟨o, List.mem_filter.2 ⟨ho, by simp [hs]⟩, rfl⟩
  · exact .inr ⟨d, List.mem_append_left _ hd, hjoined, p, hsent, hp.trans hle⟩

/-- **Every event that validates** reaches the registered observers or finds them gone. -/
theorem Feeds.emit (h : st.Feeds token base taken) {event : SessionEvent}
    (hv : st.projection.validateEvent event = .ok ()) : (st.emit event).Feeds token base taken := by
  unfold Stream.emit accept
  split_ifs with hs
  · refine h.retainSent (SessionProjection.apply_eq_ok_iff.2 ⟨hs, hv, rfl, rfl⟩) _ fun o o' ho => ?_
    exact (Fanout.Subscriber.offer_eq_some_iff.1 ho).2.2
  · exact h.clear_of_le (by simp) _

theorem Feeds.emitTerminal (h : st.Feeds token base taken) {event : SessionEvent}
    (hv : st.projection.validateEvent event = .ok ()) :
    (st.emitTerminal event).Feeds token base taken := by
  unfold Stream.emitTerminal accept
  split_ifs with hs
  · refine h.retainSent (SessionProjection.apply_eq_ok_iff.2 ⟨hs, hv, rfl, rfl⟩) _ fun o o' ho => ?_
    exact (sendTerminal_eq_some_iff.1 ho).2.2
  · exact h.clear_of_le (by simp) _

/-- What is done with a channel shows at its registration alone. -/
theorem Feeds.onChannel (h : st.Feeds token base taken) (t : ℕ) {f : Observer → Observer}
    (hkey : ∀ o, (f o).key = o.key) (hstart : ∀ o, (f o).start = o.start)
    (hsent : ∀ o, (f o).channel.sent = o.channel.sent) {taken' : List SessionEventEnvelope}
    (htaken : ∀ o ∈ st.registered, Joined o token base taken →
      (if o.key.token = t then f o else o).channel.received = taken') :
    (st.onChannel t f).Feeds token base taken' := by
  have hone : ∀ o ∈ st.registered, Joined o token base taken →
      Joined (if o.key.token = t then f o else o) token base taken' ∧
        (if o.key.token = t then f o else o).channel.sent = o.channel.sent := by
    intro o ho hjoined
    have hreceived := htaken o ho hjoined
    split_ifs at hreceived ⊢
    · exact ⟨⟨hkey o ▸ hjoined.token, hstart o ▸ hjoined.start, hreceived⟩, hsent o⟩
    · exact ⟨⟨hjoined.token, hjoined.start, hreceived⟩, rfl⟩
  rcases h with ⟨o, ho, hjoined, hemits⟩ | ⟨d, hd, hjoined, p, hemits, hp⟩
  · obtain ⟨hjoined', hsent'⟩ := hone o (List.mem_append_left _ ho) hjoined
    exact .inl ⟨_, List.mem_map_of_mem ho, hjoined', by rw [hsent']; exact hemits⟩
  · obtain ⟨hjoined', hsent'⟩ := hone d.1 (List.mem_append_right _ (List.mem_map_of_mem hd)) hjoined
    have hfst : (if d.1.key.token = t then (f d.1, d.2) else d).1 =
        if d.1.key.token = t then f d.1 else d.1 := by
      split_ifs <;> rfl
    refine .inr ⟨_, List.mem_map_of_mem hd, ?_⟩
    rw [hfst]
    exact ⟨hjoined', p, by rw [hsent']; exact hemits, hp⟩

/-- **Every move keeps what a pumped registration was sent.** -/
theorem Feeds.change (h : st.Feeds token base taken) (hpumped : pumped token)
    (hc : Change pumped st st') : st'.Feeds token base taken := by
  have hother : ∀ {t : ℕ}, ¬pumped t → ∀ (f : Observer → Observer), ∀ o ∈ st.registered,
      Joined o token base taken →
        (if o.key.token = t then f o else o).channel.received = taken := by
    intro t hn f o ho hjoined
    rw [if_neg, hjoined.taken]
    rintro rfl
    exact hn (hjoined.token ▸ hpumped)
  cases hc with
  | emitted hv => exact h.emit hv
  | ended id => exact h.emitTerminal rfl
  | cleared reason => exact h.clear reason
  | retained keep => exact h.retain keep
  | attached connectionId attachmentId =>
    exact h.leave rfl (fun o ho => .inl (List.mem_append_left _ ho)) fun d hd => hd
  | withdrawn connectionId attachmentId =>
    refine h.leave rfl (fun o ho => .inl ?_) fun d hd => hd
    simpa [push] using ho
  | received hn =>
    exact h.onChannel (f := Fanout.Subscriber.recv) _ (fun _ => rfl) (fun _ => rfl)
      (fun o => Channel.sent_recv o.channel) (hother hn _)
  | closed hn =>
    exact h.onChannel (f := Fanout.Subscriber.close) _ (fun _ => rfl) (fun _ => rfl)
      (fun o => Channel.sent_close o.channel) (hother hn _)

theorem Feeds.changes (h : st.Feeds token base taken) (hpumped : pumped token)
    (hc : Changes pumped st st') : st'.Feeds token base taken := by
  induction hc with
  | refl => exact h
  | tail _ hc ih => exact ih.change hpumped hc

/-- The sequence number never falls. -/
theorem Change.sequence_le (hc : Change pumped st st') :
    st.projection.sequence ≤ st'.projection.sequence := by
  have haccept (event : SessionEvent) :
      st.projection.sequence ≤ (st.accept event).2.projection.sequence := by
    unfold accept
    split_ifs
    · exact Nat.le_succ _
    · exact Nat.le_of_eq (SessionProjection.reduce_sequence _ _).symm
  cases hc with
  | emitted hv =>
    rw [emit, broadcastSome_projection]
    exact haccept _
  | ended id =>
    have h := haccept (.deleted id)
    unfold emitTerminal
    split <;> rename_i heq <;> rw [heq] at h <;> exact h
  | _ => exact Nat.le_refl _

theorem Changes.sequence_le (hc : Changes pumped st st') :
    st.projection.sequence ≤ st'.projection.sequence := by
  induction hc with
  | refl => exact Nat.le_refl _
  | tail _ hc ih => exact ih.trans hc.sequence_le

/-- What the pump of a registration takes from its channel. -/
theorem Feeds.recv (h : st.Feeds token base taken) {reserve : ℕ} (hg : st.Gapless reserve)
    {o : Observer} (ho : o ∈ st.registered) (htoken : o.key.token = token) :
    (st.recv token).Feeds token base o.channel.recv.received := by
  refine h.onChannel (f := Fanout.Subscriber.recv) token (fun _ => rfl) (fun _ => rfl)
    (fun o => Channel.sent_recv o.channel) ?_
  intro o' ho' hjoined
  obtain rfl : o' = o :=
    List.inj_on_of_nodup_map hg.tokens_nodup ho' ho (hjoined.token.trans htoken.symm)
  rw [if_pos htoken]
  rfl

end Stream
end Moh
