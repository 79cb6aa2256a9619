/-
# What one input does to an actor

The invariants of an actor are about its record, its stream, its harness, the
record it still has to write and its row (`Core`).  `Effect` lists the changes of
these that are made as one: the handlers only differ in the `Move` they make and
in the repository call they write it with.  While the representations of the
session agree, every input is a sequence of effects (`step_effects`), and every
effect leaves the representations in agreement (`Core.Agrees.effect`).
-/

import Moh.Session.Agreement
import Moh.Session.Gapless
import Mathlib.Logic.Relation

namespace Moh

/-- The part of an actor that its invariants are about. -/
structure Core where
  record : SessionRecord
  stream : Stream
  harness : Harness
  dirty : Option SessionRecord
  store : SessionStore
  deleting : Bool

/-- The core of an actor. -/
def Session.core (s : Session) : Core :=
  ⟨s.record, s.stream, s.harness, s.dirty, s.store, s.deleting⟩

/-- The change of the persistence warning after a write: a warning is withdrawn by
a write that succeeds, and every failure is announced. -/
def transition (warning : Option String) : Except SessionStoreError Unit → Option (Option String)
  | .ok () => warning.map fun _ => none
  | .error error => some (some error.message)

/-- The warning that `flush` announces, whether or not one was shown before. -/
def flushWarning : Except SessionStoreError Unit → Option String
  | .ok () => none
  | .error error => some error.message

namespace Core

/-- An event that the projection accepts. -/
def accept (c : Core) : Option SessionEvent → Option SessionEventEnvelope × Stream
  | none => (none, c.stream)
  | some event => c.stream.accept event

/-- A move, written by `write`, with the change of the warning that is `told`. -/
def settle (c : Core) (event : Option SessionEvent) (record : SessionRecord) (h : Harness)
    (write : Except SessionStoreError Unit × SessionStore) (told : Option (Option String)) :
    Core where
  record := record
  stream :=
    ((c.accept event).2.broadcastSome (c.accept event).1).broadcastPersistenceTransition told
  harness := h
  dirty :=
    match write.1 with
    | .ok () => none
    | .error _ => some record
  store := write.2
  deleting := c.deleting

/-- A repository call that writes the whole record, or its metadata when nothing
else changed and nothing is pending. -/
def Writes (c : Core) (record : SessionRecord)
    (write : Except SessionStoreError Unit × SessionStore) : Prop :=
  (∃ fault, write = c.store.checkpoint fault record) ∨
    c.dirty = none ∧
      record = { c.record with settings := record.settings, lastActivity := record.lastActivity } ∧
        ∃ fault, write = c.store.updateMetadata fault record

end Core

/-- What an `Attach` registers: the connection and the attachment. -/
abbrev Registration := ConnectionId × AttachmentId

/-- **The changes of a core that are made as one,** by an input that registers
`attaching`. -/
inductive Effect (attaching : Option Registration) (c : Core) : Core → Prop where
  /-- An observer is registered. -/
  | attached {connectionId : ConnectionId} {attachmentId : AttachmentId}
    (ha : attaching = some (connectionId, attachmentId)) :
    Effect attaching c { c with stream := c.stream.push connectionId attachmentId }
  /-- Observers leave and channels change; the projection keeps all but its number. -/
  | observed {stream : Stream}
    (hp : ∃ n, stream.projection = { c.stream.projection with sequence := n })
    (hg : c.stream.Gapless terminalEventReserve → stream.Gapless terminalEventReserve)
    (hi : c.stream.Inherits stream) (hl : c.deleting = false → stream.log = c.stream.log) :
    Effect attaching c { c with stream := stream }
  /-- An event that changes nothing durable. -/
  | noticed {event : SessionEvent} (hn : Notice c.harness event) :
    Effect attaching c { c with stream := c.stream.emit event }
  /-- A run is given up before anything but the harness knew it. -/
  | gaveUp {h : Harness} (hhistory : h.history = c.harness.history)
    (hactive : h.active = c.harness.active) : Effect attaching c { c with harness := h }
  /-- The deletion begins. -/
  | condemned : Effect attaching c { c with deleting := true }
  /-- A move is made, written and announced. -/
  | settled {event : Option SessionEvent} {record : SessionRecord} {h : Harness}
    {write : Except SessionStoreError Unit × SessionStore} {told : Option (Option String)}
    (hm : Move c.record c.harness event record h) (hw : c.Writes record write)
    (ht : c.deleting = false →
      told = transition (c.accept event).2.projection.persistenceWarning write.1) :
    Effect attaching c (c.settle event record h write told)
  /-- The row has a new title, and the record takes it over. -/
  | retitled {persisted : SessionRecord} {store : SessionStore}
    (hr : c.store.Retitled c.record.id persisted store) :
    Effect attaching c
      (let record :=
        { c.record with
          title := persisted.title
          titleSource := persisted.titleSource
          titleRevision := persisted.titleRevision }
      { c with
        record := record
        dirty := c.dirty.map fun _ => record
        store := store
        stream := c.stream.emit (.titleChanged persisted.title persisted.titleRevision) })
  /-- The pending record is written. -/
  | flushed {pending : SessionRecord} {write : Except SessionStoreError Unit × SessionStore}
    (hd : c.dirty = some pending) (hl : c.deleting = false)
    (hw : ∃ fault, write = c.store.checkpoint fault pending) :
    Effect attaching c
      { c with
        dirty :=
          match write.1 with
          | .ok () => none
          | .error _ => some c.record
        store := write.2
        stream := c.stream.broadcastPersistenceTransition (some (flushWarning write.1)) }

/-- A sequence of effects. -/
abbrev Effects (attaching : Option Registration) : Core → Core → Prop :=
  Relation.ReflTransGen (Effect attaching)

theorem Effect.effects {attaching : Option Registration} {c c' : Core}
    (h : Effect attaching c c') : Effects attaching c c' := .single h

/-! ### Effects keep the representations in agreement -/

/-- The record, the projection and the harness of the core agree. -/
def Core.Agrees (c : Core) : Prop := Agreement c.record c.stream.projection c.harness

namespace Core

variable {a : Option Registration} {c c' : Core}

/-- A persistence warning changes nothing that the representations share. -/
theorem agreement_of_transition {record : SessionRecord} {st : Stream} {h : Harness}
    (ha : Agreement record st.projection h) (told : Option (Option String)) :
    Agreement record (st.broadcastPersistenceTransition told).projection h := by
  cases told with
  | none => exact ha
  | some warning =>
    obtain ⟨n, hn⟩ := st.exists_emit_projection (.persistenceWarning warning)
    rw [Stream.broadcastPersistenceTransition_some, hn]
    exact (ha.withWarning warning).withSequence n

/-- **Every effect keeps the representations in agreement.** -/
theorem Agrees.effect (ha : c.Agrees) (he : Effect a c c') : c'.Agrees := by
  cases he with
  | attached _ => exact ha
  | observed hp hg hi hl =>
    obtain ⟨n, hn⟩ := hp
    rw [Agrees, hn]
    exact ha.withSequence n
  | @noticed event hn =>
    obtain ⟨n, hp⟩ := c.stream.exists_emit_projection event
    rw [Agrees, hp]
    exact (ha.notice hn).withSequence n
  | gaveUp hhistory hactive => exact ha.gaveUp hhistory hactive
  | condemned => exact ha
  | @settled event record h write told hm hw ht =>
    refine agreement_of_transition ?_ told
    rw [Stream.broadcastSome_projection]
    cases event with
    | none =>
      cases hm
      exact ha
    | some event =>
      obtain ⟨n, hn⟩ := c.stream.exists_accept_projection event
      rw [accept, hn]
      exact (ha.move hm).withSequence n
  | @retitled persisted store hr =>
    obtain ⟨n, hn⟩ :=
      c.stream.exists_emit_projection (.titleChanged persisted.title persisted.titleRevision)
    simp only [Agrees, hn]
    exact (ha.retitled _ persisted.titleSource _).withSequence n
  | flushed hd hl hw => exact agreement_of_transition ha _

theorem Agrees.effects (ha : c.Agrees) (he : Effects a c c') : c'.Agrees := by
  induction he with
  | refl => exact ha
  | tail _ he ih => exact ih.effect he

/-! ### Effects keep the stream gapless -/

/-- **Every effect keeps the stream gapless.** -/
theorem gapless_effect (hg : c.stream.Gapless terminalEventReserve) (he : Effect a c c') :
    c'.stream.Gapless terminalEventReserve := by
  cases he with
  | attached _ => exact hg.push _ _
  | observed hp hstream hi hl => exact hstream hg
  | noticed hn => exact hg.emit _
  | gaveUp hhistory hactive => exact hg
  | condemned => exact hg
  | @settled event record h write told hm hw ht =>
    refine Stream.Gapless.broadcastPersistenceTransition ?_ told
    cases event with
    | none => exact hg
    | some event => exact hg.emit event
  | retitled hr => exact hg.emit _
  | @flushed pending write hd hl hw =>
    exact hg.broadcastPersistenceTransition (some (flushWarning write.1))

theorem gapless_effects (hg : c.stream.Gapless terminalEventReserve) (he : Effects a c c') :
    c'.stream.Gapless terminalEventReserve := by
  induction he with
  | refl => exact hg
  | tail _ he ih => exact gapless_effect ih he

/-! ### Only an attachment registers observers -/

theorem inherits_effect (he : Effect none c c') : c.stream.Inherits c'.stream := by
  cases he with
  | attached h => exact absurd h (by simp)
  | observed hp hg hi hl => exact hi
  | noticed hn => exact c.stream.inherits_emit _
  | gaveUp hhistory hactive => exact .refl _
  | condemned => exact .refl _
  | @settled event record h write told hm hw ht =>
    refine Stream.Inherits.trans ?_ (Stream.inherits_broadcastPersistenceTransition _ told)
    cases event with
    | none => exact .refl _
    | some event => exact c.stream.inherits_emit event
  | retitled hr => exact c.stream.inherits_emit _
  | @flushed pending write hd hl hw =>
    exact c.stream.inherits_broadcastPersistenceTransition (some (flushWarning write.1))

/-- **Without an attachment every observer is an earlier one.** -/
theorem inherits_effects (he : Effects none c c') : c.stream.Inherits c'.stream := by
  induction he with
  | refl => exact .refl _
  | tail _ he ih => exact ih.trans (inherits_effect he)

end Core

/-! ### Handlers -/

/-- What a command registers. -/
def SessionCommand.attaching : SessionCommand → Option Registration
  | .attach connectionId attachmentId => some (connectionId, attachmentId)
  | _ => none

/-- What an input registers. -/
def ActorInput.attaching : ActorInput → Option Registration
  | .command c => c.attaching
  | _ => none

namespace Session

variable {s : Session} {a : Option Registration}

/-- The representations of the session agree. -/
abbrev Agrees (s : Session) : Prop := Agreement s.record s.stream.projection s.harness

theorem project_of_valid {e : SessionEvent} (h : s.stream.projection.validateEvent e = .ok ()) :
    s.project e = (.ok (s.stream.accept e).1, { s with stream := (s.stream.accept e).2 }) := by
  rw [project, Stream.project_of_valid h]

/-- **A handler that makes a move, writes it and announces the outcome** has
settled it. -/
theorem settled_effects {t : Session} {event : Option SessionEvent} {record : SessionRecord}
    {h : Harness} {write : Except SessionStoreError Unit × SessionStore}
    (hm : Move s.record s.harness event record h) (hw : s.core.Writes record write)
    (ht : t.core =
      { s.core with
        record := record
        harness := h
        stream := (s.core.accept event).2
        store := write.2 }) :
    Effects a s.core ((t.persistenceResult write.1).2.announce (s.core.accept event).1
      (t.persistenceResult write.1).1).core := by
  have hs : Effect a s.core _ := .settled hm hw fun _ => rfl
  have hrecord : t.record = record := congrArg Core.record ht
  have hstream : t.stream = (s.core.accept event).2 := congrArg Core.stream ht
  have hc : ((t.persistenceResult write.1).2.announce (s.core.accept event).1
      (t.persistenceResult write.1).1).core =
        { t.core with
          dirty :=
            match write.1 with
            | .ok () => none
            | .error _ => some t.record
          stream := (t.stream.broadcastSome (s.core.accept event).1).broadcastPersistenceTransition
            (transition t.stream.projection.persistenceWarning write.1) } := by
    cases write.1 <;> rfl
  rw [hc, ht, hrecord, hstream]
  exact hs.effects

/-- A checkpoint writes the whole record. -/
theorem writes_checkpoint (s : Session) (env : Env) (record : SessionRecord) :
    s.core.Writes record (s.store.checkpoint env.fault record) :=
  .inl ⟨env.fault, rfl⟩

theorem submit_effects (ha : s.Agrees) (env : Env) (prompt : String) :
    Effects a s.core (s.submit env prompt).2.core := by
  unfold submit
  cases s.ensureMutable with
  | error error => exact .refl
  | ok u =>
    cases hsub : s.harness.submit prompt ⟨s.record.cwd, s.record.plan⟩ with
    | mk result h =>
      cases result with
      | error error => exact .refl
      | ok runId =>
        obtain ⟨hidle, hhistory, hactive⟩ := Harness.submit_eq_ok hsub
        cases hr : applyDurableEvent s.record (.started runId prompt) with
        | error error =>
          simp only [hr]
          exact (Effect.gaveUp (by simp [core, hhistory]) (by simp [core, hidle])).effects
        | ok record =>
          have hm : Move s.record s.harness (some (.started runId prompt)) record h :=
            .started hsub hr
          have hp := project_of_valid (s := { s with harness := h }) (ha.validate hm)
          simp only [hr, hp]
          exact settled_effects hm (s.writes_checkpoint env record) rfl

/-- While the representations agree, the active run can be cancelled. -/
theorem exists_cancelled (ha : s.Agrees) {run : ActiveRun} (hrun : s.harness.active = some run) :
    ∃ record, applyDurableEvent s.record (.cancelled run.id) = .ok record := by
  obtain ⟨turns, hend, -⟩ := ha.endTurn hrun .cancelled (by decide) (.cancelled run.id)
  exact ⟨_, hend⟩

theorem cancel_effects (ha : s.Agrees) (env : Env) : Effects a s.core (s.cancel env).2.core := by
  unfold cancel
  cases s.ensureMutable with
  | error error => exact .refl
  | ok u =>
    cases hcan : s.harness.cancel with
    | mk result h =>
      cases result with
      | error error => exact .refl
      | ok runId =>
        obtain ⟨run, hrun, rfl, rfl⟩ := Harness.cancel_eq_ok hcan
        obtain ⟨record, hr⟩ := exists_cancelled ha hrun
        have hm := Move.cancelled (h := s.harness) hrun hr
        have hp := project_of_valid
          (s := { s with harness := { s.harness with active := none } }.setRun false)
          (ha.validate hm)
        simp only [setRun] at hp
        simp only [setRun, hr, hp]
        exact settled_effects hm (s.writes_checkpoint env record) rfl

/-- A new title is projected in every state. -/
theorem project_titleChanged (s : Session) (title : SessionTitle) (titleRevision : ℕ) :
    s.project (.titleChanged title titleRevision) =
      (.ok (s.stream.accept (.titleChanged title titleRevision)).1,
        { s with stream := (s.stream.accept (.titleChanged title titleRevision)).2 }) :=
  project_of_valid rfl

/-- A new title, and the record that takes it over. -/
theorem installPersistedTitle_effects {persisted : SessionRecord} {store : SessionStore}
    (hr : s.store.Retitled s.record.id persisted store) :
    Effects a s.core ({ s with store := store }.installPersistedTitle persisted).2.core := by
  have he : Effects a s.core _ := .single (.retitled hr)
  unfold installPersistedTitle
  cases hd : s.dirty with
  | none =>
    simpa only [project_titleChanged, Stream.emit, core, hd, Option.map_none, Option.isSome_none,
      Bool.false_eq_true, if_false] using he
  | some pending =>
    simpa only [project_titleChanged, Stream.emit, core, hd, Option.map_some, Option.isSome_some,
      if_true] using he

theorem rename_effects (env : Env) (title : SessionTitle) :
    Effects a s.core (s.rename env title).2.core := by
  unfold rename
  cases s.ensureMutable with
  | error error => exact .refl
  | ok u =>
    cases hw : s.store.rename env.fault s.record.id title with
    | mk result store =>
      cases result with
      | error error =>
        obtain rfl := SessionStore.attempt_eq_error hw
        exact .refl
      | ok persisted => exact installPersistedTitle_effects (SessionStore.rename_eq_ok hw).1

theorem applyGeneratedTitle_effects (env : Env) (expectedRevision : ℕ)
    (generated : Except TitleGenerationError String) :
    Effects a s.core (s.applyGeneratedTitle env expectedRevision generated).2.core := by
  unfold applyGeneratedTitle
  cases s.ensureMutable with
  | error error => exact .refl
  | ok u =>
    cases generated with
    | error error => exact .refl
    | ok generated =>
      cases hs : sanitizeGeneratedTitle generated with
      | none => simp only [hs]; exact .refl
      | some title =>
        cases hw : s.store.compareAndSetGeneratedTitle env.fault s.record.id expectedRevision
            title with
        | mk result store =>
          cases result with
          | error error =>
            obtain rfl := SessionStore.attempt_eq_error hw
            simp only [hs, hw]
            exact .refl
          | ok persisted =>
            simp only [hs, hw]
            obtain ⟨rfl, rfl⟩ | ⟨record, rfl, hr⟩ :=
              SessionStore.compareAndSetGeneratedTitle_eq_ok hw
            · exact .refl
            · exact installPersistedTitle_effects hr

/-- A metadata update writes the settings while nothing is pending. -/
theorem writes_metadata (s : Session) (env : Env) (record : SessionRecord)
    (hr : record =
      { s.record with settings := record.settings, lastActivity := record.lastActivity }) :
    s.core.Writes record
      (if s.dirty.isSome then s.store.checkpoint env.fault record
        else s.store.updateMetadata env.fault record) := by
  cases hd : s.dirty with
  | none => exact .inr ⟨hd, hr, env.fault, rfl⟩
  | some pending => exact .inl ⟨env.fault, rfl⟩

theorem changeSettings_effects (env : Env) (settings : SessionSettings) :
    Effects a s.core (s.changeSettings env settings).2.core := by
  have hm : Move s.record s.harness _ _ _ := .settings settings env.now
  have hp := project_of_valid (e := .settingsChanged settings env.now)
    (s := { s with record := { s.record with settings := settings, lastActivity := env.now } }) rfl
  unfold changeSettings
  simp only [hp]
  exact settled_effects hm (s.writes_metadata env _ rfl) rfl

theorem selectModel_effects (env : Env) (model : String) :
    Effects a s.core (s.selectModel env model).2.core := by
  unfold selectModel
  cases s.ensureMutable with
  | error error => exact .refl
  | ok u =>
    simp only
    split_ifs
    · exact .refl
    · exact changeSettings_effects (s := { s with activeModel := model }) env _

theorem selectReasoning_effects (env : Env) (reasoning : ReasoningLevel) :
    Effects a s.core (s.selectReasoning env reasoning).2.core := by
  unfold selectReasoning
  cases s.ensureMutable with
  | error error => exact .refl
  | ok u =>
    simp only
    split_ifs
    · exact .refl
    · exact changeSettings_effects (s := { s with activeReasoning := reasoning }) env _

theorem flush_effects (hl : s.deleting = false) (env : Env) :
    Effects a s.core (s.flush env).2.core := by
  unfold flush
  cases hd : s.dirty with
  | none => exact .refl
  | some pending =>
    have he : Effect a s.core _ := .flushed hd hl ⟨env.fault, rfl⟩
    cases hw : s.store.checkpoint env.fault pending with
    | mk result store =>
      have hw' : s.core.store.checkpoint env.fault pending = (result, store) := hw
      rw [hw'] at he
      simp only [hw]
      cases result with
      | error error => exact he.effects
      | ok u => exact he.effects

/-- The observers of an actor that stops are dropped. -/
theorem exit_effects (s : Session) (reason : ActorExit) : Effects a s.core (s.exit reason).core :=
  have he : Effect a s.core { s.core with stream := s.stream.clear .actorExited } :=
    .observed ⟨_, rfl⟩ (fun hg => hg.clear .actorExited) (s.stream.inherits_clear _) fun _ => rfl
  he.effects

theorem shutdown_effects (hl : s.deleting = false) (env : Env) :
    Effects a s.core (s.shutdown env).2.core := by
  have he : Effects a s.core _ := flush_effects hl env
  unfold shutdown
  cases hf : s.flush env with
  | mk result t =>
    rw [hf] at he
    cases result with
    | error error => exact he
    | ok u => cases env.jobsShutdown <;> exact he

/-- The cancellation of `prepare_delete` succeeds when a run is active. -/
theorem quiesce_of_active (ha : s.Agrees) {run : ActiveRun} (hrun : s.harness.active = some run) :
    ∃ record, applyDurableEvent s.record (.cancelled run.id) = .ok record ∧
      s.quiesce = ((s.core.accept (some (.cancelled run.id))).1, none,
        { s with
          record := record
          harness := { s.harness with active := none }
          stream := (s.core.accept (some (.cancelled run.id))).2
          activity := s.activity.setRun s.record.id false }) := by
  obtain ⟨record, hr⟩ := exists_cancelled ha hrun
  have hm := Move.cancelled (h := s.harness) hrun hr
  have hcan : s.harness.cancel = (.ok run.id, { s.harness with active := none }) := by
    unfold Harness.cancel
    rw [hrun]
  have hp := project_of_valid
    (s :=
      { s with
        record := record
        harness := { s.harness with active := none }
        activity := s.activity.setRun s.record.id false })
    (ha.validate hm)
  refine ⟨record, hr, ?_⟩
  unfold quiesce Harness.isRunning
  simp only [hrun, hcan, setRun, hr, hp, Option.isSome_some, Bool.true_eq_false, if_false]
  rfl

/-- The cancellation of `prepare_delete` is a move, or nothing runs. -/
theorem quiesce_move (ha : s.Agrees) :
    ∃ event record h activity, Move s.record s.harness event record h ∧
      s.quiesce = ((s.core.accept event).1, none,
        { s with
          record := record
          harness := h
          stream := (s.core.accept event).2
          activity := activity }) := by
  cases hrun : s.harness.active with
  | none =>
    refine ⟨none, s.record, s.harness, s.activity, .still, ?_⟩
    rw [quiesce, Harness.isRunning, hrun]
    rfl
  | some run =>
    obtain ⟨record, hr, hq⟩ := quiesce_of_active ha hrun
    exact ⟨_, _, _, _, Move.cancelled hrun hr, hq⟩

theorem prepareDelete_effects (ha : s.Agrees) (env : Env) :
    Effects a s.core (s.prepareDelete env).2.core := by
  unfold prepareDelete
  cases s.ensureMutable with
  | error error => exact .refl
  | ok u =>
    obtain ⟨event, record, h, activity, hm, hq⟩ :=
      quiesce_move (s := { s with deleting := true }) ha
    have hc : Effects a s.core { s with deleting := true }.core := Effect.condemned.effects
    refine hc.trans ?_
    cases hw : s.store.checkpoint env.fault record with
    | mk result store =>
      have hs (told : Option (Option String)) :
          Effects a { s with deleting := true }.core
            ({ s with deleting := true }.core.settle event record h
              (s.store.checkpoint env.fault record) told) :=
        .single (.settled hm (writes_checkpoint { s with deleting := true } env record) fun hl =>
          absurd hl (by simp [core]))
      simp only [hw] at hs
      simp only [hq, hw]
      cases result with
      | error error => exact hs none
      | ok u => exact hs ((s.core.accept event).2.projection.persistenceWarning.map fun _ => none)

/-- **The end of a deletion:** the terminal event, to whoever is registered. -/
theorem finishDelete_of_deleting (hd : s.deleting = true) :
    s.finishDelete = (.ok (),
      { s with stream := s.stream.emitTerminal (.deleted s.record.id) }.clearActivity) := by
  have hp := project_of_valid (s := s) (e := .deleted s.record.id) rfl
  unfold finishDelete ensureDeletePrepared Stream.emitTerminal
  simp only [hd, if_true, hp]
  cases s.stream.accept (.deleted s.record.id) with
  | mk envelope stream => cases envelope <;> rfl

/-- An actor whose session is deleted drops its observers after the terminal
event. -/
theorem finishDelete_effects (env : Env) :
    Effects a s.core (s.handleCommand env .finishDelete).2.core := by
  cases hd : s.deleting with
  | false =>
    have hf : s.finishDelete =
        (.error (durableInvariant "session deletion was not prepared"), s) := by
      unfold finishDelete ensureDeletePrepared
      rw [hd]
      rfl
    simp only [handleCommand, hf]
    exact .refl
  | true =>
    simp only [handleCommand, finishDelete_of_deleting hd]
    obtain ⟨n, hn⟩ := s.stream.exists_emitTerminal_projection (.deleted s.record.id)
    have he : Effect a s.core
        { s.core with
          stream := (s.stream.emitTerminal (.deleted s.record.id)).clear .actorExited } :=
      .observed ⟨n, hn⟩ (fun hg => (hg.emitTerminal _).clear _)
        ((s.stream.inherits_emitTerminal _).trans (Stream.inherits_clear _ _))
        fun hl => absurd (hl.symm.trans hd) (by simp)
    exact he.effects

theorem abortDelete_effects (env : Env) :
    Effects a s.core (s.handleCommand env .abortDelete).2.core := by
  unfold handleCommand abortDelete
  cases s.ensureDeletePrepared with
  | error error => exact .refl
  | ok u => exact s.clearActivity.exit_effects _

theorem handleJobsChanged_effects (env : Env) :
    Effects a s.core (s.handleJobsChanged env).core := by
  unfold handleJobsChanged
  split_ifs
  · exact .refl
  cases jobSnapshots env with
  | error error => exact .refl
  | ok jobs =>
    have hp := project_of_valid (s := s) (e := .jobsChanged jobs) rfl
    simp only [hp]
    exact (Effect.noticed (c := s.core) (.jobsChanged jobs)).effects

theorem handlePlanUpdate_effects (env : Env) (plan : List PlanItem) (explanation : Option String) :
    Effects a s.core (s.handlePlanUpdate env plan explanation).2.core := by
  unfold handlePlanUpdate
  cases hp : s.stream.projectStrict (.planChanged plan) with
  | mk result stream =>
    cases result with
    | error error => exact .refl
    | ok envelope =>
      have hacc := Stream.accept_of_projectStrict hp
      have hm : Move s.record s.harness _ _ _ := .plan plan
      have hs := settled_effects (s := s) (a := a)
        (t :=
          { s with
            record := { s.record with plan := plan }
            stream := stream
            store := (s.store.checkpoint env.fault { s.record with plan := plan }).2 })
        hm (s.writes_checkpoint env _) (by simp only [core, Core.accept, hacc])
      simp only [core, Core.accept, hacc] at hs
      exact hs

/-- An event that changes nothing durable is passed on. -/
theorem passOn_effects (ha : s.Agrees) {event : SessionEvent} (hn : Notice s.harness event) :
    Effects a s.core (s.passOn event).core := by
  unfold passOn
  rw [project_of_valid (ha.validate_notice hn)]
  exact (Effect.noticed (c := s.core) hn).effects

/-- An event of the active run that is durable; the harness took it already. -/
theorem persistDurableRunEvent_effects (ha : s.Agrees) (env : Env) {event : SessionEvent}
    {commitHistory : Bool} {h : Harness} {record : SessionRecord} (activity : ActivityTracker)
    (hr : applyDurableEvent s.record event = .ok record)
    (hm : Move s.record s.harness (some event)
      (if commitHistory then { record with history := h.history } else record) h) :
    Effects a s.core ({ s with harness := h, activity := activity }.persistDurableRunEvent env event
      commitHistory).core := by
  have hp := project_of_valid (s := { s with harness := h, activity := activity }) (ha.validate hm)
  unfold persistDurableRunEvent
  simp only [hr, hp]
  exact settled_effects hm (s.writes_checkpoint env _) rfl

/-- **Every event of the active run.** -/
theorem handleRunEvent_effects (ha : s.Agrees) (env : Env) {run : ActiveRun} {event : RunEvent}
    {h : Harness} (hrun : s.harness.active = some run) (hp : s.harness.Progress run event h) :
    Effects a s.core ({ s with harness := h }.handleRunEvent env event).core := by
  cases hp with
  | assistantDelta text => exact passOn_effects ha (.assistantDelta hrun text)
  | toolFinished callId name => exact passOn_effects ha (.toolFinished hrun callId name)
  | contextUsage inputTokens =>
    have hm : Move s.record s.harness _ _ _ := .contextUsage inputTokens env.now hrun
    have hproj := project_of_valid
      (s :=
        { s with
          record :=
            { s.record with
              settings := { s.record.settings with contextTokens := inputTokens }
              lastActivity := env.now } })
      (ha.validate hm)
    unfold handleRunEvent
    simp only [hproj]
    exact settled_effects hm (s.writes_metadata env _ rfl) rfl
  | toolStarted callId name arguments =>
    cases hr : applyDurableEvent s.record (.toolStarted run.id callId name arguments) with
    | error error =>
      simp only [handleRunEvent, persistDurableRunEvent, hr]
      exact .refl
    | ok record => exact persistDurableRunEvent_effects ha env s.activity hr (.toolStarted hrun hr)
  | completed response =>
    obtain ⟨turns, hend, -⟩ := ha.endTurn hrun .completed (by decide) (.assistant response)
    obtain ⟨record, hr⟩ : ∃ record,
        applyDurableEvent s.record (.completed run.id response env.now) = .ok record :=
      ⟨_, by rw [applyDurableEvent, hend]⟩
    exact persistDurableRunEvent_effects ha env _ hr (.completed hrun hr)
  | failed failure =>
    obtain ⟨turns, hend, -⟩ := ha.endTurn hrun .failed (by decide) (.failed run.id failure)
    exact persistDurableRunEvent_effects ha env _ hend (.failed hrun hend)

/-- Only channels change, and observers leave. -/
theorem stream_effects {stream : Stream} (hp : stream.projection = s.stream.projection)
    (hg : s.stream.Gapless terminalEventReserve → stream.Gapless terminalEventReserve)
    (hi : s.stream.Inherits stream) (hl : stream.log = s.stream.log) :
    Effects a s.core { s with stream := stream }.core :=
  (Effect.observed (c := s.core) ⟨s.stream.projection.sequence, by rw [hp]; rfl⟩ hg hi
    fun _ => hl).effects

theorem attach_effects (env : Env) (connectionId : ConnectionId) (attachmentId : AttachmentId) :
    Effects (some (connectionId, attachmentId)) s.core
      (s.attach env connectionId attachmentId).2.core := by
  unfold attach
  split_ifs
  · exact .refl
  cases jobSnapshots env with
  | ok jobs => exact (Effect.attached (c := s.core) rfl).effects
  | error error =>
    refine stream_effects rfl (fun hg => hg.dropLast_push connectionId attachmentId) ?_ rfl
    intro o ho
    simp only [Stream.push, List.dropLast_concat] at ho
    exact ⟨o, ho, rfl, rfl⟩

theorem deleting_of_ensureNotDeleting (h : s.ensureNotDeleting = .ok ()) : s.deleting = false := by
  unfold ensureNotDeleting at h
  split_ifs at h with hd
  exact Bool.eq_false_iff.2 hd

/-- **Every command.** -/
theorem handleCommand_effects (ha : s.Agrees) (env : Env) (command : SessionCommand) :
    Effects command.attaching s.core (s.handleCommand env command).2.core := by
  cases command with
  | attach connectionId attachmentId => exact attach_effects env connectionId attachmentId
  | detach connectionId attachmentId =>
    exact stream_effects rfl (fun hg => hg.retain _) (s.stream.inherits_retain _) rfl
  | detachConnection connectionId =>
    exact stream_effects rfl (fun hg => hg.retain _) (s.stream.inherits_retain _) rfl
  | snapshot => exact .refl
  | submit prompt => exact submit_effects ha env prompt
  | cancel => exact cancel_effects ha env
  | rename title => exact rename_effects env title
  | applyGeneratedTitle expectedRevision generated =>
    exact applyGeneratedTitle_effects env expectedRevision generated
  | prepareDelete => exact prepareDelete_effects ha env
  | finishDelete => exact finishDelete_effects env
  | abortDelete => exact abortDelete_effects env
  | selectModel model => exact selectModel_effects env model
  | selectReasoning reasoning => exact selectReasoning_effects env reasoning
  | listJobs =>
    unfold handleCommand
    cases s.ensureMutable <;> exact .refl
  | cancelJob id =>
    unfold handleCommand
    cases s.ensureMutable <;> exact .refl
  | flush =>
    unfold handleCommand
    cases hd : s.ensureNotDeleting with
    | error error => exact .refl
    | ok u => exact flush_effects (deleting_of_ensureNotDeleting hd) env
  | shutdown =>
    unfold handleCommand
    cases hd : s.ensureNotDeleting with
    | error error => exact .refl
    | ok u =>
      have he : Effects none s.core ({ s with shuttingDown := true }.shutdown env).2.core :=
        shutdown_effects (s := { s with shuttingDown := true }) (deleting_of_ensureNotDeleting hd) env
      simp only
      cases hs : { s with shuttingDown := true }.shutdown env with
      | mk result t =>
        rw [hs] at he
        cases result with
        | error error => exact he
        | ok u => exact he.trans (t.exit_effects .shutdown)

/-- **Every input of an actor is a sequence of effects** while the
representations of its session agree. -/
theorem step_effects (ha : s.Agrees) (input : Env × ActorInput) :
    Effects input.2.attaching s.core (s.step input).core := by
  obtain ⟨env, input⟩ := input
  unfold step
  cases input with
  | recv token =>
    exact stream_effects rfl (fun hg => hg.recv token)
      (s.stream.inherits_onChannel token fun _ => ⟨rfl, rfl⟩) rfl
  | closeReceiver token =>
    exact stream_effects rfl (fun hg => hg.close token)
      (s.stream.inherits_onChannel token fun _ => ⟨rfl, rfl⟩) rfl
  | command command =>
    simp only
    split_ifs
    · exact .refl
    · exact handleCommand_effects ha env command
  | run polled =>
    simp only
    split_ifs
    · exact .refl
    cases hn : s.harness.nextEvent polled with
    | mk event h =>
      cases event with
      | none => exact .refl
      | some event =>
        obtain ⟨run, hrun, hp⟩ := Harness.progress_of_nextEvent hn
        exact handleRunEvent_effects ha env hrun hp
  | jobsChanged =>
    simp only
    split_ifs
    · exact .refl
    · exact handleJobsChanged_effects env
  | planUpdate plan explanation =>
    simp only
    split_ifs
    · exact .refl
    · exact handlePlanUpdate_effects env plan explanation
  | handlesDropped =>
    simp only
    split_ifs
    · exact .refl
    · exact .refl
    · cases env.jobsShutdown with
      | ok u => exact s.clearActivity.exit_effects .dropped
      | error error => exact s.exit_effects .dropped

end Session
end Moh
