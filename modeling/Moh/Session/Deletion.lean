/-
# What an actor does while its session is deleted

`prepare_delete` cancels the active run and writes the record
(`Session.prepareDelete_spec`).  From then on the actor refuses to be changed: all
that still changes its record is a plan update (`Session.late_step`).  Its observers
stay, or leave because they are slow, closed or detached (`Session.tracks_step`), and
those that are there at the end get the terminal event as their last one
(`Session.informed_of_finishDelete`).
-/

import Moh.Session.Frame
import Moh.Session.Observers

namespace Moh

namespace Stream

/-! ### Observers on their way out -/

/-- The observer left for a reason of its own: it was too slow, its client closed
it, or it was detached. -/
def Left (st : Stream) (key : ObserverKey) : Prop :=
  ∃ d ∈ st.departed, d.1.key = key ∧ (d.2 = .slow ∨ d.2 = .closed ∨ d.2 = .detached)

/-- The last event the observer was sent is the terminal one, and the only one. -/
def Informed (st : Stream) (id : SessionId) (key : ObserverKey) : Prop :=
  ∃ d ∈ st.departed, d.1.key = key ∧ ∃ before n,
    d.1.channel.sent = before ++ [⟨n, .deleted id⟩] ∧ ∀ e ∈ before, e.event.isDeleted = false

/-- Every observer is still there or left for a reason of its own, and no terminal
event was sent. -/
structure Tracks (st st' : Stream) : Prop where
  observers : ∀ o ∈ st.observers, (∃ o' ∈ st'.observers, o'.key = o.key) ∨ st'.Left o.key
  left : ∀ key, st.Left key → st'.Left key
  undeleted : st.Undeleted → st'.Undeleted

/-- While `n` sequence numbers are left, the stream uses at most these and loses
track of no observer. -/
def Within (n : ℕ) (st st' : Stream) : Prop :=
  st.projection.sequence + n ≤ u64Max →
    st.Tracks st' ∧ st'.projection.sequence ≤ st.projection.sequence + n

variable {st st' st'' : Stream} {n k : ℕ}

theorem Tracks.refl (st : Stream) : st.Tracks st :=
  ⟨fun o ho => .inl ⟨o, ho, rfl⟩, fun _ h => h, fun h => h⟩

theorem Tracks.trans (h : st.Tracks st') (h' : st'.Tracks st'') : st.Tracks st'' := by
  refine ⟨fun o ho => ?_, fun key hk => h'.left key (h.left key hk),
    fun hu => h'.undeleted (h.undeleted hu)⟩
  rcases h.observers o ho with ⟨o', ho', hkey⟩ | hleft
  · have hnext := h'.observers o' ho'
    rwa [hkey] at hnext
  · exact .inr (h'.left _ hleft)

theorem Within.refl (st : Stream) : Within 0 st st := fun _ => ⟨.refl st, le_rfl⟩

theorem Within.trans (h : Within n st st') (h' : Within k st' st'') : Within (n + k) st st'' := by
  intro hroom
  obtain ⟨ht, hs⟩ := h (by omega)
  obtain ⟨ht', hs'⟩ := h' (by omega)
  exact ⟨ht.trans ht', by omega⟩

theorem Within.mono (h : Within n st st') (hle : n ≤ k) : Within k st st' := by
  intro hroom
  obtain ⟨ht, hs⟩ := h (by omega)
  exact ⟨ht, by omega⟩

/-- What a send per observer leaves: those it fails for are slow or closed. -/
theorem tracks_retainSent {send : Observer → Option Observer}
    (hkey : ∀ o o', send o = some o' → o'.key = o.key) (hlog : st.Undeleted → st'.Undeleted)
    (hobservers : st'.observers = (st.retainSent send).observers)
    (hdeparted : st'.departed = (st.retainSent send).departed) : st.Tracks st' := by
  refine ⟨fun o ho => ?_, ?_, hlog⟩
  · cases hs : send o with
    | some o' =>
      refine .inl ⟨o', ?_, hkey o o' hs⟩
      rw [hobservers]
      exact List.mem_filterMap.2 ⟨o, ho, hs⟩
    | none =>
      refine .inr ⟨(o, failure o), ?_, rfl, ?_⟩
      · rw [hdeparted]
        refine List.mem_append_right _ (List.mem_map.2 ⟨o, ?_, rfl⟩)
        exact List.mem_filter.2 ⟨ho, by simp [hs]⟩
      · unfold failure
        split_ifs
        · exact .inl rfl
        · exact .inr (.inl rfl)
  · rintro key ⟨d, hd, hk, hr⟩
    refine ⟨d, ?_, hk, hr⟩
    rw [hdeparted]
    exact List.mem_append_left _ hd

/-- The stream that has just numbered an event. -/
def numbered (st : Stream) (event : SessionEvent) : Stream :=
  { st with
    projection := { st.projection.reduce event with sequence := st.projection.sequence + 1 }
    log := st.log ++ [⟨st.projection.sequence + 1, event⟩] }

theorem emit_of_lt (hlt : st.projection.sequence < u64Max) (event : SessionEvent) :
    st.emit event = (st.numbered event).broadcast ⟨st.projection.sequence + 1, event⟩ := by
  rw [emit, accept, if_pos hlt]
  rfl

/-- An event that is not the terminal one takes one number. -/
theorem within_emit (st : Stream) {event : SessionEvent} (he : event.isDeleted = false) :
    Within 1 st (st.emit event) := by
  intro hroom
  have hemit := st.emit_of_lt (by omega) event
  have hkey : ∀ o o' : Observer,
      o.offer terminalEventReserve ⟨st.projection.sequence + 1, event⟩ = some o' →
        o'.key = o.key := by
    intro o o' ho
    obtain ⟨-, -, rfl⟩ := Fanout.Subscriber.offer_eq_some_iff.1 ho
    rfl
  refine ⟨?_, ?_⟩
  · rw [hemit]
    refine tracks_retainSent hkey (fun hu => ?_) rfl rfl
    have hnext := hu.emit he
    rwa [hemit] at hnext
  · rw [hemit]
    exact le_rfl

theorem within_transition (st : Stream) (told : Option (Option String)) :
    Within 1 st (st.broadcastPersistenceTransition told) := by
  cases told with
  | none => exact (Within.refl st).mono (by omega)
  | some warning =>
    rw [broadcastPersistenceTransition_some]
    exact st.within_emit rfl

/-- An event, if there is one, and the change of the warning. -/
theorem within_announced (st : Stream) {event : SessionEvent} (he : event.isDeleted = false)
    (told : Option (Option String)) :
    Within 2 st ((st.emit event).broadcastPersistenceTransition told) :=
  (st.within_emit he).trans (within_transition _ told)

/-- Those that a test of the identifiers removes are detached. -/
theorem within_retain (st : Stream) (keep : Observer → Bool) : Within 0 st (st.retain keep) := by
  refine fun _ => ⟨⟨fun o ho => ?_, ?_, fun h => h⟩, le_rfl⟩
  · cases hk : keep o with
    | true => exact .inl ⟨o, List.mem_filter.2 ⟨ho, hk⟩, rfl⟩
    | false =>
      refine .inr ⟨(o, .detached), List.mem_append_right _ (List.mem_map.2 ⟨o, ?_, rfl⟩), rfl,
        .inr (.inr rfl)⟩
      exact List.mem_filter.2 ⟨ho, by simp [hk]⟩
  · rintro key ⟨d, hd, hk, hr⟩
    exact ⟨d, List.mem_append_left _ hd, hk, hr⟩

/-- What clients do with their channels moves no observer. -/
theorem within_onChannel (st : Stream) (token : ℕ) {f : Observer → Observer}
    (hf : ∀ o, (f o).key = o.key) : Within 0 st (st.onChannel token f) := by
  have hkey (o : Observer) : (if o.key.token = token then f o else o).key = o.key := by
    split_ifs
    · exact hf o
    · rfl
  refine fun _ => ⟨⟨fun o ho => .inl ⟨_, List.mem_map_of_mem ho, hkey o⟩, ?_, fun h => h⟩, le_rfl⟩
  rintro key ⟨d, hd, hk, hr⟩
  refine ⟨_, List.mem_map_of_mem hd, ?_, ?_⟩
  · split_ifs
    · exact (hf d.1).trans hk
    · exact hk
  · split_ifs
    · exact hr
    · exact hr

theorem within_recv (st : Stream) (token : ℕ) : Within 0 st (st.recv token) :=
  st.within_onChannel token fun _ => rfl

theorem within_close (st : Stream) (token : ℕ) : Within 0 st (st.close token) :=
  st.within_onChannel token fun _ => rfl

end Stream

namespace Session

variable {s : Session}

/-! ### The beginning of a deletion -/

/-- The record with its active run cancelled. -/
def cancelledRecord (s : Session) : SessionRecord :=
  match s.harness.active with
  | none => s.record
  | some run =>
    match applyDurableEvent s.record (.cancelled run.id) with
    | .ok record => record
    | .error _ => s.record

/-- **The cancellation of `prepare_delete` succeeds** while the representations of
the session agree. -/
theorem quiesce_eq (ha : s.Agrees) :
    ∃ event activity, (∀ e, event = some e → e.isDeleted = false) ∧
      s.quiesce = ((s.core.accept event).1, none,
        { s with
          record := s.cancelledRecord
          harness := { s.harness with active := none }
          stream := (s.core.accept event).2
          activity := activity }) := by
  cases hrun : s.harness.active with
  | none =>
    have hidle : { s.harness with active := none } = s.harness := by rw [← hrun]
    refine ⟨none, s.activity, fun _ he => absurd he (by simp), ?_⟩
    rw [hidle, quiesce, Harness.isRunning, cancelledRecord, hrun]
    rfl
  | some run =>
    obtain ⟨record, hr, hq⟩ := quiesce_of_active ha hrun
    refine ⟨some (.cancelled run.id), s.activity.setRun s.record.id false, ?_, ?_⟩
    · rintro e he
      obtain rfl := Option.some.inj he
      rfl
    · rw [hq, cancelledRecord, hrun]
      simp only [hr]

/-- The run that was active is cancelled in the record. -/
theorem mem_cancelledRecord (ha : s.Agrees) {run : ActiveRun} (hrun : s.harness.active = some run) :
    .cancelled run.id ∈ s.cancelledRecord.transcript := by
  obtain ⟨turns, hend, -⟩ := ha.endTurn hrun .cancelled (by decide) (.cancelled run.id)
  have hr : applyDurableEvent s.record (.cancelled run.id) = .ok
      { s.record with turns := turns, transcript := s.record.transcript ++ [.cancelled run.id] } :=
    hend
  simp [cancelledRecord, hrun, hr]

/-- What a `prepare_delete` that the actor accepts leaves behind. -/
structure Condemned (s : Session) (env : Env) (t : Session) : Prop where
  record : t.record = s.cancelledRecord
  idle : t.harness.active = none
  store : t.store = (s.store.checkpoint env.fault s.cancelledRecord).2
  stream : Stream.Within 2 s.stream t.stream

/-- **`prepare_delete` cancels the run and writes the record,** and it fails if the
record cannot be written. -/
theorem prepareDelete_spec (ha : s.Agrees) (hm : s.ensureMutable = .ok ()) (env : Env) :
    s.Condemned env (s.prepareDelete env).2 ∧
      ((s.prepareDelete env).1 = .ok () →
        (s.store.checkpoint env.fault s.cancelledRecord).1 = .ok ()) := by
  obtain ⟨event, activity, hevent, hq⟩ := quiesce_eq (s := { s with deleting := true }) ha
  have hwithin (told : Option (Option String)) : Stream.Within 2 s.stream
      (((s.core.accept event).2.broadcastSome
        (s.core.accept event).1).broadcastPersistenceTransition told) := by
    cases event with
    | none => exact (s.stream.within_transition told).mono (by omega)
    | some e => exact s.stream.within_announced (hevent e rfl) told
  have hrecord : { s with deleting := true }.cancelledRecord = s.cancelledRecord := rfl
  unfold prepareDelete
  simp only [hm, hq, hrecord]
  cases hw : s.store.checkpoint env.fault s.cancelledRecord with
  | mk result store =>
    cases result with
    | error error =>
      exact ⟨⟨rfl, rfl, by rw [hw]; rfl, hwithin none⟩, fun h => absurd h (by simp)⟩
    | ok u =>
      exact ⟨⟨rfl, rfl, by rw [hw]; rfl, hwithin _⟩, fun _ => rfl⟩

/-! ### An actor that refuses to be changed -/

/-- The actor has ended, is shutting down or is being deleted. -/
def Closed (s : Session) : Prop := s.exited.isSome = true ∨ s.ensureMutable ≠ .ok ()

/-- What an input leaves of the record and the row of an idle actor that refuses to
be changed: a new plan, or the same record, written once more or not. -/
structure Late (s : Session) (env : Env) (input : ActorInput) (t : Session) : Prop where
  idle : t.harness.active = none
  record :
    (∃ plan explanation, input = .planUpdate plan explanation ∧ s.exited = none ∧
      t.record = { s.record with plan := plan } ∧
        t.store = (s.store.checkpoint env.fault { s.record with plan := plan }).2) ∨
    t.record = s.record ∧
      (t.store = s.store ∨ t.store = (s.store.checkpoint env.fault s.record).2)

theorem late_refl (hidle : s.harness.active = none) (env : Env) (input : ActorInput) :
    s.Late env input s :=
  ⟨hidle, .inr ⟨rfl, .inl rfl⟩⟩

/-- Only the stream changes. -/
theorem late_stream (hidle : s.harness.active = none) (env : Env) (input : ActorInput)
    (stream : Stream) : s.Late env input { s with stream := stream } :=
  ⟨hidle, .inr ⟨rfl, .inl rfl⟩⟩

theorem attach_eq_stream (s : Session) (env : Env) (connectionId : ConnectionId)
    (attachmentId : AttachmentId) :
    ∃ stream, (s.attach env connectionId attachmentId).2 = { s with stream := stream } := by
  unfold attach
  split_ifs
  · exact ⟨s.stream, rfl⟩
  · cases jobSnapshots env with
    | ok jobs => exact ⟨_, rfl⟩
    | error error => exact ⟨_, rfl⟩

theorem handleJobsChanged_eq_stream (s : Session) (env : Env) :
    ∃ stream, s.handleJobsChanged env = { s with stream := stream } := by
  unfold handleJobsChanged
  split_ifs
  · exact ⟨s.stream, rfl⟩
  cases jobSnapshots env with
  | error error => exact ⟨s.stream, rfl⟩
  | ok jobs =>
    have hp := project_of_valid (s := s) (e := .jobsChanged jobs) rfl
    simp only [hp]
    exact ⟨_, rfl⟩

theorem late_flush (hp : s.core.Pending) (hidle : s.harness.active = none) (env : Env)
    (input : ActorInput) : s.Late env input (s.flush env).2 := by
  unfold flush
  cases hd : s.dirty with
  | none => exact late_refl hidle env input
  | some pending =>
    obtain rfl : pending = s.record := hp pending hd
    simp only
    cases hw : s.store.checkpoint env.fault s.record with
    | mk result store =>
      cases result <;> exact ⟨hidle, .inr ⟨rfl, .inr (by rw [hw])⟩⟩

theorem late_handlePlanUpdate (hx : s.exited = none) (hidle : s.harness.active = none) (env : Env)
    (plan : List PlanItem) (explanation : Option String) :
    s.Late env (.planUpdate plan explanation) (s.handlePlanUpdate env plan explanation).2 := by
  unfold handlePlanUpdate
  cases s.stream.projectStrict (.planChanged plan) with
  | mk result stream =>
    cases result with
    | error error => exact late_refl hidle env _
    | ok event =>
      simp only [persistCheckpoint]
      cases hw : s.store.checkpoint env.fault { s.record with plan := plan } with
      | mk result store =>
        have hstore : store = (s.store.checkpoint env.fault { s.record with plan := plan }).2 := by
          rw [hw]
        cases result <;> exact ⟨hidle, .inl ⟨plan, explanation, rfl, hx, rfl, hstore⟩⟩

/-- **A command that does not steer the actor is refused,** or reads, or writes
what is pending. -/
theorem late_handleCommand (hp : s.core.Pending) (hidle : s.harness.active = none)
    {error : SessionCommandError} (hm : s.ensureMutable = .error error) (env : Env)
    {command : SessionCommand} (hc : command.steers = false) :
    s.Late env (.command command) (s.handleCommand env command).2 := by
  have hsame := late_refl hidle env (.command command)
  cases command with
  | attach connectionId attachmentId =>
    obtain ⟨stream, hs⟩ := s.attach_eq_stream env connectionId attachmentId
    simp only [handleCommand, hs]
    exact late_stream hidle env _ stream
  | detach connectionId attachmentId => exact late_stream hidle env _ _
  | detachConnection connectionId => exact late_stream hidle env _ _
  | snapshot => exact hsame
  | flush =>
    unfold handleCommand
    cases s.ensureNotDeleting with
    | error error => exact hsame
    | ok u => exact late_flush hp hidle env _
  | finishDelete => simp [SessionCommand.steers] at hc
  | abortDelete => simp [SessionCommand.steers] at hc
  | shutdown => simp [SessionCommand.steers] at hc
  | _ =>
    rw [handleCommand_of_immutable hm env rfl]
    exact hsame

/-- **Of the inputs that come on their own, only a plan update changes the record
of an idle actor that refuses to be changed.** -/
theorem late_step (hp : s.core.Pending) (hidle : s.harness.active = none) (hclosed : s.Closed)
    (env : Env) {input : ActorInput} (hi : input.isOrdinary = true) :
    s.Late env input (s.step (env, input)) := by
  have hsame := late_refl hidle env input
  unfold step
  cases input with
  | recv token => exact late_stream hidle env _ _
  | closeReceiver token => exact late_stream hidle env _ _
  | handlesDropped => simp [ActorInput.isOrdinary] at hi
  | command command =>
    simp only
    split_ifs with hx
    · exact hsame
    · cases hm : s.ensureMutable with
      | ok u => exact absurd hm (hclosed.resolve_left hx)
      | error error =>
        exact late_handleCommand hp hidle hm env (by simpa [ActorInput.isOrdinary] using hi)
  | run polled =>
    have hn : s.harness.nextEvent polled = (none, s.harness) := by
      unfold Harness.nextEvent
      rw [hidle]
    simp only [hn]
    split_ifs <;> exact hsame
  | jobsChanged =>
    simp only
    split_ifs
    · exact hsame
    · obtain ⟨stream, hs⟩ := s.handleJobsChanged_eq_stream env
      rw [hs]
      exact late_stream hidle env _ stream
  | planUpdate plan explanation =>
    simp only
    split_ifs with hx
    · exact hsame
    · exact late_handlePlanUpdate (by simpa using hx) hidle env plan explanation

/-- An actor whose loop ended writes nothing. -/
theorem step_of_exited (hx : s.exited.isSome = true) (input : Env × ActorInput) :
    ∃ stream, s.step input = { s with stream := stream } := by
  obtain ⟨env, input⟩ := input
  unfold step
  cases input with
  | recv token => exact ⟨_, rfl⟩
  | closeReceiver token => exact ⟨_, rfl⟩
  | _ => exact ⟨s.stream, by simp only [hx, if_true]⟩

/-! ### Until the end -/

theorem tracks_handlePlanUpdate (s : Session) (env : Env) (plan : List PlanItem)
    (explanation : Option String) :
    Stream.Within 2 s.stream (s.handlePlanUpdate env plan explanation).2.stream := by
  unfold handlePlanUpdate
  cases hp : s.stream.projectStrict (.planChanged plan) with
  | mk result stream =>
    cases result with
    | error error => exact (Stream.Within.refl _).mono (by omega)
    | ok event =>
      have hacc := Stream.accept_of_projectStrict hp
      have hemit : stream.broadcastSome (some event) = s.stream.emit (.planChanged plan) := by
        rw [Stream.emit, hacc]
      simp only [announce, persistCheckpoint]
      cases s.store.checkpoint env.fault { s.record with plan := plan } with
      | mk result store =>
        cases result with
        | error error =>
          simp only [persistenceResult, hemit]
          exact s.stream.within_announced rfl _
        | ok u =>
          simp only [persistenceResult, hemit]
          exact s.stream.within_announced rfl _

/-- **While the session is deleted no observer is lost track of.** -/
theorem tracks_step (hd : s.deleting = true) (hidle : s.harness.active = none) (env : Env)
    {input : ActorInput} (hi : input.isOrdinary = true) :
    Stream.Within 2 s.stream (s.step (env, input)).stream := by
  have hsame : Stream.Within 2 s.stream s.stream := (Stream.Within.refl _).mono (by omega)
  have hm : s.ensureMutable = .error .deleting := by simp [ensureMutable, ensureNotDeleting, hd]
  unfold step
  cases input with
  | recv token => exact (s.stream.within_recv token).mono (Nat.zero_le 2)
  | closeReceiver token => exact (s.stream.within_close token).mono (Nat.zero_le 2)
  | handlesDropped => simp [ActorInput.isOrdinary] at hi
  | run polled =>
    have hn : s.harness.nextEvent polled = (none, s.harness) := by
      unfold Harness.nextEvent
      rw [hidle]
    simp only [hn]
    split_ifs <;> exact hsame
  | jobsChanged =>
    simp only
    split_ifs
    · exact hsame
    · simpa only [handleJobsChanged, hd, if_true] using hsame
  | planUpdate plan explanation =>
    simp only
    split_ifs
    · exact hsame
    · exact s.tracks_handlePlanUpdate env plan explanation
  | command command =>
    simp only
    split_ifs
    · exact hsame
    cases command with
    | attach connectionId attachmentId => simpa only [handleCommand, attach, hd, if_true] using hsame
    | detach connectionId attachmentId => exact (s.stream.within_retain _).mono (by omega)
    | detachConnection connectionId => exact (s.stream.within_retain _).mono (by omega)
    | snapshot => exact hsame
    | flush => simpa only [handleCommand, ensureNotDeleting, hd, if_true] using hsame
    | finishDelete => simp [ActorInput.isOrdinary, SessionCommand.steers] at hi
    | abortDelete => simp [ActorInput.isOrdinary, SessionCommand.steers] at hi
    | shutdown => simp [ActorInput.isOrdinary, SessionCommand.steers] at hi
    | _ =>
      rw [handleCommand_of_immutable hm env rfl]
      exact hsame

/-- **The end of a deletion informs every observer that is still there,** if a
sequence number is left. -/
theorem informed_of_finishDelete (hg : s.stream.Gapless terminalEventReserve)
    (hu : s.stream.Undeleted) (hd : s.deleting = true)
    (hroom : s.stream.projection.sequence < u64Max) (env : Env) :
    (∀ o ∈ s.stream.observers,
      (s.handleCommand env .finishDelete).2.stream.Left o.key ∨
        (s.handleCommand env .finishDelete).2.stream.Informed s.record.id o.key) ∧
    ∀ key, s.stream.Left key → (s.handleCommand env .finishDelete).2.stream.Left key := by
  have hp : s.stream.project (.deleted s.record.id) =
      (.ok (some ⟨s.stream.projection.sequence + 1, .deleted s.record.id⟩),
        s.stream.numbered (.deleted s.record.id)) := by
    have hv : s.stream.projection.validateEvent (.deleted s.record.id) = .ok () := rfl
    rw [Stream.project_of_valid hv, Stream.accept, if_pos hroom]
    rfl
  have hlast : s.stream.emitTerminal (.deleted s.record.id) =
      (s.stream.numbered (.deleted s.record.id)).broadcastTerminal
        ⟨s.stream.projection.sequence + 1, .deleted s.record.id⟩ := by
    rw [Stream.emitTerminal, Stream.accept, if_pos hroom]
    rfl
  obtain ⟨-, hdelivered⟩ := delivered_of_finishDelete hg hd env hp
  have hdeparted : (s.handleCommand env .finishDelete).2.stream.departed =
      (s.stream.emitTerminal (.deleted s.record.id)).departed ++
        (s.stream.emitTerminal (.deleted s.record.id)).observers.map
          fun o => (o, .actorExited) := by
    rw [handleCommand, finishDelete_of_deleting hd]
    rfl
  refine ⟨fun o ho => ?_, ?_⟩
  · cases hopen : o.channel.isOpen with
    | true =>
      obtain ⟨d, hmem, hkey, hsent, -⟩ := (hdelivered o ho).2 hopen
      refine .inr ⟨d, hmem, hkey, o.channel.sent, _, hsent, fun e he => ?_⟩
      rw [(hg.observers o ho).2] at he
      exact hu e (List.mem_of_mem_drop he)
    | false =>
      refine .inl ⟨(o, .closed), ?_, rfl, .inr (.inl rfl)⟩
      rw [hdeparted, hlast]
      refine List.mem_append_left _ (List.mem_append_right _ (List.mem_map.2 ⟨o, ?_, ?_⟩))
      · refine List.mem_filter.2 ⟨ho, ?_⟩
        simp [Stream.sendTerminal, Channel.trySend, hopen]
      · simp [Stream.failure, hopen]
  · rintro key ⟨d, hmem, hkey, hreason⟩
    refine ⟨d, ?_, hkey, hreason⟩
    rw [hdeparted, hlast]
    exact List.mem_append_left _ (List.mem_append_left _ hmem)

end Session

end Moh
