/-
# A session whose deletion is prepared

Once `prepare_delete` has set `deleting`, the actor answers every command with an error, or
ends: its record, its projection and its repository stay as they are, no run starts, and its
observers are sent nothing but the terminal event (`Session.frozen_step`).  But the requests
of the plan tool do not come through the commands, and `handle_plan_update` asks neither for
`deleting` nor for an active run: one that is still queued changes the plan of a session that
is being deleted (`Session.frozen_iff`).
-/

import Moh.Session.Deletion
import Moh.Session.Reachable

namespace Moh

namespace Stream

/-- The observers that are or were registered. -/
def registered (st : Stream) : List Observer := st.observers ++ st.departed.map Prod.fst

/-- **Nothing was sent:** the projection and the log are the same, and every observer was sent
what it had been sent. -/
structure Silent (st st' : Stream) : Prop where
  projection : st'.projection = st.projection
  log : st'.log = st.log
  observers : ∀ o' ∈ st'.registered, ∃ o ∈ st.registered, o.key = o'.key ∧
    o'.channel.sent = o.channel.sent

/-- **One event was sent:** it has the next number and changes nothing else of the projection,
and every observer was sent what it had been sent, and possibly the event. -/
structure Sends (st st' : Stream) (envelope : SessionEventEnvelope) : Prop where
  projection : st'.projection = { st.projection with sequence := envelope.sequence }
  log : st'.log = st.log ++ [envelope]
  observers : ∀ o' ∈ st'.registered, ∃ o ∈ st.registered, o.key = o'.key ∧
    (o'.channel.sent = o.channel.sent ∨ o'.channel.sent = o.channel.sent ++ [envelope])

variable {st st' st'' : Stream} {envelope : SessionEventEnvelope}

theorem Silent.refl (st : Stream) : st.Silent st := ⟨rfl, rfl, fun o ho => ⟨o, ho, rfl, rfl⟩⟩

theorem Silent.trans (h : st.Silent st') (h' : st'.Silent st'') : st.Silent st'' := by
  refine ⟨h'.projection.trans h.projection, h'.log.trans h.log, fun o'' ho'' => ?_⟩
  obtain ⟨o', ho', hkey', hsent'⟩ := h'.observers o'' ho''
  obtain ⟨o, ho, hkey, hsent⟩ := h.observers o' ho'
  exact ⟨o, ho, hkey.trans hkey', hsent'.trans hsent⟩

theorem Silent.sends (h : st.Silent st') (h' : st'.Sends st'' envelope) :
    st.Sends st'' envelope := by
  refine ⟨by rw [h'.projection, h.projection], by rw [h'.log, h.log], fun o'' ho'' => ?_⟩
  obtain ⟨o', ho', hkey', hsent'⟩ := h'.observers o'' ho''
  obtain ⟨o, ho, hkey, hsent⟩ := h.observers o' ho'
  rw [hsent] at hsent'
  exact ⟨o, ho, hkey.trans hkey', hsent'⟩

theorem Sends.silent (h : st.Sends st' envelope) (h' : st'.Silent st'') :
    st.Sends st'' envelope := by
  refine ⟨h'.projection.trans h.projection, h'.log.trans h.log, fun o'' ho'' => ?_⟩
  obtain ⟨o', ho', hkey', hsent'⟩ := h'.observers o'' ho''
  obtain ⟨o, ho, hkey, hsent⟩ := h.observers o' ho'
  rw [← hsent'] at hsent
  exact ⟨o, ho, hkey.trans hkey', hsent⟩

/-- Observers that leave are sent nothing. -/
theorem silent_of_subset (hprojection : st'.projection = st.projection) (hlog : st'.log = st.log)
    (h : st'.registered ⊆ st.registered) : st.Silent st' :=
  ⟨hprojection, hlog, fun o ho => ⟨o, h ho, rfl, rfl⟩⟩

theorem silent_clear (st : Stream) (reason : Departure) : st.Silent (st.clear reason) := by
  refine silent_of_subset rfl rfl fun o ho => ?_
  simp only [registered, clear, List.nil_append, List.map_append, List.map_map, List.mem_append,
    List.mem_map, Function.comp_apply] at ho ⊢
  rcases ho with ho | ⟨o', ho', rfl⟩
  · exact .inr ho
  · exact .inl ho'

theorem silent_retain (st : Stream) (keep : Observer → Bool) : st.Silent (st.retain keep) := by
  refine silent_of_subset rfl rfl fun o ho => ?_
  simp only [registered, retain, List.map_append, List.map_map, List.mem_append, List.mem_map,
    List.mem_filter, Function.comp_apply] at ho ⊢
  rcases ho with ⟨ho, -⟩ | ho | ⟨o', ⟨ho', -⟩, rfl⟩
  · exact .inl ho
  · exact .inr ho
  · exact .inl ho'

/-- What clients do with their channels sends nothing. -/
theorem silent_onChannel (st : Stream) (token : ℕ) {f : Observer → Observer}
    (hkey : ∀ o, (f o).key = o.key) (hsent : ∀ o, (f o).channel.sent = o.channel.sent) :
    st.Silent (st.onChannel token f) := by
  have hone : ∀ o : Observer, (if o.key.token = token then f o else o).key = o.key ∧
      (if o.key.token = token then f o else o).channel.sent = o.channel.sent := by
    intro o
    split_ifs
    · exact ⟨hkey o, hsent o⟩
    · exact ⟨rfl, rfl⟩
  refine ⟨rfl, rfl, fun o' ho' => ?_⟩
  rcases List.mem_append.1 ho' with ho' | ho'
  · obtain ⟨o, ho, rfl⟩ := List.mem_map.1 ho'
    exact ⟨o, List.mem_append_left _ ho, (hone o).1.symm, (hone o).2⟩
  · obtain ⟨d', hd', rfl⟩ := List.mem_map.1 ho'
    obtain ⟨d, hd, rfl⟩ := List.mem_map.1 hd'
    refine ⟨d.1, List.mem_append_right _ (List.mem_map_of_mem hd), ?_⟩
    have hfst : (if d.1.key.token = token then (f d.1, d.2) else d).1 =
        if d.1.key.token = token then f d.1 else d.1 := by
      split_ifs <;> rfl
    rw [hfst]
    exact ⟨(hone d.1).1.symm, (hone d.1).2⟩

theorem silent_recv (st : Stream) (token : ℕ) : st.Silent (st.recv token) :=
  st.silent_onChannel token (fun _ => rfl) fun _ => Channel.sent_recv _

theorem silent_close (st : Stream) (token : ℕ) : st.Silent (st.close token) :=
  st.silent_onChannel token (fun _ => rfl) fun _ => Channel.sent_close _

/-- A change of the warning only adds to the log. -/
theorem log_prefix_transition (st : Stream) (told : Option (Option String)) :
    st.log <+: (st.broadcastPersistenceTransition told).log := by
  cases told with
  | none => exact List.prefix_rfl
  | some warning =>
    rw [broadcastPersistenceTransition_some, emit, log_broadcastSome, accept]
    split_ifs
    · exact List.prefix_append _ _
    · exact List.prefix_rfl

/-- **The terminal event is sent,** unless no number is left for it. -/
theorem emitTerminal_deleted (st : Stream) (id : SessionId) :
    st.Silent (st.emitTerminal (.deleted id)) ∨
      st.Sends (st.emitTerminal (.deleted id)) ⟨st.projection.sequence + 1, .deleted id⟩ := by
  unfold emitTerminal accept
  split_ifs with hroom
  · refine .inr ⟨rfl, rfl, fun o' ho' => ?_⟩
    rcases List.mem_append.1 ho' with ho' | ho'
    · obtain ⟨o, ho, hsend⟩ := List.mem_filterMap.1 ho'
      unfold sendTerminal at hsend
      cases htry : o.channel.trySend ⟨st.projection.sequence + 1, .deleted id⟩ with
      | mk result channel =>
        cases result with
        | error error => simp [htry] at hsend
        | ok u =>
          simp only [htry, Option.some.injEq] at hsend
          obtain ⟨-, -, rfl⟩ := Channel.trySend_eq_ok_iff.1 htry
          subst hsend
          refine ⟨o, List.mem_append_left _ ho, rfl, .inr ?_⟩
          simp [Channel.sent, List.append_assoc]
    · obtain ⟨d, hd, rfl⟩ := List.mem_map.1 ho'
      rcases List.mem_append.1 hd with hd | hd
      · exact ⟨d.1, List.mem_append_right _ (List.mem_map_of_mem hd), rfl, .inl rfl⟩
      · obtain ⟨o, ho, rfl⟩ := List.mem_map.1 hd
        exact ⟨o, List.mem_append_left _ (List.mem_filter.1 ho).1, rfl, .inl rfl⟩
  · exact .inl (silent_clear st .sequenceExhausted)

end Stream

namespace Session

open Run

variable {s t : Session}

/-- **What a prepared deletion freezes:** the record and the projection, the harness and the
repository.  Observers are sent nothing, or, when the actor has ended with the deletion, the
terminal event. -/
structure Frozen (s t : Session) : Prop where
  record : t.record = s.record
  harness : t.harness = s.harness
  store : t.store = s.store
  stream : s.stream.Silent t.stream ∨ t.exited = some (.delete .deleted) ∧
    s.stream.Sends t.stream ⟨s.stream.projection.sequence + 1, .deleted s.record.id⟩

/-- The actor is being deleted and runs nothing. -/
structure Prepared (s : Session) : Prop where
  deleting : s.deleting = true
  idle : s.harness.active = none

/-- The input is no request of the plan tool, or it finds the actor ended, or no sequence
number left. -/
def Refused (s : Session) (input : Env × ActorInput) : Prop :=
  ∀ plan explanation, input.2 = .planUpdate plan explanation →
    s.exited.isSome = true ∨ u64Max ≤ s.stream.projection.sequence

theorem Frozen.refl (s : Session) : s.Frozen s := ⟨rfl, rfl, rfl, .inl (.refl _)⟩

/-- An actor that has not ended has sent nothing. -/
theorem Frozen.silent (h : s.Frozen t) (hx : t.exited = none) : s.stream.Silent t.stream :=
  h.stream.resolve_right fun hsends => by simp [hx] at hsends

/-! ### One input -/

/-- **What a prepared actor still does:** whatever the repository holds, its stream, the
activity tracker and its end are all that changes; an actor that has ended stays as it ended,
and only the end of the deletion is sent. -/
def Inert (s : Session) (f : Session → Session) : Prop :=
  ∃ stream activity exited, (s.exited = none ∨ exited = s.exited) ∧
    (s.stream.Silent stream ∨ s.exited = none ∧ exited = some (.delete .deleted) ∧
      s.stream.Sends stream ⟨s.stream.projection.sequence + 1, .deleted s.record.id⟩) ∧
    ∀ store, f { s with store := store } =
      { s with store := store, stream := stream, activity := activity, exited := exited }

variable {f : Session → Session}

/-- Nothing happens. -/
theorem inert_same (h : ∀ store, f { s with store := store } = { s with store := store }) :
    s.Inert f :=
  ⟨s.stream, s.activity, s.exited, .inr rfl, .inl (.refl _), h⟩

/-- Only the stream changes, and silently. -/
theorem inert_stream {stream : Stream} (hsilent : s.stream.Silent stream)
    (h : ∀ store, f { s with store := store } = { s with store := store, stream := stream }) :
    s.Inert f :=
  ⟨stream, s.activity, s.exited, .inr rfl, .inl hsilent, h⟩

/-- **Every command is refused,** or reads, or detaches observers, or ends the deletion. -/
theorem inert_handleCommand (hd : s.deleting = true) (hx : s.exited = none) (env : Env)
    (command : SessionCommand) : s.Inert fun s => (s.handleCommand env command).2 := by
  have hm : ∀ store, { s with store := store }.ensureMutable = .error .deleting :=
    fun store => by simp [ensureMutable, ensureNotDeleting, hd]
  cases command with
  | attach connectionId attachmentId =>
    exact inert_same fun store => by simp only [handleCommand, attach, hd, if_true]
  | detach connectionId attachmentId => exact inert_stream (s.stream.silent_retain _) fun _ => rfl
  | detachConnection connectionId => exact inert_stream (s.stream.silent_retain _) fun _ => rfl
  | snapshot => exact inert_same fun _ => rfl
  | finishDelete =>
    have hclear := (s.stream.emitTerminal (.deleted s.record.id)).silent_clear .actorExited
    refine ⟨(s.stream.emitTerminal (.deleted s.record.id)).clear .actorExited,
      s.clearActivity.activity, some (.delete .deleted), .inl hx, ?_, fun store =>
        congrArg Prod.snd (handleCommand_finishDelete (s := { s with store := store }) hd env)⟩
    exact (s.stream.emitTerminal_deleted s.record.id).imp (fun hsilent => hsilent.trans hclear)
      fun hsends => ⟨hx, rfl, hsends.silent hclear⟩
  | abortDelete =>
    exact ⟨s.stream.clear .actorExited, s.clearActivity.activity, some (.delete .deleteAborted),
      .inl hx, .inl (s.stream.silent_clear .actorExited), fun store =>
        congrArg Prod.snd (handleCommand_abortDelete (s := { s with store := store }) hd env)⟩
  | flush =>
    exact inert_same fun store => by simp only [handleCommand, ensureNotDeleting, hd, if_true]
  | shutdown =>
    exact inert_same fun store => by simp only [handleCommand, ensureNotDeleting, hd, if_true]
  | _ => exact inert_same fun store => handleCommand_of_immutable (hm store) env rfl

/-- A request of the plan tool for which no number is left is refused. -/
theorem handlePlanUpdate_of_exhausted (hs : u64Max ≤ s.stream.projection.sequence) (env : Env)
    (plan : List PlanItem) (explanation : Option String) :
    s.handlePlanUpdate env plan explanation = (.error .runtime, s) := by
  have happly : s.stream.projection.apply (.planChanged plan) = .error .sequenceExhausted :=
    SessionProjection.apply_eq_exhausted_iff.2 hs
  rw [handlePlanUpdate, Stream.projectStrict, happly]

/-- **A prepared actor is inert** to every input but a request of the plan tool. -/
theorem inert_step (h : s.Prepared) {input : Env × ActorInput} (hg : s.Refused input) :
    s.Inert (·.step input) := by
  obtain ⟨env, input⟩ := input
  by_cases hended : s.exited.isSome = true
  · cases input with
    | recv token => exact inert_stream (s.stream.silent_recv token) fun _ => rfl
    | closeReceiver token => exact inert_stream (s.stream.silent_close token) fun _ => rfl
    | _ => exact inert_same fun store => by simp only [step, hended, if_true]
  · have hx : s.exited = none := Option.not_isSome_iff_eq_none.1 hended
    cases input with
    | recv token => exact inert_stream (s.stream.silent_recv token) fun _ => rfl
    | closeReceiver token => exact inert_stream (s.stream.silent_close token) fun _ => rfl
    | command command =>
      simp only [Inert, step, if_neg hended]
      exact inert_handleCommand h.deleting hx env command
    | run polled =>
      have hn : s.harness.nextEvent polled = (none, s.harness) := by
        unfold Harness.nextEvent
        rw [h.idle]
      exact inert_same fun store => by simp only [step, if_neg hended, hn]
    | jobsChanged =>
      exact inert_same fun store => by
        simp only [step, if_neg hended, handleJobsChanged, h.deleting, if_true]
    | planUpdate plan explanation =>
      have hexhausted := (hg plan explanation rfl).resolve_left hended
      exact inert_same fun store => by
        simp only [step, if_neg hended,
          handlePlanUpdate_of_exhausted (s := { s with store := store }) hexhausted]
    | handlesDropped =>
      have hidle : ¬s.harness.isRunning = true := by simp [Harness.isRunning, h.idle]
      simp only [Inert, step, if_neg hended, if_neg hidle]
      cases env.jobsShutdown with
      | ok u =>
        exact ⟨_, s.clearActivity.activity, some .dropped, .inl hx,
          .inl (s.stream.silent_clear .actorExited), fun _ => rfl⟩
      | error error =>
        exact ⟨_, s.activity, some .dropped, .inl hx,
          .inl (s.stream.silent_clear .actorExited), fun _ => rfl⟩

/-- **One input keeps what is frozen,** unless it is a request of the plan tool. -/
theorem frozen_step (hf : s.Frozen t) (h : t.Prepared) {input : Env × ActorInput}
    (hg : t.Refused input) : s.Frozen (t.step input) ∧ (t.step input).Prepared := by
  obtain ⟨stream, activity, exited, hexited, hsent, hall⟩ := inert_step h hg
  have hstep : t.step input =
      { t with stream := stream, activity := activity, exited := exited } := hall t.store
  rw [hstep]
  refine ⟨⟨hf.record, hf.harness, hf.store, ?_⟩, h.deleting, h.idle⟩
  rcases hf.stream with hsilent | ⟨hended, hsends⟩
  · rw [← hf.record, ← hsilent.projection]
    exact hsent.imp hsilent.trans fun h => ⟨h.2.1, hsilent.sends h.2.2⟩
  · have hlive : t.exited ≠ none := by simp [hended]
    have hsilent := hsent.resolve_right fun h => hlive h.1
    exact .inr ⟨(hexited.resolve_left hlive).trans hended, hsends.silent hsilent⟩

/-- **The repository is not used:** whatever it holds, the input has the same effect, and
leaves it as it is. -/
theorem step_withStore (h : s.Prepared) {input : Env × ActorInput} (hg : s.Refused input)
    (store : SessionStore) :
    { s with store := store }.step input = { s.step input with store := store } := by
  obtain ⟨stream, activity, exited, -, -, hall⟩ := inert_step h hg
  have hstep : s.step input =
      { s with stream := stream, activity := activity, exited := exited } := hall s.store
  rw [hstep]
  exact hall store

/-- A checkpoint and what is announced after it only add to the log. -/
theorem log_prefix_persisted (s : Session) (env : Env) (envelope : Option SessionEventEnvelope)
    (told : Option (Option String)) :
    s.stream.log <+: ((s.persistCheckpoint env).2.announce envelope told).stream.log := by
  have hstream : (s.persistCheckpoint env).2.stream = s.stream := by
    unfold persistCheckpoint
    cases s.store.checkpoint env.fault s.record with
    | mk result store => cases result <;> rfl
  have hprefix := (s.stream.broadcastSome envelope).log_prefix_transition told
  rw [Stream.log_broadcastSome, ← hstream] at hprefix
  rwa [← hstream]

/-- A request of the plan tool for which a number is left is numbered. -/
theorem log_handlePlanUpdate (hs : s.stream.projection.sequence < u64Max) (env : Env)
    (plan : List PlanItem) (explanation : Option String) :
    s.stream.log ++ [⟨s.stream.projection.sequence + 1, .planChanged plan⟩] <+:
      (s.handlePlanUpdate env plan explanation).2.stream.log := by
  have happly : s.stream.projection.apply (.planChanged plan) = .ok
      (⟨s.stream.projection.sequence + 1, .planChanged plan⟩,
        { s.stream.projection.reduce (.planChanged plan) with
          sequence := s.stream.projection.sequence + 1 }) :=
    SessionProjection.apply_eq_ok_iff.2 ⟨hs, rfl, rfl, rfl⟩
  rw [handlePlanUpdate, Stream.projectStrict, happly]
  exact log_prefix_persisted
    { s with
      record := { s.record with plan := plan }
      stream := s.stream.numbered (.planChanged plan) } env _ _

/-- **A request of the plan tool that is handled is sent to the observers.** -/
theorem not_frozen_step (hf : s.Frozen t) {input : Env × ActorInput} (hg : ¬t.Refused input) :
    ¬s.Frozen (t.step input) := by
  obtain ⟨env, input⟩ := input
  unfold Refused at hg
  push Not at hg
  obtain ⟨plan, explanation, rfl, hx, hs⟩ := hg
  have hx : t.exited = none := Option.not_isSome_iff_eq_none.1 hx
  have hstep : t.step (env, .planUpdate plan explanation) =
      (t.handlePlanUpdate env plan explanation).2 := by
    simp only [step, hx, Option.isSome_none, Bool.false_eq_true, if_false]
  have hlog := (log_handlePlanUpdate hs env plan explanation).length_le
  rw [hstep]
  intro hfrozen
  have hexited : (t.handlePlanUpdate env plan explanation).2.exited = none :=
    (t.handlePlanUpdate_keeps env plan explanation).exited.trans hx
  rw [(hfrozen.silent hexited).log, (hf.silent hx).log, List.length_append,
    List.length_singleton] at hlog
  omega

/-! ### Runs -/

/-- **While the requests of the plan tool are refused** the repository is never used. -/
theorem run_withStore {inputs : List (Env × ActorInput)} (h : s.Prepared)
    (hg : Guarded step Refused s inputs) (store : SessionStore) :
    run step { s with store := store } inputs = { run step s inputs with store := store } := by
  induction inputs generalizing s with
  | nil => rfl
  | cons input inputs ih =>
    obtain ⟨hinput, hinputs⟩ := hg
    rw [run_cons, run_cons, step_withStore h hinput]
    exact ih (frozen_step (.refl s) h hinput).2 hinputs

/-- Quiescing leaves no run. -/
theorem quiesce_idle (s : Session) : s.quiesce.2.2.harness.active = none := by
  unfold quiesce
  split_ifs with hidle
  · simpa [Harness.isRunning] using hidle
  · have hsome : s.harness.active ≠ none := by simpa [Harness.isRunning] using hidle
    obtain ⟨run, hrun⟩ := Option.ne_none_iff_exists'.1 hsome
    have hcancel : s.harness.cancel = (.ok run.id, { s.harness with active := none }) := by
      rw [Harness.cancel, hrun]
    simp only [hcancel]
    split
    · rfl
    · split <;> rename_i hp <;> exact congrArg Harness.active ((congrArg (·.2.harness) hp).symm)

/-- `prepare_delete` leaves the actor prepared, whatever fails. -/
theorem prepared_of_prepareDelete (hm : s.ensureMutable = .ok ()) (env : Env) :
    (s.prepareDelete env).2.Prepared := by
  refine ⟨(prepareDelete_keeps hm env).deleting, ?_⟩
  obtain ⟨store, dirty, stream, hprepare⟩ := exists_prepareDelete hm env
  rw [hprepare]
  exact quiesce_idle { s with deleting := true }

/-- **A session whose deletion is prepared is frozen,** and its repository is not used, all
along a run exactly if no request of the plan tool is handled in it before the actor ends, or
only requests for which no sequence number is left. -/
theorem frozen_iff (hm : s.ensureMutable = .ok ()) (env : Env) (inputs : List (Env × ActorInput)) :
    (∀ pre, pre <+: inputs →
      (s.prepareDelete env).2.Frozen (run step (s.prepareDelete env).2 pre) ∧
      ∀ store, run step { (s.prepareDelete env).2 with store := store } pre =
        { run step (s.prepareDelete env).2 pre with store := store }) ↔
    Guarded step Refused (s.prepareDelete env).2 inputs := by
  have hp := prepared_of_prepareDelete hm env
  generalize (s.prepareDelete env).2 = t at hp
  have hiff : (∀ pre, pre <+: inputs → t.Frozen (run step t pre)) ↔
      Guarded step Refused t inputs :=
    forall_prefix_iff_guarded (I := fun u => t.Frozen u ∧ u.Prepared) (fun u hu => hu.1)
      (fun u input hu hg => frozen_step hu.1 hu.2 hg) (fun u input hu hg => not_frozen_step hu.1 hg)
      ⟨.refl t, hp⟩
  constructor
  · intro h
    exact hiff.1 fun pre hpre => (h pre hpre).1
  · rintro hg pre ⟨behind, rfl⟩
    refine ⟨hiff.2 hg pre (List.prefix_append _ _), fun store => ?_⟩
    exact run_withStore hp (guarded_append.1 hg).1 store

/-- `frozen_iff` on a deletion that is prepared and finished, with a prompt between. -/
theorem frozen_idleSession :
    (∀ pre, pre <+: [(quietEnv, .command (.submit "hello")), (quietEnv, .command .finishDelete)] →
      (idleSession.prepareDelete quietEnv).2.Frozen
        (run step (idleSession.prepareDelete quietEnv).2 pre) ∧
      ∀ store, run step { (idleSession.prepareDelete quietEnv).2 with store := store } pre =
        { run step (idleSession.prepareDelete quietEnv).2 pre with store := store }) ↔
    Guarded step Refused (idleSession.prepareDelete quietEnv).2
      [(quietEnv, .command (.submit "hello")), (quietEnv, .command .finishDelete)] :=
  frozen_iff rfl quietEnv _

/-- Commands are no requests of the plan tool. -/
example : Guarded step Refused (idleSession.prepareDelete quietEnv).2
    [(quietEnv, .command (.submit "hello")), (quietEnv, .command .finishDelete)] := by
  simp [Guarded, Refused]

/-- **A plan request that was queued before the deletion** changes the plan of the session
that is being deleted. -/
theorem not_frozen_idleSession :
    ¬(idleSession.prepareDelete quietEnv).2.Frozen
      (run step (idleSession.prepareDelete quietEnv).2
        [(quietEnv, .planUpdate [⟨"ship", .pending⟩] none)]) := by
  intro hfrozen
  have hplan := congrArg SessionRecord.plan hfrozen.record
  exact absurd hplan (by decide)

end Session

end Moh
