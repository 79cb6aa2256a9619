/-
# What the observers of an actor see

Every observer that is still registered was sent exactly the envelopes after the
snapshot of its `Attach`, each once and in order: the stream is gapless in every
reachable state (`gapless_of_run`), and an observer that is registered comes from
an `Attach` of the run, whose snapshot is where it starts (`attached_of_run`).  An
observer that listens and has room for an event stays and gets it
(`delivered_broadcast`), one without room is removed (`not_mem_broadcast`), and when
deletion finishes every observer has the slot that the terminal event takes
(`delivered_of_emitTerminal`).
-/

import Moh.Session.Reachable

namespace Moh

namespace Stream

variable {st : Stream}

/-- The sequence numbers an observer was sent: those after its snapshot. -/
theorem Gapless.sequences {reserve : ℕ} (h : st.Gapless reserve) {o : Observer}
    (ho : o ∈ st.observers) :
    o.channel.sent = st.log.drop o.start ∧
      o.channel.sent.map (fun e => e.sequence) =
        List.range' (o.start + 1) (st.projection.sequence - o.start) := by
  obtain ⟨hle, hsent⟩ := h.observers o ho
  refine ⟨hsent, ?_⟩
  rw [hsent, List.map_drop, h.numbered, List.drop_range', Nat.mul_one, Nat.add_comm]

/-- Two registered observers with one number are one observer. -/
theorem Gapless.eq_of_token {reserve : ℕ} (h : st.Gapless reserve) {o o' : Observer}
    (ho : o ∈ st.observers) (ho' : o' ∈ st.observers) (heq : o.key.token = o'.key.token) :
    o = o' := by
  have hnodup := h.tokens_nodup
  rw [tokens, List.map_append, List.nodup_append] at hnodup
  exact List.inj_on_of_nodup_map hnodup.1 ho ho' heq

/-- **An observer that listens and has room for an ordinary event** stays registered, and
gets it. -/
theorem delivered_broadcast {o : Observer} (ho : o ∈ st.observers)
    (hopen : o.channel.isOpen = true) (hroom : terminalEventReserve < o.channel.free)
    (envelope : SessionEventEnvelope) :
    ∃ o' ∈ (st.broadcast envelope).observers, o'.key = o.key ∧
      o'.channel.sent = o.channel.sent ++ [envelope] := by
  refine ⟨_, List.mem_filterMap.2 ⟨o, ho,
    Fanout.Subscriber.offer_eq_some_iff.2 ⟨hroom, hopen, rfl⟩⟩, rfl, ?_⟩
  simp [Channel.sent]

/-- **An observer without room for an ordinary event is removed,** instead of
missing it. -/
theorem Gapless.not_mem_broadcast {reserve : ℕ} (h : st.Gapless reserve) {o : Observer}
    (ho : o ∈ st.observers) (hfull : o.channel.free ≤ terminalEventReserve)
    (envelope : SessionEventEnvelope) :
    (∀ o' ∈ (st.broadcast envelope).observers, o'.key.token ≠ o.key.token) ∧
      (o, failure o) ∈ (st.broadcast envelope).departed := by
  constructor
  · intro o' ho' heq
    obtain ⟨o₁, ho₁, hsend⟩ := List.mem_filterMap.1 ho'
    obtain ⟨hlt, -, rfl⟩ := Fanout.Subscriber.offer_eq_some_iff.1 hsend
    obtain rfl := h.eq_of_token ho₁ ho heq
    omega
  · refine List.mem_append_right _ (List.mem_map.2 ⟨o, List.mem_filter.2 ⟨ho, ?_⟩, rfl⟩)
    simp [Fanout.Subscriber.offer, Nat.not_lt.2 hfull]

/-- **The terminal event reaches every observer that is registered when it is
sent** and whose client still listens. -/
theorem delivered_broadcastTerminal {o : Observer} (ho : o ∈ st.observers)
    (hroom : o.Roomy terminalEventReserve) (hopen : o.channel.isOpen = true)
    (envelope : SessionEventEnvelope) :
    ∃ o' ∈ (st.broadcastTerminal envelope).observers, o'.key = o.key ∧
      o'.channel.sent = o.channel.sent ++ [envelope] := by
  have hfree : 0 < o.channel.free := hroom
  refine ⟨_, List.mem_filterMap.2 ⟨o, ho, sendTerminal_eq_some_iff.2 ⟨hopen, hfree, rfl⟩⟩, rfl, ?_⟩
  simp [Channel.sent]

/-- Numbering an event leaves the observers, unless no number is left. -/
theorem observers_accept {event : SessionEvent} {envelope : Option SessionEventEnvelope}
    {st' : Stream} (h : st.accept event = (envelope, st')) :
    st'.observers = if envelope.isSome then st.observers else [] := by
  unfold accept at h
  split_ifs at h
  all_goals
    obtain ⟨rfl, rfl⟩ := Prod.mk.inj h
    rfl

end Stream

namespace Session

variable {s : Session}

/-! ### Where observers come from -/

theorem gapless_of_run (hs : Spawned s) (inputs : List (Env × ActorInput)) :
    (Run.run step s inputs).stream.Gapless terminalEventReserve := by
  have h := Run.run_invariant
    (I := fun s : Session => s.Agrees ∧ s.stream.Gapless terminalEventReserve)
    (fun s i h => ⟨Core.Agrees.effects (c := s.core) h.1 (step_effects h.1 i),
      Core.gapless_effects (c := s.core) h.2 (step_effects h.1 i)⟩)
    ⟨agrees_of_spawned hs, gapless_of_spawned hs⟩ inputs
  exact h.2

/-- The observer was registered by an `Attach` that was answered with a snapshot
at its start. -/
def AttachedBy (s : Session) (input : Env × ActorInput) (o : Observer) : Prop :=
  ∃ snapshot t, input.2 = .command (.attach o.key.connectionId o.key.attachmentId) ∧
    s.attach input.1 o.key.connectionId o.key.attachmentId = (.ok snapshot, t) ∧
      snapshot.sequence = o.start

theorem AttachedBy.congr {input : Env × ActorInput} {o o' : Observer} (h : s.AttachedBy input o)
    (hkey : o.key = o'.key) (hstart : o.start = o'.start) : s.AttachedBy input o' := by
  unfold AttachedBy at h ⊢
  rwa [← hkey, ← hstart]

/-- What an `Attach` registers starts at its snapshot. -/
theorem attached_of_attach (env : Env) {connectionId : ConnectionId} {attachmentId : AttachmentId}
    {o' : Observer} (ho' : o' ∈ (s.attach env connectionId attachmentId).2.stream.observers) :
    o' ∈ s.stream.observers ∨
      s.AttachedBy (env, .command (.attach connectionId attachmentId)) o' := by
  by_cases hd : s.deleting = true
  · simp only [attach, hd, if_true] at ho'
    exact .inl ho'
  cases hj : jobSnapshots env with
  | error error =>
    simp only [attach, hd, hj, Stream.push, List.dropLast_concat] at ho'
    exact .inl ho'
  | ok jobs =>
    have hattach : s.attach env connectionId attachmentId =
        (.ok ((s.stream.push connectionId attachmentId).attachmentSnapshot jobs),
          { s with stream := s.stream.push connectionId attachmentId }) := by
      simp only [attach, hd, hj]
      rfl
    rw [hattach] at ho'
    rcases List.mem_append.1 ho' with ho' | ho'
    · exact .inl ho'
    · obtain rfl := List.mem_singleton.1 ho'
      exact .inr ⟨_, _, rfl, hattach, rfl⟩

/-- **An observer after one input was registered before, or by that input.** -/
theorem attached_of_step (ha : s.Agrees) (input : Env × ActorInput) {o' : Observer}
    (ho' : o' ∈ (s.step input).stream.observers) :
    (∃ o ∈ s.stream.observers, o.key = o'.key ∧ o.start = o'.start) ∨ s.AttachedBy input o' := by
  have he := step_effects ha input
  cases hi : input.2.attaching with
  | none =>
    rw [hi] at he
    exact .inl (Core.inherits_effects he o' ho')
  | some registration =>
    obtain ⟨env, input⟩ := input
    cases input with
    | command command =>
      cases command with
      | attach connectionId attachmentId =>
        simp only [step] at ho'
        split_ifs at ho'
        · exact .inl ⟨o', ho', rfl, rfl⟩
        · rcases attached_of_attach env ho' with ho | hb
          · exact .inl ⟨o', ho, rfl, rfl⟩
          · exact .inr hb
      | _ => simp [ActorInput.attaching, SessionCommand.attaching] at hi
    | _ => simp [ActorInput.attaching] at hi

/-- **Every registered observer comes from an `Attach` of the run.** -/
theorem attached_of_run (hs : Spawned s) (inputs : List (Env × ActorInput)) :
    ∀ o ∈ (Run.run step s inputs).stream.observers, ∃ before input after,
      inputs = before ++ input :: after ∧ (Run.run step s before).AttachedBy input o := by
  induction inputs using List.reverseRecOn with
  | nil =>
    intro o ho
    cases hs with
    | loaded hturns => exact absurd ho List.not_mem_nil
    | materialized hlast hs =>
      obtain ⟨runId, h, -, -, -, rfl⟩ := spawnMaterialized_eq_ok hs
      exact absurd ho List.not_mem_nil
  | append_singleton inputs input ih =>
    intro o' ho'
    rw [Run.run_append] at ho'
    rcases attached_of_step (agrees_of_run (agrees_of_spawned hs) inputs) input ho' with
      ⟨o, ho, hkey, hstart⟩ | hb
    · obtain ⟨before, input', after, rfl, hb⟩ := ih o ho
      exact ⟨before, input', after ++ [input], by simp, hb.congr hkey hstart⟩
    · exact ⟨inputs, input, [], rfl, hb⟩

/-! ### The end of a deletion -/

/-- What the observers of an actor see, after the inputs of its run. -/
structure Observed (s : Session) (inputs : List (Env × ActorInput)) : Prop where
  /-- A registered observer was sent the envelopes after the snapshot of its
  `Attach`, each once and in order. -/
  gapless : ∀ o ∈ (Run.run step s inputs).stream.observers,
    ∃ before env after snapshot t,
      inputs = before ++
        (env, .command (.attach o.key.connectionId o.key.attachmentId)) :: after ∧
      (Run.run step s before).attach env o.key.connectionId o.key.attachmentId =
        (.ok snapshot, t) ∧
      o.channel.sent = (Run.run step s inputs).stream.log.drop snapshot.sequence ∧
      o.channel.sent.map (fun e => e.sequence) = List.range' (snapshot.sequence + 1)
        ((Run.run step s inputs).stream.projection.sequence - snapshot.sequence)
  /-- An observer whose channel is full is removed by the next event. -/
  full : ∀ o ∈ (Run.run step s inputs).stream.observers, ∀ envelope,
    o.channel.free ≤ terminalEventReserve →
      ∀ o' ∈ ((Run.run step s inputs).stream.broadcast envelope).observers,
        o'.key.token ≠ o.key.token
  /-- The observers that are registered when the terminal event is sent have a
  free slot for it, and it is the last they are sent. -/
  terminal : (Run.run step s inputs).deleting = true → ∀ env envelope stream,
    (Run.run step s inputs).stream.project (.deleted (Run.run step s inputs).record.id) =
        (.ok (some envelope), stream) →
      stream.terminalAssertHolds envelope ∧
        ∀ o ∈ stream.observers, 0 < o.channel.free ∧
          (o.channel.isOpen = true →
            ∃ d ∈ ((Run.run step s inputs).handleCommand env .finishDelete).2.stream.departed,
              d.1.key = o.key ∧ d.1.channel.sent = o.channel.sent ++ [envelope] ∧
                d.2 = .actorExited)
  /-- Once no sequence number is left no observer is registered when deletion
  finishes. -/
  exhausted : ∀ stream,
    (Run.run step s inputs).stream.project (.deleted (Run.run step s inputs).record.id) =
      (.ok none, stream) → stream.observers = []

/-- The terminal event of a deletion reaches the observers that are registered
when it is sent. -/
theorem delivered_of_finishDelete (hg : s.stream.Gapless terminalEventReserve)
    (hd : s.deleting = true) (env : Env) {envelope : SessionEventEnvelope} {stream : Stream}
    (hp : s.stream.project (.deleted s.record.id) = (.ok (some envelope), stream)) :
    stream.terminalAssertHolds envelope ∧
      ∀ o ∈ stream.observers, 0 < o.channel.free ∧
        (o.channel.isOpen = true →
          ∃ d ∈ (s.handleCommand env .finishDelete).2.stream.departed,
            d.1.key = o.key ∧ d.1.channel.sent = o.channel.sent ++ [envelope] ∧
              d.2 = .actorExited) := by
  have hacc := Stream.accept_of_project rfl hp
  have hobs : stream.observers = s.stream.observers := Stream.observers_accept hacc
  have hroom : ∀ o ∈ stream.observers, o.Roomy terminalEventReserve := fun o ho =>
    hg.room o (hobs ▸ ho)
  refine ⟨Stream.terminalAssertHolds_of_roomy hroom envelope,
    fun o ho => ⟨hroom o ho, fun hopen => ?_⟩⟩
  obtain ⟨o', ho', hkey, hsent⟩ :=
    Stream.delivered_broadcastTerminal ho (hroom o ho) hopen envelope
  have hlast : s.stream.emitTerminal (.deleted s.record.id) = stream.broadcastTerminal envelope := by
    rw [Stream.emitTerminal, hacc]
  refine ⟨(o', .actorExited), ?_, hkey, hsent, rfl⟩
  rw [handleCommand, finishDelete_of_deleting hd, hlast]
  exact List.mem_append_right _ (List.mem_map.2 ⟨o', ho', rfl⟩)

/-- **Observers see a gapless stream,** whatever they attach, detach and read in
whatever order, and the end of it if the session is deleted. -/
theorem observed_of_run (hs : Spawned s) (inputs : List (Env × ActorInput)) :
    s.Observed inputs := by
  have hg := gapless_of_run hs inputs
  refine ⟨fun o ho => ?_, fun o ho envelope hfull => (hg.not_mem_broadcast ho hfull envelope).1,
    fun hd env envelope stream hp => delivered_of_finishDelete hg hd env hp, fun stream hp => ?_⟩
  · obtain ⟨before, ⟨env, input⟩, after, hinputs, snapshot, t, rfl, hattach, hstart⟩ :=
      attached_of_run hs inputs o ho
    obtain ⟨hsent, hsequences⟩ := hg.sequences ho
    exact ⟨before, env, after, snapshot, t, hinputs, hattach, by rw [hstart, hsent],
      by rw [hstart, hsequences]⟩
  · exact Stream.observers_accept (Stream.accept_of_project rfl hp)

/-- `observed_of_run` on an observer that attaches in the middle of a run, and the
deletion of the session. -/
theorem observed_of_run_attach :
    (spawn ⟨∅, 1⟩ emptyRecord (.fromRecord emptyRecord .loading) .new).Observed
      [(quietEnv, .command (.submit "hello")), (quietEnv, .command (.attach ⟨7⟩ ⟨8⟩)),
        (quietEnv, .run (some (.ok (.assistantDelta "hi")))),
        (quietEnv, .command .prepareDelete)] :=
  observed_of_run (.loaded (by simp [emptyRecord])) _

end Session
end Moh
