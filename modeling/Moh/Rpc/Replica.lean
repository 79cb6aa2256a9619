/-
# What the client presents is what the actor was

In every interleaving of one client and one actor that is not replaced (`Moh.Rpc.Pump`) the
projection that the client presents agrees with a projection that the session passed through:
the one its last snapshot was made of, after the first of the envelopes that the actor sent
since (`Relay.presented_of_run`).  Nothing the client is told is refused by its reducer, and no
envelope is missing between two that it is told.  When nothing is on the way any more it agrees
with the present projection (`Relay.caughtUp_of_run`), and its sequence number never falls
(`Relay.sequence_mono`).

Two halves carry this: what the pumps were fed and passed on (`Relay.Served`), and what the
client holds of it (`Relay.Shown`).
-/

import Moh.Rpc.Pump
import Moh.Rpc.Causes

namespace Moh

open Replica

/-! ### Projections -/

namespace SessionProjection

/-- The summary says whether a run is active. -/
def BusyAgrees (p : SessionProjection) : Prop := p.summary.busy = p.activeRun.isSome

theorem BusyAgrees.reduce {p : SessionProjection} (h : p.BusyAgrees) (event : SessionEvent) :
    (p.reduce event).BusyAgrees := by
  cases event with
  | assistantDelta runId text => simpa [BusyAgrees, SessionProjection.reduce] using h
  | started runId prompt => rfl
  | completed runId response time => rfl
  | failed runId failure => rfl
  | cancelled runId => rfl
  | _ => exact h

/-- An envelope determines the projection behind it. -/
theorem determined (p : SessionProjection) (event event' : SessionEvent)
    (envelope : SessionEventEnvelope) (p₁ p₂ : SessionProjection)
    (h₁ : p.apply event = .ok (envelope, p₁)) (h₂ : p.apply event' = .ok (envelope, p₂)) :
    p₁ = p₂ := by
  obtain ⟨-, -, he₁, rfl⟩ := apply_eq_ok_iff.1 h₁
  obtain ⟨-, -, he₂, rfl⟩ := apply_eq_ok_iff.1 h₂
  obtain rfl : event = event' := (SessionEventEnvelope.mk.inj (he₁.symm.trans he₂)).2
  rfl

/-- Every envelope is numbered. -/
theorem sequence_of_emits {p q : SessionProjection} {envelopes : List SessionEventEnvelope}
    (h : Emits SessionProjection.apply p envelopes q) :
    q.sequence = p.sequence + envelopes.length := by
  induction envelopes generalizing p with
  | nil =>
    obtain rfl := emits_nil.1 h
    rfl
  | cons envelope envelopes ih =>
    obtain ⟨event, p', hp, h⟩ := emits_cons.1 h
    obtain ⟨-, -, -, rfl⟩ := apply_eq_ok_iff.1 hp
    rw [ih h, List.length_cons]
    simp only
    omega

end SessionProjection

namespace Stream

variable {pumped : ℕ → Prop} {st st' : Stream}

/-- The projection after a move: the same, or reduced. -/
theorem Change.projection_cases (hc : Change pumped st st') : st'.projection = st.projection ∨
    ∃ event n, st'.projection = { st.projection.reduce event with sequence := n } := by
  cases hc with
  | emitted hv =>
    obtain ⟨n, hn⟩ := st.exists_emit_projection _
    exact .inr ⟨_, n, hn⟩
  | ended id =>
    obtain ⟨n, hn⟩ := st.exists_emitTerminal_projection (.deleted id)
    exact .inr ⟨_, n, hn⟩
  | _ => exact .inl rfl

theorem Changes.busyAgrees (hc : Changes pumped st st') (h : st.projection.BusyAgrees) :
    st'.projection.BusyAgrees := by
  induction hc with
  | refl => exact h
  | tail _ hc ih =>
    rcases hc.projection_cases with hp | ⟨event, n, hp⟩
    · rw [hp]
      exact ih
    · rw [hp]
      exact ih.reduce event

end Stream

namespace Session

/-- A new actor's summary says whether a run is active. -/
theorem busyAgrees_of_spawned {s : Session} (hs : Spawned s) : s.stream.projection.BusyAgrees := by
  cases hs with
  | loaded hturns => rfl
  | materialized hlast hs =>
    obtain ⟨runId, h, -, -, -, rfl⟩ := spawnMaterialized_eq_ok hs
    rfl

end Session

namespace Rpc

/-! ### What a pump was fed -/

/-- **What a pump passed on** leads from the projection of its snapshot to one that the session
passed through; while it runs, the event it holds is the next. -/
structure ObserverPump.Serves (p : ObserverPump) (st : Stream) : Prop where
  feeds : p.running = true → st.Feeds p.token p.base (p.delivered ++ p.publishing.toList)
  past : ∃ q, Emits SessionProjection.apply p.base p.delivered q ∧
    q.sequence ≤ st.projection.sequence
  busy : p.base.BusyAgrees

variable {st st' : Stream} {p : ObserverPump} {pumped : ℕ → Prop}

/-- The sequence of an earlier projection stays behind. -/
theorem ObserverPump.Serves.changes (h : p.Serves st) (hc : Stream.Changes pumped st st')
    (hpumped : p.running = true → pumped p.token) : p.Serves st' := by
  obtain ⟨q, hq, hle⟩ := h.past
  exact ⟨fun hr => (h.feeds hr).changes (hpumped hr) hc, ⟨q, hq, hle.trans hc.sequence_le⟩, h.busy⟩

/-- A pump that ended only has a past. -/
theorem ObserverPump.Serves.stop (h : p.Serves st) : p.stop.Serves st :=
  ⟨fun hr => absurd hr (by simp [ObserverPump.stop]), h.past, h.busy⟩

/-- A pump that is new. -/
theorem ObserverPump.serves_new (id : ℕ) (connectionId : ConnectionId)
    (attachmentId : AttachmentId) (hbusy : st.projection.BusyAgrees) :
    (ObserverPump.new id st).Serves (st.push connectionId attachmentId) := by
  refine ⟨fun _ => .inl ⟨_, List.mem_append_right _ (List.mem_singleton_self _),
      ⟨rfl, rfl, rfl⟩, ?_⟩,
    ⟨st.projection, emits_nil.2 rfl, Nat.le_refl _⟩, hbusy⟩
  exact emits_nil.2 rfl

/-- What was sent begins with what was received. -/
theorem exists_emits_of_feeds {token : ℕ} {base : SessionProjection}
    {taken : List SessionEventEnvelope} (h : st.Feeds token base taken) :
    ∃ q, Emits SessionProjection.apply base taken q ∧ q.sequence ≤ st.projection.sequence := by
  have hbefore {o : Observer} {q : SessionProjection} (hjoined : Stream.Joined o token base taken)
      (hsent : Emits SessionProjection.apply base o.channel.sent q)
      (hle : q.sequence ≤ st.projection.sequence) :
      ∃ q, Emits SessionProjection.apply base taken q ∧ q.sequence ≤ st.projection.sequence := by
    rw [Channel.sent, hjoined.taken] at hsent
    obtain ⟨m, hm, hrest⟩ := emits_append.1 hsent
    refine ⟨m, hm, le_trans ?_ hle⟩
    rw [SessionProjection.sequence_of_emits hrest]
    exact Nat.le_add_right _ _
  rcases h with ⟨o, -, hjoined, hsent⟩ | ⟨d, -, hjoined, q, hsent, hle⟩
  · exact hbefore hjoined hsent (Nat.le_refl _)
  · exact hbefore hjoined hsent hle

/-- The registration of a running pump has a number of its own. -/
theorem token_lt_of_feeds {token : ℕ} {base : SessionProjection}
    {taken : List SessionEventEnvelope} {reserve : ℕ} (hg : st.Gapless reserve)
    (h : st.Feeds token base taken) : token < st.nextToken := by
  rcases h with ⟨o, ho, hjoined, -⟩ | ⟨d, hd, hjoined, -⟩
  · refine hg.tokens_lt token (List.mem_map.2 ⟨o, List.mem_append_left _ ho, hjoined.token⟩)
  · refine hg.tokens_lt token (List.mem_map.2 ⟨d.1, List.mem_append_right _ ?_, hjoined.token⟩)
    exact List.mem_map_of_mem hd

/-- **What a pump takes next** follows what it passed on. -/
theorem feeds_nextEvent {token : ℕ} {base : SessionProjection} {taken : List SessionEventEnvelope}
    {reserve : ℕ} (hg : st.Gapless reserve) (h : st.Feeds token base taken)
    {event : SessionEventEnvelope} (hn : nextEvent st token = some event) :
    (st.recv token).Feeds token base (taken ++ [event]) := by
  unfold nextEvent at hn
  cases hf : st.registered.find? fun o => o.key.token == token with
  | none => simp [hf] at hn
  | some o =>
    have ho : o ∈ st.registered := List.mem_of_find?_eq_some hf
    have htoken : o.key.token = token := by simpa using List.find?_some hf
    have htaken : o.channel.received = taken := by
      rcases h with ⟨o', ho', hjoined, -⟩ | ⟨d, hd, hjoined, -⟩
      · obtain rfl : o = o' := List.inj_on_of_nodup_map hg.tokens_nodup ho
          (List.mem_append_left _ ho') (htoken.trans hjoined.token.symm)
        exact hjoined.taken
      · obtain rfl : o = d.1 := List.inj_on_of_nodup_map hg.tokens_nodup ho
          (List.mem_append_right _ (List.mem_map_of_mem hd)) (htoken.trans hjoined.token.symm)
        exact hjoined.taken
    have hrecv := h.recv hg ho htoken
    simp only [hf] at hn
    split_ifs at hn with hopen
    obtain ⟨queue, hq⟩ : ∃ queue, o.channel.queue = event :: queue := by
      cases hq : o.channel.queue with
      | nil => simp [hq] at hn
      | cons e queue =>
        simp only [hq, List.head?_cons, Option.some.injEq] at hn
        exact ⟨queue, by rw [hn]⟩
    simpa only [Channel.recv, hopen, hq, htaken] using hrecv

/-! ### The backend's half -/

/-- The identifiers of the attachments that were served. -/
def Relay.ids (r : Relay) : List ℕ := r.pumps.map fun p => p.attachmentId

/-- **The backend's half:** the actor's state is one it can reach, every pump serves its
registration, no two share one, and every reply with a snapshot has its pump. -/
structure Relay.Served (r : Relay) : Prop where
  agrees : r.session.Agrees
  gapless : r.session.stream.Gapless terminalEventReserve
  busy : r.session.stream.projection.BusyAgrees
  pumps : ∀ p ∈ r.pumps, p.Serves r.session.stream
  ids : r.ids.Nodup
  tokens : ∀ p ∈ r.pumps, ∀ q ∈ r.pumps, p.running = true → q.running = true →
    p.token = q.token → p.attachmentId = q.attachmentId
  allocated : ∀ id ∈ r.ids, id ≤ r.machine.client.attachmentIds
  requests : r.requests.Nodup
  requested : ∀ id ∈ r.requests, id ≤ r.machine.client.attachmentIds ∧ id ∉ r.ids
  replies : ∀ id snapshot, (id, .ok snapshot) ∈ r.replies → ∃ p ∈ r.pumps, p.attachmentId = id ∧
    ∃ jobs count, snapshot = Client.attachSnapshot p.base jobs count

namespace Relay

variable {r r' : Relay}

/-- A pump is found by its identifier. -/
theorem mem_of_pump {id : ℕ} {p : ObserverPump} (h : r.pump id = some p) :
    p ∈ r.pumps ∧ p.attachmentId = id :=
  ⟨List.mem_of_find?_eq_some h, by simpa using List.find?_some h⟩

theorem Served.eq_of_id (h : r.Served) {p q : ObserverPump} (hp : p ∈ r.pumps) (hq : q ∈ r.pumps)
    (heq : p.attachmentId = q.attachmentId) : p = q :=
  List.inj_on_of_nodup_map h.ids hp hq heq

/-- What a change of one pump leaves of a pump. -/
theorem mem_onPump {id : ℕ} {f : ObserverPump → ObserverPump} {p' : ObserverPump}
    (hp' : p' ∈ (r.onPump id f).pumps) : ∃ p ∈ r.pumps,
      (p.attachmentId = id ∧ p' = f p) ∨ (p.attachmentId ≠ id ∧ p' = p) := by
  obtain ⟨p, hp, rfl⟩ := List.mem_map.1 hp'
  refine ⟨p, hp, ?_⟩
  split_ifs with hid
  · exact .inl ⟨hid, rfl⟩
  · exact .inr ⟨hid, rfl⟩

theorem ids_onPump (r : Relay) (id : ℕ) {f : ObserverPump → ObserverPump}
    (hf : ∀ p, (f p).attachmentId = p.attachmentId) : (r.onPump id f).ids = r.ids := by
  simp only [ids, onPump, List.map_map]
  refine List.map_congr_left fun p _ => ?_
  simp only [Function.comp_apply]
  split_ifs
  · exact hf p
  · rfl

/-- **The actor's session moves on,** the receivers of the running pumps apart. -/
theorem Served.withSession (h : r.Served) {s : Session} (hagrees : s.Agrees)
    (hgapless : s.stream.Gapless terminalEventReserve)
    (hc : r.session.stream.Changes r.Pumped s.stream) : { r with session := s }.Served where
  agrees := hagrees
  gapless := hgapless
  busy := hc.busyAgrees h.busy
  pumps := fun p hp => (h.pumps p hp).changes hc fun hr => ⟨p, hp, hr, rfl⟩
  ids := h.ids
  tokens := h.tokens
  allocated := h.allocated
  requests := h.requests
  requested := h.requested
  replies := h.replies

/-- An input of the actor. -/
theorem Served.actor (h : r.Served) (env : Env) (input : ActorInput)
    (ht : r.touches input = false) : { r with session := r.session.step (env, input) }.Served := by
  have he := Session.step_effects h.agrees (env, input)
  refine h.withSession (Core.Agrees.effects (c := r.session.core) h.agrees he)
    (Core.gapless_effects (c := r.session.core) h.gapless he) (Session.step_changes _ ?_)
  cases input with
  | recv token => simpa [touches, ActorInput.Spares] using ht
  | closeReceiver token => simpa [touches, ActorInput.Spares] using ht
  | _ => trivial

/-- **A pump and its receiver change together,** the other pumps do not notice. -/
theorem Served.onReceiver (h : r.Served) {p : ObserverPump} (hp : p ∈ r.pumps)
    (hrunning : p.running = true) {stream : Stream}
    (hc : r.session.stream.Changes (fun token => token ≠ p.token) stream)
    (hgapless : stream.Gapless terminalEventReserve)
    (hprojection : stream.projection = r.session.stream.projection)
    {f : ObserverPump → ObserverPump} (hid : ∀ q, (f q).attachmentId = q.attachmentId)
    (htoken : ∀ q, (f q).token = q.token) (hbase : ∀ q, (f q).base = q.base)
    (hserves : (f p).Serves stream) :
    { r.onPump p.attachmentId f with session := { r.session with stream := stream } }.Served where
  agrees := by
    have hagrees := h.agrees
    rwa [Session.Agrees, ← hprojection] at hagrees
  gapless := hgapless
  busy := by
    have hbusy := h.busy
    rwa [← hprojection] at hbusy
  pumps := by
    intro q' hq'
    obtain ⟨q, hq, ⟨hqid, rfl⟩ | ⟨hqid, rfl⟩⟩ := mem_onPump hq'
    · obtain rfl := h.eq_of_id hq hp hqid
      exact hserves
    · refine (h.pumps q' hq).changes hc fun hr heq => hqid ?_
      exact h.tokens q' hq p hp hr hrunning heq
  ids := by
    have hids := ids_onPump r p.attachmentId hid
    simp only [Relay.ids] at hids ⊢
    rw [hids]
    exact h.ids
  tokens := by
    have hsame : ∀ {q' : ObserverPump}, q' ∈ (r.onPump p.attachmentId f).pumps →
        q'.running = true → ∃ q ∈ r.pumps, q.running = true ∧ q.token = q'.token ∧
          q.attachmentId = q'.attachmentId := by
      intro q' hq' hr
      obtain ⟨q, hq, ⟨hqid, rfl⟩ | ⟨hqid, rfl⟩⟩ := mem_onPump hq'
      · obtain rfl := h.eq_of_id hq hp hqid
        exact ⟨q, hq, hrunning, (htoken q).symm, (hid q).symm⟩
      · exact ⟨q', hq, hr, rfl, rfl⟩
    intro q₁ hq₁ q₂ hq₂ hr₁ hr₂ heq
    obtain ⟨p₁, hp₁, hrun₁, htok₁, hid₁⟩ := hsame hq₁ hr₁
    obtain ⟨p₂, hp₂, hrun₂, htok₂, hid₂⟩ := hsame hq₂ hr₂
    rw [← hid₁, ← hid₂]
    exact h.tokens p₁ hp₁ p₂ hp₂ hrun₁ hrun₂ (htok₁.trans (heq.trans htok₂.symm))
  allocated := by
    intro id hid'
    have hids := ids_onPump r p.attachmentId hid
    simp only [Relay.ids] at hids hid' ⊢
    rw [hids] at hid'
    exact h.allocated id hid'
  requests := h.requests
  requested := by
    intro id hreq
    have hids := ids_onPump r p.attachmentId hid
    simp only [Relay.ids] at hids ⊢
    rw [hids]
    exact h.requested id hreq
  replies := by
    intro id snapshot hreply
    obtain ⟨q, hq, hqid, jobs, count, rfl⟩ := h.replies id snapshot hreply
    by_cases heq : q.attachmentId = p.attachmentId
    · refine ⟨f q, List.mem_map.2 ⟨q, hq, if_pos heq⟩, (hid q).trans hqid, jobs, count, ?_⟩
      rw [hbase]
    · exact ⟨q, List.mem_map.2 ⟨q, hq, if_neg heq⟩, hqid, jobs, count, rfl⟩

/-- **The task of a pump ends.** -/
theorem Served.stopPump (h : r.Served) {p : ObserverPump} (hp : p ∈ r.pumps)
    (hrunning : p.running = true) : (r.stopPump p).Served := by
  have hc : r.session.stream.Changes (fun token => token ≠ p.token)
      (r.session.stream.close p.token) := Stream.Change.changes (.closed fun hne => hne rfl)
  refine h.onReceiver hp hrunning hc (h.gapless.close _) rfl (fun _ => rfl) (fun _ => rfl)
    (fun _ => rfl) ?_
  have hstop := (h.pumps p hp).stop
  exact hstop.changes hc fun hr => absurd hr (by simp [ObserverPump.stop])

/-- A change at the client that hands out no fewer identifiers. -/
theorem Served.withMachine (h : r.Served) {m : Machine}
    (hle : r.machine.client.attachmentIds ≤ m.client.attachmentIds) :
    { r with machine := m }.Served where
  agrees := h.agrees
  gapless := h.gapless
  busy := h.busy
  pumps := h.pumps
  ids := h.ids
  tokens := h.tokens
  allocated := fun id hid => (h.allocated id hid).trans hle
  requests := h.requests
  requested := fun id hreq => ⟨(h.requested id hreq).1.trans hle, (h.requested id hreq).2⟩
  replies := h.replies

/-- An open request is handled. -/
theorem Served.handled (h : r.Served) (id : ℕ) :
    { r with requests := r.requests.erase id }.Served where
  agrees := h.agrees
  gapless := h.gapless
  busy := h.busy
  pumps := h.pumps
  ids := h.ids
  tokens := h.tokens
  allocated := h.allocated
  requests := h.requests.erase id
  requested := fun id' hreq => h.requested id' (List.mem_of_mem_erase hreq)
  replies := h.replies

/-- An open request is refused. -/
theorem Served.refused (h : r.Served) (id : ℕ) (error : CommandError) :
    { r with replies := r.replies ++ [(id, Except.error error)] }.Served where
  agrees := h.agrees
  gapless := h.gapless
  busy := h.busy
  pumps := h.pumps
  ids := h.ids
  tokens := h.tokens
  allocated := h.allocated
  requests := h.requests
  requested := h.requested
  replies := by
    intro id' snapshot hreply
    rcases List.mem_append.1 hreply with hreply | hreply
    · exact h.replies id' snapshot hreply
    · simp at hreply

/-- A snapshot that an `Attach` answers with is the projection's, and the registration is the
next one. -/
theorem attach_eq_ok {s s' : Session} {env : Env} {connectionId : ConnectionId}
    {attachmentId : AttachmentId} {snapshot : SessionSnapshot}
    (h : s.attach env connectionId attachmentId = (.ok snapshot, s')) :
    s' = { s with stream := s.stream.push connectionId attachmentId } ∧
      ∃ jobs count, snapshot = Client.attachSnapshot s.stream.projection jobs count := by
  unfold Session.attach at h
  split_ifs at h
  · simp at h
  · cases hj : Session.jobSnapshots env with
    | error error => simp [hj] at h
    | ok jobs =>
      simp only [hj, Prod.mk.injEq, Except.ok.injEq] at h
      obtain ⟨rfl, rfl⟩ := h
      exact ⟨rfl, jobs, _, rfl⟩

/-- A failed `Attach` as an input of the actor. -/
theorem attach_step {s s' : Session} {env : Env} {connectionId : ConnectionId}
    {attachmentId : AttachmentId} {result : Except SessionCommandError SessionSnapshot}
    (hx : s.exited = none) (h : s.attach env connectionId attachmentId = (result, s')) :
    s.step (env, .command (.attach connectionId attachmentId)) = s' := by
  simp only [Session.step, hx, Option.isSome_none, Bool.false_eq_true, if_false,
    Session.handleCommand, h]

/-- **The open request is served:** the new registration has the next number, and its pump
begins at the projection of the snapshot. -/
theorem Served.attached (h : r.Served) {env : Env} {id : ℕ} {connectionId : ConnectionId}
    {snapshot : SessionSnapshot} {s : Session}
    (hid : id ≤ r.machine.client.attachmentIds) (hnew : id ∉ r.ids) (hreq : id ∉ r.requests)
    (hattach : r.session.attach env connectionId ⟨id⟩ = (.ok snapshot, s)) :
    { r with
      session := s
      pumps := r.pumps ++ [ObserverPump.new id r.session.stream]
      replies := r.replies ++ [(id, Except.ok snapshot)] }.Served := by
  obtain ⟨rfl, jobs, count, rfl⟩ := attach_eq_ok hattach
  have hc : r.session.stream.Changes r.Pumped (r.session.stream.push connectionId ⟨id⟩) :=
    Stream.Change.changes (.attached connectionId ⟨id⟩)
  have hs := h.withSession (s := { r.session with
    stream := r.session.stream.push connectionId ⟨id⟩ }) h.agrees (h.gapless.push _ _) hc
  have hfresh : ∀ p ∈ r.pumps, p.running = true → p.token ≠ r.session.stream.nextToken := by
    intro p hp hr heq
    have hlt := token_lt_of_feeds h.gapless ((h.pumps p hp).feeds hr)
    omega
  refine ⟨hs.agrees, hs.gapless, hs.busy, ?_, ?_, ?_, ?_, h.requests, ?_, ?_⟩
  · intro p hp
    rcases List.mem_append.1 hp with hp | hp
    · exact hs.pumps p hp
    · obtain rfl := List.mem_singleton.1 hp
      exact ObserverPump.serves_new id connectionId ⟨id⟩ h.busy
  · have happend : (r.pumps ++ [ObserverPump.new id r.session.stream]).map
        (fun p => p.attachmentId) = r.ids ++ [id] := by
      simp [Relay.ids, ObserverPump.new]
    simp only [Relay.ids] at hnew ⊢
    rw [happend]
    exact List.nodup_append.2 ⟨h.ids, List.nodup_singleton id, fun a ha b hb => by
      obtain rfl := List.mem_singleton.1 hb
      rintro rfl
      exact hnew ha⟩
  · intro p hp q hq hp' hq' heq
    rcases List.mem_append.1 hp with hp | hp <;> rcases List.mem_append.1 hq with hq | hq
    · exact h.tokens p hp q hq hp' hq' heq
    · obtain rfl := List.mem_singleton.1 hq
      exact absurd heq (hfresh p hp hp')
    · obtain rfl := List.mem_singleton.1 hp
      exact absurd heq.symm (hfresh q hq hq')
    · obtain rfl := List.mem_singleton.1 hp
      obtain rfl := List.mem_singleton.1 hq
      rfl
  · intro id' hid'
    simp only [Relay.ids, List.map_append, List.mem_append] at hid'
    rcases hid' with hid' | hid'
    · exact h.allocated id' hid'
    · obtain rfl : id' = id := by simpa [ObserverPump.new] using hid'
      exact hid
  · intro id' hreq'
    refine ⟨(h.requested id' hreq').1, ?_⟩
    simp only [Relay.ids, List.map_append, List.mem_append, not_or]
    refine ⟨(h.requested id' hreq').2, ?_⟩
    simp only [List.map_cons, List.map_nil, List.mem_singleton]
    rintro rfl
    exact hreq hreq'
  · intro id' snapshot' hreply
    rcases List.mem_append.1 hreply with hreply | hreply
    · obtain ⟨p, hp, hrest⟩ := h.replies id' snapshot' hreply
      exact ⟨p, List.mem_append_left _ hp, hrest⟩
    · obtain ⟨rfl, hsnapshot⟩ := Prod.mk.inj (List.mem_singleton.1 hreply)
      obtain rfl := Except.ok.inj hsnapshot
      exact ⟨_, List.mem_append_right _ (List.mem_singleton_self _), rfl, jobs, count, rfl⟩

/-- **Every open request** that is handled. -/
theorem Served.serve (h : r.Served) (env : Env) (id : ℕ) (connectionId : ConnectionId)
    (written : Bool) : (r.serve env id connectionId written).Served := by
  unfold Relay.serve
  by_cases hrequest : r.requests.contains id = false
  · rw [if_pos hrequest]
    exact h
  rw [if_neg hrequest]
  have hmem : id ∈ r.requests := by simpa using hrequest
  obtain ⟨hle, hnew⟩ := h.requested id hmem
  have hh := h.handled id
  simp only
  by_cases hx : r.session.exited.isSome = true
  · rw [if_pos hx]
    exact hh.refused id _
  rw [if_neg hx]
  have hlive : r.session.exited = none := Option.not_isSome_iff_eq_none.1 hx
  cases hattach : r.session.attach env connectionId ⟨id⟩ with
  | mk result s =>
    cases result with
    | error error =>
      have ha := hh.actor env (.command (.attach connectionId ⟨id⟩)) rfl
      rw [attach_step hlive hattach] at ha
      exact ha.refused id _
    | ok snapshot =>
      simp only
      split_ifs with hwritten
      · exact hh.attached hle hnew (fun hreq => (h.requests.not_mem_erase) hreq) hattach
      · have ha := hh.actor env (.command (.attach connectionId ⟨id⟩)) rfl
        rw [attach_step hlive hattach] at ha
        obtain ⟨rfl, -⟩ := attach_eq_ok hattach
        refine ha.actor env (.closeReceiver r.session.stream.nextToken) ?_
        simp only [touches, decide_eq_false_iff_not]
        rintro ⟨p, hp, hr, heq⟩
        have hlt := token_lt_of_feeds h.gapless ((h.pumps p hp).feeds hr)
        omega

/-- **A pump takes the next event** of its registration. -/
theorem Served.advance (h : r.Served) (id : ℕ) (written : Bool) :
    (r.advance id written).Served := by
  unfold Relay.advance
  cases hp : r.pump id with
  | none => exact h
  | some p =>
    obtain ⟨hmem, rfl⟩ := mem_of_pump hp
    simp only
    by_cases hidle : p.running = false ∨ p.publishing.isSome = true
    · rw [if_pos hidle]
      exact h
    rw [if_neg hidle]
    obtain ⟨hrunning, hpublishing⟩ := not_or.1 hidle
    have hrunning : p.running = true := by simpa using hrunning
    have hpublishing : p.publishing = none := by simpa using hpublishing
    cases hn : nextEvent r.session.stream p.token with
    | none => exact h
    | some event =>
      have hc : r.session.stream.Changes (fun token => token ≠ p.token)
          (r.session.stream.recv p.token) := Stream.Change.changes (.received fun hne => hne rfl)
      have hfeeds := (h.pumps p hmem).feeds hrunning
      have hnext := feeds_nextEvent h.gapless hfeeds hn
      have hserves : { p with publishing := some event }.Serves
          (r.session.stream.recv p.token) := by
        refine ⟨fun _ => ?_, (h.pumps p hmem).past, (h.pumps p hmem).busy⟩
        simpa [hpublishing] using hnext
      have hs := h.onReceiver (f := fun p => { p with publishing := some event }) hmem hrunning hc
        (h.gapless.recv _) rfl (fun _ => rfl) (fun _ => rfl) (fun _ => rfl) hserves
      simp only
      split_ifs with hwritten
      · exact hs
      · have hmem' : { p with publishing := some event } ∈
            (r.onPump p.attachmentId fun p => { p with publishing := some event }).pumps :=
          List.mem_map.2 ⟨p, hmem, if_pos rfl⟩
        have hstop := hs.stopPump hmem' hrunning
        exact hstop

end Relay

/-! ### The client's half -/

/-- The events of a channel as messages of its attachment. -/
def messages (id : ℕ) (pending : List SessionEventEnvelope) : List ObserverMessage :=
  pending.map fun e => ⟨id, .ok e⟩

/-- **What an attachment holds:** of the events that its pump passed on the client took the
first ones, the others wait in the channel, and after them the conversion error that the pump
ended with. -/
structure Holds (a : LocalAttachment) (p : ObserverPump)
    (consumed pending : List SessionEventEnvelope) : Prop where
  id : p.attachmentId = a.id
  delivered : p.delivered = consumed ++ pending
  events : ∃ tail, a.events = messages a.id pending ++ tail ∧
    (tail = [] ∨ p.running = false ∧ ∃ error, tail = [⟨a.id, .error error⟩])

/-- **What is presented:** the projection of the snapshot after the events the client took. -/
def Presents (view : Client.ChatProjection) (c : RpcSessionClient) (p : ObserverPump)
    (consumed : List SessionEventEnvelope) : Prop :=
  ∃ snapshot m, view = .session snapshot ∧ Emits SessionProjection.apply p.base consumed m ∧
    Client.Agrees (m.snapshot []) snapshot ∧ c.expectedSequence = m.sequence

/-- The attachment that a recovery opens: its snapshot is not older than what is presented, and
nothing of it was taken. -/
def Joins (c : RpcSessionClient) (a : LocalAttachment) (p : ObserverPump) : Prop :=
  (∃ pending, Holds a p [] pending) ∧ c.expectedSequence ≤ p.base.sequence

/-- **The client's half:** the presented projection stems from a snapshot and the events of its
pump; the current attachment, and the one that a recovery opens, hold the rest. -/
structure Shown (pumps : List ObserverPump) (view : Client.ChatProjection) (gone : Bool)
    (c : RpcSessionClient) : Prop where
  current : ∃ p ∈ pumps, ∃ consumed, consumed <+: p.delivered ∧ Presents view c p consumed ∧
    (gone = false → ∃ pending, Holds c.attachment p consumed pending)
  opening : gone = false → ∀ recovery a, c.pendingRecovery = some recovery →
    recovery.future = .opening a →
      (∃ p ∈ pumps, Joins c a p) ∨ (∀ p ∈ pumps, p.attachmentId ≠ a.id) ∧ a.events = []
  detaching : gone = false → ∀ recovery snapshot a, c.pendingRecovery = some recovery →
    recovery.future = .detaching snapshot a →
      ∃ p ∈ pumps, Joins c a p ∧ ∃ jobs count, snapshot = Client.attachSnapshot p.base jobs count

/-- **What holds in every interleaving,** once the client was told of `n` events. -/
structure Relay.Sound (r : Relay) (n : ℕ) : Prop where
  served : r.Served
  shown : Shown r.pumps r.view r.gone r.machine.client
  follows : ∃ m, MachineFollows m r.machine
  accepted : r.rejected = []
  contiguous : RecoveryReason.sequenceGap ∉ r.detected
  floor : n ≤ r.machine.client.expectedSequence

section Shown

variable {pumps : List ObserverPump} {view : Client.ChatProjection} {gone : Bool}
  {c c' : RpcSessionClient} {a : LocalAttachment} {consumed pending : List SessionEventEnvelope}

/-- The channel does not count, only what is in it. -/
theorem Holds.congr (h : Holds a p consumed pending) {a' : LocalAttachment} (hid : a'.id = a.id)
    (hevents : a'.events = a.events) : Holds a' p consumed pending := by
  obtain ⟨tail, hsplit, htail⟩ := h.events
  rw [← hid, ← hevents] at hsplit
  rw [← hid] at htail
  exact ⟨h.id.trans hid.symm, h.delivered, tail, hsplit, htail⟩

/-- A pump that ended, or moved on without passing anything on. -/
theorem Holds.ofPump (h : Holds a p consumed pending) {p' : ObserverPump}
    (hid : p'.attachmentId = p.attachmentId) (hdelivered : p'.delivered = p.delivered)
    (hrunning : p.running = false → p'.running = false) : Holds a p' consumed pending := by
  obtain ⟨tail, hsplit, htail⟩ := h.events
  exact ⟨hid.trans h.id, hdelivered.trans h.delivered, tail, hsplit,
    htail.imp (fun h => h) fun h => ⟨hrunning h.1, h.2⟩⟩

/-- **An event is passed on.** -/
theorem Holds.deliver (h : Holds a p consumed pending) (hrunning : p.running = true)
    (event : SessionEventEnvelope) {p' : ObserverPump} (hid : p'.attachmentId = p.attachmentId)
    (hdelivered : p'.delivered = p.delivered ++ [event]) :
    Holds { a with events := a.events ++ [⟨p.attachmentId, .ok event⟩] } p' consumed
      (pending ++ [event]) := by
  obtain ⟨tail, hsplit, htail⟩ := h.events
  have hnone : tail = [] := htail.resolve_right fun ht => by simp [hrunning] at ht
  refine ⟨hid.trans h.id, by rw [hdelivered, h.delivered, List.append_assoc], [], ?_, .inl rfl⟩
  simp [hsplit, hnone, h.id, messages]

/-- **An event that could not be read** is the last message of its pump. -/
theorem Holds.fail (h : Holds a p consumed pending) (hrunning : p.running = true)
    (error : RpcConversionError) :
    Holds { a with events := a.events ++ [⟨p.attachmentId, .error error⟩] } p.stop consumed
      pending := by
  obtain ⟨tail, hsplit, htail⟩ := h.events
  have hnone : tail = [] := htail.resolve_right fun ht => by simp [hrunning] at ht
  refine ⟨h.id, h.delivered, [⟨a.id, .error error⟩], ?_, .inr ⟨rfl, error, rfl⟩⟩
  simp [hsplit, hnone, h.id]

/-- **A step that presents nothing new:** the pumps change by `g`, and what an attachment held
it still holds. -/
theorem Shown.step (h : Shown pumps view gone c) {g : ObserverPump → ObserverPump}
    (hid : ∀ p, (g p).attachmentId = p.attachmentId) (hbase : ∀ p, (g p).base = p.base)
    (hgrows : ∀ p, p.delivered <+: (g p).delivered)
    (hexpected : c'.expectedSequence = c.expectedSequence)
    (hcurrent : gone = false → ∀ p ∈ pumps, ∀ consumed pending,
      Holds c.attachment p consumed pending →
        ∃ pending', Holds c'.attachment (g p) consumed pending')
    (hopening : gone = false → ∀ recovery' a', c'.pendingRecovery = some recovery' →
      recovery'.future = .opening a' → ∃ recovery a, c.pendingRecovery = some recovery ∧
        recovery.future = .opening a ∧ a'.id = a.id ∧
          (∀ p ∈ pumps, ∀ pending, Holds a p [] pending → ∃ pending', Holds a' (g p) [] pending') ∧
          ((∀ p ∈ pumps, p.attachmentId ≠ a.id) → a'.events = a.events))
    (hdetaching : gone = false → ∀ recovery' snapshot a', c'.pendingRecovery = some recovery' →
      recovery'.future = .detaching snapshot a' → ∃ recovery a, c.pendingRecovery = some recovery ∧
        recovery.future = .detaching snapshot a ∧
          ∀ p ∈ pumps, ∀ pending, Holds a p [] pending → ∃ pending', Holds a' (g p) [] pending') :
    Shown (pumps.map g) view gone c' := by
  obtain ⟨p, hp, consumed, hbefore, hpresents, hholds⟩ := h.current
  refine ⟨⟨g p, List.mem_map_of_mem hp, consumed, hbefore.trans (hgrows p), ?_, fun ho => ?_⟩,
    fun ho recovery' a' hr hf => ?_, fun ho recovery' snapshot a' hr hf => ?_⟩
  · rwa [Presents, hexpected, hbase]
  · obtain ⟨pending, hh⟩ := hholds ho
    exact hcurrent ho p hp consumed pending hh
  · obtain ⟨recovery, a, hr, hf, haid, hheld, hevents⟩ := hopening ho recovery' a' hr hf
    rcases h.opening ho recovery a hr hf with ⟨q, hq, ⟨pending, hh⟩, hle⟩ | ⟨hnone, hempty⟩
    · refine .inl ⟨g q, List.mem_map_of_mem hq, hheld q hq pending hh, ?_⟩
      rw [hbase, hexpected]
      exact hle
    · refine .inr ⟨fun q' hq' heq => ?_, by rw [hevents hnone, hempty]⟩
      obtain ⟨q, hq, rfl⟩ := List.mem_map.1 hq'
      exact hnone q hq ((hid q).symm.trans (heq.trans haid))
  · obtain ⟨recovery, a, hr, hf, hheld⟩ := hdetaching ho recovery' snapshot a' hr hf
    obtain ⟨q, hq, ⟨⟨pending, hh⟩, hle⟩, jobs, count, hsnapshot⟩ :=
      h.detaching ho recovery snapshot a hr hf
    refine ⟨g q, List.mem_map_of_mem hq, ⟨hheld q hq pending hh, ?_⟩, jobs, count, ?_⟩
    · rw [hbase, hexpected]
      exact hle
    · rw [hbase]
      exact hsnapshot

/-- What the client presents counts, not how it is connected. -/
theorem Shown.withClient (h : Shown pumps view gone c) (hid : c'.attachment.id = c.attachment.id)
    (hevents : c'.attachment.events = c.attachment.events)
    (hexpected : c'.expectedSequence = c.expectedSequence)
    (hpending : c'.pendingRecovery = c.pendingRecovery ∨ c'.pendingRecovery = none) :
    Shown pumps view gone c' := by
  have hsame : ∀ {recovery}, c'.pendingRecovery = some recovery →
      c.pendingRecovery = some recovery := fun hr => by
    rcases hpending with hpending | hpending <;> rw [hpending] at hr
    · exact hr
    · simp at hr
  have hs := h.step (g := fun p => p) (fun _ => rfl) (fun _ => rfl) (fun _ => List.prefix_rfl)
    hexpected
    (fun _ p _ _ pending hh => ⟨pending, hh.congr hid hevents⟩)
    (fun _ recovery a hr hf => ⟨recovery, a, hsame hr, hf, rfl, fun p _ pending hh => ⟨pending, hh⟩,
      fun _ => rfl⟩)
    (fun _ recovery _ a hr hf => ⟨recovery, a, hsame hr, hf, fun p _ pending hh => ⟨pending, hh⟩⟩)
  rwa [List.map_id'] at hs

/-- Pumps that moved on without passing anything on. -/
theorem Shown.withPumps (h : Shown pumps view gone c) {g : ObserverPump → ObserverPump}
    (hid : ∀ p, (g p).attachmentId = p.attachmentId) (hbase : ∀ p, (g p).base = p.base)
    (hdelivered : ∀ p, (g p).delivered = p.delivered)
    (hrunning : ∀ p, p.running = false → (g p).running = false) :
    Shown (pumps.map g) view gone c :=
  h.step hid hbase (fun p => hdelivered p ▸ List.prefix_rfl) rfl
    (fun _ p _ _ pending hh => ⟨pending, hh.ofPump (hid p) (hdelivered p) (hrunning p)⟩)
    (fun _ recovery a hr hf => ⟨recovery, a, hr, hf, rfl, fun p _ pending hh =>
      ⟨pending, hh.ofPump (hid p) (hdelivered p) (hrunning p)⟩, fun _ => rfl⟩)
    (fun _ recovery _ a hr hf => ⟨recovery, a, hr, hf, fun p _ pending hh =>
      ⟨pending, hh.ofPump (hid p) (hdelivered p) (hrunning p)⟩⟩)

/-- The attachment that a recovery opens, after a change of it. -/
theorem future_of_onNewAttachment {f : LocalAttachment → LocalAttachment}
    {recovery' : PendingRecovery}
    (hr : (Machine.onNewAttachment c f).pendingRecovery = some recovery') :
    ∃ recovery, c.pendingRecovery = some recovery ∧
      (∀ a', recovery'.future = .opening a' → ∃ a, recovery.future = .opening a ∧ a' = f a) ∧
      ∀ snapshot a', recovery'.future = .detaching snapshot a' →
        ∃ a, recovery.future = .detaching snapshot a ∧ a' = f a := by
  obtain ⟨recovery, hrecovery, rfl⟩ := Option.map_eq_some_iff.1 hr
  refine ⟨recovery, hrecovery, fun a' hf => ?_, fun snapshot a' hf => ?_⟩
  · cases hfuture : recovery.future with
    | opening a =>
      simp only [hfuture, RecoveryFuture.opening.injEq] at hf
      exact ⟨a, rfl, hf.symm⟩
    | _ => simp [hfuture] at hf
  · cases hfuture : recovery.future with
    | detaching snapshot' a =>
      simp only [hfuture, RecoveryFuture.detaching.injEq] at hf
      obtain ⟨rfl, rfl⟩ := hf
      exact ⟨a, rfl, rfl⟩
    | _ => simp [hfuture] at hf

/-- The sender of the attachment that a recovery opens goes away. -/
theorem Shown.closeNew (h : Shown pumps view gone c) :
    Shown pumps view gone (Machine.onNewAttachment c fun a => { a with isOpen := false }) := by
  have hs : Shown (pumps.map fun p => p) view gone
      (Machine.onNewAttachment c fun a => { a with isOpen := false }) :=
    h.step (g := fun p => p) (fun _ => rfl) (fun _ => rfl) (fun _ => List.prefix_rfl) rfl
      (fun _ p _ _ pending hh => ⟨pending, hh⟩)
      (fun _ recovery' a' hr hf => by
        obtain ⟨recovery, hr, hopen, -⟩ := future_of_onNewAttachment hr
        obtain ⟨a, hfuture, rfl⟩ := hopen a' hf
        exact ⟨recovery, a, hr, hfuture, rfl, fun p _ pending hh => ⟨pending, hh.congr rfl rfl⟩,
          fun _ => rfl⟩)
      (fun _ recovery' snapshot a' hr hf => by
        obtain ⟨recovery, hr, -, hdetach⟩ := future_of_onNewAttachment hr
        obtain ⟨a, hfuture, rfl⟩ := hdetach snapshot a' hf
        exact ⟨recovery, a, hr, hfuture, fun p _ pending hh => ⟨pending, hh.congr rfl rfl⟩⟩)
  rwa [List.map_id'] at hs

/-- **A message for the current attachment** and what its pump does with the answer. -/
theorem Shown.passedCurrent (h : Shown pumps view gone c) (hp : p ∈ pumps)
    (hunique : ∀ q ∈ pumps, q.attachmentId = p.attachmentId → q = p)
    (hcid : c.attachment.id = p.attachmentId)
    (hnew : ∀ recovery a, c.pendingRecovery = some recovery →
      (recovery.future = .opening a ∨ ∃ snapshot, recovery.future = .detaching snapshot a) →
        a.id ≠ c.attachment.id)
    {f : ObserverPump → ObserverPump} (hid : ∀ q, (f q).attachmentId = q.attachmentId)
    (hbase : ∀ q, (f q).base = q.base) (hgrows : ∀ q, q.delivered <+: (f q).delivered)
    {message : ObserverMessage}
    (hheld : ∀ consumed pending, Holds c.attachment p consumed pending →
      ∃ pending', Holds (c.attachment.deliver message) (f p) consumed pending') :
    Shown (pumps.map fun q => if q.attachmentId = p.attachmentId then f q else q) view gone
      { c with attachment := c.attachment.deliver message } := by
  have hother : ∀ {recovery a}, c.pendingRecovery = some recovery →
      (recovery.future = .opening a ∨ ∃ snapshot, recovery.future = .detaching snapshot a) →
      ∀ q ∈ pumps, ∀ pending, Holds a q [] pending → ∃ pending',
        Holds a (if q.attachmentId = p.attachmentId then f q else q) [] pending' := by
    intro recovery a hr hf q hq pending hh
    refine ⟨pending, ?_⟩
    rw [if_neg fun heq => hnew recovery a hr hf (hh.id.symm.trans (heq.trans hcid.symm))]
    exact hh
  refine h.step (fun q => ?_) (fun q => ?_) (fun q => ?_) rfl (fun _ q hq consumed pending hh => ?_)
    (fun _ recovery a hr hf => ⟨recovery, a, hr, hf, rfl, hother hr (.inl hf), fun _ => rfl⟩)
    (fun _ recovery snapshot a hr hf => ⟨recovery, a, hr, hf, hother hr (.inr ⟨snapshot, hf⟩)⟩)
  · split_ifs
    · exact hid q
    · rfl
  · split_ifs
    · exact hbase q
    · rfl
  · split_ifs
    · exact hgrows q
    · exact List.prefix_rfl
  · obtain rfl := hunique q hq (hh.id.trans hcid)
    rw [if_pos rfl]
    exact hheld consumed pending hh

/-- **A message for the attachment that a recovery opens.** -/
theorem Shown.passedNew (h : Shown pumps view gone c) (hp : p ∈ pumps)
    (hunique : ∀ q ∈ pumps, q.attachmentId = p.attachmentId → q = p)
    (hcid : c.attachment.id ≠ p.attachmentId) {recovery : PendingRecovery}
    (hr : c.pendingRecovery = some recovery)
    (hf : recovery.future = .opening a ∨ ∃ snapshot, recovery.future = .detaching snapshot a)
    (haid : a.id = p.attachmentId)
    {f : ObserverPump → ObserverPump} (hid : ∀ q, (f q).attachmentId = q.attachmentId)
    (hbase : ∀ q, (f q).base = q.base) (hgrows : ∀ q, q.delivered <+: (f q).delivered)
    {message : ObserverMessage}
    (hheld : ∀ consumed pending, Holds a p consumed pending →
      ∃ pending', Holds (a.deliver message) (f p) consumed pending') :
    Shown (pumps.map fun q => if q.attachmentId = p.attachmentId then f q else q) view gone
      (Machine.onNewAttachment c fun a => a.deliver message) := by
  have hmine : ∀ q ∈ pumps, ∀ pending, Holds a q [] pending → ∃ pending',
      Holds (a.deliver message) (if q.attachmentId = p.attachmentId then f q else q) []
        pending' := by
    intro q hq pending hh
    obtain rfl := hunique q hq (hh.id.trans haid)
    rw [if_pos rfl]
    exact hheld [] pending hh
  refine h.step (fun q => ?_) (fun q => ?_) (fun q => ?_) rfl
    (fun _ q hq consumed pending hh => ⟨pending, ?_⟩)
    (fun _ recovery' a' hr' hf' => ?_) (fun _ recovery' snapshot a' hr' hf' => ?_)
  · split_ifs
    · exact hid q
    · rfl
  · split_ifs
    · exact hbase q
    · rfl
  · split_ifs
    · exact hgrows q
    · exact List.prefix_rfl
  · rw [if_neg fun heq => hcid (hh.id.symm.trans heq)]
    exact hh
  · obtain ⟨recovery'', hr'', hopen, -⟩ := future_of_onNewAttachment hr'
    obtain rfl := Option.some.inj (hr.symm.trans hr'')
    obtain ⟨a₀, hfuture, rfl⟩ := hopen a' hf'
    obtain rfl : a₀ = a := by
      rcases hf with hf | ⟨snapshot, hf⟩
      · exact RecoveryFuture.opening.inj (hfuture.symm.trans hf)
      · rw [hf] at hfuture
        simp at hfuture
    exact ⟨recovery, a₀, hr, hfuture, a₀.deliver_id message, hmine,
      fun hnone => absurd haid.symm (hnone p hp)⟩
  · obtain ⟨recovery'', hr'', -, hdetach⟩ := future_of_onNewAttachment hr'
    obtain rfl := Option.some.inj (hr.symm.trans hr'')
    obtain ⟨a₀, hfuture, rfl⟩ := hdetach snapshot a' hf'
    obtain rfl : a₀ = a := by
      rcases hf with hf | ⟨snapshot', hf⟩
      · rw [hf] at hfuture
        simp at hfuture
      · exact (RecoveryFuture.detaching.inj (hfuture.symm.trans hf)).2
    exact ⟨recovery, a₀, hr, hfuture, hmine⟩

/-- The session is left. -/
theorem Shown.leave (h : Shown pumps view gone c)
    (hexpected : c'.expectedSequence = c.expectedSequence) : Shown pumps view true c' := by
  obtain ⟨p, hp, consumed, hbefore, hpresents, -⟩ := h.current
  refine ⟨⟨p, hp, consumed, hbefore, ?_, fun ho => by simp at ho⟩, fun ho => by simp at ho,
    fun ho => by simp at ho⟩
  rwa [Presents, hexpected]

end Shown

/-! ### What `next_update` does -/

namespace Relay

variable {r : Relay} {c : RpcSessionClient} {n : ℕ}

/-- The relay after a step of the client's machine. -/
def after (r : Relay) (result : List Mark × Machine) : Relay :=
  result.1.foldl absorb { r with machine := result.2 }

/-- Nothing is reported. -/
theorem Sound.silent (h : r.Sound n) {m : Machine} (hshown : Shown r.pumps r.view r.gone m.client)
    (hle : r.machine.client.attachmentIds ≤ m.client.attachmentIds)
    (hfloor : n ≤ m.client.expectedSequence)
    (hf : ∃ monitor, MachineFollows monitor m) : (r.after ([], m)).Sound n :=
  ⟨h.served.withMachine hle, hshown, hf, h.accepted, h.contiguous, hfloor⟩

/-- An error is returned. -/
theorem Sound.returnError (h : r.Sound n) {id : ℕ} {error : RpcClientError}
    (hshown : Shown r.pumps r.view r.gone c)
    (hle : r.machine.client.attachmentIds ≤ c.attachmentIds) (hfloor : n ≤ c.expectedSequence)
    (hf : ∃ monitor, MachineFollows monitor ⟨c, .idle⟩) :
    (r.after (Machine.return_ c id (.error error))).Sound n :=
  h.silent (m := ⟨c, .idle⟩) hshown hle hfloor hf

/-- A warning is returned. -/
theorem Sound.returnWarning (h : r.Sound n) {id : ℕ} {warning : String} {snapshot : SessionSnapshot}
    (hview : r.view = .session snapshot) (hshown : Shown r.pumps r.view r.gone c)
    (hle : r.machine.client.attachmentIds ≤ c.attachmentIds) (hfloor : n ≤ c.expectedSequence)
    (hf : ∃ monitor, MachineFollows monitor ⟨c, .idle⟩) :
    (r.after (Machine.return_ c id (.ok (.warning warning)))).Sound n := by
  have hafter : r.after (Machine.return_ c id (.ok (.warning warning))) =
      r.after ([], ⟨c, .idle⟩) := by
    simp only [after, Machine.return_, List.foldl_cons, List.foldl_nil, absorb, hview,
      Client.applyProjectionUpdate]
  rw [hafter]
  exact h.silent hshown hle hfloor hf

/-- The deletion is returned. -/
theorem Sound.returnDeleted (h : r.Sound n) {id : ℕ} {sessionId : SessionId} {cwd : List UInt8}
    (hshown : Shown r.pumps r.view true c)
    (hle : r.machine.client.attachmentIds ≤ c.attachmentIds) (hfloor : n ≤ c.expectedSequence)
    (hf : ∃ monitor, MachineFollows monitor ⟨c, .idle⟩) :
    (r.after (Machine.return_ c id (.ok (.deleted sessionId cwd)))).Sound n := by
  have hv := h.served.withMachine (m := ⟨c, .idle⟩) hle
  exact ⟨⟨hv.agrees, hv.gapless, hv.busy, hv.pumps, hv.ids, hv.tokens, hv.allocated, hv.requests,
    hv.requested, hv.replies⟩, hshown, hf, h.accepted, h.contiguous, hfloor⟩

/-- An update that the reducer accepts is returned. -/
theorem Sound.returnUpdate (h : r.Sound n) {id : ℕ} {update : SessionUpdate}
    {v : Client.ChatProjection} (hu : ∀ sessionId cwd, update ≠ .deleted sessionId cwd)
    (hview : Client.applyProjectionUpdate r.view update = (.ok (), v))
    (hshown : Shown r.pumps v r.gone c)
    (hle : r.machine.client.attachmentIds ≤ c.attachmentIds) (hfloor : n ≤ c.expectedSequence)
    (hf : ∃ monitor, MachineFollows monitor ⟨c, .idle⟩) :
    (r.after (Machine.return_ c id (.ok update))).Sound n := by
  have hafter : r.after (Machine.return_ c id (.ok update)) =
      { r with machine := ⟨c, .idle⟩, view := v } := by
    cases update with
    | deleted sessionId cwd => exact absurd rfl (hu sessionId cwd)
    | _ => simp only [after, Machine.return_, List.foldl_cons, List.foldl_nil, absorb, hview]
  have hv := h.served.withMachine (m := ⟨c, .idle⟩) hle
  rw [hafter]
  exact ⟨⟨hv.agrees, hv.gapless, hv.busy, hv.pumps, hv.ids, hv.tokens, hv.allocated, hv.requests,
    hv.requested, hv.replies⟩, hshown, hf, h.accepted, h.contiguous, hfloor⟩

/-- A recovery begins, but none because of a gap. -/
theorem Sound.recover (h : r.Sound n) {reason : RecoveryReason} (hreason : reason ≠ .sequenceGap)
    (hshown : Shown r.pumps r.view r.gone c)
    (hle : r.machine.client.attachmentIds ≤ c.attachmentIds) (hfloor : n ≤ c.expectedSequence)
    (hf : ∃ monitor, MachineFollows monitor ⟨c.beginRecovery reason, .recovering⟩) :
    (r.after (Machine.recover c reason)).Sound n := by
  obtain ⟨p, hp, consumed, hbefore, hpresents, hholds⟩ := hshown.current
  have hbegin : Shown r.pumps r.view r.gone (c.beginRecovery reason) := by
    refine ⟨⟨p, hp, consumed, hbefore, hpresents, hholds⟩, fun _ recovery a hr hf => ?_,
      fun _ recovery snapshot a hr hf => ?_⟩
    · obtain rfl := Option.some.inj hr
      simp at hf
    · obtain rfl := Option.some.inj hr
      simp at hf
  have hs := h.silent (m := ⟨c.beginRecovery reason, .recovering⟩) hbegin hle hfloor hf
  have hv := hs.served
  refine ⟨⟨hv.agrees, hv.gapless, hv.busy, hv.pumps, hv.ids, hv.tokens, hv.allocated, hv.requests,
    hv.requested, hv.replies⟩, hs.shown, hs.follows, hs.accepted, ?_, hfloor⟩
  simp only [Machine.recover, after, List.foldl_cons, List.foldl_nil, absorb, List.mem_append,
    List.mem_singleton, not_or]
  exact ⟨h.contiguous, fun heq => hreason heq.symm⟩

/-- **The top of the loop.** -/
theorem Sound.top (h : r.Sound n) (hshown : Shown r.pumps r.view r.gone c)
    (hle : r.machine.client.attachmentIds ≤ c.attachmentIds) (hfloor : n ≤ c.expectedSequence)
    (hf : ∃ monitor, MachineFollows monitor (Machine.top c).2) :
    (r.after (Machine.top c)).Sound n := by
  obtain ⟨p, hp, consumed, -, ⟨snapshot, m, hview, -⟩, -⟩ := hshown.current
  revert hf
  unfold Machine.top
  cases hw : c.pendingWarning with
  | some warning =>
    exact fun hf => h.returnWarning hview (hshown.withClient rfl rfl rfl (.inl rfl)) hle hfloor hf
  | none =>
    by_cases hrecovery : c.pendingRecovery.isSome = true
    · simp only [if_pos hrecovery]
      exact fun hf => h.silent hshown hle hfloor hf
    simp only [if_neg hrecovery]
    cases checkedSucc c.expectedSequence with
    | none =>
      simp only
      split_ifs
      · exact fun hf => h.returnError hshown hle hfloor hf
      · exact fun hf => h.recover (by decide) hshown hle hfloor hf
    | some next =>
      simp only
      split_ifs
      · exact fun hf => h.returnError hshown hle hfloor hf
      · exact fun hf => h.silent hshown hle hfloor hf

/-- **The next event** that the client takes is accepted by its reducer, and leads on from what
is presented. -/
theorem presents_next {view : Client.ChatProjection} {p : ObserverPump} {st : Stream}
    {consumed pending : List SessionEventEnvelope} {envelope : SessionEventEnvelope}
    (hserves : p.Serves st) (hdelivered : p.delivered = consumed ++ envelope :: pending)
    (hpresents : Presents view c p consumed) (hd : envelope.event.isDeleted = false) :
    envelope.sequence = c.expectedSequence + 1 ∧ c.expectedSequence < u64Max ∧
      ∃ next, Client.applyProjectionUpdate view (.event envelope) = (.ok (), next) ∧
        ∀ {c' : RpcSessionClient}, c'.expectedSequence = envelope.sequence →
          Presents next c' p (consumed ++ [envelope]) := by
  obtain ⟨snapshot, m, rfl, hm, hagrees, hexpected⟩ := hpresents
  obtain ⟨q, hq, -⟩ := hserves.past
  rw [hdelivered] at hq
  obtain ⟨m', hm', hrest⟩ := emits_append.1 hq
  obtain rfl : m' = m := hm'.unique SessionProjection.determined hm
  obtain ⟨event, m'', happly, -⟩ := emits_cons.1 hrest
  obtain ⟨hlt, -, he, hm''⟩ := SessionProjection.apply_eq_ok_iff.1 happly
  have hevent : event.isDeleted = false := by
    rw [he] at hd
    exact hd
  obtain ⟨next, hnext, hagrees'⟩ :=
    Client.applySessionEvent_of_apply [] hagrees hevent happly
  have hsequence : envelope.sequence = m'.sequence + 1 := by rw [he]
  refine ⟨by rw [hsequence, hexpected], hexpected ▸ hlt, .session next, ?_, ?_⟩
  · simp only [Client.applyProjectionUpdate, hnext]
  · intro c' hc'
    refine ⟨next, m'', rfl, hm.snoc happly, hagrees', ?_⟩
    rw [hc', hsequence, hm'']

/-- **A message:** the client takes the next event, or the error that ended the pump. -/
theorem Sound.receive (h : r.Sound n) (ho : r.gone = false)
    (hnone : r.machine.client.pendingRecovery = none)
    (hf : ∃ monitor, MachineFollows monitor
      (Machine.receive r.machine.client (r.machine.client.expectedSequence + 1)).2) :
    (r.after (Machine.receive r.machine.client
      (r.machine.client.expectedSequence + 1))).Sound n := by
  have hshown := h.shown
  obtain ⟨p, hp, consumed, hbefore, hpresents, hholds⟩ := hshown.current
  obtain ⟨pending, hh⟩ := hholds ho
  obtain ⟨tail, hsplit, htail⟩ := hh.events
  revert hf
  unfold Machine.receive
  cases pending with
  | nil =>
    rcases htail with rfl | ⟨hstopped, error, rfl⟩
    · simp only [messages, List.map_nil, List.nil_append] at hsplit
      simp only [hsplit]
      split_ifs
      · exact fun hf => h.silent hshown (Nat.le_refl _) h.floor hf
      · exact fun hf => h.recover (by decide) hshown (Nat.le_refl _) h.floor hf
    · simp only [messages, List.map_nil, List.nil_append] at hsplit
      simp only [hsplit, ne_eq, not_true_eq_false, if_false]
      refine fun hf => h.returnError ?_ (Nat.le_refl _) h.floor hf
      refine ⟨⟨p, hp, consumed, hbefore, hpresents,
        fun _ => ⟨[], hh.id, hh.delivered, [], rfl, .inl rfl⟩⟩,
        fun ho recovery a hr hf => hshown.opening ho recovery a hr hf,
        fun ho recovery snapshot a hr hf => hshown.detaching ho recovery snapshot a hr hf⟩
  | cons envelope pending =>
    simp only [messages, List.map_cons, List.cons_append] at hsplit
    simp only [hsplit, ne_eq, not_true_eq_false, if_false]
    cases hd : envelope.event.isDeleted with
    | true =>
      obtain ⟨sessionId, hevent⟩ : ∃ id, envelope.event = .deleted id := by
        cases hevent : envelope.event with
        | deleted id => exact ⟨id, rfl⟩
        | _ => simp [hevent, SessionEvent.isDeleted] at hd
      simp only [hevent]
      exact fun hf => h.returnDeleted (hshown.leave rfl) (Nat.le_refl _) h.floor hf
    | false =>
      obtain ⟨hsequence, -, next, hnext, hpresents'⟩ :=
        presents_next (h.served.pumps p hp) hh.delivered hpresents hd
      have hlater : ¬envelope.sequence ≤ r.machine.client.expectedSequence := by omega
      split
      · rename_i hevent
        simp [hevent, SessionEvent.isDeleted] at hd
      simp only [if_neg hlater, if_pos hsequence]
      have hlow : n ≤ envelope.sequence := by
        have := h.floor
        omega
      refine fun hf => h.returnUpdate (fun _ _ hu => by cases hu) hnext ?_ (Nat.le_refl _) hlow hf
      refine ⟨⟨p, hp, consumed ++ [envelope],
          ⟨pending, by rw [hh.delivered, List.append_assoc]; rfl⟩, hpresents' rfl, fun _ => ⟨pending, ?_⟩⟩,
        fun ho recovery a hr => by simp [hnone] at hr,
        fun ho recovery snapshot a hr => by simp [hnone] at hr⟩
      exact ⟨hh.id, by rw [hh.delivered, List.append_assoc]; rfl, tail, rfl, htail⟩

/-- **A recovery that succeeds** presents the snapshot of the new attachment. -/
theorem Sound.completeOk (h : r.Sound n) {reason : RecoveryReason}
    {a : LocalAttachment} {snapshot : SessionSnapshot} {warning : Option String}
    (hjoins : ∃ p ∈ r.pumps, Joins r.machine.client a p ∧
      ∃ jobs count, snapshot = Client.attachSnapshot p.base jobs count)
    (hf : ∃ monitor, MachineFollows monitor
      (Machine.complete r.machine.client reason a.id (.ok ⟨snapshot, a, warning⟩)).2) :
    (r.after (Machine.complete r.machine.client reason a.id
      (.ok ⟨snapshot, a, warning⟩))).Sound n := by
  obtain ⟨p, hp, ⟨⟨pending, hh⟩, hle⟩, jobs, count, rfl⟩ := hjoins
  obtain ⟨q, hq, consumed, -, ⟨old, m, hview, -⟩, -⟩ := h.shown.current
  have hbusy : p.base.summary.busy = p.base.activeRun.isSome := (h.served.pumps p hp).busy
  have hvalid : Client.validateSnapshot (Client.attachSnapshot p.base jobs count) = .ok () := by
    simp [Client.validateSnapshot, Client.attachSnapshot, SessionProjection.snapshot, hbusy]
  refine h.returnUpdate (v := .session (Client.attachSnapshot p.base jobs count))
    (fun _ _ hu => by cases hu) ?_ ?_ (Nat.le_refl _) (h.floor.trans hle) hf
  · simp only [hview, Client.applyProjectionUpdate, hvalid]
  · refine ⟨⟨p, hp, [], List.nil_prefix, ⟨_, p.base, rfl, emits_nil.2 rfl, ?_, rfl⟩,
      fun _ => ⟨pending, hh⟩⟩,
      fun ho recovery a hr => by simp at hr, fun ho recovery snapshot a hr => by simp at hr⟩
    constructor <;> rfl

/-- **A recovery that fails** leaves what is presented. -/
theorem Sound.completeError (h : r.Sound n) {reason : RecoveryReason} {id : ℕ}
    {error : RpcClientError}
    (hf : ∃ monitor, MachineFollows monitor
      (Machine.complete r.machine.client reason id (.error error)).2) :
    (r.after (Machine.complete r.machine.client reason id (.error error))).Sound n := by
  have hshown : Shown r.pumps r.view r.gone { r.machine.client with pendingRecovery := none } :=
    h.shown.withClient rfl rfl rfl (.inr rfl)
  revert hf
  simp only [Machine.complete, RpcSessionClient.finishRecovery]
  split_ifs
  · exact fun hf => h.returnDeleted (hshown.leave rfl) (Nat.le_refl _) h.floor hf
  · exact fun hf => h.returnError hshown (Nat.le_refl _) h.floor hf

/-- The open request of a recovery is on its way. -/
theorem Sound.requested (h : r.Sound n) {c : RpcSessionClient}
    (hids : c.attachmentIds = r.machine.client.attachmentIds + 1)
    (hexpected : c.expectedSequence = r.machine.client.expectedSequence)
    (hshown : Shown r.pumps r.view r.gone c)
    (hf : ∃ monitor, MachineFollows monitor ⟨c, .recovering⟩) :
    (r.after ([.requested c.attachmentIds], ⟨c, .recovering⟩)).Sound n := by
  have hv := h.served.withMachine (m := ⟨c, .recovering⟩) (by simp [hids])
  refine ⟨⟨hv.agrees, hv.gapless, hv.busy, hv.pumps, hv.ids, hv.tokens, hv.allocated, ?_, ?_,
    hv.replies⟩, hshown, hf, h.accepted, h.contiguous, h.floor.trans hexpected.ge⟩
  · refine List.nodup_append.2 ⟨hv.requests, List.nodup_singleton _, fun id hid id' hid' => ?_⟩
    obtain rfl := List.mem_singleton.1 hid'
    have := (h.served.requested id hid).1
    omega
  · intro id hid
    rcases List.mem_append.1 hid with hid | hid
    · exact hv.requested id hid
    · obtain rfl := List.mem_singleton.1 hid
      refine ⟨Nat.le_refl _, fun hmem => ?_⟩
      have := h.served.allocated _ hmem
      omega

/-- **One poll of the recovery;** a snapshot that it finds was answered to its open request. -/
theorem Sound.pollRecovery (h : r.Sound n) (ho : r.gone = false) {recovery : PendingRecovery}
    (hr : r.machine.client.pendingRecovery = some recovery) (reply : RecoveryReply)
    (hreply : ∀ a snapshot, recovery.future = .opening a → reply = .opened (.ok (.ok snapshot)) →
      (a.id, .ok snapshot) ∈ r.replies)
    (hf : ∃ monitor, MachineFollows monitor
      (Machine.pollRecovery r.machine.client recovery reply).2) :
    (r.after (Machine.pollRecovery r.machine.client recovery reply)).Sound n := by
  revert hf
  unfold Machine.pollRecovery
  cases hfuture : recovery.future with
  | unstarted =>
    simp only
    cases validateInboundFieldLength recovery.cwd.length maxRpcCwdBytes "cwdForTitle" with
    | error error => exact fun hf => h.completeError hf
    | ok u =>
      cases hs : checkedSucc r.machine.client.attachmentIds with
      | none => exact fun hf => h.completeError hf
      | some id =>
        obtain ⟨-, rfl⟩ := checkedSucc_eq_some_iff.1 hs
        intro hf
        refine h.requested rfl rfl ?_ hf
        obtain ⟨p, hp, consumed, hbefore, hpresents, hholds⟩ := h.shown.current
        refine ⟨⟨p, hp, consumed, hbefore, hpresents, hholds⟩, fun _ recovery' a hr' hfuture' => ?_,
          fun _ recovery' snapshot a hr' hfuture' => ?_⟩
        · obtain rfl := Option.some.inj hr'
          obtain rfl := RecoveryFuture.opening.inj hfuture'
          refine .inr ⟨fun q hq heq => ?_, rfl⟩
          have hle := h.served.allocated q.attachmentId (List.mem_map_of_mem hq)
          simp only at heq
          omega
        · obtain rfl := Option.some.inj hr'
          simp at hfuture'
  | opening a =>
    cases reply with
    | pending => exact fun hf => h.silent h.shown (Nat.le_refl _) h.floor hf
    | detached result => exact fun hf => h.silent h.shown (Nat.le_refl _) h.floor hf
    | opened result =>
      cases result with
      | error error => exact fun hf => h.completeError hf
      | ok result =>
        simp only
        cases result with
        | error error =>
          obtain ⟨error', herror⟩ : ∃ error', reportedResult
              (.error error : Except CommandError SessionSnapshot) = .error error' := by
            simp only [reportedResult]
            split_ifs
            · exact ⟨_, rfl⟩
            · exact ⟨_, rfl⟩
          simp only [herror]
          exact fun hf => h.completeError hf
        | ok snapshot =>
          have hmem := hreply a snapshot hfuture rfl
          obtain ⟨p, hp, hid, hsnapshot⟩ := h.served.replies _ _ hmem
          have hjoins : Joins r.machine.client a p := by
            rcases h.shown.opening ho recovery a hr hfuture with ⟨q, hq, hjoins⟩ | ⟨hnone, -⟩
            · obtain ⟨⟨pending, hh⟩, hle⟩ := hjoins
              obtain rfl := h.served.eq_of_id hq hp (hh.id.trans hid.symm)
              exact ⟨⟨pending, hh⟩, hle⟩
            · exact absurd hid (hnone p hp)
          simp only [reportedResult]
          unfold Machine.startDetach
          cases writeAttachmentId recovery.oldAttachmentId with
          | error error => exact fun hf => h.completeOk ⟨p, hp, hjoins, hsnapshot⟩ hf
          | ok id =>
            refine fun hf => h.silent ?_ (Nat.le_refl _) h.floor hf
            obtain ⟨q, hq, consumed, hbefore, hpresents, hholds⟩ := h.shown.current
            refine ⟨⟨q, hq, consumed, hbefore, hpresents, hholds⟩,
              fun _ recovery' a' hr' hfuture' => ?_,
              fun _ recovery' snapshot' a' hr' hfuture' => ?_⟩
            · obtain rfl := Option.some.inj hr'
              simp at hfuture'
            · obtain rfl := Option.some.inj hr'
              obtain ⟨rfl, rfl⟩ := RecoveryFuture.detaching.inj hfuture'
              exact ⟨p, hp, hjoins, hsnapshot⟩
  | detaching snapshot a =>
    have hjoins := h.shown.detaching ho recovery snapshot a hr hfuture
    have hcounted (count : ℕ) : ∃ p ∈ r.pumps, Joins r.machine.client a p ∧ ∃ jobs count',
        { snapshot with summary := { snapshot.summary with attachedClients := count } } =
          Client.attachSnapshot p.base jobs count' := by
      obtain ⟨p, hp, hj, jobs, count', rfl⟩ := hjoins
      exact ⟨p, hp, hj, jobs, count, rfl⟩
    cases reply with
    | pending => exact fun hf => h.silent h.shown (Nat.le_refl _) h.floor hf
    | opened result => exact fun hf => h.silent h.shown (Nat.le_refl _) h.floor hf
    | detached result =>
      cases result with
      | error error => exact fun hf => h.completeOk hjoins hf
      | ok result =>
        simp only
        cases reportedResult result with
        | error error => exact fun hf => h.completeOk hjoins hf
        | ok count => exact fun hf => h.completeOk (hcounted count) hf

/-- **Every input of the client.** -/
theorem Sound.drive (h : r.Sound n) {input : Input} (hd : ∀ message, input ≠ .deliver message)
    (hn : ∀ message, input ≠ .deliverNew message)
    (hreply : ∀ recovery a snapshot, r.machine.client.pendingRecovery = some recovery →
      recovery.future = .opening a → input = .resume (.opened (.ok (.ok snapshot))) →
      (a.id, .ok snapshot) ∈ r.replies) : (r.drive input).Sound n := by
  unfold Relay.drive
  split_ifs with hover
  · exact h
  have ho : r.gone = false := by simpa using hover
  obtain ⟨monitor, hm⟩ := h.follows
  obtain ⟨monitor', -, hf'⟩ := accepted_step hm input
  have hf : ∃ monitor, MachineFollows monitor (r.machine.step input).2 := ⟨monitor', hf'⟩
  have hstay (c : RpcSessionClient) (location : Location)
      (hid : c.attachment.id = r.machine.client.attachment.id)
      (hevents : c.attachment.events = r.machine.client.attachment.events)
      (hexpected : c.expectedSequence = r.machine.client.expectedSequence)
      (hpending : c.pendingRecovery = r.machine.client.pendingRecovery)
      (hle : r.machine.client.attachmentIds ≤ c.attachmentIds)
      (hf : ∃ monitor, MachineFollows monitor ⟨c, location⟩) :
      (r.after ([], ⟨c, location⟩)).Sound n :=
    h.silent (m := ⟨c, location⟩) (h.shown.withClient hid hevents hexpected (.inl hpending)) hle
      (h.floor.trans hexpected.ge) hf
  change (r.after (r.machine.step input)).Sound n
  revert hf
  unfold Machine.step
  cases input with
  | deliver message => exact absurd rfl (hd message)
  | deliverNew message => exact absurd rfl (hn message)
  | call =>
    cases hl : r.machine.location with
    | idle => exact fun hf => h.top h.shown (Nat.le_refl _) h.floor hf
    | _ => exact fun hf => hstay _ _ rfl rfl rfl rfl (Nat.le_refl _) hf
  | cancel => exact fun hf => hstay _ _ rfl rfl rfl rfl (Nat.le_refl _) hf
  | receive =>
    cases hl : r.machine.location with
    | selecting next =>
      obtain ⟨hnone, -, rfl⟩ := hm.selecting next hl
      exact fun hf => h.receive ho hnone hf
    | _ => exact fun hf => hstay _ _ rfl rfl rfl rfl (Nat.le_refl _) hf
  | connectionChanged =>
    cases hl : r.machine.location with
    | selecting next =>
      simp only
      split_ifs
      · exact fun hf => h.returnError (h.shown.withClient rfl rfl rfl (.inl rfl)) (Nat.le_refl _)
          h.floor hf
      · exact fun hf => hstay _ _ rfl rfl rfl rfl (Nat.le_refl _) hf
    | _ => exact fun hf => hstay _ _ rfl rfl rfl rfl (Nat.le_refl _) hf
  | resume reply =>
    cases hl : r.machine.location with
    | recovering =>
      cases hr : r.machine.client.pendingRecovery with
      | none => exact fun hf => hstay _ _ rfl rfl rfl rfl (Nat.le_refl _) hf
      | some recovery =>
        refine fun hf => h.pollRecovery ho hr reply (fun a snapshot hfuture heq => ?_) hf
        exact hreply recovery a snapshot hr hfuture (by rw [heq])
    | _ => exact fun hf => hstay _ _ rfl rfl rfl rfl (Nat.le_refl _) hf
  | closeObserver => exact fun hf => hstay _ _ rfl rfl rfl rfl (Nat.le_refl _) hf
  | closeNewObserver => exact fun hf => h.silent h.shown.closeNew (Nat.le_refl _) h.floor hf
  | closeConnection => exact fun hf => hstay _ _ rfl rfl rfl rfl (Nat.le_refl _) hf
  | dropConnection => exact fun hf => hstay _ _ rfl rfl rfl rfl (Nat.le_refl _) hf
  | allocateAttachmentId =>
    cases hs : checkedSucc r.machine.client.attachmentIds with
    | none => exact fun hf => hstay _ _ rfl rfl rfl rfl (Nat.le_refl _) hf
    | some id =>
      obtain ⟨-, rfl⟩ := checkedSucc_eq_some_iff.1 hs
      exact fun hf => hstay _ _ rfl rfl rfl rfl (Nat.le_succ _) hf

/-- **The task of a pump ends.** -/
theorem Sound.stopPump (h : r.Sound n) {p : ObserverPump} (hp : p ∈ r.pumps)
    (hrunning : p.running = true) : (r.stopPump p).Sound n := by
  refine ⟨h.served.stopPump hp hrunning, ?_, h.follows, h.accepted, h.contiguous, h.floor⟩
  refine h.shown.withPumps (fun q => ?_) (fun q => ?_) (fun q => ?_) fun q hq => ?_ <;> split_ifs
  all_goals first | rfl | exact hq

/-- Where a publication arrives, in terms of the client. -/
theorem destination_cases (r : Relay) (id : ℕ) :
    (∃ a, r.destination id = .current a ∧ a = r.machine.client.attachment ∧ a.id = id) ∨
    (∃ a recovery, r.destination id = .opening a ∧ r.machine.client.attachment.id ≠ id ∧
      a.id = id ∧ r.machine.client.pendingRecovery = some recovery ∧
        (recovery.future = .opening a ∨ ∃ snapshot, recovery.future = .detaching snapshot a)) ∨
    r.destination id = .dropped := by
  unfold destination
  split_ifs with hover hid
  · exact .inr (.inr rfl)
  · exact .inl ⟨_, rfl, rfl, hid⟩
  · cases hr : r.machine.client.pendingRecovery with
    | none => exact .inr (.inr rfl)
    | some recovery =>
      cases hf : recovery.future with
      | unstarted =>
        simp only [hf]
        exact .inr (.inr trivial)
      | opening a =>
        simp only [hf]
        split_ifs with ha
        · exact .inr (.inl ⟨a, recovery, rfl, hid, ha, rfl, .inl hf⟩)
        · exact .inr (.inr rfl)
      | detaching snapshot a =>
        simp only [hf]
        split_ifs with ha
        · exact .inr (.inl ⟨a, recovery, rfl, hid, ha, rfl, .inr ⟨snapshot, hf⟩⟩)
        · exact .inr (.inr rfl)

/-- **A message is put into the channel of an attachment,** and its pump and the receiver of
that change with it. -/
theorem Sound.deliver (h : r.Sound n) {p : ObserverPump} (hp : p ∈ r.pumps)
    (hrunning : p.running = true) {d : Destination} {a : LocalAttachment}
    (hd : r.destination p.attachmentId = d) (ha : d = .current a ∨ d = .opening a)
    {m : ObserverMessage} {stream : Stream}
    (hc : r.session.stream.Changes (fun token => token ≠ p.token) stream)
    (hgapless : stream.Gapless terminalEventReserve)
    (hprojection : stream.projection = r.session.stream.projection)
    {f : ObserverPump → ObserverPump}
    (hid : ∀ q, (f q).attachmentId = q.attachmentId) (htoken : ∀ q, (f q).token = q.token)
    (hbase : ∀ q, (f q).base = q.base) (hgrows : ∀ q, q.delivered <+: (f q).delivered)
    (hserves : (f p).Serves stream)
    (hheld : ∀ consumed pending, Holds a p consumed pending →
      ∃ pending', Holds (a.deliver m) (f p) consumed pending') :
    { (r.deliver d m).onPump p.attachmentId f with
      session := { r.session with stream := stream } }.Sound n := by
  have hunique : ∀ q ∈ r.pumps, q.attachmentId = p.attachmentId → q = p :=
    fun q hq heq => h.served.eq_of_id hq hp heq
  obtain ⟨monitor, hm⟩ := h.follows
  have hs := h.served.onReceiver hp hrunning hc hgapless hprojection hid htoken hbase hserves
  rcases destination_cases r p.attachmentId with ⟨a', hd', rfl, haid⟩ |
      ⟨a', recovery, hd', hcid, haid, hr, hf⟩ | hd'
  · obtain rfl := hd.symm.trans hd'
    obtain rfl : r.machine.client.attachment = a := by simpa using ha
    obtain ⟨monitor', -, hf'⟩ := accepted_step hm (.deliver m)
    refine ⟨hs.withMachine (Nat.le_refl _), ?_, ⟨monitor', hf'⟩, h.accepted, h.contiguous, h.floor⟩
    refine h.shown.passedCurrent hp hunique haid (fun recovery a hr hf heq => ?_) hid hbase hgrows
      hheld
    have hlt := (hm.client.opening recovery hr a hf).1
    omega
  · obtain rfl := hd.symm.trans hd'
    obtain rfl : a' = a := by simpa using ha
    obtain ⟨monitor', -, hf'⟩ := accepted_step hm (.deliverNew m)
    refine ⟨hs.withMachine (Nat.le_refl _), ?_, ⟨monitor', hf'⟩, h.accepted, h.contiguous, h.floor⟩
    exact h.shown.passedNew hp hunique hcid hr hf haid hid hbase hgrows hheld
  · rw [hd.symm.trans hd'] at ha
    simp at ha

/-- A message that finds no open channel changes nothing. -/
theorem deliver_of_closed {a : LocalAttachment} (hclosed : a.isOpen = false)
    (message : ObserverMessage) : a.deliver message = a := by
  simp [LocalAttachment.deliver, hclosed]

/-- **Every publication.** -/
theorem Sound.publishTo (h : r.Sound n) {p : ObserverPump} (hp : p ∈ r.pumps)
    (hrunning : p.running = true) {event : SessionEventEnvelope} (he : p.publishing = some event)
    {d : Destination} {a : LocalAttachment} (hd : r.destination p.attachmentId = d)
    (ha : d = .current a ∨ d = .opening a) (transfer : Transfer) :
    (r.publishTo p event d a transfer).Sound n := by
  have hserves := h.served.pumps p hp
  unfold Relay.publishTo
  by_cases hfull : (a.isOpen && decide (observerCapacity ≤ a.events.length)) = true
  · rw [if_pos hfull]
    exact h
  rw [if_neg hfull]
  have hroom : a.isOpen = true → ∀ message : ObserverMessage,
      a.deliver message = { a with events := a.events ++ [message] } := by
    intro hopen message
    have hlt : a.events.length < observerCapacity := by simpa [hopen] using hfull
    simp [LocalAttachment.deliver, hopen, hlt]
  cases transfer with
  | unreadable error =>
    simp only
    have hc : r.session.stream.Changes (fun token => token ≠ p.token)
        (r.session.stream.close p.token) := Stream.Change.changes (.closed fun hne => hne rfl)
    have hstop := h.deliver (m := ⟨p.attachmentId, .error error⟩) (f := ObserverPump.stop)
      hp hrunning hd ha hc
      (h.served.gapless.close _) rfl (fun _ => rfl) (fun _ => rfl) (fun _ => rfl)
      (fun _ => List.prefix_rfl)
      (hserves.stop.changes hc fun hr => absurd hr (by simp [ObserverPump.stop]))
      (fun consumed pending hh => ⟨pending, by
        cases hopen : a.isOpen with
        | false =>
          rw [deliver_of_closed hopen]
          exact hh.ofPump rfl rfl fun _ => rfl
        | true =>
          rw [hroom hopen]
          exact hh.fail hrunning error⟩)
    rcases ha with rfl | rfl <;> exact hstop
  | intact =>
    simp only
    by_cases hopen : a.isOpen = false
    · rw [if_pos hopen]
      exact h.stopPump hp hrunning
    rw [if_neg hopen]
    have hopen : a.isOpen = true := by simpa using hopen
    have hfeeds := hserves.feeds hrunning
    rw [he] at hfeeds
    have hpassed := h.deliver (m := ⟨p.attachmentId, .ok event⟩)
      (f := fun p => { p with publishing := none, delivered := p.delivered ++ [event] })
      hp hrunning hd ha .refl h.served.gapless rfl (fun _ => rfl) (fun _ => rfl) (fun _ => rfl)
      (fun _ => List.prefix_append _ _)
      ⟨fun _ => by simpa using hfeeds, exists_emits_of_feeds hfeeds, hserves.busy⟩
      (fun consumed pending hh => ⟨pending ++ [event], by
        rw [hroom hopen]
        exact hh.deliver hrunning event rfl rfl⟩)
    have hmem : { p with publishing := none, delivered := p.delivered ++ [event] } ∈
        ((r.deliver d ⟨p.attachmentId, .ok event⟩).onPump p.attachmentId fun p =>
          { p with publishing := none, delivered := p.delivered ++ [event] }).pumps := by
      refine List.mem_map.2 ⟨p, ?_, if_pos rfl⟩
      rcases ha with rfl | rfl <;> exact hp
    have hpassed' : ((r.deliver d ⟨p.attachmentId, .ok event⟩).onPump p.attachmentId fun p =>
        { p with publishing := none, delivered := p.delivered ++ [event] }).Sound n := by
      rcases ha with rfl | rfl <;> exact hpassed
    split_ifs
    · have hstop := hpassed'.stopPump hmem hrunning
      exact hstop
    · exact hpassed'

/-! ### Every hop -/

/-- What is presented is not ahead of the session. -/
theorem Sound.expected_le (h : r.Sound n) :
    r.machine.client.expectedSequence ≤ r.session.stream.projection.sequence := by
  obtain ⟨p, hp, consumed, ⟨pending, hdelivered⟩, ⟨snapshot, m, -, hm, -, hexpected⟩, -⟩ :=
    h.shown.current
  obtain ⟨q, hq, hle⟩ := (h.served.pumps p hp).past
  rw [← hdelivered] at hq
  obtain ⟨m', hm', hrest⟩ := emits_append.1 hq
  obtain rfl : m' = m := hm'.unique SessionProjection.determined hm
  have hlater := SessionProjection.sequence_of_emits hrest
  omega

/-- A new pump, possibly of the attachment that a recovery opens. -/
theorem Sound.shown_serve (h : r.Sound n) (id : ℕ) :
    Shown (r.pumps ++ [.new id r.session.stream]) r.view r.gone r.machine.client := by
  obtain ⟨p, hp, consumed, hbefore, hpresents, hholds⟩ := h.shown.current
  refine ⟨⟨p, List.mem_append_left _ hp, consumed, hbefore, hpresents, hholds⟩,
    fun ho recovery a hr hf => ?_, fun ho recovery snapshot a hr hf => ?_⟩
  · rcases h.shown.opening ho recovery a hr hf with ⟨q, hq, hjoins⟩ | ⟨hnone, hempty⟩
    · exact .inl ⟨q, List.mem_append_left _ hq, hjoins⟩
    · by_cases hid : id = a.id
      · refine .inl ⟨_, List.mem_append_right _ (List.mem_singleton_self _), ⟨[], ?_⟩,
          h.expected_le⟩
        exact ⟨hid, rfl, [], by rw [hempty]; rfl, .inl rfl⟩
      · refine .inr ⟨fun q hq => ?_, hempty⟩
        rcases List.mem_append.1 hq with hq | hq
        · exact hnone q hq
        · obtain rfl := List.mem_singleton.1 hq
          exact hid
  · obtain ⟨q, hq, hrest⟩ := h.shown.detaching ho recovery snapshot a hr hf
    exact ⟨q, List.mem_append_left _ hq, hrest⟩

/-- **The open request is handled.** -/
theorem Sound.serve (h : r.Sound n) (env : Env) (id : ℕ) (connectionId : ConnectionId)
    (written : Bool) : (r.serve env id connectionId written).Sound n := by
  have hs := h.served.serve env id connectionId written
  revert hs
  unfold Relay.serve
  by_cases hrequest : r.requests.contains id = false
  · rw [if_pos hrequest]
    exact fun _ => h
  rw [if_neg hrequest]
  simp only
  by_cases hx : r.session.exited.isSome = true
  · rw [if_pos hx]
    exact fun hs => ⟨hs, h.shown, h.follows, h.accepted, h.contiguous, h.floor⟩
  rw [if_neg hx]
  cases r.session.attach env connectionId ⟨id⟩ with
  | mk result s =>
    cases result with
    | error error => exact fun hs => ⟨hs, h.shown, h.follows, h.accepted, h.contiguous, h.floor⟩
    | ok snapshot =>
      simp only
      split_ifs
      · exact fun hs => ⟨hs, h.shown_serve id, h.follows, h.accepted, h.contiguous, h.floor⟩
      · exact fun hs => ⟨hs, h.shown, h.follows, h.accepted, h.contiguous, h.floor⟩

/-- **A pump takes an event.** -/
theorem Sound.advance (h : r.Sound n) (id : ℕ) (written : Bool) :
    (r.advance id written).Sound n := by
  have hs := h.served.advance id written
  revert hs
  unfold Relay.advance
  cases hp : r.pump id with
  | none => exact fun _ => h
  | some p =>
    simp only
    by_cases hidle : p.running = false ∨ p.publishing.isSome = true
    · rw [if_pos hidle]
      exact fun _ => h
    rw [if_neg hidle]
    cases nextEvent r.session.stream p.token with
    | none => exact fun _ => h
    | some event =>
      have hkept : ∀ (id : ℕ) (f : ObserverPump → ObserverPump) {pumps : List ObserverPump},
          Shown pumps r.view r.gone r.machine.client →
          (∀ q, (f q).attachmentId = q.attachmentId ∧ (f q).base = q.base ∧
            (f q).delivered = q.delivered ∧ (q.running = false → (f q).running = false)) →
          Shown (pumps.map fun q => if q.attachmentId = id then f q else q) r.view r.gone
            r.machine.client := by
        intro id f pumps hshown hf
        refine hshown.withPumps (fun q => ?_) (fun q => ?_) (fun q => ?_) fun q hq => ?_ <;>
          split_ifs
        · exact (hf q).1
        · rfl
        · exact (hf q).2.1
        · rfl
        · exact (hf q).2.2.1
        · rfl
        · exact (hf q).2.2.2 hq
        · exact hq
      have hshown := hkept id (fun p => { p with publishing := some event })
        h.shown fun q => ⟨rfl, rfl, rfl, fun hr => hr⟩
      simp only
      split_ifs
      · exact fun hs => ⟨hs, hshown, h.follows, h.accepted, h.contiguous, h.floor⟩
      · exact fun hs => ⟨hs, hkept _ _ hshown fun q => ⟨rfl, rfl, rfl, fun _ => rfl⟩, h.follows,
          h.accepted, h.contiguous, h.floor⟩

/-- **A pump publishes.** -/
theorem Sound.publish (h : r.Sound n) (id : ℕ) (transfer : Transfer) :
    (r.publish id transfer).Sound n := by
  unfold Relay.publish
  cases hp : r.pump id with
  | none => exact h
  | some p =>
    obtain ⟨hmem, rfl⟩ := mem_of_pump hp
    cases hrunning : p.running with
    | false => simp only [hrunning]; exact h
    | true =>
      cases he : p.publishing with
      | none => simp only [hrunning, he]; exact h
      | some event =>
        simp only [hrunning, he]
        cases hd : r.destination p.attachmentId with
        | current a => exact h.publishTo hmem hrunning he hd (.inl rfl) transfer
        | opening a => exact h.publishTo hmem hrunning he hd (.inr rfl) transfer
        | dropped => exact h.stopPump hmem hrunning

/-- **Every hop.** -/
theorem Sound.step (h : r.Sound n) (hop : Hop) : (r.step hop).Sound n := by
  unfold Relay.step
  cases hop with
  | actor env input =>
    simp only
    split_ifs with ht
    · exact h
    · exact ⟨h.served.actor env _ (by simpa using ht), h.shown, h.follows, h.accepted,
        h.contiguous, h.floor⟩
  | serve env id connectionId written => exact h.serve env id connectionId written
  | refuse id error =>
    simp only
    split_ifs
    · exact ⟨(h.served.handled id).refused id error, h.shown, h.follows, h.accepted,
        h.contiguous, h.floor⟩
    · exact h
  | advance id written => exact h.advance id written
  | publish id transfer => exact h.publish id transfer
  | breakOff id =>
    cases hp : r.pump id with
    | none => simp only [hp]; exact h
    | some p =>
      simp only [hp]
      split_ifs with hrunning
      · exact h.stopPump (mem_of_pump hp).1 hrunning
      · exact h
  | reply =>
    cases ha : r.awaited with
    | none => exact h
    | some result =>
      refine h.drive (fun _ hne => Input.noConfusion hne) (fun _ hne => Input.noConfusion hne)
        fun recovery a snapshot hr hf heq => ?_
      simp only [awaited, hr, hf, Option.map_eq_some_iff] at ha
      obtain ⟨⟨id, result'⟩, hfind, rfl⟩ := ha
      have hid : id = a.id := by simpa using List.find?_some hfind
      have hresult : result' = .ok snapshot := by simpa using heq
      rw [← hid, ← hresult]
      exact List.mem_of_find?_eq_some hfind
  | client input =>
    simp only
    split_ifs with hlocal
    · refine h.drive ?_ ?_ ?_
      · rintro message rfl
        simp [isLocal] at hlocal
      · rintro message rfl
        simp [isLocal] at hlocal
      · rintro recovery a snapshot hr hf rfl
        simp [isLocal] at hlocal
    · exact h

/-! ### Every run -/

/-- What the client was told of so far counts from now on. -/
theorem Sound.rebase (h : r.Sound n) : r.Sound r.machine.client.expectedSequence :=
  ⟨h.served, h.shown, h.follows, h.accepted, h.contiguous, Nat.le_refl _⟩

/-- What a reachable actor keeps of its projection. -/
theorem busyAgrees_of_run {s : Session} (hs : Spawned s) (inputs : List (Env × ActorInput)) :
    (Run.run Session.step s inputs).stream.projection.BusyAgrees :=
  Run.run_invariant (I := fun s : Session => s.stream.projection.BusyAgrees)
    (fun s input hbusy => (@Session.step_changes (fun _ => False) s input (by
      cases input.2 <;> simp [ActorInput.Spares])).busyAgrees hbusy)
    (Session.busyAgrees_of_spawned hs) inputs

/-- **A client that just opened the session.** -/
theorem sound_open {s : Session} (hs : Spawned s) (inputs : List (Env × ActorInput)) {env : Env}
    {connectionId : ConnectionId} {id : ℕ} {connection : ConnectionWatch} {r : Relay}
    (hopen : open_ (Run.run Session.step s inputs) env connectionId id connection = some r) :
    r.Sound r.machine.client.expectedSequence := by
  have hagrees := Session.agrees_of_run (Session.agrees_of_spawned hs) inputs
  have hgapless := Session.gapless_of_run hs inputs
  have hbusy := busyAgrees_of_run hs inputs
  generalize Run.run Session.step s inputs = t at hopen hagrees hgapless hbusy
  unfold open_ at hopen
  cases hattach : t.attach env connectionId ⟨id⟩ with
  | mk result t' =>
    cases result with
    | error error => simp [hattach] at hopen
    | ok snapshot =>
      simp only [hattach, Option.some.injEq] at hopen
      obtain ⟨rfl, jobs, count, rfl⟩ := attach_eq_ok hattach
      subst hopen
      have hone : ∀ {p : ObserverPump}, p ∈ [ObserverPump.new id t.stream] →
          p = ObserverPump.new id t.stream := fun hp => List.mem_singleton.1 hp
      refine ⟨⟨hagrees, hgapless.push _ _, hbusy, ?_, List.nodup_singleton _, ?_, ?_,
        List.nodup_nil, fun id hid => absurd hid List.not_mem_nil,
        fun id snapshot hmem => absurd hmem List.not_mem_nil⟩, ?_, ?_, rfl, List.not_mem_nil,
        Nat.le_refl _⟩
      · intro p hp
        rw [hone hp]
        exact ObserverPump.serves_new id connectionId ⟨id⟩ hbusy
      · intro p hp q hq _ _ _
        rw [hone hp, hone hq]
      · intro id' hid'
        obtain ⟨p, hp, rfl⟩ := List.mem_map.1 hid'
        rw [hone hp]
        exact Nat.le_refl _
      · refine ⟨⟨_, List.mem_singleton_self _, [], List.nil_prefix,
          ⟨_, t.stream.projection, rfl, emits_nil.2 rfl, ?_, rfl⟩,
          fun _ => ⟨[], rfl, rfl, [], rfl, .inl rfl⟩⟩,
          fun _ recovery a hr => by simp [RpcSessionClient.new] at hr,
          fun _ recovery snapshot a hr => by simp [RpcSessionClient.new] at hr⟩
        constructor <;> rfl
      · refine ⟨⟨id, t.stream.projection.sequence, .streaming⟩, ⟨rfl, rfl, rfl, Nat.le_refl _,
          fun p hp => by simp [RpcSessionClient.new] at hp, fun _ => rfl⟩,
          (fun _ hl => by cases hl), (fun hl => by cases hl)⟩

theorem sound_of_run {s : Session} (hs : Spawned s) (inputs : List (Env × ActorInput)) {env : Env}
    {connectionId : ConnectionId} {id : ℕ} {connection : ConnectionWatch} {r : Relay}
    (hopen : open_ (Run.run Session.step s inputs) env connectionId id connection = some r)
    (hops : List Hop) : (Run.run Relay.step r hops).Sound r.machine.client.expectedSequence :=
  Run.run_invariant (I := fun r' : Relay => r'.Sound r.machine.client.expectedSequence)
    (fun _ hop h => h.step hop) (sound_open hs inputs hopen) hops

/-- How a presented snapshot stands for a projection of the server: in all but the jobs and
the counts of running jobs and attached clients, which are counted for every snapshot. -/
abbrev Mirrors (p : SessionProjection) (snapshot : SessionSnapshot) : Prop :=
  Client.Agrees (p.snapshot []) snapshot

/-- **What the client presents trails the session.**  In every interleaving of the actor, the
pumps, the client's polls and cancellations and of whatever fails between them, the presented
snapshot mirrors a projection that the session passed through: it stems from the projection of
an attachment, after the first of the envelopes that its pump passed on, and the others lead to
a projection that is not ahead of the session.  No update was refused by the client's reducer,
and no recovery began because of a gap. -/
theorem presented_of_run {s : Session} (hs : Spawned s) (inputs : List (Env × ActorInput))
    {env : Env} {connectionId : ConnectionId} {id : ℕ} {connection : ConnectionWatch} {r : Relay}
    (hopen : open_ (Run.run Session.step s inputs) env connectionId id connection = some r)
    (hops : List Hop) :
    (∃ p ∈ (Run.run Relay.step r hops).pumps, ∃ consumed pending q snapshot,
      (Run.run Relay.step r hops).view = .session snapshot ∧
      p.delivered = consumed ++ pending ∧
      Trails SessionProjection.apply Mirrors p.base consumed pending q snapshot ∧
      q.sequence ≤ (Run.run Relay.step r hops).session.stream.projection.sequence) ∧
    (Run.run Relay.step r hops).rejected = [] ∧
    RecoveryReason.sequenceGap ∉ (Run.run Relay.step r hops).detected := by
  have h := sound_of_run hs inputs hopen hops
  refine ⟨?_, h.accepted, h.contiguous⟩
  obtain ⟨p, hp, consumed, ⟨pending, hdelivered⟩, ⟨snapshot, m, hview, hm, hagrees, -⟩, -⟩ :=
    h.shown.current
  obtain ⟨q, hq, hle⟩ := (h.served.pumps p hp).past
  rw [← hdelivered] at hq
  exact ⟨p, hp, consumed, pending, q, snapshot, hview, hdelivered.symm,
    .of_emits SessionProjection.determined hq hm hagrees, hle⟩

/-- A client that just opened the session of a new actor. -/
def idleRelay : Relay :=
  (open_ Session.idleSession Session.quietEnv ⟨7⟩ 1 openConnection).get rfl

theorem open_idleSession :
    open_ (Run.run Session.step Session.idleSession []) Session.quietEnv ⟨7⟩ 1 openConnection =
      some idleRelay :=
  rfl

/-- A prompt starts a run, and the client is told of it. -/
def submitHops : List Hop :=
  [.actor Session.quietEnv (.command (.submit "hello")), .advance 1 true, .publish 1 .intact,
    .client .call, .client .receive, .advance 1 true, .publish 1 .intact, .client .call,
    .client .receive]

/-- `presented_of_run` on a prompt whose last event is still on the way. -/
theorem presented_of_run_submit :
    (∃ p ∈ (Run.run Relay.step idleRelay (submitHops.take 7)).pumps, ∃ consumed pending q snapshot,
      (Run.run Relay.step idleRelay (submitHops.take 7)).view = .session snapshot ∧
      p.delivered = consumed ++ pending ∧
      Trails SessionProjection.apply Mirrors p.base consumed pending q snapshot ∧
      q.sequence ≤ (Run.run Relay.step idleRelay
        (submitHops.take 7)).session.stream.projection.sequence) ∧
    (Run.run Relay.step idleRelay (submitHops.take 7)).rejected = [] ∧
    RecoveryReason.sequenceGap ∉ (Run.run Relay.step idleRelay (submitHops.take 7)).detected :=
  presented_of_run (.loaded (by simp [emptyRecord])) [] open_idleSession _

/-- Nothing is on the way to the client: it has not left, its channel is empty, and its pump
runs, waits for an event and is registered with an empty channel. -/
structure Drained (r : Relay) (p : ObserverPump) (o : Observer) : Prop where
  attached : r.gone = false
  mem : p ∈ r.pumps
  current : p.attachmentId = r.machine.client.attachment.id
  taken : r.machine.client.attachment.events = []
  running : p.running = true
  waiting : p.publishing = none
  registered : o ∈ r.session.stream.observers
  token : o.key.token = p.token
  empty : o.channel.queue = []

/-- **A client that nothing is on the way to presents the present.** -/
theorem caughtUp_of_run {s : Session} (hs : Spawned s) (inputs : List (Env × ActorInput))
    {env : Env} {connectionId : ConnectionId} {id : ℕ} {connection : ConnectionWatch} {r : Relay}
    (hopen : open_ (Run.run Session.step s inputs) env connectionId id connection = some r)
    (hops : List Hop) {p : ObserverPump} {o : Observer}
    (hd : (Run.run Relay.step r hops).Drained p o) :
    ∃ snapshot, (Run.run Relay.step r hops).view = .session snapshot ∧
      Mirrors (Run.run Relay.step r hops).session.stream.projection snapshot := by
  have h := sound_of_run hs inputs hopen hops
  generalize Run.run Relay.step r hops = r' at h hd
  obtain ⟨q, hq, consumed, -, ⟨snapshot, m, hview, hm, hagrees, -⟩, hholds⟩ := h.shown.current
  obtain ⟨pending, hh⟩ := hholds hd.attached
  obtain rfl := h.served.eq_of_id hq hd.mem (hh.id.trans hd.current.symm)
  have hnone : pending = [] := by
    obtain ⟨tail, hsplit, -⟩ := hh.events
    rw [hd.taken] at hsplit
    simpa [messages] using (List.append_eq_nil_iff.1 hsplit.symm).1
  subst hnone
  refine ⟨snapshot, hview, ?_⟩
  have hfeeds := (h.served.pumps q hq).feeds hd.running
  rw [hd.waiting, hh.delivered] at hfeeds
  simp only [Option.toList_none, List.append_nil] at hfeeds
  have hsent : Emits SessionProjection.apply q.base (consumed ++ [])
      r'.session.stream.projection := by
    rcases hfeeds with ⟨o', ho', hjoined, hsent⟩ | ⟨d, hmem, hjoined, -⟩
    · obtain rfl : o' = o := List.inj_on_of_nodup_map h.served.gapless.tokens_nodup
        (List.mem_append_left _ ho') (List.mem_append_left _ hd.registered)
        (hjoined.token.trans hd.token.symm)
      rwa [Channel.sent, hjoined.taken, hd.empty] at hsent
    · have hnodup := h.served.gapless.tokens_nodup
      rw [Stream.tokens, List.map_append] at hnodup
      refine absurd (hjoined.token.trans hd.token.symm) fun heq => ?_
      exact (List.nodup_append.1 hnodup).2.2 _ (List.mem_map_of_mem hd.registered) _
        (List.mem_map_of_mem (List.mem_map_of_mem hmem)) heq.symm
  exact (Trails.of_emits SessionProjection.determined hsent hm hagrees).caughtUp

/-- `caughtUp_of_run` on a prompt whose events were all taken. -/
theorem caughtUp_of_run_submit : ∃ snapshot,
    (Run.run Relay.step idleRelay submitHops).view = .session snapshot ∧
      Mirrors (Run.run Relay.step idleRelay submitHops).session.stream.projection snapshot :=
  caughtUp_of_run (.loaded (by simp [emptyRecord])) [] open_idleSession submitHops
    ⟨rfl, List.mem_cons_self, rfl, rfl, rfl, rfl, List.mem_cons_self, rfl, rfl⟩

/-- The number of the presented snapshot. -/
theorem Sound.view_sequence (h : r.Sound n) : ∃ snapshot, r.view = .session snapshot ∧
    snapshot.sequence = r.machine.client.expectedSequence := by
  obtain ⟨p, -, consumed, -, ⟨snapshot, m, hview, -, hagrees, hexpected⟩, -⟩ := h.shown.current
  exact ⟨snapshot, hview, hagrees.sequence.trans hexpected.symm⟩

/-- **The client never goes back** while the actor is not replaced: a snapshot that is presented
later, also one that a recovery brought, is not older than one that was presented. -/
theorem sequence_mono {s : Session} (hs : Spawned s) (inputs : List (Env × ActorInput))
    {env : Env} {connectionId : ConnectionId} {id : ℕ} {connection : ConnectionWatch} {r : Relay}
    (hopen : open_ (Run.run Session.step s inputs) env connectionId id connection = some r)
    (hops more : List Hop) : ∃ earlier later,
      (Run.run Relay.step r hops).view = .session earlier ∧
      (Run.run Relay.step r (hops ++ more)).view = .session later ∧
      earlier.sequence ≤ later.sequence := by
  have h := sound_of_run hs inputs hopen hops
  obtain ⟨earlier, hview, hearlier⟩ := h.view_sequence
  have hlater : (Run.run Relay.step r (hops ++ more)).Sound
      (Run.run Relay.step r hops).machine.client.expectedSequence := by
    rw [Run.run_append]
    exact Run.run_invariant (I := fun r' : Relay => r'.Sound _) (fun _ hop h' => h'.step hop)
      h.rebase more
  obtain ⟨later, hview', hsequence⟩ := hlater.view_sequence
  refine ⟨earlier, later, hview, hview', ?_⟩
  rw [hearlier, hsequence]
  exact hlater.floor

/-- `sequence_mono` on the two events of a prompt. -/
theorem sequence_mono_submit : ∃ earlier later,
    (Run.run Relay.step idleRelay (submitHops.take 5)).view = .session earlier ∧
      (Run.run Relay.step idleRelay (submitHops.take 5 ++ submitHops.drop 5)).view =
        .session later ∧
      earlier.sequence ≤ later.sequence :=
  sequence_mono (.loaded (by simp [emptyRecord])) [] open_idleSession _ _

end Relay
end Rpc
end Moh
