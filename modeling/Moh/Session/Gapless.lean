/-
# The stream of an actor has no gaps

Every operation of `Moh.Session.Stream` keeps `Stream.Gapless`: the log holds the
envelopes numbered from 1 to the current sequence, every registered observer was
sent exactly the part of the log after its snapshot and has the terminal slot
free, and a departed observer was sent a first part of it.

An event that validates is numbered, or reduced without a number once the
sequence is exhausted (`accept`, `project_of_valid`); `emit` is that step together
with the broadcast of the envelope.
-/

import Moh.Session.Stream

namespace Moh
namespace Stream

/-! ### What `project` does with a valid event -/

/-- The envelope and the stream of an event that validates. -/
def accept (st : Stream) (event : SessionEvent) : Option SessionEventEnvelope × Stream :=
  if st.projection.sequence < u64Max then
    (some ⟨st.projection.sequence + 1, event⟩,
      { st with
        projection := { st.projection.reduce event with sequence := st.projection.sequence + 1 }
        log := st.log ++ [⟨st.projection.sequence + 1, event⟩] })
  else (none, { st with projection := st.projection.reduce event }.clear .sequenceExhausted)

/-- An event that validates, numbered and broadcast. -/
def emit (st : Stream) (event : SessionEvent) : Stream :=
  (st.accept event).2.broadcastSome (st.accept event).1

/-- An event that validates, numbered and sent as the terminal one. -/
def emitTerminal (st : Stream) (event : SessionEvent) : Stream :=
  match st.accept event with
  | (some envelope, st) => st.broadcastTerminal envelope
  | (none, st) => st

theorem project_of_valid {st : Stream} {event : SessionEvent}
    (h : st.projection.validateEvent event = .ok ()) :
    st.project event = (.ok (st.accept event).1, (st.accept event).2) := by
  unfold project accept
  by_cases hs : st.projection.sequence < u64Max
  · have ha := SessionProjection.apply_eq_ok_iff.2 ⟨hs, h, rfl, rfl⟩
    rw [if_pos hs, ha]
  · have ha : st.projection.apply event = .error .sequenceExhausted :=
      SessionProjection.apply_eq_exhausted_iff.2 (Nat.not_lt.1 hs)
    rw [if_neg hs, ha]
    simp only [SessionProjection.applyUnsequenced, h]

theorem accept_of_project {st st' : Stream} {event : SessionEvent}
    {envelope : Option SessionEventEnvelope} (hv : st.projection.validateEvent event = .ok ())
    (hp : st.project event = (.ok envelope, st')) : st.accept event = (envelope, st') := by
  rw [project_of_valid hv] at hp
  obtain ⟨henvelope, rfl⟩ := Prod.mk.inj hp
  exact Prod.ext (Except.ok.inj henvelope) rfl

/-- The strict projection only numbers events. -/
theorem accept_of_projectStrict {st st' : Stream} {event : SessionEvent}
    {envelope : SessionEventEnvelope} (h : st.projectStrict event = (.ok envelope, st')) :
    st.accept event = (some envelope, st') := by
  unfold projectStrict at h
  cases ha : st.projection.apply event with
  | error error => simp [ha] at h
  | ok result =>
    obtain ⟨e, projection⟩ := result
    obtain ⟨hs, -, rfl, rfl⟩ := SessionProjection.apply_eq_ok_iff.1 ha
    simp only [ha, Prod.mk.injEq, Except.ok.injEq] at h
    obtain ⟨rfl, rfl⟩ := h
    rw [accept, if_pos hs]

@[simp] theorem broadcastSome_projection (st : Stream) (envelope : Option SessionEventEnvelope) :
    (st.broadcastSome envelope).projection = st.projection := by
  cases envelope <;> rfl

/-- The projection after an event: reduced, with some sequence number. -/
theorem exists_accept_projection (st : Stream) (event : SessionEvent) :
    ∃ n, (st.accept event).2.projection = { st.projection.reduce event with sequence := n } := by
  unfold accept
  split_ifs
  · exact ⟨_, rfl⟩
  · exact ⟨(st.projection.reduce event).sequence, rfl⟩

theorem exists_emit_projection (st : Stream) (event : SessionEvent) :
    ∃ n, (st.emit event).projection = { st.projection.reduce event with sequence := n } := by
  obtain ⟨n, hn⟩ := st.exists_accept_projection event
  exact ⟨n, by rw [emit, broadcastSome_projection, hn]⟩

theorem exists_emitTerminal_projection (st : Stream) (event : SessionEvent) :
    ∃ n, (st.emitTerminal event).projection = { st.projection.reduce event with sequence := n } := by
  obtain ⟨n, hn⟩ := st.exists_accept_projection event
  unfold emitTerminal
  split <;> rename_i heq <;> rw [heq] at hn <;> exact ⟨n, hn⟩

/-- The persistence warning validates in every state. -/
theorem broadcastPersistenceTransition_some (st : Stream) (warning : Option String) :
    st.broadcastPersistenceTransition (some warning) = st.emit (.persistenceWarning warning) := by
  have hv : st.projection.validateEvent (.persistenceWarning warning) = .ok () := rfl
  have h := project_of_valid hv
  simp only [broadcastPersistenceTransition, emit, h]
  cases (st.accept (.persistenceWarning warning)).1 <;> rfl

/-! ### The invariant -/

/-- The numbers of all registrations so far, departed ones included. -/
def tokens (st : Stream) : List ℕ :=
  (st.observers ++ st.departed.map Prod.fst).map fun o => o.key.token

/-- The stream of one actor between two inputs, with `reserve` slots of every
observer free. -/
structure Gapless (st : Stream) (reserve : ℕ) : Prop where
  /-- The log holds the sequence numbers `1`, …, the current one. -/
  numbered : st.log.map (fun e => e.sequence) = List.range' 1 st.projection.sequence
  /-- Every observer was sent the log after its snapshot. -/
  observers : ∀ o ∈ st.observers, o.Gapless st.log
  /-- Every observer has the reserved slots free. -/
  room : ∀ o ∈ st.observers, o.Roomy reserve
  /-- Every departed observer was sent a first part of the log after its snapshot. -/
  departed : ∀ d ∈ st.departed, d.1.Cut st.log
  /-- Registrations have numbers of their own. -/
  tokens_nodup : st.tokens.Nodup
  /-- These numbers were handed out. -/
  tokens_lt : ∀ token ∈ st.tokens, token < st.nextToken

/-! ### Registrations come and go -/

/-- The kept and the dropped registrations are the ones there were. -/
theorem tokens_retainSent {st : Stream} {send : Observer → Option Observer}
    (hkey : ∀ o o', send o = some o' → o'.key = o.key) :
    (st.retainSent send).tokens.Perm st.tokens := by
  have hkept : (st.observers.filterMap send).map (fun o => o.key.token) =
      (st.observers.filter fun o => (send o).isSome).map fun o => o.key.token := by
    induction st.observers with
    | nil => rfl
    | cons o os ih =>
      cases hs : send o with
      | none => simpa [hs] using ih
      | some o' => simpa [hs, hkey o o' hs] using ih
  have hparts := (List.filter_append_perm (fun o => (send o).isSome) st.observers).map
    fun o => o.key.token
  simp only [tokens, retainSent, List.map_append, hkept, List.map_map, Function.comp_def]
    at hparts ⊢
  simp only [Option.not_isSome] at hparts
  refine List.Perm.trans ?_ (hparts.append_right _)
  rw [List.append_assoc]
  exact List.Perm.append_left _ List.perm_append_comm

theorem tokens_clear (st : Stream) (reason : Departure) :
    (st.clear reason).tokens.Perm st.tokens := by
  simp only [tokens, clear, List.map_append, List.map_map, Function.comp_def, List.nil_append,
    List.map_id']
  exact List.perm_append_comm

theorem tokens_retain (st : Stream) (keep : Observer → Bool) :
    (st.retain keep).tokens.Perm st.tokens := by
  have hparts := (List.filter_append_perm keep st.observers).map fun o => o.key.token
  simp only [tokens, retain, List.map_append, List.map_map, Function.comp_def] at hparts ⊢
  refine List.Perm.trans ?_ (hparts.append_right _)
  rw [List.append_assoc]
  exact List.Perm.append_left _ List.perm_append_comm

theorem tokens_push (st : Stream) (connectionId : ConnectionId) (attachmentId : AttachmentId) :
    (st.push connectionId attachmentId).tokens.Perm (st.nextToken :: st.tokens) := by
  simp only [tokens, push, List.map_append, List.map_cons, List.append_assoc,
    List.singleton_append]
  exact List.perm_middle

/-! ### Registrations are inherited -/

/-- A terminal send that succeeds appends the envelope. -/
theorem sendTerminal_eq_some_iff {envelope : SessionEventEnvelope} {o o' : Observer} :
    sendTerminal envelope o = some o' ↔ o.channel.isOpen = true ∧ 0 < o.channel.free ∧
      o' = { o with channel := { o.channel with queue := o.channel.queue ++ [envelope] } } := by
  unfold sendTerminal
  cases ht : o.channel.trySend envelope with
  | mk r c =>
    cases r with
    | error e =>
      simp only [reduceCtorEq, false_iff]
      rintro ⟨hopen, hfree, -⟩
      rw [Channel.trySend_eq_ok_iff.2 ⟨hopen, hfree, rfl⟩] at ht
      simp at ht
    | ok u =>
      obtain ⟨hopen, hfree, rfl⟩ := Channel.trySend_eq_ok_iff.1 ht
      simp only [Option.some.injEq, hopen, hfree, true_and]
      exact eq_comm

/-- **The assertion of the terminal broadcast holds:** no send finds its channel
full, if every observer kept one slot free. -/
theorem terminalAssertHolds_of_roomy {st : Stream}
    (hroom : ∀ o ∈ st.observers, o.Roomy terminalEventReserve) (envelope : SessionEventEnvelope) :
    st.terminalAssertHolds envelope := by
  intro o ho hfull
  cases hopen : o.channel.isOpen with
  | false => simp [Channel.trySend, hopen] at hfull
  | true =>
    rw [Fanout.Subscriber.trySend_of_roomy (hroom o ho) hopen] at hfull
    simp at hfull

/-- Every observer of the later stream was registered before, under the same
identity and with the same snapshot. -/
def Inherits (st st' : Stream) : Prop :=
  ∀ o' ∈ st'.observers, ∃ o ∈ st.observers, o.key = o'.key ∧ o.start = o'.start

theorem Inherits.refl (st : Stream) : st.Inherits st := fun o ho => ⟨o, ho, rfl, rfl⟩

theorem Inherits.trans {st₁ st₂ st₃ : Stream} (h₁₂ : st₁.Inherits st₂) (h₂₃ : st₂.Inherits st₃) :
    st₁.Inherits st₃ := fun o₃ ho₃ => by
  obtain ⟨o₂, ho₂, hkey₂, hstart₂⟩ := h₂₃ o₃ ho₃
  obtain ⟨o₁, ho₁, hkey₁, hstart₁⟩ := h₁₂ o₂ ho₂
  exact ⟨o₁, ho₁, hkey₁.trans hkey₂, hstart₁.trans hstart₂⟩

/-- An observer that takes an envelope is the same observer. -/
theorem inherits_retainSent {st : Stream} {send : Observer → Option Observer}
    (hsend : ∀ o o', send o = some o' → o.key = o'.key ∧ o.start = o'.start) :
    st.Inherits (st.retainSent send) := fun o' ho' => by
  obtain ⟨o, ho, hso⟩ := List.mem_filterMap.1 ho'
  exact ⟨o, ho, hsend o o' hso⟩

theorem inherits_clear (st : Stream) (reason : Departure) : st.Inherits (st.clear reason) :=
  fun _ ho' => absurd ho' List.not_mem_nil

theorem inherits_retain (st : Stream) (keep : Observer → Bool) : st.Inherits (st.retain keep) :=
  fun o' ho' => ⟨o', (List.mem_filter.1 ho').1, rfl, rfl⟩

theorem inherits_onChannel (st : Stream) (token : ℕ) {f : Observer → Observer}
    (hf : ∀ o, o.key = (f o).key ∧ o.start = (f o).start) : st.Inherits (st.onChannel token f) :=
  fun o' ho' => by
    obtain ⟨o, ho, rfl⟩ := List.mem_map.1 ho'
    refine ⟨o, ho, ?_⟩
    split_ifs
    · exact hf o
    · exact ⟨rfl, rfl⟩

theorem inherits_accept (st : Stream) (event : SessionEvent) : st.Inherits (st.accept event).2 := by
  unfold accept
  split_ifs
  · exact .refl _
  · exact fun _ ho' => absurd ho' List.not_mem_nil

theorem inherits_emit (st : Stream) (event : SessionEvent) : st.Inherits (st.emit event) := by
  refine (st.inherits_accept event).trans ?_
  unfold emit
  cases (st.accept event).1 with
  | none => exact .refl _
  | some envelope =>
    refine inherits_retainSent fun o o' ho => ?_
    obtain ⟨-, -, rfl⟩ := Fanout.Subscriber.offer_eq_some_iff.1 ho
    exact ⟨rfl, rfl⟩

theorem inherits_emitTerminal (st : Stream) (event : SessionEvent) :
    st.Inherits (st.emitTerminal event) := by
  refine (st.inherits_accept event).trans ?_
  unfold emitTerminal
  cases st.accept event with
  | mk envelope st' =>
    cases envelope with
    | none => exact .refl _
    | some envelope =>
      refine inherits_retainSent fun o o' ho => ?_
      obtain ⟨-, -, rfl⟩ := sendTerminal_eq_some_iff.1 ho
      exact ⟨rfl, rfl⟩

theorem inherits_broadcastPersistenceTransition (st : Stream) (told : Option (Option String)) :
    st.Inherits (st.broadcastPersistenceTransition told) := by
  cases told with
  | none => exact .refl _
  | some warning =>
    rw [broadcastPersistenceTransition_some]
    exact st.inherits_emit _

namespace Gapless

variable {st : Stream} {reserve : ℕ}

theorem length_log (h : st.Gapless reserve) : st.log.length = st.projection.sequence := by
  simpa using congrArg List.length h.numbered

/-- A new actor's stream. -/
theorem new {projection : SessionProjection} (h : projection.sequence = 0) :
    (Stream.new projection).Gapless reserve where
  numbered := by simp [Stream.new, h]
  observers := by simp [Stream.new]
  room := by simp [Stream.new]
  departed := by simp [Stream.new]
  tokens_nodup := by simp [Stream.new, tokens]
  tokens_lt := by simp [Stream.new, tokens]

/-- The registrations of a stream carried over to another one. -/
theorem tokens_of_perm (h : st.Gapless reserve) (st' : Stream) (hp : st'.tokens.Perm st.tokens)
    (hn : st.nextToken ≤ st'.nextToken) :
    st'.tokens.Nodup ∧ ∀ token ∈ st'.tokens, token < st'.nextToken :=
  ⟨hp.nodup_iff.2 h.tokens_nodup, fun token ht =>
    (h.tokens_lt token (hp.subset ht)).trans_le hn⟩

theorem clear (h : st.Gapless reserve) (reason : Departure) {reserve' : ℕ} :
    (st.clear reason).Gapless reserve' where
  numbered := h.numbered
  observers := by simp [Stream.clear]
  room := by simp [Stream.clear]
  departed := by
    intro d hd
    rcases List.mem_append.1 hd with hd | hd
    · exact h.departed d hd
    · obtain ⟨o, ho, rfl⟩ := List.mem_map.1 hd
      exact (h.observers o ho).cut
  tokens_nodup := (h.tokens_of_perm _ (tokens_clear st reason) le_rfl).1
  tokens_lt := (h.tokens_of_perm _ (tokens_clear st reason) le_rfl).2

theorem retain (h : st.Gapless reserve) (keep : Observer → Bool) :
    (st.retain keep).Gapless reserve where
  numbered := h.numbered
  observers := fun o ho => h.observers o (List.mem_filter.1 ho).1
  room := fun o ho => h.room o (List.mem_filter.1 ho).1
  departed := by
    intro d hd
    rcases List.mem_append.1 hd with hd | hd
    · exact h.departed d hd
    · obtain ⟨o, ho, rfl⟩ := List.mem_map.1 hd
      exact (h.observers o (List.mem_filter.1 ho).1).cut
  tokens_nodup := (h.tokens_of_perm _ (tokens_retain st keep) le_rfl).1
  tokens_lt := (h.tokens_of_perm _ (tokens_retain st keep) le_rfl).2

/-- The projection may change as long as its sequence does not. -/
theorem withProjection (h : st.Gapless reserve) {projection : SessionProjection}
    (hs : projection.sequence = st.projection.sequence) :
    { st with projection := projection }.Gapless reserve where
  numbered := by rw [hs]; exact h.numbered
  observers := h.observers
  room := h.room
  departed := h.departed
  tokens_nodup := h.tokens_nodup
  tokens_lt := h.tokens_lt

/-- **Numbering an envelope and sending it keeps the stream gapless,** whichever
way it is sent, if an observer that takes it is the same observer with the
envelope at the end of its channel and the terminal slot still free. -/
theorem retainSent (h : st.Gapless reserve) {projection : SessionProjection}
    {envelope : SessionEventEnvelope} {send : Observer → Option Observer} {reserve' : ℕ}
    (hs : projection.sequence = st.projection.sequence + 1)
    (he : envelope.sequence = st.projection.sequence + 1)
    (hsend : ∀ o o', send o = some o' → o'.key = o.key ∧
      (o.Gapless st.log → o'.Gapless (st.log ++ [envelope])) ∧ o'.Roomy reserve') :
    ({ st with projection := projection, log := st.log ++ [envelope] }.retainSent send).Gapless
      reserve' := by
  have hp := h.tokens_of_perm
    ({ st with projection := projection, log := st.log ++ [envelope] }.retainSent send)
    (tokens_retainSent fun o o' ho => (hsend o o' ho).1) le_rfl
  refine ⟨?_, ?_, ?_, ?_, hp.1, hp.2⟩
  · simp only [Stream.retainSent, List.map_append, List.map_cons, List.map_nil, h.numbered, hs, he]
    rw [List.range'_1_concat, Nat.add_comm 1]
  · intro o' ho'
    obtain ⟨o, ho, hso⟩ := List.mem_filterMap.1 ho'
    exact (hsend o o' hso).2.1 (h.observers o ho)
  · intro o' ho'
    obtain ⟨o, -, hso⟩ := List.mem_filterMap.1 ho'
    exact (hsend o o' hso).2.2
  · intro d hd
    rcases List.mem_append.1 hd with hd | hd
    · exact (h.departed d hd).append _
    · obtain ⟨o, ho, rfl⟩ := List.mem_map.1 hd
      exact (h.observers o (List.mem_filter.1 ho).1).cut.append _

/-- **Every event keeps the stream gapless:** it is numbered and reaches every
observer with room for it, and when no number is left the observers are
dropped. -/
theorem emit (h : st.Gapless reserve) (event : SessionEvent) :
    (st.emit event).Gapless terminalEventReserve := by
  unfold Stream.emit accept
  split_ifs with hs
  · refine h.retainSent (by rfl) (by rfl) fun o o' ho => ⟨?_, fun hg => ?_, ?_⟩
    · obtain ⟨-, -, rfl⟩ := Fanout.Subscriber.offer_eq_some_iff.1 ho
      rfl
    · exact Fanout.Subscriber.gapless_offer hg ho
    · exact Fanout.Subscriber.roomy_offer ho
  · exact (h.withProjection (SessionProjection.reduce_sequence _ _)).clear _

theorem broadcastPersistenceTransition (h : st.Gapless terminalEventReserve)
    (transition : Option (Option String)) :
    (st.broadcastPersistenceTransition transition).Gapless terminalEventReserve := by
  cases transition with
  | none => exact h
  | some warning =>
    rw [broadcastPersistenceTransition_some]
    exact h.emit _

/-- **A new registration sees everything after its snapshot.** -/
theorem push (h : st.Gapless terminalEventReserve) (connectionId : ConnectionId)
    (attachmentId : AttachmentId) :
    (st.push connectionId attachmentId).Gapless terminalEventReserve where
  numbered := h.numbered
  observers := by
    intro o ho
    rcases List.mem_append.1 ho with ho | ho
    · exact h.observers o ho
    · obtain rfl := List.mem_singleton.1 ho
      have hg := Fanout.Subscriber.gapless_new st.log
        (⟨connectionId, attachmentId, st.nextToken⟩ : ObserverKey)
        (observerCapacity + terminalEventReserve)
      rwa [h.length_log] at hg
  room := by
    intro o ho
    rcases List.mem_append.1 ho with ho | ho
    · exact h.room o ho
    · obtain rfl := List.mem_singleton.1 ho
      exact Fanout.Subscriber.roomy_new (by decide) _ _
  departed := h.departed
  tokens_nodup := by
    refine (tokens_push st connectionId attachmentId).nodup_iff.2
      (List.nodup_cons.2 ⟨fun hmem => ?_, h.tokens_nodup⟩)
    exact Nat.lt_irrefl _ (h.tokens_lt _ hmem)
  tokens_lt := by
    intro token ht
    rcases List.mem_cons.1 ((tokens_push st connectionId attachmentId).subset ht) with rfl | ht
    · exact Nat.lt_succ_self _
    · exact Nat.lt_succ_of_lt (h.tokens_lt _ ht)

/-- A registration that is taken back at once leaves the others. -/
theorem dropLast_push (h : st.Gapless reserve) (connectionId : ConnectionId)
    (attachmentId : AttachmentId) :
    { st.push connectionId attachmentId with
      observers := (st.push connectionId attachmentId).observers.dropLast }.Gapless
        reserve := by
  have hobs : (st.push connectionId attachmentId).observers.dropLast = st.observers := by
    simp [Stream.push]
  rw [hobs]
  exact ⟨h.numbered, h.observers, h.room, h.departed, h.tokens_nodup, fun token ht =>
    Nat.lt_succ_of_lt (h.tokens_lt token ht)⟩

/-- What a client does with its channel keeps the stream gapless, if it changes
neither what was sent nor who the observer is, and frees slots. -/
theorem onChannel (h : st.Gapless reserve) (token : ℕ) {f : Observer → Observer}
    (hkey : ∀ o, (f o).key = o.key) (hgap : ∀ o log, o.Gapless log → (f o).Gapless log)
    (hroom : ∀ o, o.Roomy reserve → (f o).Roomy reserve)
    (hcut : ∀ o log, o.Cut log → (f o).Cut log) : (st.onChannel token f).Gapless reserve := by
  have htokens : (st.onChannel token f).tokens = st.tokens := by
    simp only [tokens, Stream.onChannel, List.map_append, List.map_map, Function.comp_def]
    congr 1 <;>
    · refine List.map_congr_left fun o _ => ?_
      split_ifs <;> simp [hkey]
  refine ⟨h.numbered, ?_, ?_, ?_, htokens ▸ h.tokens_nodup, htokens ▸ h.tokens_lt⟩
  · intro o' ho'
    obtain ⟨o, ho, rfl⟩ := List.mem_map.1 ho'
    split_ifs
    · exact hgap o _ (h.observers o ho)
    · exact h.observers o ho
  · intro o' ho'
    obtain ⟨o, ho, rfl⟩ := List.mem_map.1 ho'
    split_ifs
    · exact hroom o (h.room o ho)
    · exact h.room o ho
  · intro d' hd'
    obtain ⟨d, hd, rfl⟩ := List.mem_map.1 hd'
    split_ifs
    · exact hcut d.1 _ (h.departed d hd)
    · exact h.departed d hd

theorem recv (h : st.Gapless reserve) (token : ℕ) : (st.recv token).Gapless reserve :=
  h.onChannel token (fun _ => rfl) (fun _ _ => .recv) (fun _ => .recv) fun _ _ => .recv

theorem close (h : st.Gapless reserve) (token : ℕ) : (st.close token).Gapless reserve :=
  h.onChannel token (fun _ => rfl) (fun _ _ => .close) (fun _ => .close) fun _ _ h => h

/-! ### The terminal event -/

/-- The terminal broadcast keeps the stream gapless, with no slot reserved. -/
theorem broadcastTerminal (h : st.Gapless reserve) {projection : SessionProjection}
    {envelope : SessionEventEnvelope}
    (hs : projection.sequence = st.projection.sequence + 1)
    (he : envelope.sequence = st.projection.sequence + 1) :
    ({ st with
      projection := projection
      log := st.log ++ [envelope] }.broadcastTerminal envelope).Gapless 0 := by
  refine h.retainSent hs he fun o o' ho => ?_
  obtain ⟨-, -, rfl⟩ := sendTerminal_eq_some_iff.1 ho
  refine ⟨rfl, fun hg => ⟨by simpa using Nat.le_succ_of_le hg.1, ?_⟩, Nat.zero_le _⟩
  rw [List.drop_append_of_le_length hg.1, ← hg.2]
  simp [Channel.sent]

theorem emitTerminal (h : st.Gapless reserve) (event : SessionEvent) :
    (st.emitTerminal event).Gapless 0 := by
  unfold Stream.emitTerminal accept
  split_ifs with hs
  · exact h.broadcastTerminal (by rfl) (by rfl)
  · exact (h.withProjection (SessionProjection.reduce_sequence _ _)).clear _

end Gapless
end Stream
end Moh
