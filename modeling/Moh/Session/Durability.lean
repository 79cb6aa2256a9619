/-
# Dirty tracking is sound

What is durable of a session is its row.  `Core.Durable` relates the row to the
live record: without a pending record the row is the live record, a pending record
is the live record, and until deletion begins the persistence warning is shown
exactly while a record is pending.  Every effect keeps this (`Core.Durable.effect`),
because each repository call writes all that changed since the row was last equal
to the record; so a `flush` or a `shutdown` that answers Ok leaves the live record
in the row (`tracked_of_run`).

The row is written through this actor alone; a call that fails changes nothing
(`SessionStore.attempt`).
-/

import Moh.Session.Reachable

namespace Moh

namespace Stream

/-- The warning shown after a change of it. -/
theorem broadcastPersistenceTransition_warning (st : Stream) (told : Option (Option String)) :
    (st.broadcastPersistenceTransition told).projection.persistenceWarning =
      told.getD st.projection.persistenceWarning := by
  cases told with
  | none => rfl
  | some warning =>
    obtain ⟨n, hn⟩ := st.exists_emit_projection (.persistenceWarning warning)
    rw [broadcastPersistenceTransition_some, hn]
    rfl

end Stream

/-- **A warning is shown after a write exactly if the write failed.** -/
theorem isSome_transition (warning : Option String) (result : Except SessionStoreError Unit) :
    ((transition warning result).getD warning).isSome = true ↔ result ≠ .ok () := by
  cases result with
  | error error => simp [transition]
  | ok u => cases warning <;> simp [transition]

namespace Core

/-- The row, the pending record and the warning of a core tell how much of the live
record is durable. -/
structure Durable (c : Core) : Prop where
  row : ∃ row, c.store.rows.lookup c.record.id = some row ∧ SameSession c.record row ∧
    (c.dirty = none → row = c.record)
  pending : ∀ record, c.dirty = some record → record = c.record
  warned : c.deleting = false →
    (c.stream.projection.persistenceWarning.isSome = true ↔ c.dirty.isSome = true)

variable {a : Option Registration} {c c' : Core}

/-- A checkpoint leaves the row of a record that was not written, or writes it all. -/
theorem lookup_checkpoint {record row : SessionRecord} {store : SessionStore}
    (hrow : store.rows.lookup record.id = some row) (hs : SameSession record row)
    (fault : Option SessionStoreError) :
    (∃ error, store.checkpoint fault record = (.error error, store)) ∨
      store.checkpoint fault record = (.ok (), store.setRow record.id record) := by
  rcases store.checkpoint_cases fault record with h | ⟨row', hrow', h⟩
  · exact .inl h
  · right
    obtain rfl := Option.some.inj (hrow.symm.trans hrow')
    rw [h, hs.cwd, hs.createdAt]

/-- **A write that succeeds leaves the live record in the row.** -/
theorem Durable.writes (hd : c.Durable) {record : SessionRecord}
    {write : Except SessionStoreError Unit × SessionStore} (hs : SameSession c.record record)
    (hw : c.Writes record write) :
    (∃ error, write = (.error error, c.store)) ∨
      write = (.ok (), c.store.setRow record.id record) := by
  obtain ⟨row, hrow, hrs, hclean⟩ := hd.row
  rcases hw with ⟨fault, rfl⟩ | ⟨hnone, hr, fault, rfl⟩
  · have hrow' : c.store.rows.lookup record.id = some row := by rw [hs.id, hrow]
    exact lookup_checkpoint hrow' ⟨hrs.id.trans hs.id.symm, hrs.cwd.trans hs.cwd.symm,
      hrs.createdAt.trans hs.createdAt.symm⟩ fault
  · rcases c.store.updateMetadata_cases fault record with h | ⟨row', hrow', h⟩
    · exact .inl h
    · right
      rw [hs.id, hrow] at hrow'
      obtain rfl := Option.some.inj hrow'
      rw [h, hclean hnone]
      congr 2
      rw [hr]

/-- The projection after the event of a move shows the same warning. -/
theorem accept_persistenceWarning {event : Option SessionEvent} {record : SessionRecord} {h : Harness}
    (hm : Move c.record c.harness event record h) :
    (c.accept event).2.projection.persistenceWarning = c.stream.projection.persistenceWarning := by
  cases event with
  | none => rfl
  | some event =>
    obtain ⟨n, hn⟩ := c.stream.exists_accept_projection event
    rw [accept, hn]
    exact hm.reduce_persistenceWarning _

/-- **Every effect keeps dirty tracking sound.** -/
theorem Durable.effect (hd : c.Durable) (he : Effect a c c') : c'.Durable := by
  cases he with
  | attached _ => exact ⟨hd.row, hd.pending, hd.warned⟩
  | observed hp hg hi hl =>
    obtain ⟨n, hn⟩ := hp
    exact ⟨hd.row, hd.pending, fun hl => by rw [hn]; exact hd.warned hl⟩
  | @noticed event hn =>
    obtain ⟨n, hp⟩ := c.stream.exists_emit_projection event
    refine ⟨hd.row, hd.pending, fun hl => ?_⟩
    rw [hp]
    cases hn <;> exact hd.warned hl
  | gaveUp hhistory hactive => exact ⟨hd.row, hd.pending, hd.warned⟩
  | condemned => exact ⟨hd.row, hd.pending, fun hl => absurd hl (by simp)⟩
  | @settled event record h write told hm hw ht =>
    have hs := hm.sameSession
    obtain ⟨row, hrow, hrs, -⟩ := hd.row
    have hrs' : SameSession record row :=
      ⟨hrs.id.trans hs.id.symm, hrs.cwd.trans hs.cwd.symm, hrs.createdAt.trans hs.createdAt.symm⟩
    have hwarned : c.deleting = false →
        ((c.settle event record h write told).stream.projection.persistenceWarning.isSome = true ↔
          write.1 ≠ .ok ()) := fun hl => by
      rw [settle, Stream.broadcastPersistenceTransition_warning, Stream.broadcastSome_projection,
        ht hl, accept_persistenceWarning hm]
      exact isSome_transition _ _
    rcases hd.writes hs hw with ⟨error, rfl⟩ | rfl
    · refine ⟨⟨row, by rw [← hrow, ← hs.id]; rfl, hrs', nofun⟩, fun r hr => (Option.some.inj hr).symm,
        fun hl => ?_⟩
      rw [hwarned hl]
      simp [settle]
    · refine ⟨⟨record, SessionStore.lookup_setRow .., ⟨rfl, rfl, rfl⟩, fun _ => rfl⟩, nofun,
        fun hl => ?_⟩
      rw [hwarned hl]
      simp [settle]
  | @retitled persisted store hr =>
    obtain ⟨row, hrow, hrs, hclean⟩ := hd.row
    obtain ⟨⟨row', hrow', hpersisted⟩, rfl⟩ := hr
    obtain rfl := Option.some.inj (hrow.symm.trans hrow')
    have hrevision := congrArg SessionRecord.titleRevision hpersisted
    have hsame := SameSession.mk (congrArg SessionRecord.id hpersisted)
      (congrArg SessionRecord.cwd hpersisted) (congrArg SessionRecord.createdAt hpersisted)
    obtain ⟨n, hn⟩ :=
      c.stream.exists_emit_projection (.titleChanged persisted.title persisted.titleRevision)
    refine ⟨⟨persisted, SessionStore.lookup_setRow .., ?_, fun hnone => ?_⟩, ?_, fun hl => ?_⟩
    · exact ⟨hsame.id.trans hrs.id, hsame.cwd.trans hrs.cwd, hsame.createdAt.trans hrs.createdAt⟩
    · rw [hclean (Option.map_eq_none_iff.1 hnone)] at hpersisted hrevision
      rw [hpersisted]
    · intro r hr
      obtain ⟨pending, -, rfl⟩ := Option.map_eq_some_iff.1 hr
      rfl
    · simp only [hn, Option.isSome_map]
      exact hd.warned hl
  | @flushed pending write hdirty hl hw =>
    obtain ⟨fault, rfl⟩ := hw
    obtain rfl := hd.pending pending hdirty
    obtain ⟨row, hrow, hrs, -⟩ := hd.row
    have hwarning := c.stream.broadcastPersistenceTransition_warning
    rcases lookup_checkpoint hrow hrs fault with ⟨error, he⟩ | he
    · simp only [he]
      refine ⟨⟨row, hrow, hrs, nofun⟩, fun r hr => (Option.some.inj hr).symm, fun _ => ?_⟩
      simp [hwarning, flushWarning]
    · simp only [he]
      refine ⟨⟨c.record, SessionStore.lookup_setRow .., ⟨rfl, rfl, rfl⟩, fun _ => rfl⟩, nofun,
        fun _ => ?_⟩
      simp [hwarning, flushWarning]

theorem Durable.effects (hd : c.Durable) (he : Effects a c c') : c'.Durable := by
  induction he with
  | refl => exact hd
  | tail _ he ih => exact ih.effect he

/-- The row of a durable core without a pending record is its record. -/
theorem Durable.lookup (hd : c.Durable) (hdirty : c.dirty = none) :
    c.store.rows.lookup c.record.id = some c.record := by
  obtain ⟨row, hrow, -, hclean⟩ := hd.row
  rw [hrow, hclean hdirty]

end Core

namespace Session

/-! ### Every reachable state -/

/-- Both invariants of the representations and of the row. -/
structure Sound (s : Session) : Prop where
  agrees : s.Agrees
  durable : s.core.Durable

theorem Sound.step {s : Session} (hs : s.Sound) (input : Env × ActorInput) :
    (s.step input).Sound :=
  ⟨Core.Agrees.effects (c := s.core) hs.agrees (step_effects hs.agrees input),
    hs.durable.effects (step_effects hs.agrees input)⟩

theorem Sound.run {s : Session} (hs : s.Sound) (inputs : List (Env × ActorInput)) :
    (Run.run Session.step s inputs).Sound :=
  Run.run_invariant (I := Sound) (fun _ i h => h.step i) hs inputs

/-- A new actor has nothing pending. -/
theorem sound_of_spawned {s : Session} (hs : Spawned s)
    (hrow : s.store.rows.lookup s.record.id = some s.record) : s.Sound := by
  refine ⟨agrees_of_spawned hs, ⟨⟨s.record, hrow, ⟨rfl, rfl, rfl⟩, fun _ => rfl⟩, ?_, ?_⟩⟩
  all_goals
    cases hs with
    | loaded hturns => simp [core, spawn, spawnActor, Stream.new, SessionProjection.fromRecord]
    | materialized hlast hs =>
      obtain ⟨runId, h, -, -, -, rfl⟩ := spawnMaterialized_eq_ok hs
      simp [core, spawnActor, Stream.new, SessionProjection.fromRecord]

/-! ### What an Ok answer says -/

theorem dirty_of_flush_eq_ok {s t : Session} {env : Env} (h : s.flush env = (.ok (), t)) :
    t.dirty = none := by
  unfold flush at h
  cases hd : s.dirty with
  | none =>
    simp only [hd, Prod.mk.injEq, true_and] at h
    rw [← h, hd]
  | some pending =>
    simp only [hd] at h
    split at h
    · obtain rfl := (Prod.mk.inj h).2
      rfl
    · simp at h

theorem dirty_of_shutdown_eq_ok {s t : Session} {env : Env} (h : s.shutdown env = (.ok (), t)) :
    t.dirty = none := by
  unfold shutdown at h
  cases hf : s.flush env with
  | mk result u =>
    cases result with
    | error error => simp [hf] at h
    | ok _ =>
      simp only [hf] at h
      split at h
      · simp at h
      · have hd := dirty_of_flush_eq_ok hf
        obtain rfl := (Prod.mk.inj h).2
        exact hd

/-- `flush` and `shutdown` answer Ok only with nothing pending. -/
theorem dirty_of_handleCommand_eq_ok {s t : Session} {env : Env} {command : SessionCommand}
    (hc : command = .flush ∨ command = .shutdown)
    (h : s.handleCommand env command = (.unit (.ok ()), t)) : t.dirty = none := by
  rcases hc with rfl | rfl
  · simp only [handleCommand] at h
    cases he : s.ensureNotDeleting with
    | error error => simp [he] at h
    | ok u =>
      cases hf : s.flush env with
      | mk result t' =>
        simp only [he, hf, Prod.mk.injEq, Reply.unit.injEq] at h
        obtain ⟨rfl, rfl⟩ := h
        exact dirty_of_flush_eq_ok hf
  · simp only [handleCommand] at h
    cases he : s.ensureNotDeleting with
    | error error => simp [he] at h
    | ok u =>
      cases hf : { s with shuttingDown := true }.shutdown env with
      | mk result t' =>
        cases result with
        | error error => simp [he, hf] at h
        | ok u =>
          have hd := dirty_of_shutdown_eq_ok hf
          simp only [he, hf, Prod.mk.injEq, true_and] at h
          obtain rfl := h
          exact hd

/-- What the actor tracks of its row. -/
structure Tracked (s : Session) : Prop where
  /-- Nothing pending: the row is the live record. -/
  clean : s.dirty = none → s.store.rows.lookup s.record.id = some s.record
  /-- The pending record is the live one. -/
  pending : ∀ record, s.dirty = some record → record = s.record
  /-- Until deletion begins the warning is shown exactly while a record is pending. -/
  warned : s.deleting = false →
    (s.stream.projection.persistenceWarning.isSome = true ↔ s.dirty.isSome = true)
  /-- What is durable after `flush` or `shutdown` answered Ok is the live session. -/
  flushed : ∀ (env : Env) (command : SessionCommand) (t : Session),
    command = .flush ∨ command = .shutdown →
      s.handleCommand env command = (.unit (.ok ()), t) →
        t.store.rows.lookup t.record.id = some t.record

/-- **Dirty tracking is sound in every reachable state,** for every pattern of
repository failures. -/
theorem tracked_of_run {s : Session} (hs : Spawned s)
    (hrow : s.store.rows.lookup s.record.id = some s.record) (inputs : List (Env × ActorInput)) :
    (Run.run step s inputs).Tracked := by
  have h := (sound_of_spawned hs hrow).run inputs
  refine ⟨h.durable.lookup, h.durable.pending, h.durable.warned, fun env command t hc ht => ?_⟩
  have hd := h.durable.effects (handleCommand_effects h.agrees env command)
  rw [ht] at hd
  exact hd.lookup (dirty_of_handleCommand_eq_ok hc ht)

/-- `tracked_of_run` on a prompt whose checkpoint fails, and a new model. -/
theorem tracked_of_run_submit :
    (Run.run step
      (.spawn ⟨AList.singleton ⟨1⟩ emptyRecord, 2⟩ emptyRecord (.fromRecord emptyRecord .loading) .new)
      [({ quietEnv with fault := some .connectionPoisoned }, .command (.submit "hello")),
        (quietEnv, .command (.selectModel "other"))]).Tracked :=
  tracked_of_run (.loaded (by simp [emptyRecord])) (by rfl) _

end Session
end Moh
