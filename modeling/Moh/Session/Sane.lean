/-
# Every task and every row is in order

In every world the manager can reach (`sane_of_run`), whatever fails and whatever
happens on its own: the representations of each actor agree, a pending record is
the live one, rows and tasks of one identifier are of one session, identifiers are
never handed out twice, and a registered handle belongs to a task of its session.
-/

import Moh.Session.World

namespace Moh

namespace SessionStore

/-- Rows have the identifier they are stored under, and it was handed out. -/
def InOrder (store : SessionStore) : Prop :=
  ∀ id row, store.rows.lookup id = some row → row.id = id ∧ id.value < store.nextId

/-- What happens to the rows: each is a later state of one that was there, or new
under an identifier that was not handed out before. -/
structure Evolves (store store' : SessionStore) : Prop where
  nextId : store.nextId ≤ store'.nextId
  rows : ∀ id row', store'.rows.lookup id = some row' →
    (∃ row, store.rows.lookup id = some row ∧ row'.cwd = row.cwd ∧
      row'.createdAt = row.createdAt ∧ (row.id = id → row'.id = id)) ∨
    row'.id = id ∧ store.nextId ≤ id.value ∧ id.value < store'.nextId

variable {store store' : SessionStore}

theorem Frame.evolves {id : SessionId} (h : Frame id store store') : store.Evolves store' := by
  refine ⟨h.nextId.ge, fun i row' hl' => .inl ?_⟩
  by_cases hi : i = id
  · subst hi
    rcases h.own with he | ⟨row, row₁, hl, hl₁, hcwd, hcreated, hid⟩
    · exact ⟨row', he ▸ hl', rfl, rfl, fun h => h⟩
    · obtain rfl := Option.some.inj (hl₁.symm.trans hl')
      exact ⟨row, hl, hcwd, hcreated, hid⟩
  · exact ⟨row', h.others i hi ▸ hl', rfl, rfl, fun h => h⟩

/-- A new row under the next identifier. -/
theorem evolves_insert (store : SessionStore) (request : MaterializeSession) :
    store.Evolves
      { rows := store.rows.insert ⟨store.nextId⟩ (materializedRecord request ⟨store.nextId⟩)
        nextId := store.nextId + 1 } := by
  refine ⟨Nat.le_succ _, fun id row' hl' => ?_⟩
  by_cases hi : id = ⟨store.nextId⟩
  · subst hi
    rw [AList.lookup_insert] at hl'
    obtain rfl := Option.some.inj hl'
    exact .inr ⟨rfl, le_rfl, Nat.lt_succ_self _⟩
  · rw [AList.lookup_insert_ne hi] at hl'
    exact .inl ⟨row', hl', rfl, rfl, fun h => h⟩

/-- A row less. -/
theorem evolves_erase (store : SessionStore) (id : SessionId) :
    store.Evolves { store with rows := store.rows.erase id } := by
  refine ⟨le_rfl, fun i row' hl' => .inl ?_⟩
  by_cases hi : i = id
  · subst hi
    simp [AList.lookup_erase] at hl'
  · rw [AList.lookup_erase_ne hi] at hl'
    exact ⟨row', hl', rfl, rfl, fun h => h⟩

theorem InOrder.evolves (hs : store.InOrder) (h : store.Evolves store') : store'.InOrder := by
  intro id row' hl'
  rcases h.rows id row' hl' with ⟨row, hl, -, -, hid⟩ | ⟨hid, -, hlt⟩
  · exact ⟨hid (hs id row hl).1, (hs id row hl).2.trans_le h.nextId⟩
  · exact ⟨hid, hlt⟩

end SessionStore

/-- A task and the row of its session are in order. -/
structure ActorTask.InOrder (store : SessionStore) (t : ActorTask) : Prop where
  agrees : Agreement t.actor.record t.actor.stream.projection t.actor.harness
  pending : ∀ record, t.actor.dirty = some record → record = t.actor.record
  known : t.actor.record.id.value < store.nextId
  same : ∀ row, store.rows.lookup t.actor.record.id = some row → SameSession t.actor.record row
  exited : t.finished = true → t.exited.isSome = true
  gapless : t.actor.stream.Gapless terminalEventReserve
  undeleted : t.actor.deleting = false → t.actor.stream.Undeleted

theorem ActorTask.InOrder.evolves {store store' : SessionStore} {t : ActorTask}
    (ht : t.InOrder store) (hs : store.InOrder) (h : store.Evolves store') : t.InOrder store' := by
  refine ⟨ht.agrees, ht.pending, ht.known.trans_le h.nextId, fun row' hl' => ?_, ht.exited,
    ht.gapless, ht.undeleted⟩
  rcases h.rows _ row' hl' with ⟨row, hl, hcwd, hcreated, hid⟩ | ⟨-, hle, -⟩
  · have hsame := ht.same row hl
    exact ⟨hid (hs _ row hl).1, hcwd.trans hsame.cwd, hcreated.trans hsame.createdAt⟩
  · exact absurd ht.known (Nat.not_lt.2 hle)

namespace SessionManager

/-- **Every task and every row is in order.** -/
structure Sane (m : SessionManager) : Prop where
  tasks : ∀ t ∈ m.tasks, t.InOrder m.store
  store : m.store.InOrder
  runs : ∀ id, m.activity.hasRun id → id.value < m.store.nextId
  handles : ∀ id h, m.actors.lookup id = some h →
    ∃ t : ActorTask, m.tasks[h]? = some t ∧ t.actor.record.id = id

variable {m m' : SessionManager} {p : Await → Prop}

theorem Sane.task (hm : m.Sane) {h : SessionHandle} {t : ActorTask} (ht : m.tasks[h]? = some t) :
    t.InOrder m.store :=
  hm.tasks t (List.mem_of_getElem? ht)

theorem Sane.sessionAgrees (hm : m.Sane) {h : SessionHandle} {t : ActorTask}
    (ht : m.tasks[h]? = some t) : (m.session t).Agrees :=
  (hm.task ht).agrees

/-- A registered handle still belongs to its session. -/
theorem Sane.handles_follow (hm : m.Sane) (hf : m.Follows m') (ha : m'.actors = m.actors) :
    ∀ id h, m'.actors.lookup id = some h →
      ∃ t : ActorTask, m'.tasks[h]? = some t ∧ t.actor.record.id = id := by
  intro id h hl
  rw [ha] at hl
  obtain ⟨t, ht, hid⟩ := hm.handles id h hl
  obtain ⟨t', ht', hft⟩ := hf.forward ht
  exact ⟨t', ht', hft.same.trans hid⟩

/-- The store changed, and nothing else that matters. -/
theorem Sane.withStore (hm : m.Sane) {store : SessionStore} (he : m.store.Evolves store) :
    { m with store := store }.Sane :=
  ⟨fun t ht => (hm.tasks t ht).evolves hm.store he, hm.store.evolves he,
    fun id hid => (hm.runs id hid).trans_le he.nextId, hm.handles⟩

/-- One task changed. -/
theorem forall_modify {P : ActorTask → Prop} {tasks : List ActorTask} {h : SessionHandle}
    {f : ActorTask → ActorTask} (hP : ∀ t ∈ tasks, P t)
    (hf : ∀ t, tasks[h]? = some t → P (f t)) : ∀ t ∈ tasks.modify h f, P t := by
  intro t' ht'
  obtain ⟨i, hi⟩ := List.getElem?_of_mem ht'
  obtain ⟨t, ht, rfl⟩ := getElem?_modify hi
  split_ifs with he
  · subst he
    exact hf t ht
  · exact hP t (List.mem_of_getElem? ht)

theorem Sane.finish (hm : m.Sane) (h : SessionHandle) : (m.finish h).Sane := by
  refine ⟨forall_modify hm.tasks fun t ht => ?_, hm.store, hm.runs,
    hm.handles_follow (.finish m h) rfl⟩
  have ho := hm.task ht
  refine ⟨ho.agrees, ho.pending, ho.known, ho.same, fun hf => ?_, ho.gapless, ho.undeleted⟩
  simp only [Bool.or_eq_true] at hf
  exact hf.elim ho.exited fun he => he

theorem Sane.share (hm : m.Sane) (h : SessionHandle) : (m.share h).Sane := by
  refine ⟨forall_modify hm.tasks fun t ht => ?_, hm.store, hm.runs,
    hm.handles_follow (.share m h) rfl⟩
  have ho := hm.task ht
  exact ⟨ho.agrees, ho.pending, ho.known, ho.same, ho.exited, ho.gapless, ho.undeleted⟩

/-- **A handler keeps the world in order.** -/
theorem Sane.putBack (hm : m.Sane) {h : SessionHandle} {t : ActorTask} {s : Session}
    {a : Option Registration} (ht : m.tasks[h]? = some t) (he : Effects a (m.session t).core s.core)
    (hs : (m.session t).Spares s) : (m.putBack h s).Sane := by
  have ho := hm.task ht
  have hpending : (m.session t).core.Pending := ho.pending
  have hframe := Core.frame_effects hpending he
  have hevolves : m.store.Evolves s.store := hframe.store.evolves
  have hid : s.record.id = t.actor.record.id := hs.id
  refine ⟨forall_modify (fun t' ht' => (hm.tasks t' ht').evolves hm.store hevolves) fun t' ht' => ?_,
    hm.store.evolves hevolves, fun id hrun => ?_, hm.handles_follow (.putBack ht hs) rfl⟩
  · obtain rfl := Option.some.inj (ht.symm.trans ht')
    have ho' := ho.evolves hm.store hevolves
    have hknown : s.record.id.value < s.store.nextId := by
      rw [hid]
      exact ho'.known
    refine ⟨Core.Agrees.effects (c := (m.session t).core) ho.agrees he, hpending.effects he,
      hknown, fun row hl => ?_, fun hf => hs.exited (ho.exited hf),
      Core.gapless_effects (c := (m.session t).core) ho.gapless he,
      Core.undeleted_effects (c := (m.session t).core) ho.undeleted he⟩
    have hl' : s.store.rows.lookup s.record.id = some row := hl
    rw [hid] at hl'
    have hsession := hframe.session
    have hrow := ho'.same row hl'
    exact ⟨hrow.id.trans hsession.id.symm, hrow.cwd.trans hsession.cwd.symm,
      hrow.createdAt.trans hsession.createdAt.symm⟩
  · by_cases hne : id = t.actor.record.id
    · rw [hne]
      exact ho.known.trans_le hevolves.nextId
    · exact (hm.runs id ((hs.activity id hne).1 hrun)).trans_le hevolves.nextId

theorem Sane.background (hm : m.Sane) (b : Background) : (m.background b).Sane := by
  cases b with
  | input h env input =>
    rcases m.background_input_cases h env input with he | ⟨t, ht, -, he⟩
    · rw [he]
      exact hm
    · rw [he]
      exact hm.putBack ht (Session.step_effects (hm.sessionAgrees ht) (env, input))
        (Session.step_spares _ env input)
  | finished h => exact hm.finish h

theorem Sane.deliver (hm : m.Sane) {h : SessionHandle} {t : ActorTask} (ht : m.tasks[h]? = some t)
    (w : Await) (c : SessionCommand) : (m.deliver h t w c).2.Sane := by
  have hp := hm.putBack ht (Session.handleCommand_effects (hm.sessionAgrees ht) w.env c)
    (Session.handleCommand_spares (m.session t) w.env c)
  unfold SessionManager.deliver
  simp only
  split_ifs
  · exact hp.finish h
  · exact hp

/-- **Every change keeps the world in order.** -/
theorem Sane.change (hm : m.Sane) (h : Change p m m') : m'.Sane := by
  cases h with
  | background b => exact hm.background b
  | delivered ht _ _ => exact hm.deliver ht _ _
  | shared h => exact hm.share h
  | wrote hf => exact hm.withStore hf.evolves
  | inserted request => exact hm.withStore (m.store.evolves_insert request)
  | deleted id => exact hm.withStore (m.store.evolves_erase id)
  | booked titleTasks stopped ha =>
    exact ⟨hm.tasks, hm.store, fun id hid => hm.runs id ((ha id).1 hid), hm.handles⟩

theorem Sane.changes (hm : m.Sane) (h : Changes p m m') : m'.Sane := by
  induction h with
  | refl => exact hm
  | tail _ hc ih => exact ih.change hc

/-! ### The registry -/

theorem Sane.forget (hm : m.Sane) (id : SessionId) : { m with actors := m.actors.erase id }.Sane := by
  refine ⟨hm.tasks, hm.store, hm.runs, fun i h hl => ?_⟩
  by_cases hi : i = id
  · subst hi
    simp [AList.lookup_erase] at hl
  · rw [AList.lookup_erase_ne hi] at hl
    exact hm.handles i h hl

/-- A new actor of a session whose row is its record. -/
theorem Sane.register (hm : m.Sane) {id : SessionId} {s : Session} (hs : Spawned s)
    (hid : s.record.id = id) (hstore : s.store = m.store)
    (hrow : m.store.rows.lookup id = some s.record)
    (hruns : ∀ i, s.activity.hasRun i → i.value < m.store.nextId) : (m.register id s).Sane := by
  have hdirty : s.dirty = none := by
    cases hs with
    | loaded hturns => rfl
    | materialized hlast hs =>
      obtain ⟨runId, h, -, -, -, rfl⟩ := Session.spawnMaterialized_eq_ok hs
      rfl
  have hnew : (⟨s.toSessionActor, false, none, false⟩ : ActorTask).InOrder m.store := by
    refine ⟨Session.agrees_of_spawned hs, fun r hr => ?_, ?_, fun row hl => ?_, nofun,
      Session.gapless_of_spawned hs, fun _ => ?_⟩
    · rw [hdirty] at hr
      simp at hr
    · rw [hid]
      exact (hm.store id _ hrow).2
    · rw [hid, hrow] at hl
      obtain rfl := Option.some.inj hl
      exact ⟨rfl, rfl, rfl⟩
    · cases hs with
      | loaded hturns => exact fun e he => absurd he List.not_mem_nil
      | materialized hlast hs =>
        obtain ⟨runId, h, -, -, -, rfl⟩ := Session.spawnMaterialized_eq_ok hs
        exact fun e he => absurd he List.not_mem_nil
  refine ⟨fun t ht => ?_, hm.store, hruns, fun i h hl => ?_⟩
  · rcases List.mem_append.1 ht with ht | ht
    · exact hm.tasks t ht
    · obtain rfl := List.mem_singleton.1 ht
      exact hnew
  · by_cases hi : i = id
    · subst hi
      rw [SessionManager.register, AList.lookup_insert] at hl
      obtain rfl := Option.some.inj hl
      exact ⟨_, List.getElem?_concat_length, hid⟩
    · rw [SessionManager.register, AList.lookup_insert_ne hi] at hl
      obtain ⟨t, ht, hti⟩ := hm.handles i h hl
      exact ⟨t, List.getElem?_append_left (List.getElem?_eq_some_iff.1 ht).1 ▸ ht, hti⟩

/-! ### Starting actors -/

/-- **A new actor is in order.** -/
theorem Sane.start (hm : m.Sane) (h : Start m m') : m'.Sane := by
  cases h with
  | @loaded id record catalog hl hrow hturns =>
    exact hm.register (.loaded hturns) (hm.store id record hrow).1 rfl hrow fun i hi =>
      hm.runs i ((ActivityTracker.hasRun_setRunningJobs ..).1 hi)
  | @materialized request catalog s hs =>
    have hm₁ := hm.change (Change.inserted (p := fun _ => True) request)
    have hrow := m.lookup_withRow request
    have hspawned : Spawned s := .materialized (by simp [SessionStore.materializedRecord]) hs
    obtain ⟨runId, h, -, -, -, rfl⟩ := Session.spawnMaterialized_eq_ok hs
    refine hm₁.register hspawned rfl rfl hrow fun i hi => ?_
    have hi' := (ActivityTracker.hasRun_setRunningJobs ..).1 hi
    rw [ActivityTracker.hasRun_setRun] at hi'
    split_ifs at hi' with he
    · rw [he]
      exact (hm₁.store _ _ hrow).2
    · exact hm₁.runs i hi'

theorem Sane.begins (hm : m.Sane) (h : Begins p m m') : m'.Sane := by
  cases h with
  | none hc => exact hm.changes hc
  | one hc hs hc' => exact ((hm.changes hc).start hs).changes hc'

/-! ### Ending actors -/

theorem sane_abortDeleteActor (hm : m.Sane) (script : Script) (sessionId : SessionId)
    (h : SessionHandle) : (m.abortDeleteActor script sessionId h).Sane := by
  have hs := hm.changes
    (m.send_changes (p := fun _ => True) h (script.call .abort) .abortDelete nofun)
  rw [← askOutcome_snd] at hs
  exact hs.forget sessionId

theorem sane_deleteLive (hm : m.Sane) (script : Script) (sessionId : SessionId)
    (h : SessionHandle) : (m.deleteLive script sessionId h).2.Sane := by
  have hp := hm.changes (m.askUnit_changes (p := fun _ => True) h (script.call .prepare)
    (c := .prepareDelete) nofun)
  unfold deleteLive
  generalize m.askUnit h (script.call .prepare) .prepareDelete = r at hp
  obtain ⟨error | _, m₁⟩ := r
  · exact sane_abortDeleteActor hp script sessionId h
  have hd := hp.changes (callDelete_changes (p := fun _ => True) _ (script.call .delete) sessionId)
  simp only at hd ⊢
  generalize m₁.call (script.call .delete) (fun fault store => store.delete fault sessionId) = r at hd
  obtain ⟨error | _, m₂⟩ := r
  · exact sane_abortDeleteActor hd script sessionId h
  have hf := hd.changes
    (send_changes (p := fun _ => True) _ h (script.call .finish) .finishDelete nofun)
  rw [← askOutcome_snd] at hf
  simp only at hf ⊢
  generalize m₂.askOutcome h (script.call .finish) .finishDelete = r at hf
  obtain ⟨error | _ | _, m₃⟩ := r <;> exact hf.forget sessionId

theorem sane_delete (hm : m.Sane) (script : Script) (sessionId : SessionId) :
    (m.delete script sessionId).2.Sane := by
  unfold delete
  cases m.actors.lookup sessionId with
  | some h => exact sane_deleteLive hm script sessionId h
  | none =>
    have hd := hm.changes
      (callDelete_changes (p := fun _ => True) _ (script.call .delete) sessionId)
    simp only
    generalize m.call (script.call .delete) (fun fault store => store.delete fault sessionId) = r at hd
    obtain ⟨error | _, m₁⟩ := r <;> exact hd

/-- A loop over the actors, whatever is done with those that succeeded. -/
theorem sane_visit (each : SessionId → Await) (c : SessionCommand)
    {settled : SessionId → SessionManager → SessionManager}
    (hsettled : ∀ id m, m.Sane → (settled id m).Sane) (ids : List SessionId) (hm : m.Sane) :
    (visit each c settled ids m).2.Sane := by
  induction ids generalizing m with
  | nil => exact hm
  | cons id ids ih =>
    unfold visit
    cases m.actors.lookup id with
    | none => exact ih hm
    | some h =>
      have ha := hm.changes
        (m.askUnit_changes (p := fun _ => True) h (each id) (c := c) fun _ => trivial)
      simp only
      generalize m.askUnit h (each id) c = r at ha
      obtain ⟨error | _, m₁⟩ := r
      · exact ih ha
      · exact ih (hsettled id m₁ ha)

theorem sane_shutdown (hm : m.Sane) (script : Script) : (m.shutdown script).2.Sane := by
  have hd := hm.changes
    (drainTitleTasks_changes (p := fun _ => True) script.titles m.titleTasks.length m)
  unfold shutdown
  simp only
  generalize drainTitleTasks script.titles m.titleTasks.length m = m₁ at hd
  have hv : (m₁.shutdownActors script).2.Sane :=
    sane_visit script.each .shutdown (fun id m hm => hm.forget id) _ hd
  generalize m₁.shutdownActors script = r at hv
  obtain ⟨error | _, m₂⟩ := r
  · exact hv
  · exact ⟨hv.tasks, hv.store, hv.runs, hv.handles⟩

/-! ### Every reachable world -/

theorem Sane.handleCommand (hm : m.Sane) (script : Script) (command : ManagerCommand) :
    (m.handleCommand script command).2.Sane := by
  cases command with
  | startup cwd connectionId attachmentId =>
    exact hm.changes (m.startup_changes (p := fun _ => True) script cwd connectionId attachmentId)
  | draftDefaults cwd => exact hm
  | materializeAndSubmit cwd prompt settings connectionId attachmentId =>
    exact hm.begins (m.materializeAndSubmit_begins (p := fun _ => True) script cwd prompt settings
      connectionId attachmentId)
  | «open» selector cwdForName connectionId attachmentId =>
    exact hm.begins (m.openSession_begins (p := fun _ => True) script selector cwdForName
      connectionId attachmentId)
  | list scope => exact hm.changes (m.list_changes (p := fun _ => True) script scope)
  | rename sessionId title =>
    exact hm.changes (m.rename_changes (p := fun _ => True) script sessionId title)
  | delete sessionId => exact sane_delete hm script sessionId
  | detach sessionId connectionId attachmentId =>
    exact hm.changes
      (m.detach_changes (p := fun _ => True) script sessionId connectionId attachmentId)
  | detachConnection connectionId =>
    exact hm.changes (visit_changes (p := fun _ => True) script.each (by simp) _ m)
  | flushAll => exact hm.changes (visit_changes (p := fun _ => True) script.each (by simp) _ m)
  | shutdown => exact sane_shutdown hm script

theorem Sane.step (hm : m.Sane) (input : Input) : (m.step input).Sane := by
  cases input with
  | command script command =>
    unfold SessionManager.step
    split_ifs
    · exact hm
    · exact hm.handleCommand script command
  | titleCompleted ended =>
    unfold SessionManager.step
    split_ifs
    · exact hm
    · exact hm.changes (m.completeTitleTask_changes (p := fun _ => True) ended)
  | background b => exact hm.background b

/-- A manager that just started, over a repository in order. -/
theorem sane_new {store : SessionStore} (hs : store.InOrder) : (new store .new).Sane :=
  ⟨fun _ ht => absurd ht List.not_mem_nil, hs, fun _ hid => absurd hid List.not_mem_nil,
    fun _ _ hl => absurd (hl.symm.trans (AList.lookup_empty _)) (by simp)⟩

/-- **Every task and every row is in order in every reachable world.** -/
theorem sane_of_run {store : SessionStore} (hs : store.InOrder) (inputs : List Input) :
    (Run.run step (new store .new) inputs).Sane :=
  Run.run_invariant (I := Sane) (fun _ i hm => hm.step i) (sane_new hs) inputs

/-! ### A repository with one session -/

/-- A repository that holds one empty session. -/
def oneSession : SessionStore := ⟨AList.singleton ⟨1⟩ emptyRecord, 2⟩

theorem inOrder_oneSession : oneSession.InOrder := by
  intro id row hl
  by_cases hid : id = ⟨1⟩
  · subst hid
    obtain rfl := Option.some.inj hl
    exact ⟨rfl, by decide⟩
  · have hnone : oneSession.rows.lookup id = none := by
      rw [AList.lookup_eq_none]
      simpa [oneSession, AList.mem_keys, AList.keys_singleton] using hid
    rw [hnone] at hl
    simp at hl

/-- A wait in which nothing else happens and nothing fails. -/
def quietAwait : Await := ⟨[], Session.quietEnv, false, true⟩

/-- A wait for a call whose repository fails. -/
def brokenAwait : Await :=
  { quietAwait with env := { Session.quietEnv with fault := some .connectionPoisoned } }

/-- A command in which nothing fails. -/
def quietScript : Script where
  factory := ⟨⟨"model", .medium, 0⟩, .loading, .ok ()⟩
  call := fun _ => quietAwait
  each := fun _ => quietAwait
  order := []
  titles := fun _ => ⟨0, none, quietAwait⟩

end SessionManager
end Moh
