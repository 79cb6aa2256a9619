/-
# A first prompt is materialized as a whole, or not at all

`materialize_and_submit` creates the row of a session, builds its runtime, starts
its actor and attaches the requester.  What an error leaves is one of four things
(`atomic_of_run`): nothing; the row with its only turn failed; after a failed
attach, the live actor that owns the turn; and, only if both the compensating
checkpoint and the compensating deletion failed, the row as it was created.

The actor of a failed attach was already running while the manager waited, so its
run may be over (`settled_before_failed_attach`).
-/

import Moh.Session.FirstTurn
import Moh.Session.Sane

namespace Moh
namespace SessionManager

variable {m m' : SessionManager} {id : SessionId}

/-! ### Sessions without an actor -/

/-- No task is for the session, none is registered for it, and it owns no run. -/
structure Vacant (m : SessionManager) (id : SessionId) : Prop where
  task : ∀ t ∈ m.tasks, t.actor.record.id ≠ id
  actor : m.actors.lookup id = none
  run : ¬m.activity.hasRun id

/-- The identifier that is handed out next is that of no session. -/
theorem Sane.vacant (hm : m.Sane) : m.Vacant m.nextSession := by
  have htask : ∀ t ∈ m.tasks, t.actor.record.id ≠ m.nextSession := by
    intro t ht hid
    have hlt := (hm.tasks t ht).known
    rw [hid] at hlt
    exact Nat.lt_irrefl _ hlt
  refine ⟨htask, ?_, fun hrun => Nat.lt_irrefl _ (hm.runs _ hrun)⟩
  cases hl : m.actors.lookup m.nextSession with
  | none => rfl
  | some h =>
    obtain ⟨t, ht, hid⟩ := hm.handles _ h hl
    exact absurd hid (htask t (List.mem_of_getElem? ht))

/-- And it has no row. -/
theorem Sane.lookup_nextSession (hm : m.Sane) : m.store.rows.lookup m.nextSession = none := by
  cases hl : m.store.rows.lookup m.nextSession with
  | none => rfl
  | some row => exact absurd (hm.store _ row hl).2 (Nat.lt_irrefl _)

/-- What happens on its own does not touch a vacant session. -/
theorem Vacant.background (hm : m.Sane) (hv : m.Vacant id) (b : Background) :
    (m.background b).Vacant id ∧
      (m.background b).store.rows.lookup id = m.store.rows.lookup id ∧
        (m.background b).store.nextId = m.store.nextId := by
  have hfollows := (Change.background (p := Await.Finishing) (m := m) b).follows
  have htask : ∀ t ∈ (m.background b).tasks, t.actor.record.id ≠ id := by
    intro t' ht'
    obtain ⟨i, hi⟩ := List.getElem?_of_mem ht'
    obtain ⟨t, ht, hf⟩ := hfollows.2.task i t' hi
    rw [hf.same]
    exact hv.task t (List.mem_of_getElem? ht)
  have hactor : (m.background b).actors.lookup id = none := by rw [hfollows.1, hv.actor]
  cases b with
  | finished h => exact ⟨⟨htask, hactor, hv.run⟩, rfl, rfl⟩
  | input h env input =>
    rcases m.background_input_cases h env input with hb | ⟨t, ht, -, hb⟩
    · rw [hb] at htask hactor ⊢
      exact ⟨hv, rfl, rfl⟩
    · rw [hb] at htask hactor ⊢
      have ho := hm.task ht
      have hne : id ≠ (m.session t).core.record.id := (hv.task t (List.mem_of_getElem? ht)).symm
      have hframe := Core.frame_effects (c := (m.session t).core) ho.pending
        (Session.step_effects ho.agrees (env, input))
      refine ⟨⟨htask, hactor, ?_⟩, hframe.store.others id hne, hframe.store.nextId⟩
      exact fun hrun => hv.run (((m.session t).step_spares env input).activity id hne |>.1 hrun)

theorem Vacant.backgrounds (hm : m.Sane) (hv : m.Vacant id) (bs : List Background) :
    let m' := Run.run SessionManager.background m bs
    m'.Vacant id ∧ m'.store.rows.lookup id = m.store.rows.lookup id ∧
      m'.store.nextId = m.store.nextId := by
  induction bs generalizing m with
  | nil => exact ⟨hv, rfl, rfl⟩
  | cons b bs ih =>
    obtain ⟨hv₁, hl₁, hn₁⟩ := hv.background hm b
    obtain ⟨hv₂, hl₂, hn₂⟩ := ih (hm.background b) hv₁
    exact ⟨hv₂, hl₂.trans hl₁, hn₂.trans hn₁⟩

/-- A change of the rows leaves the session vacant. -/
theorem Vacant.withStore (hv : m.Vacant id) (store : SessionStore) :
    { m with store := store }.Vacant id :=
  ⟨hv.task, hv.actor, hv.run⟩

/-! ### Compensation -/

/-- The checkpoint of the failed record and the deletion of the row both fail. -/
def CompensationFailed (m : SessionManager) (script : Script) (record : SessionRecord)
    (prompt : String) (runId : ℕ) (failure : RunFailureSnapshot) : Prop :=
  let checkpoint := m.call (script.call .checkpoint) fun fault store =>
    store.checkpoint fault (failedMaterialization record prompt runId failure)
  let delete := checkpoint.2.call (script.call .compensate) fun fault store =>
    store.delete fault record.id
  (∃ error, checkpoint.1 = .error error) ∧ ∃ error, delete.1 = .error error

/-- What the compensation of a vacant session leaves: its row failed, or removed,
or as it was. -/
theorem persistFailedMaterialization_cases (hm : m.Sane) (hv : m.Vacant id)
    {record : SessionRecord} (hid : record.id = id) (hrow : m.store.rows.lookup id = some record)
    (script : Script) (prompt : String) (runId : ℕ) (failure : RunFailureSnapshot) :
    let r := m.persistFailedMaterialization script record prompt runId failure
    r.2.Vacant id ∧
      (r.1 = .ok () ∧ r.2.store.rows.lookup id =
          some (failedMaterialization record prompt runId failure) ∨
        r.2.store.rows.lookup id = none ∨
        r.2.store.rows.lookup id = some record ∧
          m.CompensationFailed script record prompt runId failure) := by
  subst hid
  intro r
  obtain ⟨hv₁, hl₁, -⟩ := hv.backgrounds hm (script.call .checkpoint).early
  have hm₁ := hm.changes
    (m.background_changes (p := Await.Finishing) (script.call .checkpoint).early)
  rw [hrow] at hl₁
  rcases m.call_checkpoint_cases (script.call .checkpoint)
    (failedMaterialization record prompt runId failure) with ⟨error, hc⟩ | ⟨row, hl, hc⟩
  · -- the row is as it was created, and its deletion is tried
    generalize Run.run background m (script.call .checkpoint).early = m₁ at hv₁ hl₁ hm₁ hc
    obtain ⟨hv₂, hl₂, -⟩ := hv₁.backgrounds hm₁ (script.call .compensate).early
    rw [hl₁] at hl₂
    have hr : r = (.error error, (m₁.call (script.call .compensate)
        fun fault store => store.delete fault record.id).2) := by
      simp only [r, persistFailedMaterialization, hc]
      rfl
    rw [hr]
    rcases m₁.call_delete_cases (script.call .compensate) record.id with ⟨error', hd⟩ | hd
    · rw [hd]
      refine ⟨hv₂, .inr (.inr ⟨hl₂, ⟨error, by rw [hc]⟩, error', ?_⟩)⟩
      rw [hc, hd]
    · rw [hd]
      exact ⟨hv₂.withStore _, .inr (.inl (by simp [AList.lookup_erase]))⟩
  · have hr : r = (m.call (script.call .checkpoint) fun fault store =>
        store.checkpoint fault (failedMaterialization record prompt runId failure)) := by
      simp only [r, persistFailedMaterialization, hc]
    rw [hr, hc]
    refine ⟨hv₁.withStore _, .inl ⟨rfl, ?_⟩⟩
    obtain rfl := Option.some.inj (hl.symm.trans hl₁)
    exact SessionStore.lookup_setRow ..

/-! ### The actor of a first prompt -/

/-- The registered actor of a session is live, and its only turn is that of the
first prompt. -/
structure Owns (m : SessionManager) (id : SessionId) (prompt : String) (h : SessionHandle)
    (t : ActorTask) : Prop where
  registered : m.actors.lookup id = some h
  task : m.tasks[h]? = some t
  session : t.actor.record.id = id
  live : t.exited = none ∧ t.finished = false
  turn : FirstTurn prompt t.actor.record

/-- The actor of a first prompt, before a client got its handle. -/
def NewActor (m : SessionManager) (id : SessionId) (prompt : String) (h : SessionHandle) : Prop :=
  ∃ t : ActorTask, m.Owns id prompt h t ∧ t.shared = false

variable {prompt : String} {h : SessionHandle}

/-- **What happens on its own leaves the new actor its turn.** -/
theorem NewActor.background (hn : m.NewActor id prompt h) (b : Background) :
    (m.background b).NewActor id prompt h := by
  obtain ⟨t, ho, hshared⟩ := hn
  have hregistered : (m.background b).actors.lookup id = some h := by
    rw [(Change.background (p := Await.Finishing) b).follows.1]
    exact ho.registered
  cases b with
  | finished i =>
    refine ⟨if i = h then { t with finished := t.finished || t.exited.isSome } else t,
      ⟨hregistered, ?_, ?_, ?_, ?_⟩, ?_⟩
    · by_cases hi : i = h
      · subst hi
        rw [if_pos rfl]
        exact getElem?_modify_self ho.task
      · rw [if_neg hi]
        exact (getElem?_modify_of_ne hi _).trans ho.task
    · split_ifs <;> exact ho.session
    · split_ifs
      · simp [ho.live]
      · exact ho.live
    · split_ifs <;> exact ho.turn
    · split_ifs <;> exact hshared
  | input i env input =>
    rcases m.background_input_cases i env input with hb | ⟨t', ht', hadm, hb⟩
    · rw [hb]
      exact ⟨t, ho, hshared⟩
    rw [hb] at hregistered ⊢
    by_cases hi : i = h
    · subst hi
      obtain rfl := Option.some.inj (ho.task.symm.trans ht')
      -- no command reaches an actor whose handle no client has
      have hcommand : ∀ c, input ≠ .command c := by
        rintro c rfl
        simp [admits, hshared] at hadm
      have hk := (m.session t).step_keeps env (isOrdinary_of_admits ho.registered hadm)
      refine ⟨_, ⟨hregistered, getElem?_modify_self ho.task, hk.id.trans ho.session,
        ⟨hk.exited.trans ho.live.1, ho.live.2⟩, ?_⟩, hshared⟩
      exact Session.firstTurn_step (s := m.session t) ho.turn env hcommand
    · exact ⟨t, ⟨hregistered, (getElem?_modify_of_ne hi _).trans ho.task, ho.session, ho.live,
        ho.turn⟩, hshared⟩

theorem NewActor.backgrounds (hn : m.NewActor id prompt h) (bs : List Background) :
    (Run.run SessionManager.background m bs).NewActor id prompt h :=
  Run.run_invariant (I := fun m : SessionManager => m.NewActor id prompt h)
    (fun _ b hn => hn.background b) hn bs

/-- **An attachment leaves the actor its turn,** whether it succeeds or not. -/
theorem NewActor.attach (hn : m.NewActor id prompt h) (w : Await) (connectionId : ConnectionId)
    (attachmentId : AttachmentId) :
    ∃ t : ActorTask, (m.send h w (.attach connectionId attachmentId)).2.Owns id prompt h t := by
  obtain ⟨t, ho, -⟩ := hn.backgrounds w.early
  unfold send
  generalize Run.run SessionManager.background m w.early = m₁ at ho
  rcases m₁.receive_cases h w (.attach connectionId attachmentId) with
    ⟨-, hexited⟩ | ⟨t', ht', -, hr⟩
  · exact absurd (hexited t ho.task) (by simp [ho.live.1])
  obtain rfl := Option.some.inj (ho.task.symm.trans ht')
  rw [hr]
  have hsteers : (SessionCommand.attach connectionId attachmentId).steers = false := rfl
  have hk := (m₁.session t).handleCommand_keeps w.env hsteers
  have hx : ((m₁.session t).handleCommand w.env (.attach connectionId attachmentId)).2.exited =
      none := hk.exited.trans ho.live.1
  refine ⟨_, ?_, deliver_task ho.task w _, hk.id.trans ho.session, ⟨hx, ?_⟩, ?_⟩
  · rw [(Change.delivered (p := fun _ => True) ho.task ho.live.1 (by simp)).follows.1]
    exact ho.registered
  · simp [hx, ho.live.2]
  · have hrecord : ((m₁.session t).handleCommand w.env
        (.attach connectionId attachmentId)).2.record = t.actor.record :=
      (m₁.session t).attach_record w.env connectionId attachmentId
    simp only [hrecord]
    exact ho.turn

/-- The turn runs exactly when the harness does. -/
theorem Owns.running_iff (hm : m.Sane) {t : ActorTask} (ho : m.Owns id prompt h t) :
    (∀ turn ∈ t.actor.record.turns, turn.status = .running) ↔
      t.actor.harness.active.isSome = true := by
  obtain ⟨status, hturns⟩ := ho.turn.turns
  have ha := (hm.task ho.task).agrees
  cases hactive : t.actor.harness.active with
  | none =>
    have hidle := (ha.turns_of_idle hactive).2
    rw [hturns] at hidle ⊢
    simpa using hidle
  | some run =>
    obtain ⟨turns, turn, _, htr, -, -, hstatus, -⟩ := ha.turns_of_active hactive
    rw [hturns] at htr
    have hlast := congrArg List.getLast? htr
    simp only [List.getLast?_singleton, List.getLast?_append, Option.some_or] at hlast
    obtain rfl := Option.some.inj hlast
    rw [hturns]
    simpa using hstatus

/-! ### What a materialization leaves -/

section Request

variable (m : SessionManager) (script : Script) (request : MaterializeSession)

/-- The world once the row was created. -/
def created : SessionManager :=
  (Run.run SessionManager.background m (script.call .materialize).early).withRow request

/-- The row as it was created. -/
abbrev createdRecord : SessionRecord := SessionStore.materializedRecord request m.nextSession

/-- The actor that `spawn_materialized` starts. -/
def spawned : Except SessionCommandError Session :=
  Session.spawnMaterialized (m.created script request).store (m.createdRecord request)
    (.fromRecord (m.createdRecord request) script.factory.catalog) request.prompt
    (m.created script request).activity

/-- The failure of the engine bundle, or of the actor's start. -/
def startFailure : Option RunFailureSnapshot :=
  match script.factory.create, m.spawned script request with
  | .error failure, _ => some (startupFailure failure.message failure.retryable)
  | .ok (), .error error => some (startupFailure error.message false)
  | .ok (), .ok _ => none

/-- The requester's attachment to the new actor fails. -/
def AttachFailed (connectionId : ConnectionId) (attachmentId : AttachmentId) : Prop :=
  script.factory.create = .ok () ∧ ∃ s error, m.spawned script request = .ok s ∧
    (((m.created script request).register m.nextSession s).attach
      (m.created script request).tasks.length (script.call .attach) connectionId
        attachmentId).1 = .error error

/-- The row cannot be marked failed, and cannot be removed. -/
def Stuck (failure : RunFailureSnapshot) : Prop :=
  (m.created script request).CompensationFailed script (m.createdRecord request) request.prompt
    request.runId failure

end Request

/-- No row, no actor and no run. -/
structure Absent (m : SessionManager) (id : SessionId) : Prop extends m.Vacant id where
  row : m.store.rows.lookup id = none

/-- **What a materialization that fails leaves behind** once the row was there. -/
inductive Leaves (m : SessionManager) (script : Script) (request : MaterializeSession)
    (connectionId : ConnectionId) (attachmentId : AttachmentId) (m' : SessionManager) : Prop where
  /-- Nothing. -/
  | nothing (ha : m'.Absent m.nextSession)
  /-- The row with its turn failed. -/
  | failed {failure : RunFailureSnapshot} {row : SessionRecord} (hv : m'.Vacant m.nextSession)
    (hrow : m'.store.rows.lookup m.nextSession = some row)
    (hfailure : m.startFailure script request = some failure)
    (hturns : row.turns = [⟨0, 0, 0, .failed⟩])
    (htranscript : row.transcript = [.user request.prompt, .failed 0 failure])
    (hhistory : row.history = [])
  /-- The live actor, whose turn runs unless its run is over. -/
  | attached {h : SessionHandle} {t : ActorTask}
    (hattach : m.AttachFailed script request connectionId attachmentId)
    (howns : m'.Owns m.nextSession request.prompt h t)
    (hrunning : (∀ turn ∈ t.actor.record.turns, turn.status = .running) ↔
      t.actor.harness.active.isSome = true)
  /-- The row as it was created, if it could neither be marked nor removed. -/
  | orphaned {failure : RunFailureSnapshot} (hv : m'.Vacant m.nextSession)
    (hrow : m'.store.rows.lookup m.nextSession = some (m.createdRecord request))
    (hfailure : m.startFailure script request = some failure)
    (hstuck : m.Stuck script request failure)

section Steps

variable {script : Script} {request : MaterializeSession} {connectionId : ConnectionId}
  {attachmentId : AttachmentId}

/-- The identifier of the new session does not depend on what happens meanwhile. -/
theorem nextSession_created (hm : m.Sane) (script : Script) :
    (Run.run SessionManager.background m (script.call .materialize).early).nextSession =
      m.nextSession :=
  congrArg SessionId.mk (hm.vacant.backgrounds hm (script.call .materialize).early).2.2

theorem sane_created (hm : m.Sane) : (m.created script request).Sane :=
  (hm.changes (m.background_changes (p := Await.Finishing) _)).change
    (Change.inserted (p := Await.Finishing) request)

/-- The new session has a row, and nothing else yet. -/
theorem Sane.vacant_created (hm : m.Sane) (script : Script) (request : MaterializeSession) :
    (m.created script request).Vacant m.nextSession ∧
      (m.created script request).store.rows.lookup m.nextSession =
        some (m.createdRecord request) := by
  refine ⟨(hm.vacant.backgrounds hm _).1.withStore _, ?_⟩
  have hl := lookup_withRow (Run.run SessionManager.background m (script.call .materialize).early)
    request
  rwa [nextSession_created hm] at hl

/-- **What the compensation of a failed start leaves.** -/
theorem leaves_of_startFailure (hm : m.Sane) (hrun : request.runId = 0)
    {failure : RunFailureSnapshot} (hfailure : m.startFailure script request = some failure) :
    m.Leaves script request connectionId attachmentId
      ((m.created script request).persistFailedMaterialization script (m.createdRecord request)
        request.prompt request.runId failure).2 := by
  obtain ⟨hv, hrow⟩ := hm.vacant_created script request
  obtain ⟨hv', ⟨-, hl⟩ | hl | ⟨hl, hstuck⟩⟩ :=
    persistFailedMaterialization_cases (sane_created hm) hv rfl hrow script request.prompt
      request.runId failure
  · refine .failed hv' hl hfailure ?_ ?_ rfl
    · simp [failedMaterialization, hrun]
    · simp [failedMaterialization, SessionStore.materializedRecord, TranscriptItem.isUser, hrun]
  · exact .nothing ⟨hv', hl⟩
  · exact .orphaned hv' hl hfailure hstuck

/-- **The actor that is started owns the turn of the first prompt.** -/
theorem newActor_of_spawned (hrun : request.runId = 0) {s : Session}
    (hs : m.spawned script request = .ok s) :
    ((m.created script request).register m.nextSession s).NewActor m.nextSession request.prompt
      (m.created script request).tasks.length := by
  obtain ⟨runId, h, -, -, -, rfl⟩ := Session.spawnMaterialized_eq_ok hs
  refine ⟨_, ⟨AList.lookup_insert _, List.getElem?_concat_length, rfl, ⟨rfl, rfl⟩, ?_, rfl⟩, rfl⟩
  exact ⟨.running, congrArg (fun runId => [(⟨0, runId, 0, .running⟩ : DurableTurn)]) hrun⟩

theorem sane_spawned (hm : m.Sane) {s : Session} (hs : m.spawned script request = .ok s) :
    ((m.created script request).register m.nextSession s).Sane := by
  have hid := nextSession_created hm script
  have hm₁ := hm.changes
    (m.background_changes (p := Await.Finishing) (script.call .materialize).early)
  have hstart : Start (Run.run SessionManager.background m (script.call .materialize).early)
      ((m.created script request).register (Run.run SessionManager.background m
        (script.call .materialize).early).nextSession s) :=
    .materialized (by rw [hid]; exact hs)
  rw [hid] at hstart
  exact hm₁.start hstart

/-- A failed attachment leaves what the exchange with the actor left. -/
theorem attach_eq_error {w : Await} {error : SessionManagerError}
    (ha : m.attach h w connectionId attachmentId = (.error error, m')) :
    m' = (m.send h w (.attach connectionId attachmentId)).2 := by
  have hs := m.askSnapshot_snd h w (.attach connectionId attachmentId)
  unfold SessionManager.attach at ha
  generalize m.askSnapshot h w (.attach connectionId attachmentId) = r at ha hs
  obtain ⟨error | snapshot, m₁⟩ := r
  · exact (Prod.mk.inj ha).2.symm.trans hs
  · simp at ha

/-- **What a failed attachment leaves.** -/
theorem leaves_of_attach (hm : m.Sane) (hrun : request.runId = 0)
    (hcreate : script.factory.create = .ok ()) {s : Session}
    (hs : m.spawned script request = .ok s) {error : SessionManagerError} {m' : SessionManager}
    (ha : ((m.created script request).register m.nextSession s).attach
      (m.created script request).tasks.length (script.call .attach) connectionId attachmentId =
        (.error error, m')) :
    m.Leaves script request connectionId attachmentId m' := by
  have hn := newActor_of_spawned hrun hs
  obtain ⟨t, ho⟩ := hn.attach (script.call .attach) connectionId attachmentId
  have hm' := (sane_spawned hm hs).changes (attach_changes (p := Await.Finishing) _
    (m.created script request).tasks.length (script.call .attach) connectionId attachmentId)
  rw [ha] at hm'
  obtain rfl := attach_eq_error ha
  exact .attached ⟨hcreate, s, error, hs, by rw [ha]⟩ ho (ho.running_iff hm')

/-- **A materialization whose attachment succeeds** has its actor registered. -/
theorem registered_of_attach (w : Await) {result : Except SessionManagerError ManagedSession}
    (hl : m.actors.lookup id = some h)
    (ha : m.attach h w connectionId attachmentId = (result, m')) :
    m'.actors.lookup id = some h := by
  have hc := attach_changes (p := Await.Finishing) m h w connectionId attachmentId
  rw [ha] at hc
  rw [hc.follows.1]
  exact hl

/-- **What a materialization leaves,** from the creation of the row on. -/
theorem Sane.materialize_cases (hm : m.Sane) (script : Script) {request : MaterializeSession}
    (hrun : request.runId = 0) (reasoning : ReasoningLevel) (connectionId : ConnectionId)
    (attachmentId : AttachmentId) :
    ((∃ error, (m.materialize script request reasoning connectionId attachmentId).1 =
        .error error) ∧
      m.Leaves script request connectionId attachmentId
        (m.materialize script request reasoning connectionId attachmentId).2) ∨
    (∃ session, (m.materialize script request reasoning connectionId attachmentId).1 =
        .ok session) ∧
      ∃ h, (m.materialize script request reasoning connectionId attachmentId).2.actors.lookup
        m.nextSession = some h := by
  have hid := nextSession_created hm script
  obtain ⟨hvacant, hrow, -⟩ := hm.vacant.backgrounds hm (script.call .materialize).early
  rw [hm.lookup_nextSession] at hrow
  unfold materialize
  rcases m.call_materialize_cases (script.call .materialize) request with ⟨error, h⟩ | h
  · rw [h]
    exact .inl ⟨⟨_, rfl⟩, .nothing ⟨hvacant, hrow⟩⟩
  have hcreated :
      (Run.run SessionManager.background m (script.call .materialize).early).withRow request =
    m.created script request := rfl
  rw [h, hid, hcreated]
  cases hcreate : script.factory.create with
  | error failure =>
    have hstart : m.startFailure script request =
        some (startupFailure failure.message failure.retryable) := by
      rw [startFailure, hcreate]
    have hleaves : m.Leaves script request connectionId attachmentId _ :=
      leaves_of_startFailure hm hrun hstart
    simp only
    generalize (m.created script request).persistFailedMaterialization script
      (m.createdRecord request) request.prompt request.runId
      (startupFailure failure.message failure.retryable) = r at hleaves
    obtain ⟨error | _, m₃⟩ := r <;> exact .inl ⟨⟨_, rfl⟩, hleaves⟩
  | ok u =>
    simp only
    cases hs : m.spawned script request with
    | error error =>
      have hstart : m.startFailure script request = some (startupFailure error.message false) := by
        rw [startFailure, hcreate, hs]
      have hleaves : m.Leaves script request connectionId attachmentId _ :=
        leaves_of_startFailure hm hrun hstart
      rw [spawned] at hs
      simp only [hs]
      generalize (m.created script request).persistFailedMaterialization script
        (m.createdRecord request) request.prompt request.runId
        (startupFailure error.message false) = r at hleaves
      obtain ⟨error' | _, m₃⟩ := r <;> exact .inl ⟨⟨_, rfl⟩, hleaves⟩
    | ok s =>
      have hregistered : ((m.created script request).register m.nextSession s).actors.lookup
          m.nextSession = some (m.created script request).tasks.length := AList.lookup_insert _
      have hs' := hs
      rw [spawned] at hs'
      simp only [hs', SessionStore.materializedRecord_id]
      cases ha : ((m.created script request).register m.nextSession s).attach
        (m.created script request).tasks.length (script.call .attach) connectionId attachmentId with
      | mk result m₃ =>
        cases result with
        | error error => exact .inl ⟨⟨_, rfl⟩, leaves_of_attach hm hrun hcreate hs ha⟩
        | ok session =>
          have hl := registered_of_attach (script.call .attach) hregistered ha
          exact .inr ⟨⟨_, rfl⟩, _, hl⟩

end Steps

section Command

variable (m : SessionManager) (script : Script) (cwd : List UInt8) (prompt : String)
  (settings : SessionSettings) (connectionId : ConnectionId) (attachmentId : AttachmentId)

/-- What `materialize_and_submit` asks the repository for. -/
def requestOf (title : SessionTitle) : MaterializeSession :=
  ⟨cwd, title, settings, prompt, 0, (script.call .materialize).env.now⟩

/-- **`materialize_and_submit` is atomic.** -/
structure Atomic : Prop where
  /-- An error leaves nothing, or what `Leaves` says. -/
  error : ∀ error, (m.materializeAndSubmit script cwd prompt settings connectionId
      attachmentId).1 = .error error →
    (m.materializeAndSubmit script cwd prompt settings connectionId attachmentId).2.Absent
        m.nextSession ∨
      ∃ title, fallbackTitle prompt = some title ∧
        m.Leaves script (requestOf script cwd prompt settings title) connectionId attachmentId
          (m.materializeAndSubmit script cwd prompt settings connectionId attachmentId).2
  /-- A running turn without an actor is left only if both compensations failed. -/
  orphan : ∀ row, (m.materializeAndSubmit script cwd prompt settings connectionId
      attachmentId).2.store.rows.lookup m.nextSession = some row →
    (∃ turn ∈ row.turns, turn.status = .running) →
    (m.materializeAndSubmit script cwd prompt settings connectionId
      attachmentId).2.actors.lookup m.nextSession = none →
    ∃ title failure, fallbackTitle prompt = some title ∧
      m.startFailure script (requestOf script cwd prompt settings title) = some failure ∧
        m.Stuck script (requestOf script cwd prompt settings title) failure
  /-- A request that the validation rejects changes nothing. -/
  rejected : ((Unicode.trim prompt.toList).isEmpty = true ∨
      ∃ error, validateMaterializationSettings settings script.factory.catalog = .error error) →
    ∃ error, m.materializeAndSubmit script cwd prompt settings connectionId attachmentId =
      (.error error, m)

variable {m script cwd prompt settings connectionId attachmentId}

/-- The session that would be created next is absent. -/
theorem Sane.absent (hm : m.Sane) : m.Absent m.nextSession := ⟨hm.vacant, hm.lookup_nextSession⟩

/-- **What `materialize_and_submit` does:** it is rejected and changes nothing, it
panics before the row is created, or it creates the row. -/
theorem materializeAndSubmit_cases (m : SessionManager) (script : Script) (cwd : List UInt8)
    (prompt : String) (settings : SessionSettings) (connectionId : ConnectionId)
    (attachmentId : AttachmentId) :
    (∃ error, m.materializeAndSubmit script cwd prompt settings connectionId attachmentId =
      (.error error, m)) ∨
    (m.materializeAndSubmit script cwd prompt settings connectionId attachmentId =
      (.error .unavailable, { m with stopped := true })) ∨
    ∃ title reasoning, fallbackTitle prompt = some title ∧
      m.materializeAndSubmit script cwd prompt settings connectionId attachmentId =
        m.materialize script (requestOf script cwd prompt settings title) reasoning connectionId
          attachmentId := by
  unfold materializeAndSubmit
  split_ifs with hblank
  · exact .inl ⟨_, rfl⟩
  cases validateMaterializationSettings settings script.factory.catalog with
  | error error => exact .inl ⟨_, rfl⟩
  | ok u =>
    simp only
    split
    · rename_i reasoning title _ htitle
      exact .inr (.inr ⟨title, reasoning, htitle, rfl⟩)
    · exact .inr (.inl rfl)

/-- A request that is rejected changes nothing. -/
theorem materializeAndSubmit_rejected (hr : (Unicode.trim prompt.toList).isEmpty = true ∨
      ∃ error, validateMaterializationSettings settings script.factory.catalog = .error error) :
    ∃ error, m.materializeAndSubmit script cwd prompt settings connectionId attachmentId =
      (.error error, m) := by
  unfold materializeAndSubmit
  split_ifs with hblank
  · exact ⟨_, rfl⟩
  · obtain ⟨error, hv⟩ := hr.resolve_left hblank
    rw [hv]
    exact ⟨_, rfl⟩

/-- A row whose turn runs is left by an error only if both compensations failed. -/
theorem Leaves.stuck {request : MaterializeSession} {m' : SessionManager}
    (hl : m.Leaves script request connectionId attachmentId m') {row : SessionRecord}
    (hrow : m'.store.rows.lookup m.nextSession = some row)
    (hturn : ∃ turn ∈ row.turns, turn.status = .running)
    (hactor : m'.actors.lookup m.nextSession = none) :
    ∃ failure, m.startFailure script request = some failure ∧
      m.Stuck script request failure := by
  cases hl with
  | nothing ha => simp [ha.row] at hrow
  | failed hv hrow' hfailure hturns htranscript hhistory =>
    obtain rfl := Option.some.inj (hrow'.symm.trans hrow)
    simp [hturns] at hturn
  | attached hattach howns hrunning => simp [howns.registered] at hactor
  | orphaned hv hrow' hfailure hstuck => exact ⟨_, hfailure, hstuck⟩

/-- A materialization is atomic in every world that is in order. -/
theorem Sane.atomic (hm : m.Sane) :
    m.Atomic script cwd prompt settings connectionId attachmentId := by
  have hrequest (title : SessionTitle) : (requestOf script cwd prompt settings title).runId = 0 :=
    rfl
  rcases m.materializeAndSubmit_cases script cwd prompt settings connectionId attachmentId with
    ⟨error, h⟩ | h | ⟨title, reasoning, htitle, h⟩
  · refine ⟨?_, ?_, materializeAndSubmit_rejected⟩ <;> rw [h]
    · exact fun _ _ => .inl hm.absent
    · intro row hrow
      simp [hm.lookup_nextSession] at hrow
  · refine ⟨?_, ?_, materializeAndSubmit_rejected⟩ <;> rw [h]
    · obtain ⟨htask, hactor, hrun⟩ := hm.vacant
      exact fun _ _ => .inl ⟨⟨htask, hactor, hrun⟩, hm.lookup_nextSession⟩
    · intro row hrow
      simp [hm.lookup_nextSession] at hrow
  · refine ⟨?_, ?_, materializeAndSubmit_rejected⟩ <;> rw [h]
    · intro error he
      rcases hm.materialize_cases script (hrequest title) reasoning connectionId attachmentId with
        ⟨-, hleaves⟩ | ⟨⟨session, hok⟩, -⟩
      · exact .inr ⟨title, htitle, hleaves⟩
      · simp [hok] at he
    · intro row hrow hturn hactor
      rcases hm.materialize_cases script (hrequest title) reasoning connectionId attachmentId with
        ⟨-, hleaves⟩ | ⟨-, h, hregistered⟩
      · obtain ⟨failure, hfailure, hstuck⟩ := hleaves.stuck hrow hturn hactor
        exact ⟨title, failure, htitle, hfailure, hstuck⟩
      · simp [hregistered] at hactor

end Command

/-- **A materialization that fails leaves nothing half done.**  Whatever happened
to the manager before, whichever steps fail and whatever happens meanwhile: see
`Atomic`. -/
theorem atomic_of_run {store : SessionStore} (hs : store.InOrder) (inputs : List Input)
    (script : Script) (cwd : List UInt8) (prompt : String) (settings : SessionSettings)
    (connectionId : ConnectionId) (attachmentId : AttachmentId) :
    (Run.run step (new store .new) inputs).Atomic script cwd prompt settings connectionId
      attachmentId :=
  (sane_of_run hs inputs).atomic

/-- `atomic_of_run` on the first prompt of a repository with one other session. -/
theorem atomic_of_run_hello :
    (Run.run step (new oneSession .new) []).Atomic quietScript [] "hello" ⟨"model", .medium, 0⟩ ⟨1⟩
      ⟨1⟩ :=
  atomic_of_run inOrder_oneSession [] quietScript [] "hello" _ _ _

/-- A command whose attachment fails after the run of the new actor ended. -/
def settledScript : Script :=
  { quietScript with
    call := fun
      | .attach =>
        { quietAwait with
          early := [.input 0 Session.quietEnv (.run (some (.ok (.completed "hi"))))]
          env := { Session.quietEnv with jobsStatus := .error (.notFound 0) } }
      | _ => quietAwait }

/-- **The turn of the actor that a failed attachment leaves may be over:** the
session is there, its turn neither failed nor runs. -/
theorem settled_before_failed_attach :
    let m := new oneSession .new
    let r := m.materializeAndSubmit settledScript [] "hello" ⟨"model", .medium, 0⟩ ⟨1⟩ ⟨1⟩
    (∃ error, r.1 = .error error) ∧
      ¬(r.2.store.rows.lookup m.nextSession = none ∧ r.2.actors.lookup m.nextSession = none) ∧
      ¬(∃ row, r.2.store.rows.lookup m.nextSession = some row ∧
        row.turns.map (fun turn => turn.status) = [.failed] ∧
          r.2.actors.lookup m.nextSession = none) ∧
      ¬∃ h t turn, r.2.actors.lookup m.nextSession = some h ∧ r.2.tasks[h]? = some t ∧
        turn ∈ t.actor.record.turns ∧ turn.status = .running := by
  intro m r
  obtain ⟨title, htitle⟩ : ∃ title, fallbackTitle "hello" = some title := by
    have hplain : stripTerminalControlsPreservingWhitespace "hello".toList = "hello".toList := by
      simp [stripTerminalControlsPreservingWhitespace, stripTerminalControlsWithWhitespace,
        Unicode.isWhitespace, Unicode.isControl]
    rw [fallbackTitle, hplain]
    exact Option.isSome_iff_exists.1 (by decide)
  have hr : r = m.materialize settledScript
      (requestOf settledScript [] "hello" ⟨"model", .medium, 0⟩ title) .medium ⟨1⟩ ⟨1⟩ := by
    simp only [r, materializeAndSubmit, htitle]
    rfl
  have hactor : r.2.actors.lookup m.nextSession = some 0 := by
    rw [hr]
    rfl
  have hturns : r.2.tasks.map (fun t => t.actor.record.turns.map fun turn => turn.status) =
      [[.completed]] := by
    rw [hr]
    rfl
  refine ⟨⟨.session (mapJobError (.notFound 0)), by rw [hr]; rfl⟩, ?_, ?_, ?_⟩
  · simp [hactor]
  · simp [hactor]
  · rintro ⟨h, t, turn, hl, ht, hturn, hstatus⟩
    have hmem := List.mem_map_of_mem (f := fun t : ActorTask =>
      t.actor.record.turns.map fun turn => turn.status) (List.mem_of_getElem? ht)
    rw [hturns, List.mem_singleton] at hmem
    have hrunning : turn.status ∈ t.actor.record.turns.map fun turn => turn.status :=
      List.mem_map_of_mem hturn
    rw [hmem, List.mem_singleton, hstatus] at hrunning
    exact absurd hrunning (by decide)

end SessionManager

end Moh
