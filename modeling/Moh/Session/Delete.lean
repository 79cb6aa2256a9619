/-
# A delete that fails, and one that succeeds

`SessionManager::delete` asks the actor to prepare, deletes the row, and tells the
actor the outcome; whatever fails, the manager then forgets the actor.  So nothing
retries afterwards: what was not written before is lost.  If the actor accepts
`prepare_delete` and its record is written, a delete that fails leaves the cancelled
record in the row, and one that succeeds ends the actor and informs every observer
that did not leave before (`Fit`, `deletes_of_run`).  If the checkpoint of
`prepare_delete` fails, the row keeps the running turn and the actor is forgotten all
the same (`running_after_failed_delete`).
-/

import Moh.Session.Deletion
import Moh.Session.Sane

namespace Moh

namespace SessionStore

/-- **A record is in its row after a checkpoint** that succeeds, or that had nothing
to write. -/
theorem lookup_of_checkpoint {store : SessionStore} {fault : Option SessionStoreError}
    {record row' : SessionRecord}
    (hsame : ∀ row, store.rows.lookup record.id = some row → SameSession record row)
    (hok : ∀ row, store.rows.lookup record.id = some row →
      row = record ∨ (store.checkpoint fault record).1 = .ok ())
    (hl : (store.checkpoint fault record).2.rows.lookup record.id = some row') :
    row' = record := by
  rcases store.checkpoint_cases fault record with ⟨error, h⟩ | ⟨row, hrow, h⟩
  · rw [h] at hl hok
    exact (hok row' hl).resolve_right (by simp)
  · rw [h] at hl
    simp only [lookup_setRow] at hl
    obtain rfl := Option.some.inj hl
    have hs := hsame row hrow
    rw [hs.cwd, hs.createdAt]

/-- An actor creates no row. -/
theorem Frame.lookup_none {id id' : SessionId} {store store' : SessionStore}
    (h : Frame id' store store') (hl : store.rows.lookup id = none) :
    store'.rows.lookup id = none := by
  have hsome := h.isSome id
  rw [hl] at hsome
  exact Option.not_isSome_iff_eq_none.1 (by simp [hsome])

end SessionStore

namespace SessionManager

variable {m m' : SessionManager} {id : SessionId} {h : SessionHandle} {t : ActorTask}
  {record : SessionRecord}

/-! ### What a delete has to do -/

section Command

variable (m : SessionManager) (script : Script) (id : SessionId)

/-- The world when `prepare_delete` reaches the actor. -/
def prepared : SessionManager := Run.run SessionManager.background m (script.call .prepare).early

/-- A delete that fails keeps the session, and one that succeeds leaves nothing
behind. -/
structure Deletes : Prop where
  /-- After an error the latest record is in the row and no turn of it runs, the
  active run was cancelled, or the actor lives on. -/
  failed : ∀ (error : SessionManagerError) (h : SessionHandle) (t t' : ActorTask)
    (row : SessionRecord), (m.delete script id).1 = .error error →
    m.actors.lookup id = some h → (m.prepared script).tasks[h]? = some t →
    (m.delete script id).2.tasks[h]? = some t' →
    (m.delete script id).2.store.rows.lookup id = some row →
      (row = t'.actor.record ∧ (∀ turn ∈ row.turns, turn.status ≠ .running) ∧
        ∀ run, t.actor.harness.active = some run → .cancelled run.id ∈ row.transcript) ∨
      ((m.delete script id).2.actors.lookup id = some h ∧ t'.exited = none)
  /-- After success there is no row and no actor. -/
  removed : (m.delete script id).1 = .ok () →
    (m.delete script id).2.store.rows.lookup id = none ∧
      (m.delete script id).2.actors.lookup id = none
  /-- The loop of the actor has ended. -/
  ended : (m.delete script id).1 = .ok () → ∀ h : SessionHandle, m.actors.lookup id = some h →
    ∃ t' : ActorTask, (m.delete script id).2.tasks[h]? = some t' ∧ t'.exited.isSome = true
  /-- And the last event of the observers is the terminal one, of those that were not too
  slow, closed by their client or detached before it. -/
  informed : (m.delete script id).1 = .ok () → ∀ (h : SessionHandle) (t : ActorTask),
    m.actors.lookup id = some h → (m.prepared script).tasks[h]? = some t →
    ∀ o ∈ t.actor.stream.observers, ∃ t' : ActorTask,
      (m.delete script id).2.tasks[h]? = some t' ∧
        (t'.actor.stream.Left o.key ∨ t'.actor.stream.Informed id o.key)

/-! ### When it does -/

/-- Every other task of the session has ended. -/
def Alone (h : SessionHandle) : Prop :=
  ∀ (i : SessionHandle) (t : ActorTask), m.tasks[i]? = some t → t.actor.record.id = id →
    i ≠ h → t.exited.isSome = true

/-- A plan update of the actor is saved, as long as its session has a row. -/
def PlanSaved (h : SessionHandle) (m : SessionManager) : Background → Prop
  | .input i env (.planUpdate plan _) => i = h → ∀ t : ActorTask, m.tasks[h]? = some t →
    t.exited = none → (m.store.rows.lookup t.actor.record.id).isSome = true →
      (m.store.checkpoint env.fault { t.actor.record with plan := plan }).1 = .ok ()
  | _ => True

/-- **The record is saved when the deletion begins:** the actor accepts it and the
repository takes the record with its run cancelled, or nothing is left to be
written. -/
def Saves (h : SessionHandle) : Prop :=
  ∀ (t : ActorTask) (row : SessionRecord), (m.prepared script).tasks[h]? = some t →
    (m.prepared script).store.rows.lookup id = some row →
      let s := (m.prepared script).session t
      (s.Closed → s.harness.active = none ∧ row = s.record) ∧
        (¬s.Closed → row = s.cancelledRecord ∨
          (s.store.checkpoint (script.call .prepare).env.fault s.cancelledRecord).1 = .ok ())

/-- The first exchange of a delete with the actor. -/
def exchange (h : SessionHandle) : Except SessionCommandError Unit × SessionManager :=
  m.askUnit h (script.call .prepare) .prepareDelete

/-- **What a delete of a session with a live actor needs.** -/
structure FitLive (h : SessionHandle) : Prop where
  /-- The actor's record is saved when the deletion begins. -/
  saves : m.Saves script id h
  /-- No second actor of the session is alive. -/
  alone : m.Alone id h
  /-- What the actor is still told about the plan is saved. -/
  aborted : ∀ error, (m.exchange script h).1 = .error error →
    Run.Guarded SessionManager.background (PlanSaved h) (m.exchange script h).2
      (script.call .abort).early
  deleted : (m.exchange script h).1 = .ok () →
    ∀ error, ((m.exchange script h).2.call (script.call .delete) fun fault store =>
      store.delete fault id).1 = .error error →
    Run.Guarded SessionManager.background (PlanSaved h) (m.exchange script h).2
      ((script.call .delete).early ++ (script.call .abort).early)
  /-- The events of the deletion can be numbered. -/
  room : ∀ t : ActorTask, (m.prepared script).tasks[h]? = some t →
    t.actor.stream.projection.sequence + 3 +
      2 * ((script.call .delete).early.length + (script.call .finish).early.length) ≤ u64Max

/-- What a delete needs. -/
def Fit : Prop := ∀ h, m.actors.lookup id = some h → m.FitLive script id h

end Command

/-! ### Rows are not created again -/

/-- What happens on its own creates no row. -/
theorem lookup_none_background (hm : m.Sane) (hl : m.store.rows.lookup id = none) (b : Background) :
    (m.background b).store.rows.lookup id = none := by
  cases b with
  | finished i => exact hl
  | input i env input =>
    rcases m.background_input_cases i env input with hb | ⟨t, ht, -, hb⟩
    · rw [hb]
      exact hl
    · rw [hb]
      have ho := hm.task ht
      have hframe := Core.frame_effects (c := (m.session t).core) ho.pending
        (Session.step_effects ho.agrees (env, input))
      exact hframe.store.lookup_none hl

theorem lookup_none_backgrounds (hm : m.Sane) (hl : m.store.rows.lookup id = none)
    (bs : List Background) :
    (Run.run SessionManager.background m bs).store.rows.lookup id = none := by
  induction bs generalizing m with
  | nil => exact hl
  | cons b bs ih => exact ih (hm.background b) (lookup_none_background hm hl b)

/-- Neither does an actor that handles a command. -/
theorem lookup_none_receive (hm : m.Sane) (hl : m.store.rows.lookup id = none) (w : Await)
    (c : SessionCommand) : (m.receive h w c).2.store.rows.lookup id = none := by
  rcases m.receive_cases h w c with ⟨hr, -⟩ | ⟨t, ht, -, hr⟩
  · rw [hr]
    exact hl
  · rw [hr, deliver_store]
    have ho := hm.task ht
    have hframe := Core.frame_effects (c := (m.session t).core) ho.pending
      (Session.handleCommand_effects ho.agrees w.env c)
    exact hframe.store.lookup_none hl

theorem lookup_none_send (hm : m.Sane) (hl : m.store.rows.lookup id = none) (w : Await)
    (c : SessionCommand) : (m.send h w c).2.store.rows.lookup id = none :=
  lookup_none_receive (hm.changes (m.background_changes (p := Await.Finishing) w.early))
    (lookup_none_backgrounds hm hl w.early) w c

/-! ### The actor of the session until it is forgotten -/

/-- The actor is idle and refuses to be changed; but for the plan its record is
`record`, and no other actor writes its row. -/
structure Quits (m : SessionManager) (id : SessionId) (h : SessionHandle) (record : SessionRecord)
    (t : ActorTask) : Prop where
  registered : m.actors.lookup id = some h
  task : m.tasks[h]? = some t
  session : t.actor.record.id = id
  record : ∃ plan, t.actor.record = { record with plan := plan }
  idle : t.actor.harness.active = none
  closed : (m.session t).Closed
  alone : m.Alone id h

/-- The row of the session, if there is one, is the actor's record. -/
def RowIs (m : SessionManager) (id : SessionId) (t : ActorTask) : Prop :=
  ∀ row, m.store.rows.lookup id = some row → row = t.actor.record

/-- The actor is still there to be told the end, and it lost track of no observer. -/
structure Awaits (n : ℕ) (t t' : ActorTask) : Prop where
  deleting : t'.actor.deleting = true
  exited : t'.exited = none
  stream : Stream.Within n t.actor.stream t'.actor.stream

/-- The others stay ended. -/
theorem Alone.follows (ha : m.Alone id h) (hf : m.Follows m') : m'.Alone id h := by
  intro i t' ht' hid hi
  obtain ⟨t, ht, hft⟩ := hf.task i t' ht'
  exact hft.exited (ha i t ht (hft.same.symm.trans hid) hi)

/-- An actor that refuses to be changed keeps refusing. -/
theorem closed_of_keeps {s s' : Session} (hk : s.Keeps s') (hc : s.Closed) : s'.Closed := by
  rcases hc with hx | hm
  · exact .inl (by rw [hk.exited]; exact hx)
  · refine .inr fun hm' => hm (Session.ensureMutable_eq_ok_iff.2 ?_)
    obtain ⟨hd, hs⟩ := Session.ensureMutable_eq_ok_iff.1 hm'
    exact ⟨hk.deleting.symm.trans hd, hk.shuttingDown.symm.trans hs⟩

/-- An input of the actor itself. -/
theorem Quits.own (hm : m.Sane) (hq : m.Quits id h record t) (env : Env) {input : ActorInput}
    (hi : input.isOrdinary = true) :
    let s := (m.session t).step (env, input)
    let t' : ActorTask := { t with actor := s.toSessionActor, exited := s.exited }
    (m.putBack h s).Quits id h record t' ∧
      (PlanSaved h m (.input h env input) → m.RowIs id t → (m.putBack h s).RowIs id t') := by
  intro s t'
  have ho := hm.task hq.task
  have hk := (m.session t).step_keeps env hi
  have hlate := Session.late_step (s := m.session t) ho.pending hq.idle hq.closed env hi
  have hfollows : m.Follows (m.putBack h s) := .putBack hq.task ((m.session t).step_spares env input)
  obtain ⟨plan, hplan⟩ := hq.record
  have hsession : (m.session t).record = t.actor.record := rfl
  refine ⟨⟨hq.registered, getElem?_modify_self hq.task, hk.id.trans hq.session, ?_, hlate.idle,
    closed_of_keeps hk hq.closed, hq.alone.follows hfollows⟩, fun hsaved hrow => ?_⟩
  · rcases hlate.record with ⟨plan', -, -, -, hr, -⟩ | ⟨hr, -⟩
    · exact ⟨plan', by rw [show t'.actor.record = s.record from rfl, hr, hsession, hplan]⟩
    · exact ⟨plan, hr.trans hplan⟩
  · -- the row is the record before, and what is written is the record after
    have hid : s.record.id = id := hk.id.trans hq.session
    have hstore : (m.putBack h s).store = s.store := rfl
    intro row' hl
    rw [hstore] at hl
    have hbefore : ∀ row, m.store.rows.lookup s.record.id = some row → row = t.actor.record := by
      rw [hid]
      exact hrow
    rcases hlate.record with ⟨plan', explanation, rfl, hx, hr, hs⟩ | ⟨hr, hs | hs⟩
    · have hr' : s.record = { t.actor.record with plan := plan' } := hr
      have hs' : s.store = (m.store.checkpoint env.fault s.record).2 := by
        rw [hr']
        exact hs
      rw [hs', ← hid] at hl
      refine SessionStore.lookup_of_checkpoint (fun row hl' => ?_) (fun row hl' => .inr ?_) hl
      · rw [hbefore row hl', hr']
        exact ⟨rfl, rfl, rfl⟩
      · rw [hr']
        refine hsaved rfl t hq.task hx ?_
        rw [hq.session, ← hid, hl']
        rfl
    · have hs' : s.store = m.store := hs
      rw [hs'] at hl
      exact (hrow row' hl).trans hr.symm
    · have hr' : s.record = t.actor.record := hr
      have hs' : s.store = (m.store.checkpoint env.fault s.record).2 := by
        rw [hr']
        exact hs
      rw [hs', ← hid] at hl
      refine SessionStore.lookup_of_checkpoint (fun row hl' => ?_) (fun row hl' => .inl ?_) hl
      · rw [hbefore row hl', hr']
        exact ⟨rfl, rfl, rfl⟩
      · rw [hbefore row hl', hr']

/-- An input of another actor. -/
theorem Quits.other (hm : m.Sane) (hq : m.Quits id h record t) {i : SessionHandle}
    {t₁ : ActorTask} (hi : i ≠ h) (ht₁ : m.tasks[i]? = some t₁) (env : Env) (input : ActorInput) :
    let m' := m.putBack i ((m.session t₁).step (env, input))
    m'.Quits id h record t ∧ (m.RowIs id t → m'.RowIs id t) := by
  intro m'
  have hfollows : m.Follows m' := .putBack ht₁ ((m.session t₁).step_spares env input)
  refine ⟨⟨hq.registered, (getElem?_modify_of_ne hi _).trans hq.task, hq.session, hq.record, hq.idle,
    hq.closed, hq.alone.follows hfollows⟩, fun hrow row hl => hrow row ?_⟩
  by_cases hid : t₁.actor.record.id = id
  · obtain ⟨stream, hs⟩ := Session.step_of_exited (s := m.session t₁) (hq.alone i t₁ ht₁ hid hi)
      (env, input)
    have hstore : m'.store = m.store := by
      simp only [m', hs]
      rfl
    rwa [hstore] at hl
  · have ho := hm.task ht₁
    have hframe := Core.frame_effects (c := (m.session t₁).core) ho.pending
      (Session.step_effects ho.agrees (env, input))
    exact (hframe.store.others id fun he => hid he.symm).symm.trans hl

/-- **What happens on its own leaves the actor as it quits,** its row its record if
plan updates are saved, and its observers tracked. -/
theorem Quits.background (hm : m.Sane) (hq : m.Quits id h record t) (b : Background) :
    ∃ t', (m.background b).Quits id h record t' ∧
      (PlanSaved h m b → m.RowIs id t → (m.background b).RowIs id t') ∧
      (t.actor.deleting = true → t.exited = none → Awaits 2 t t') := by
  have hstays : t.actor.deleting = true → t.exited = none → Awaits 2 t t := fun hd hx =>
    ⟨hd, hx, (Stream.Within.refl _).mono (Nat.zero_le 2)⟩
  cases b with
  | finished i =>
    have hfollows : m.Follows (m.finish i) := .finish m i
    by_cases hi : i = h
    · subst hi
      refine ⟨{ t with finished := t.finished || t.exited.isSome },
        ⟨hq.registered, getElem?_modify_self hq.task, hq.session, hq.record, hq.idle, hq.closed,
          hq.alone.follows hfollows⟩, fun _ hrow => hrow, fun hd hx => ?_⟩
      exact ⟨hd, hx, (hstays hd hx).stream⟩
    · exact ⟨t, ⟨hq.registered, (getElem?_modify_of_ne hi _).trans hq.task, hq.session, hq.record,
        hq.idle, hq.closed, hq.alone.follows hfollows⟩, fun _ hrow => hrow, hstays⟩
  | input i env input =>
    rcases m.background_input_cases i env input with hb | ⟨t₁, ht₁, hadm, hb⟩
    · rw [hb]
      exact ⟨t, hq, fun _ hrow => hrow, hstays⟩
    rw [hb]
    by_cases hi : i = h
    · subst hi
      obtain rfl := Option.some.inj (hq.task.symm.trans ht₁)
      have hordinary := isOrdinary_of_admits hq.registered hadm
      have hk := (m.session t).step_keeps env hordinary
      obtain ⟨hown, hrow⟩ := hq.own hm env hordinary
      refine ⟨_, hown, hrow, fun hd hx => ⟨hk.deleting.trans hd, hk.exited.trans hx, ?_⟩⟩
      exact Session.tracks_step (s := m.session t) hd hq.idle env hordinary
    · obtain ⟨hother, hrow⟩ := hq.other hm hi ht₁ env input
      exact ⟨t, hother, fun _ => hrow, hstays⟩

/-- The same over a whole wait. -/
theorem Quits.backgrounds (hm : m.Sane) (hq : m.Quits id h record t) (bs : List Background) :
    ∃ t', (Run.run SessionManager.background m bs).Quits id h record t' ∧
      (Run.Guarded SessionManager.background (PlanSaved h) m bs → m.RowIs id t →
        (Run.run SessionManager.background m bs).RowIs id t') ∧
      (t.actor.deleting = true → t.exited = none → Awaits (2 * bs.length) t t') := by
  induction bs generalizing m t with
  | nil => exact ⟨t, hq, fun _ hrow => hrow, fun hd hx => ⟨hd, hx, .refl _⟩⟩
  | cons b bs ih =>
    obtain ⟨t₁, hq₁, hrow₁, ha₁⟩ := hq.background hm b
    obtain ⟨t₂, hq₂, hrow₂, ha₂⟩ := ih (hm.background b) hq₁
    refine ⟨t₂, hq₂, fun hguard hrow => hrow₂ hguard.2 (hrow₁ hguard.1 hrow), fun hd hx => ?_⟩
    have h₁ := ha₁ hd hx
    have h₂ := ha₂ h₁.deleting h₁.exited
    refine ⟨h₂.deleting, h₂.exited, (h₁.stream.trans h₂.stream).mono ?_⟩
    rw [List.length_cons]
    omega

/-! ### The beginning -/

/-- The first exchange finds a loop that ended, or the actor answers. -/
theorem exchange_cases {script : Script} (ht : (m.prepared script).tasks[h]? = some t) :
    (t.exited.isSome = true ∧ m.exchange script h = (.error .unavailable, m.prepared script)) ∨
      (t.exited = none ∧ m.exchange script h =
        (if (script.call .prepare).lost then .error .unavailable
          else (((m.prepared script).session t).prepareDelete (script.call .prepare).env).1,
        ((m.prepared script).deliver h t (script.call .prepare) .prepareDelete).2)) := by
  have hsend : m.send h (script.call .prepare) .prepareDelete =
      (m.prepared script).receive h (script.call .prepare) .prepareDelete := rfl
  unfold exchange askUnit
  rw [hsend]
  rcases (m.prepared script).receive_cases h (script.call .prepare) .prepareDelete with
    ⟨hr, hexited⟩ | ⟨t', ht', hx, hr⟩
  · rw [hr]
    exact .inl ⟨hexited t ht, rfl⟩
  · obtain rfl := Option.some.inj (ht.symm.trans ht')
    rw [hr]
    refine .inr ⟨hx, ?_⟩
    split_ifs with hlost
    · rfl
    · have hreply : ((m.prepared script).deliver h t (script.call .prepare) .prepareDelete).1 =
          .unit (((m.prepared script).session t).prepareDelete (script.call .prepare).env).1 := rfl
      simp only [hreply]

/-- **A delete that the actor refuses** changes nothing yet. -/
theorem exchange_refused {script : Script} (ht : (m.prepared script).tasks[h]? = some t)
    (hclosed : ((m.prepared script).session t).Closed) :
    (∃ error, (m.exchange script h).1 = .error error) ∧
      (m.exchange script h).2.store = (m.prepared script).store ∧
        ∃ t', (m.exchange script h).2.tasks[h]? = some t' ∧ t'.actor = t.actor ∧
          t'.exited = t.exited := by
  rcases exchange_cases ht with ⟨-, he⟩ | ⟨hx, he⟩
  · rw [he]
    exact ⟨⟨_, rfl⟩, rfl, t, ht, rfl, rfl⟩
  · have hx' : ¬((m.prepared script).session t).exited.isSome = true := by
      rw [show ((m.prepared script).session t).exited = t.exited from rfl, hx]
      simp
    cases hm : ((m.prepared script).session t).ensureMutable with
    | ok u => exact absurd hm (hclosed.resolve_left hx')
    | error error =>
      have hp := Session.prepareDelete_of_error hm (script.call .prepare).env
      have hc : ((m.prepared script).session t).handleCommand (script.call .prepare).env
          .prepareDelete = (.unit (.error error), (m.prepared script).session t) := by
        rw [Session.handleCommand, hp]
      rw [he]
      refine ⟨?_, ?_, _, deliver_task ht _ _, ?_, ?_⟩
      · rw [hp]
        split_ifs <;> exact ⟨_, rfl⟩
      · rw [deliver_store, hc]
        rfl
      · rw [hc]
        rfl
      · rw [hc]
        rfl

/-- **A delete that the actor accepts** begins: its record is the cancelled one, and
it was written if the answer is Ok. -/
theorem exchange_accepted {script : Script} (hm : (m.prepared script).Sane)
    (ht : (m.prepared script).tasks[h]? = some t)
    (hopen : ¬((m.prepared script).session t).Closed) :
    ((m.exchange script h).1 = .ok () →
      (((m.prepared script).store.checkpoint (script.call .prepare).env.fault
        ((m.prepared script).session t).cancelledRecord).1 = .ok ())) ∧
    ∃ t', (m.exchange script h).2.tasks[h]? = some t' ∧
      t'.actor.record = ((m.prepared script).session t).cancelledRecord ∧
      t'.actor.harness.active = none ∧
      (m.exchange script h).2.store =
        ((m.prepared script).store.checkpoint (script.call .prepare).env.fault
          ((m.prepared script).session t).cancelledRecord).2 ∧
      Awaits 2 t t' := by
  obtain ⟨hx, hmutable⟩ : t.exited = none ∧ ((m.prepared script).session t).ensureMutable = .ok () := by
    rw [Session.Closed, not_or, not_not] at hopen
    exact ⟨Option.not_isSome_iff_eq_none.1 hopen.1, hopen.2⟩
  obtain ⟨hspec, hok⟩ := Session.prepareDelete_spec (hm.sessionAgrees ht) hmutable
    (script.call .prepare).env
  have hk := Session.prepareDelete_keeps hmutable (script.call .prepare).env
  rcases exchange_cases ht with ⟨hx', -⟩ | ⟨-, he⟩
  · simp [hx] at hx'
  rw [he]
  refine ⟨fun h => ?_, _, deliver_task ht _ _, hspec.record, hspec.idle, ?_,
    hk.deleting, hk.exited.trans hx, hspec.stream⟩
  · split_ifs at h
    exact hok h
  · rw [deliver_store]
    exact hspec.store

/-- A cancelled record is of the same session. -/
theorem sameSession_cancelledRecord (s : Session) : SameSession s.record s.cancelledRecord := by
  unfold Session.cancelledRecord
  cases s.harness.active with
  | none => exact ⟨rfl, rfl, rfl⟩
  | some run =>
    simp only
    cases hr : applyDurableEvent s.record (.cancelled run.id) with
    | error error => exact ⟨rfl, rfl, rfl⟩
    | ok record => exact sameSession_of_applyDurableEvent hr

theorem sane_prepared (hm : m.Sane) (script : Script) : (m.prepared script).Sane :=
  hm.changes (m.background_changes (p := Await.Finishing) _)

theorem sane_exchange (hm : m.Sane) (script : Script) (h : SessionHandle) :
    (m.exchange script h).2.Sane :=
  hm.changes (m.askUnit_changes (p := fun _ => True) h _ nofun)

/-- The registry and the tasks when `prepare_delete` was answered. -/
theorem follows_exchange (m : SessionManager) (script : Script) (h : SessionHandle) :
    (m.exchange script h).2.actors = m.actors ∧ m.Follows (m.exchange script h).2 :=
  (m.askUnit_changes (p := fun _ => True) h (script.call .prepare) (c := .prepareDelete)
    nofun).follows

theorem follows_prepared (m : SessionManager) (script : Script) :
    (m.prepared script).actors = m.actors ∧ m.Follows (m.prepared script) :=
  (m.background_changes (p := Await.Finishing) (script.call .prepare).early).follows

/-- The registered task when `prepare_delete` reaches it. -/
theorem exists_prepared (hm : m.Sane) (hl : m.actors.lookup id = some h) (script : Script) :
    ∃ t : ActorTask, (m.prepared script).tasks[h]? = some t ∧ t.actor.record.id = id := by
  obtain ⟨t, ht, hid⟩ := hm.handles id h hl
  obtain ⟨t', ht', hf⟩ := (m.follows_prepared script).2.forward ht
  exact ⟨t', ht', hf.same.trans hid⟩

section Live

variable {script : Script}

/-- **An actor that accepts the deletion quits.** -/
theorem quits_of_accepted (hm : m.Sane) (hl : m.actors.lookup id = some h)
    (halone : m.Alone id h) (ht : (m.prepared script).tasks[h]? = some t)
    (hid : t.actor.record.id = id) (hopen : ¬((m.prepared script).session t).Closed) :
    ∃ t', (m.exchange script h).2.Quits id h ((m.prepared script).session t).cancelledRecord t' ∧
      (m.Saves script id h → (m.exchange script h).2.RowIs id t') ∧ Awaits 2 t t' := by
  obtain ⟨-, t', ht', hrecord, hidle, hstore, hawaits⟩ :=
    exchange_accepted (sane_prepared hm script) ht hopen
  obtain ⟨hactors, hfollows⟩ := m.follows_exchange script h
  have hsame := sameSession_cancelledRecord ((m.prepared script).session t)
  have hid' : ((m.prepared script).session t).cancelledRecord.id = id := hsame.id.trans hid
  refine ⟨t', ⟨by rw [hactors, hl], ht', by rw [hrecord, hid'],
    ⟨_, by rw [hrecord]⟩, hidle, .inr ?_, halone.follows hfollows⟩, fun hsaves row' hl' => ?_,
    hawaits⟩
  · intro hmutable
    have hd := (Session.ensureMutable_eq_ok_iff.1 hmutable).1
    exact absurd (hawaits.deleting.symm.trans hd) (by simp)
  · rw [hstore] at hl'
    rw [hrecord]
    have ho := (sane_prepared hm script).task ht
    refine SessionStore.lookup_of_checkpoint (fun row hrow => ?_) (fun row hrow => ?_)
      (by rw [hid']; exact hl')
    · have hrow' := ho.same row (by rw [hid, ← hid']; exact hrow)
      exact ⟨hrow'.id.trans hsame.id.symm, hrow'.cwd.trans hsame.cwd.symm,
        hrow'.createdAt.trans hsame.createdAt.symm⟩
    · exact (hsaves t row ht (by rw [← hid']; exact hrow)).2 hopen

/-- **An idle actor that refuses the deletion quits,** and its row is its record. -/
theorem quits_of_refused (hl : m.actors.lookup id = some h)
    (halone : m.Alone id h) (ht : (m.prepared script).tasks[h]? = some t)
    (hid : t.actor.record.id = id) (hclosed : ((m.prepared script).session t).Closed)
    (hidle : t.actor.harness.active = none) :
    ∃ t', (m.exchange script h).2.Quits id h t.actor.record t' ∧
      ((m.prepared script).RowIs id t → (m.exchange script h).2.RowIs id t') := by
  obtain ⟨-, hstore, t', ht', hactor, hexited⟩ := exchange_refused ht hclosed
  obtain ⟨hactors, hfollows⟩ := m.follows_exchange script h
  refine ⟨t', ⟨by rw [hactors, hl], ht', by rw [hactor, hid], ⟨t.actor.record.plan, by rw [hactor]⟩,
    by rw [hactor, hidle], ?_, halone.follows hfollows⟩, fun hrow row hlook => ?_⟩
  · rcases hclosed with hx | hm'
    · exact .inl (by rw [← hx]; exact congrArg Option.isSome hexited)
    · refine .inr fun hok => hm' (Session.ensureMutable_eq_ok_iff.2 ?_)
      have hflags := Session.ensureMutable_eq_ok_iff.1 hok
      have hd : t'.actor.deleting = false := hflags.1
      have hs : t'.actor.shuttingDown = false := hflags.2
      rw [hactor] at hd hs
      exact ⟨hd, hs⟩
  · rw [hstore] at hlook
    rw [hactor]
    exact hrow row hlook

/-! ### The abort -/

/-- What the abort leaves of the actor's record and of the row. -/
theorem abort_spec (ht : m.tasks[h]? = some t) (w : Await) :
    ∃ t', (m.receive h w .abortDelete).2.tasks[h]? = some t' ∧
      t'.actor.record = t.actor.record ∧ t'.actor.harness = t.actor.harness ∧
        (m.receive h w .abortDelete).2.store = m.store := by
  rcases m.receive_cases h w .abortDelete with ⟨hr, -⟩ | ⟨t₁, ht₁, -, hr⟩
  · rw [hr]
    exact ⟨t, ht, rfl, rfl, rfl⟩
  · obtain rfl := Option.some.inj (ht.symm.trans ht₁)
    rw [hr]
    have hkept : ((m.session t).handleCommand w.env .abortDelete).2.record = t.actor.record ∧
        ((m.session t).handleCommand w.env .abortDelete).2.harness = t.actor.harness ∧
          ((m.session t).handleCommand w.env .abortDelete).2.store = m.store := by
      cases hd : (m.session t).deleting with
      | true =>
        rw [Session.handleCommand_abortDelete hd]
        exact ⟨rfl, rfl, rfl⟩
      | false =>
        obtain ⟨error, he⟩ := Session.handleCommand_of_not_deleting hd w.env
          (.inr (rfl : SessionCommand.abortDelete = .abortDelete))
        rw [he]
        exact ⟨rfl, rfl, rfl⟩
    refine ⟨_, deliver_task ht w _, hkept.1, hkept.2.1, ?_⟩
    rw [deliver_store]
    exact hkept.2.2

/-- **After an abort the row is the actor's record,** if it was before and plan
updates were saved. -/
theorem Quits.aborted (hm : m.Sane) (hq : m.Quits id h record t) (hrow : m.RowIs id t)
    (hguard : Run.Guarded SessionManager.background (PlanSaved h) m (script.call .abort).early) :
    ∃ t', (m.abortDeleteActor script id h).tasks[h]? = some t' ∧
      (m.abortDeleteActor script id h).RowIs id t' ∧
        (∃ plan, t'.actor.record = { record with plan := plan }) ∧
          t'.actor.harness.active = none := by
  obtain ⟨t₁, hq₁, hrow₁, -⟩ := hq.backgrounds hm (script.call .abort).early
  obtain ⟨t₂, ht₂, hrecord, hharness, hstore⟩ := abort_spec hq₁.task (script.call .abort)
  have hsnd := m.askOutcome_snd h (script.call .abort) .abortDelete
  have hsend : (m.send h (script.call .abort) .abortDelete).2 =
      ((Run.run SessionManager.background m (script.call .abort).early).receive h
        (script.call .abort) .abortDelete).2 := rfl
  have htasks : (m.abortDeleteActor script id h).tasks =
      (m.askOutcome h (script.call .abort) .abortDelete).2.tasks := rfl
  have hstore' : (m.abortDeleteActor script id h).store =
      (m.askOutcome h (script.call .abort) .abortDelete).2.store := rfl
  rw [hsnd, hsend] at htasks hstore'
  refine ⟨t₂, by rw [htasks, ht₂], fun row hl => ?_, by rw [hrecord]; exact hq₁.record,
    by rw [hharness, hq₁.idle]⟩
  rw [hstore', hstore] at hl
  rw [hrecord]
  exact hrow₁ hguard hrow row hl

/-- **What an abort leaves is durable:** the latest record is the row, its turns are
over, and its transcript is that of the record the actor quit with. -/
theorem Quits.durable (hm : m.Sane) (hq : m.Quits id h record t) (hrow : m.RowIs id t)
    (hguard : Run.Guarded SessionManager.background (PlanSaved h) m (script.call .abort).early)
    {t' : ActorTask} (ht' : (m.abortDeleteActor script id h).tasks[h]? = some t')
    {row : SessionRecord}
    (hl : (m.abortDeleteActor script id h).store.rows.lookup id = some row) :
    row = t'.actor.record ∧ (∀ turn ∈ row.turns, turn.status ≠ .running) ∧
      row.transcript = record.transcript := by
  obtain ⟨t₁, ht₁, hrow₁, ⟨plan, hrecord⟩, hidle⟩ := hq.aborted hm hrow hguard
  obtain rfl := Option.some.inj (ht₁.symm.trans ht')
  have hm' := sane_abortDeleteActor hm script id h
  have hr := hrow₁ row hl
  refine ⟨hr, ?_, ?_⟩
  · rw [hr]
    exact ((hm'.task ht').agrees.turns_of_idle hidle).2
  · rw [hr, hrecord]

/-! ### The steps of a delete -/

/-- The row of a session is removed. -/
def withoutRow (m : SessionManager) (id : SessionId) : SessionManager :=
  { m with store := { m.store with rows := m.store.rows.erase id } }

/-- **How a delete of a session with a live actor ends:** the actor does not
prepare, the row is not removed, or the actor is told that it was. -/
theorem deleteLive_cases (m : SessionManager) (script : Script) (id : SessionId)
    (h : SessionHandle) :
    let e := m.exchange script h
    let m₁ := Run.run SessionManager.background e.2 (script.call .delete).early
    (∃ error, e.1 = .error error ∧ m.deleteLive script id h =
      (.error (.session error), e.2.abortDeleteActor script id h)) ∨
    (e.1 = .ok () ∧ ∃ error,
      (e.2.call (script.call .delete) fun fault store => store.delete fault id).1 = .error error ∧
        m.deleteLive script id h = (.error (.store error), m₁.abortDeleteActor script id h)) ∨
    e.1 = .ok () ∧
      ((m.deleteLive script id h).1 = .ok () →
        ((m₁.withoutRow id).askOutcome h (script.call .finish) .finishDelete).1 = .ok .deleted) ∧
      (m.deleteLive script id h).2.actors =
        ((m₁.withoutRow id).send h (script.call .finish) .finishDelete).2.actors.erase id ∧
      (m.deleteLive script id h).2.store =
        ((m₁.withoutRow id).send h (script.call .finish) .finishDelete).2.store ∧
      (m.deleteLive script id h).2.tasks =
        ((m₁.withoutRow id).send h (script.call .finish) .finishDelete).2.tasks := by
  intro e m₁
  have he : m.askUnit h (script.call .prepare) .prepareDelete = e := rfl
  unfold deleteLive
  rw [he]
  have hm₁ : Run.run SessionManager.background e.2 (script.call .delete).early = m₁ := rfl
  clear_value m₁
  clear_value e
  obtain ⟨error | _, m₀⟩ := e
  · exact .inl ⟨error, rfl, rfl⟩
  right
  simp only at hm₁ ⊢
  rcases m₀.call_delete_cases (script.call .delete) id with ⟨error, hd⟩ | hd
  · rw [hd, hm₁]
    exact .inl ⟨trivial, error, rfl, rfl⟩
  · rw [hd, hm₁]
    right
    have hw : { m₁ with store := { m₁.store with rows := m₁.store.rows.erase id } } =
      m₁.withoutRow id := rfl
    simp only [hw]
    have hsnd := (m₁.withoutRow id).askOutcome_snd h (script.call .finish) .finishDelete
    generalize (m₁.withoutRow id).askOutcome h (script.call .finish) .finishDelete = f at hsnd
    obtain ⟨outcome, m₂⟩ := f
    simp only at hsnd
    subst hsnd
    refine ⟨trivial, ?_, ?_, ?_, ?_⟩
    · rcases outcome with error | _ | _ <;> simp
    all_goals rcases outcome with error | _ | _ <;> rfl

theorem lookup_none_exchange (hm : m.Sane)
    (hl : (m.prepared script).store.rows.lookup id = none) :
    (m.exchange script h).2.store.rows.lookup id = none := by
  rw [exchange, askUnit_snd]
  exact lookup_none_receive (sane_prepared hm script) hl _ _

theorem lookup_none_abort (hm : m.Sane) (hl : m.store.rows.lookup id = none) :
    (m.abortDeleteActor script id h).store.rows.lookup id = none := by
  have hs : (m.abortDeleteActor script id h).store =
      (m.askOutcome h (script.call .abort) .abortDelete).2.store := rfl
  rw [hs, askOutcome_snd]
  exact lookup_none_send hm hl _ _

/-- A row that is removed stays away. -/
theorem lookup_none_finish (hm : m.Sane) (w : Await) (c : SessionCommand) :
    ((m.withoutRow id).send h w c).2.store.rows.lookup id = none :=
  lookup_none_send (hm.change (Change.deleted (p := Await.Finishing) id)) (by simp) w c

/-! ### A delete that fails -/

/-- **A delete that fails keeps the session,** if it is fit. -/
theorem FitLive.failed (hm : m.Sane) (hl : m.actors.lookup id = some h)
    (hfit : m.FitLive script id h) (ht : (m.prepared script).tasks[h]? = some t)
    {t' : ActorTask} (ht' : (m.deleteLive script id h).2.tasks[h]? = some t')
    {row : SessionRecord} (hrow : (m.deleteLive script id h).2.store.rows.lookup id = some row) :
    row = t'.actor.record ∧ (∀ turn ∈ row.turns, turn.status ≠ .running) ∧
      ∀ run, t.actor.harness.active = some run → .cancelled run.id ∈ row.transcript := by
  have hm₁ := sane_prepared hm script
  have hm₂ := sane_exchange hm script h
  have hm₃ := hm₂.changes (background_changes (p := Await.Finishing) _ (script.call .delete).early)
  obtain ⟨t₀, ht₀, hid⟩ := exists_prepared hm hl script
  obtain rfl := Option.some.inj (ht₀.symm.trans ht)
  cases hrow₁ : (m.prepared script).store.rows.lookup id with
  | none =>
    -- there is nothing to be kept
    have hnone := lookup_none_exchange (h := h) hm hrow₁
    rcases m.deleteLive_cases script id h with ⟨_, -, hd⟩ | ⟨-, _, -, hd⟩ | ⟨-, -, -, hstore, -⟩
    · rw [hd, lookup_none_abort hm₂ hnone] at hrow
      simp at hrow
    · rw [hd, lookup_none_abort hm₃ (lookup_none_backgrounds hm₂ hnone _)] at hrow
      simp at hrow
    · rw [hstore, lookup_none_finish hm₃] at hrow
      simp at hrow
  | some row₁ =>
    obtain ⟨hrefused, haccepted⟩ := hfit.saves t₀ row₁ ht hrow₁
    by_cases hclosed : ((m.prepared script).session t₀).Closed
    · obtain ⟨hidle, hr⟩ := hrefused hclosed
      obtain ⟨⟨e, he⟩, -⟩ := exchange_refused ht hclosed
      obtain ⟨t₂, hq, hrowIs⟩ := quits_of_refused hl hfit.alone ht hid hclosed hidle
      have hrow₂ := hrowIs fun row' hl' => by
        obtain rfl := Option.some.inj (hrow₁.symm.trans hl')
        exact hr
      rcases m.deleteLive_cases script id h with ⟨e', he', hd⟩ | ⟨hok, -⟩ | ⟨hok, -⟩
      · rw [hd] at ht' hrow
        obtain ⟨hrecord, hturns, -⟩ := hq.durable hm₂ hrow₂ (hfit.aborted e' he') ht' hrow
        exact ⟨hrecord, hturns, fun run hrun => absurd (hidle.symm.trans hrun) (by simp)⟩
      · exact absurd (he.symm.trans hok) (by simp)
      · exact absurd (he.symm.trans hok) (by simp)
    · obtain ⟨t₂, hq, hrowIs, -⟩ := quits_of_accepted hm hl hfit.alone ht hid hclosed
      have hrow₂ := hrowIs hfit.saves
      have hcancelled {row' : SessionRecord}
          (h' : row'.transcript = ((m.prepared script).session t₀).cancelledRecord.transcript) :
          ∀ run, t₀.actor.harness.active = some run → .cancelled run.id ∈ row'.transcript := by
        intro run hrun
        rw [h']
        exact Session.mem_cancelledRecord (hm₁.sessionAgrees ht) hrun
      rcases m.deleteLive_cases script id h with
        ⟨e', he', hd⟩ | ⟨hok, e', he', hd⟩ | ⟨-, -, -, hstore, -⟩
      · rw [hd] at ht' hrow
        obtain ⟨hrecord, hturns, htranscript⟩ :=
          hq.durable hm₂ hrow₂ (hfit.aborted e' he') ht' hrow
        exact ⟨hrecord, hturns, hcancelled htranscript⟩
      · rw [hd] at ht' hrow
        obtain ⟨hguard, hguard'⟩ := Run.guarded_append.1 (hfit.deleted hok e' he')
        obtain ⟨t₃, hq₃, hrow₃, -⟩ := hq.backgrounds hm₂ (script.call .delete).early
        obtain ⟨hrecord, hturns, htranscript⟩ :=
          hq₃.durable hm₃ (hrow₃ hguard hrow₂) hguard' ht' hrow
        exact ⟨hrecord, hturns, hcancelled htranscript⟩
      · rw [hstore, lookup_none_finish hm₃] at hrow
        simp at hrow

/-! ### A delete that succeeds -/

/-- **A delete that succeeds leaves no row and no actor.** -/
theorem deleteLive_removed (hm : m.Sane) (hok : (m.deleteLive script id h).1 = .ok ()) :
    (m.deleteLive script id h).2.store.rows.lookup id = none ∧
      (m.deleteLive script id h).2.actors.lookup id = none := by
  have hm₃ := (sane_exchange hm script h).changes
    (background_changes (p := Await.Finishing) _ (script.call .delete).early)
  rcases m.deleteLive_cases script id h with ⟨_, -, hd⟩ | ⟨-, _, -, hd⟩ | ⟨-, -, hactors, hstore, -⟩
  · rw [hd] at hok
    simp at hok
  · rw [hd] at hok
    simp at hok
  · rw [hstore, hactors]
    exact ⟨lookup_none_finish hm₃ _ _, by simp⟩

/-- The end of a deletion that the actor is told of. -/
theorem informed_of_finish (hm : m.Sane) (hq : m.Quits id h record t) (hd : t.actor.deleting = true)
    (hx : t.exited = none) (hu : t.actor.stream.Undeleted)
    (hroom : t.actor.stream.projection.sequence < u64Max) (w : Await) :
    ∃ t', (m.receive h w .finishDelete).2.tasks[h]? = some t' ∧ t'.exited.isSome = true ∧
      (∀ o ∈ t.actor.stream.observers,
        t'.actor.stream.Left o.key ∨ t'.actor.stream.Informed id o.key) ∧
      ∀ key, t.actor.stream.Left key → t'.actor.stream.Left key := by
  rcases m.receive_cases h w .finishDelete with ⟨-, hexited⟩ | ⟨t₁, ht₁, -, hr⟩
  · exact absurd (hexited t hq.task) (by simp [hx])
  · obtain rfl := Option.some.inj (hq.task.symm.trans ht₁)
    rw [hr]
    have hinformed := Session.informed_of_finishDelete (s := m.session t) (hm.task hq.task).gapless hu
      hd hroom w.env
    rw [show (m.session t).record.id = id from hq.session] at hinformed
    refine ⟨_, deliver_task hq.task w _, ?_, hinformed⟩
    have hd' : (m.session t).deleting = true := hd
    rw [Session.handleCommand, Session.finishDelete_of_deleting hd']
    rfl

/-- **A delete that succeeds ends the actor and informs every observer** that was
registered when the deletion began and did not leave for a reason of its own. -/
theorem FitLive.informed (hm : m.Sane) (hl : m.actors.lookup id = some h)
    (hfit : m.FitLive script id h) (ht : (m.prepared script).tasks[h]? = some t)
    (hok : (m.deleteLive script id h).1 = .ok ()) :
    ∃ t', (m.deleteLive script id h).2.tasks[h]? = some t' ∧ t'.exited.isSome = true ∧
      ∀ o ∈ t.actor.stream.observers,
        t'.actor.stream.Left o.key ∨ t'.actor.stream.Informed id o.key := by
  have hm₁ := sane_prepared hm script
  have hm₂ := sane_exchange hm script h
  obtain ⟨t₀, ht₀, hid⟩ := exists_prepared hm hl script
  obtain rfl := Option.some.inj (ht₀.symm.trans ht)
  rcases m.deleteLive_cases script id h with ⟨_, -, hd⟩ | ⟨-, _, -, hd⟩ | ⟨he, -, -, -, htasks⟩
  · rw [hd] at hok
    simp at hok
  · rw [hd] at hok
    simp at hok
  have hopen : ¬((m.prepared script).session t₀).Closed := fun hclosed => by
    obtain ⟨⟨e, he'⟩, -⟩ := exchange_refused ht hclosed
    exact absurd (he.symm.trans he') (by simp)
  have hmutable : ((m.prepared script).session t₀).ensureMutable = .ok () := by
    rw [Session.Closed, not_or, not_not] at hopen
    exact hopen.2
  have hundeleted := (hm₁.task ht).undeleted (Session.ensureMutable_eq_ok_iff.1 hmutable).1
  obtain ⟨t₂, hq₂, -, ha₂⟩ := quits_of_accepted hm hl hfit.alone ht hid hopen
  obtain ⟨t₃, hq₃, -, ha⟩ := hq₂.backgrounds hm₂ (script.call .delete).early
  have ha₃ := ha ha₂.deleting ha₂.exited
  have hm₃ := hm₂.changes (background_changes (p := Await.Finishing) _ (script.call .delete).early)
  generalize Run.run SessionManager.background (m.exchange script h).2
    (script.call .delete).early = m₃ at hq₃ hm₃ htasks
  have hm₄ : (m₃.withoutRow id).Sane := hm₃.change (Change.deleted (p := Await.Finishing) id)
  have hq₄ : (m₃.withoutRow id).Quits id h ((m.prepared script).session t₀).cancelledRecord t₃ :=
    ⟨hq₃.registered, hq₃.task, hq₃.session, hq₃.record, hq₃.idle, hq₃.closed, hq₃.alone⟩
  obtain ⟨t₅, hq₅, -, ha'⟩ := hq₄.backgrounds hm₄ (script.call .finish).early
  have ha₅ := ha' ha₃.deleting ha₃.exited
  have hm₅ := hm₄.changes (background_changes (p := Await.Finishing) _ (script.call .finish).early)
  have hroom := hfit.room t₀ ht
  obtain ⟨htracks, hsequence⟩ := ((ha₂.stream.trans ha₃.stream).trans ha₅.stream) (by omega)
  obtain ⟨t₆, ht₆, hended, hobservers, hleft⟩ := informed_of_finish hm₅ hq₅ ha₅.deleting ha₅.exited
    (htracks.undeleted hundeleted) (by omega) (script.call .finish)
  refine ⟨t₆, by rw [htasks]; exact ht₆, hended, fun o ho => ?_⟩
  rcases htracks.observers o ho with ⟨o', ho', hkey⟩ | hgone
  · rw [← hkey]
    exact hobservers o' ho'
  · exact .inl (hleft _ hgone)

end Live

/-! ### Every delete -/

/-- **A delete that is fit keeps the session or removes it.** -/
theorem Fit.deletes (hm : m.Sane) {script : Script} (hfit : m.Fit script id) :
    m.Deletes script id := by
  cases hl : m.actors.lookup id with
  | some h =>
    have hd : m.delete script id = m.deleteLive script id h := by rw [delete, hl]
    refine ⟨fun _ h' t t' row _ hl' ht ht' hrow => .inl ?_, fun hok => ?_, fun hok h' hl' => ?_,
      fun hok h' t hl' ht o ho => ?_⟩
    · obtain rfl := Option.some.inj (hl.symm.trans hl')
      rw [hd] at ht' hrow
      exact (hfit h hl).failed hm hl ht ht' hrow
    · rw [hd] at hok ⊢
      exact deleteLive_removed hm hok
    · obtain rfl := Option.some.inj (hl.symm.trans hl')
      rw [hd] at hok ⊢
      obtain ⟨t, ht, -⟩ := exists_prepared hm hl script
      obtain ⟨t', ht', hended, -⟩ := (hfit h hl).informed hm hl ht hok
      exact ⟨t', ht', hended⟩
    · obtain rfl := Option.some.inj (hl.symm.trans hl')
      rw [hd] at hok ⊢
      obtain ⟨t', ht', -, hinformed⟩ := (hfit h hl).informed hm hl ht hok
      exact ⟨t', ht', hinformed o ho⟩
  | none =>
    refine ⟨fun _ h' _ _ _ _ hl' => absurd (hl.symm.trans hl') (by simp), fun hok => ?_,
      fun _ h' hl' => absurd (hl.symm.trans hl') (by simp),
      fun _ h' _ hl' => absurd (hl.symm.trans hl') (by simp)⟩
    rw [delete, hl] at hok ⊢
    simp only at hok ⊢
    rcases m.call_delete_cases (script.call .delete) id with ⟨error, hd⟩ | hd
    · rw [hd] at hok
      simp at hok
    · rw [hd]
      refine ⟨by simp, ?_⟩
      have hactors :=
        (m.background_changes (p := Await.Finishing) (script.call .delete).early).follows.1
      simp only [hactors]
      exact hl

/-- Nothing happens on its own between the steps of a delete. -/
def Uninterrupted (script : Script) : Prop :=
  (script.call .delete).early = [] ∧ (script.call .abort).early = [] ∧
    (script.call .finish).early = []

/-- An abort that nothing interrupts leaves the record, the harness and the row. -/
theorem abort_uninterrupted (id : SessionId) {script : Script} (hquiet : Uninterrupted script)
    (ht : m.tasks[h]? = some t) :
    (m.abortDeleteActor script id h).store = m.store ∧
      ∃ t' : ActorTask, (m.abortDeleteActor script id h).tasks[h]? = some t' ∧
        t'.actor.record = t.actor.record := by
  have hsnd := m.askOutcome_snd h (script.call .abort) .abortDelete
  have hsend : (m.send h (script.call .abort) .abortDelete).2 =
      (m.receive h (script.call .abort) .abortDelete).2 := by rw [send, hquiet.2.1, Run.run_nil]
  have htasks : (m.abortDeleteActor script id h).tasks =
      (m.askOutcome h (script.call .abort) .abortDelete).2.tasks := rfl
  have hstore : (m.abortDeleteActor script id h).store =
      (m.askOutcome h (script.call .abort) .abortDelete).2.store := rfl
  rw [hsnd, hsend] at htasks hstore
  obtain ⟨t', ht', hrecord, -, hkept⟩ := abort_spec ht (script.call .abort)
  exact ⟨hstore.trans hkept, t', by rw [htasks, ht'], hrecord⟩

/-- **Without interruption a delete keeps the session only if its record is saved**
when the deletion begins. -/
theorem Deletes.saves (hm : m.Sane) {script : Script} (hquiet : Uninterrupted script)
    (hd : m.Deletes script id) (hl : m.actors.lookup id = some h) : m.Saves script id h := by
  intro t row ht hrow s
  have hm₁ := sane_prepared hm script
  obtain ⟨t₀, ht₀, hid⟩ := exists_prepared hm hl script
  obtain rfl := Option.some.inj (ht₀.symm.trans ht)
  have hdelete : m.delete script id = m.deleteLive script id h := by rw [delete, hl]
  -- an exchange that fails is followed by the abort
  have haborted : ∀ error, (m.exchange script h).1 = .error error → ∀ t₂ : ActorTask,
      (m.exchange script h).2.tasks[h]? = some t₂ →
      (m.exchange script h).2.store.rows.lookup id = some row →
        row = t₂.actor.record ∧ ∀ turn ∈ row.turns, turn.status ≠ .running := by
    intro error he t₂ ht₂ hrow₂
    obtain ⟨hstore, t₃, ht₃, hrecord⟩ := abort_uninterrupted id hquiet ht₂
    rcases m.deleteLive_cases script id h with ⟨e', he', hlive⟩ | ⟨hok, -⟩ | ⟨hok, -⟩
    · rw [← hdelete] at hlive
      have hkept := hd.failed (.session e') h t₀ t₃ row (by rw [hlive]) hl ht (by rw [hlive, ht₃])
        (by rw [hlive, hstore, hrow₂])
      rw [hlive] at hkept
      rcases hkept with ⟨hr, hturns, -⟩ | ⟨hregistered, -⟩
      · exact ⟨hr.trans hrecord, hturns⟩
      · simp [abortDeleteActor] at hregistered
    · exact absurd (he.symm.trans hok) (by simp)
    · exact absurd (he.symm.trans hok) (by simp)
  refine ⟨fun hclosed => ?_, fun hopen => ?_⟩
  · obtain ⟨⟨e, he⟩, hstore, t₂, ht₂, hactor, -⟩ := exchange_refused ht hclosed
    obtain ⟨hr, hturns⟩ := haborted e he t₂ ht₂ (by rw [hstore, hrow])
    rw [hactor] at hr
    refine ⟨?_, hr⟩
    cases hactive : s.harness.active with
    | none => rfl
    | some run =>
      obtain ⟨turns, turn, _, htr, -, -, hstatus, -⟩ :=
        (hm₁.sessionAgrees ht).turns_of_active hactive
      have hmem : turn ∈ row.turns := by
        have hturns' : row.turns = turns ++ [turn] := by rw [hr]; exact htr
        rw [hturns']
        simp
      exact absurd hstatus (hturns turn hmem)
  · obtain ⟨hok, t₂, ht₂, hrecord, -, hstore, -⟩ := exchange_accepted hm₁ ht hopen
    rcases (m.prepared script).store.checkpoint_cases (script.call .prepare).env.fault
      s.cancelledRecord with ⟨error, hc⟩ | ⟨_, -, hc⟩
    · have hfails : ∃ e, (m.exchange script h).1 = .error e := by
        cases he : (m.exchange script h).1 with
        | error e => exact ⟨e, rfl⟩
        | ok u => exact absurd ((congrArg Prod.fst hc).symm.trans (hok he)) (by simp)
      obtain ⟨e, he⟩ := hfails
      have hkept := haborted e he t₂ ht₂ (by rw [hstore, hc]; exact hrow)
      exact .inl (hkept.1.trans hrecord)
    · exact .inr (congrArg Prod.fst hc)

/-- **A delete keeps the session or removes it,** in every reachable world, if it is
fit; and without interruption the session is kept only if its record is saved when
the deletion begins. -/
theorem deletes_of_run {store : SessionStore} (hs : store.InOrder) (inputs : List Input)
    (script : Script) (id : SessionId) :
    ((Run.run step (new store .new) inputs).Fit script id →
      (Run.run step (new store .new) inputs).Deletes script id) ∧
    (Uninterrupted script → (Run.run step (new store .new) inputs).Deletes script id →
      ∀ h, (Run.run step (new store .new) inputs).actors.lookup id = some h →
        (Run.run step (new store .new) inputs).Saves script id h) :=
  ⟨fun hfit => hfit.deletes (sane_of_run hs inputs),
    fun hquiet hd _ hl => hd.saves (sane_of_run hs inputs) hquiet hl⟩

/-- A session that was opened, and whose run is active. -/
def openedRun : List Input :=
  [.command quietScript (.open (.id ⟨1⟩) [] ⟨1⟩ ⟨1⟩),
    .background (.input 0 Session.quietEnv (.command (.submit "hello")))]

/-- A delete of it in which nothing fails is fit. -/
theorem fit_openedRun : (Run.run step (new oneSession .new) openedRun).Fit quietScript ⟨1⟩ := by
  intro h hl
  have hzero : (Run.run step (new oneSession .new) openedRun).actors.lookup ⟨1⟩ = some 0 := rfl
  obtain rfl := Option.some.inj (hzero.symm.trans hl)
  obtain ⟨t₀, ht₀, hx, hmutable, hsaved, hroom⟩ :
      ∃ t₀ : ActorTask, ((Run.run step (new oneSession .new) openedRun).prepared
        quietScript).tasks[0]? = some t₀ ∧
      (((Run.run step (new oneSession .new) openedRun).prepared
        quietScript).session t₀).exited = none ∧
      (((Run.run step (new oneSession .new) openedRun).prepared
        quietScript).session t₀).ensureMutable = .ok () ∧
      (((Run.run step (new oneSession .new) openedRun).prepared quietScript).store.checkpoint none
        (((Run.run step (new oneSession .new) openedRun).prepared
          quietScript).session t₀).cancelledRecord).1 = .ok () ∧
      t₀.actor.stream.projection.sequence + 3 ≤ u64Max := ⟨_, rfl, rfl, rfl, rfl, by decide⟩
  refine ⟨fun t row ht hrow => ⟨fun hclosed => ?_, fun _ => .inr ?_⟩, fun i t ht hid hi => ?_,
    fun _ _ => trivial, fun _ _ _ => trivial, fun t ht => ?_⟩
  · obtain rfl := Option.some.inj (ht₀.symm.trans ht)
    rcases hclosed with hx' | hm
    · simp [hx] at hx'
    · exact absurd hmutable hm
  · obtain rfl := Option.some.inj (ht₀.symm.trans ht)
    exact hsaved
  · have hlength : (Run.run step (new oneSession .new) openedRun).tasks.length = 1 := rfl
    have hlt := (List.getElem?_eq_some_iff.1 ht).1
    rw [hlength] at hlt
    exact absurd (Nat.lt_one_iff.1 hlt) hi
  · obtain rfl := Option.some.inj (ht₀.symm.trans ht)
    exact hroom

/-- `deletes_of_run` on that delete. -/
theorem deletes_of_run_openedRun :
    (Run.run step (new oneSession .new) openedRun).Deletes quietScript ⟨1⟩ ∧
      ∀ h, (Run.run step (new oneSession .new) openedRun).actors.lookup ⟨1⟩ = some h →
        (Run.run step (new oneSession .new) openedRun).Saves quietScript ⟨1⟩ h := by
  have hd := (deletes_of_run inOrder_oneSession openedRun quietScript ⟨1⟩).1 fit_openedRun
  exact ⟨hd, (deletes_of_run inOrder_oneSession openedRun quietScript ⟨1⟩).2 ⟨rfl, rfl, rfl⟩ hd⟩

/-- A delete whose first checkpoint fails. -/
def unsavedDelete : Script :=
  { quietScript with
    call := fun
      | .prepare => brokenAwait
      | _ => quietAwait }

/-- **A delete whose checkpoint fails forgets the actor and its record:** the row
still says that the run is active. -/
theorem running_after_failed_delete :
    ¬(Run.run step (new oneSession .new) openedRun).Deletes unsavedDelete ⟨1⟩ := by
  intro hd
  obtain ⟨t, ht⟩ : ∃ t, ((Run.run step (new oneSession .new) openedRun).prepared
      unsavedDelete).tasks[0]? = some t := ⟨_, rfl⟩
  obtain ⟨t', ht'⟩ : ∃ t', ((Run.run step (new oneSession .new) openedRun).delete unsavedDelete
      ⟨1⟩).2.tasks[0]? = some t' := ⟨_, rfl⟩
  obtain ⟨row, hrow, hrunning⟩ : ∃ row, ((Run.run step (new oneSession .new) openedRun).delete
      unsavedDelete ⟨1⟩).2.store.rows.lookup ⟨1⟩ = some row ∧
        ∃ turn ∈ row.turns, turn.status = .running :=
    ⟨_, rfl, _, List.mem_singleton.2 rfl, rfl⟩
  obtain ⟨turn, hturn, hstatus⟩ := hrunning
  rcases hd.failed _ 0 t t' row rfl rfl ht ht' hrow with ⟨-, hturns, -⟩ | ⟨hregistered, -⟩
  · exact hturns turn hturn hstatus
  · exact absurd hregistered (by decide)

end SessionManager

end Moh
