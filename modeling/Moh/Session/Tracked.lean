/-
# Runs that the activity tracker knows

While no `Shutdown` reaches the manager, every active run of an actor whose loop goes
on is registered with the activity tracker, and no command touches the connections of
the tracker (`Tracked.handleCommand`, `continues_handleCommand`).  The run of a
session is taken off by its own actor only: no session has two of them.
-/

import Moh.Session.Books
import Moh.Session.Registry

namespace Moh
namespace SessionManager

variable {m m' : SessionManager} {p q : Await → Prop}

/-! ### Changes of the world -/

theorem Change.mono (hpq : ∀ w, p w → q w) (h : Change p m m') : Change q m m' := by
  cases h with
  | background b => exact .background b
  | delivered ht he hc => exact .delivered ht he fun hs => hpq _ (hc hs)
  | shared h => exact .shared h
  | wrote hf => exact .wrote hf
  | inserted request => exact .inserted request
  | deleted id => exact .deleted id
  | booked titleTasks stopped ha hc => exact .booked titleTasks stopped ha hc

/-- **Every change leaves the connections alone** and advances the generation by what
else it changes. -/
theorem Change.continues (h : Change p m m') : m.activity.Continues m'.activity := by
  cases h with
  | background b =>
    cases b with
    | finished h => exact .refl _
    | input h env input =>
      rcases m.background_input_cases h env input with he | ⟨t, -, -, he⟩
      · rw [he]
        exact .refl _
      · rw [he]
        exact (Session.books_step (m.session t) (env, input)).continues
  | @delivered h t w c ht he hc =>
    have hb := Session.books_handleCommand (m.session t) w.env c
    unfold deliver
    simp only
    split_ifs <;> exact hb.continues
  | shared h => exact .refl _
  | wrote hf => exact .refl _
  | inserted request => exact .refl _
  | deleted id => exact .refl _
  | booked titleTasks stopped ha hc => exact hc

theorem Changes.continues (h : Changes p m m') : m.activity.Continues m'.activity := by
  induction h with
  | refl => exact .refl _
  | tail _ hc ih => exact ih.trans hc.continues

theorem Start.continues (h : Start m m') : m.activity.Continues m'.activity := by
  cases h with
  | loaded hl hrow hturns => exact ActivityTracker.continues_setRunningJobs ..
  | materialized hs =>
    obtain ⟨runId, h, -, -, -, rfl⟩ := Session.spawnMaterialized_eq_ok hs
    exact (ActivityTracker.continues_setRun ..).trans (ActivityTracker.continues_setRunningJobs ..)

theorem Begins.continues (h : Begins p m m') : m.activity.Continues m'.activity := by
  cases h with
  | none hc => exact hc.continues
  | one hc hs hc' => exact (hc.continues.trans hs.continues).trans hc'.continues

/-- **Active runs are registered,** and no actor is shutting down. -/
structure Tracked (m : SessionManager) : Prop where
  sane : m.Sane
  exclusive : m.Exclusive
  steady : ∀ (h : SessionHandle) (t : ActorTask), m.tasks[h]? = some t →
    t.actor.shuttingDown = false
  covered : ∀ (h : SessionHandle) (t : ActorTask), m.tasks[h]? = some t → (m.session t).Covered

/-- A task whose loop goes on is not over. -/
theorem Tracked.live (hm : m.Tracked) {h : SessionHandle} {t : ActorTask}
    (ht : m.tasks[h]? = some t) (hx : t.exited = none) : t.finished = false := by
  by_contra hf
  have he := (hm.sane.task ht).exited (by simpa using hf)
  simp [hx] at he

/-- **A handler of one actor keeps the runs of all registered.** -/
theorem Tracked.covered_putBack (hm : m.Tracked) {h : SessionHandle} {t : ActorTask} {s : Session}
    (ht : m.tasks[h]? = some t) (hb : (m.session t).Books s) (hs : (m.session t).Spares s)
    (hx : t.exited.isSome = true → s.activity = m.activity) (i : SessionHandle) (t' : ActorTask)
    (ht' : (m.putBack h s).tasks[i]? = some t') : ((m.putBack h s).session t').Covered := by
  obtain ⟨t₁, ht₁, rfl⟩ := getElem?_modify ht'
  split_ifs with hi
  · exact hb.covered (hm.covered h t ht)
  · intro hlive hrun
    have hreg : m.activity.hasRun t₁.actor.record.id := hm.covered i t₁ ht₁ hlive hrun
    by_cases hid : t₁.actor.record.id = t.actor.record.id
    · cases ho : t.exited with
      | some reason =>
        rw [ho] at hx
        change s.activity.hasRun t₁.actor.record.id
        rwa [hx rfl]
      | none =>
        have hsame := hm.exclusive.atMostOne.unique h i t t₁ ht ht₁ (hm.live ht ho)
          (hm.live ht₁ hlive) hid.symm
        exact absurd hsame hi
    · exact (hs.activity _ hid).2 hreg

theorem Tracked.covered_finish {h : SessionHandle}
    (hc : ∀ (i : SessionHandle) (t : ActorTask), m.tasks[i]? = some t → (m.session t).Covered)
    (i : SessionHandle) (t' : ActorTask) (ht' : (m.finish h).tasks[i]? = some t') :
    ((m.finish h).session t').Covered := by
  obtain ⟨t, ht, rfl⟩ := getElem?_modify ht'
  split_ifs <;> exact hc i t ht

/-- A command other than `shutdown` does not begin a shutdown. -/
theorem shuttingDown_handleCommand (s : Session) (env : Env) {c : SessionCommand}
    (hc : c ≠ .shutdown) : (s.handleCommand env c).2.shuttingDown = s.shuttingDown := by
  cases hst : c.steers with
  | false => exact (Session.handleCommand_keeps s env hst).shuttingDown
  | true =>
    cases c with
    | shutdown => exact absurd rfl hc
    | prepareDelete =>
      cases hm : s.ensureMutable with
      | error error =>
        simp only [Session.handleCommand, Session.prepareDelete_of_error hm]
      | ok u => exact (Session.prepareDelete_keeps hm env).shuttingDown
    | finishDelete =>
      cases hd : s.deleting with
      | false =>
        obtain ⟨error, he⟩ := Session.handleCommand_of_not_deleting hd env (.inl rfl)
        rw [he]
      | true =>
        rw [Session.handleCommand_finishDelete hd]
        rfl
    | abortDelete =>
      cases hd : s.deleting with
      | false =>
        obtain ⟨error, he⟩ := Session.handleCommand_of_not_deleting hd env (.inr rfl)
        rw [he]
      | true =>
        rw [Session.handleCommand_abortDelete hd]
        rfl
    | _ => simp [SessionCommand.steers] at hst

theorem Tracked.steady_change (hm : m.Tracked) (hp : ∀ w, ¬p w) (hc : Change p m m')
    (i : SessionHandle) (t' : ActorTask) (ht' : m'.tasks[i]? = some t') :
    t'.actor.shuttingDown = false := by
  cases hc with
  | background b =>
    obtain ⟨t, ht, -, hs, -⟩ := flags_of_background b ht'
    rw [hs]
    exact hm.steady i t ht
  | @delivered h t w c ht he hc =>
    by_cases hi : i = h
    · subst hi
      rw [deliver_task ht] at ht'
      obtain rfl := Option.some.inj ht'
      exact (shuttingDown_handleCommand (m.session t) w.env fun hs => hp w (hc hs)).trans
        (hm.steady i t ht)
    · refine hm.steady i t' ?_
      rw [← ht']
      unfold deliver finish putBack
      simp only
      split_ifs <;> simp only [getElem?_modify_of_ne (Ne.symm hi)]
  | shared h =>
    obtain ⟨t, ht, rfl⟩ := getElem?_modify ht'
    split_ifs <;> exact hm.steady i t ht
  | wrote hf => exact hm.steady i t' ht'
  | inserted request => exact hm.steady i t' ht'
  | deleted id => exact hm.steady i t' ht'
  | booked titleTasks stopped ha hc => exact hm.steady i t' ht'

theorem Tracked.covered_change (hm : m.Tracked) (hc : Change p m m') (i : SessionHandle)
    (t' : ActorTask) (ht' : m'.tasks[i]? = some t') : (m'.session t').Covered := by
  cases hc with
  | background b =>
    cases b with
    | finished h => exact Tracked.covered_finish hm.covered i t' ht'
    | input h env input =>
      rcases m.background_input_cases h env input with he | ⟨t, ht, -, he⟩
      · rw [he] at ht' ⊢
        exact hm.covered i t' ht'
      · rw [he] at ht' ⊢
        exact hm.covered_putBack ht (Session.books_step _ _) (Session.step_spares _ env input)
          (fun hx => Session.activity_step_of_exited (s := m.session t) hx _) i t' ht'
  | @delivered h t w c ht he hc =>
    have hp := hm.covered_putBack ht (Session.books_handleCommand (m.session t) w.env c)
      (Session.handleCommand_spares (m.session t) w.env c) fun hx => by simp [he] at hx
    unfold deliver at ht' ⊢
    simp only at ht' ⊢
    split_ifs at ht' ⊢ with hends
    · exact Tracked.covered_finish hp i t' ht'
    · exact hp i t' ht'
  | shared h =>
    obtain ⟨t, ht, rfl⟩ := getElem?_modify ht'
    split_ifs <;> exact hm.covered i t ht
  | wrote hf => exact hm.covered i t' ht'
  | inserted request => exact hm.covered i t' ht'
  | deleted id => exact hm.covered i t' ht'
  | booked titleTasks stopped ha hc =>
    intro hlive hrun
    exact (ha _).2 (hm.covered i t' ht' hlive hrun)

/-- **Every change keeps active runs registered,** if it brings no `shutdown`. -/
theorem Tracked.change (hm : m.Tracked) (hp : ∀ w, ¬p w) (hc : Change p m m') : m'.Tracked :=
  ⟨hm.sane.change hc, hm.exclusive.change (hc.mono fun w hw => absurd hw (hp w)),
    hm.steady_change hp hc, hm.covered_change hc⟩

theorem Tracked.changes (hm : m.Tracked) (hp : ∀ w, ¬p w) (hc : Changes p m m') : m'.Tracked := by
  induction hc with
  | refl => exact hm
  | tail _ hc ih => exact ih.change hp hc

/-- A tracker that knows the same runs. -/
theorem Tracked.booked (hm : m.Tracked) {activity : ActivityTracker} (titleTasks : List TitleRequest)
    (ha : ∀ id, activity.hasRun id ↔ m.activity.hasRun id) :
    { m with activity := activity, titleTasks := titleTasks }.Tracked :=
  ⟨⟨hm.sane.tasks, hm.sane.store, fun id hid => hm.sane.runs id ((ha id).1 hid), hm.sane.handles⟩,
    ⟨hm.exclusive.live, hm.exclusive.ended⟩, hm.steady,
    fun i t ht hx hr => (ha _).2 (hm.covered i t ht hx hr)⟩

/-! ### Steps of single tasks -/

/-- The actor's loop goes on. -/
def IsLive (m : SessionManager) (h : SessionHandle) : Prop :=
  ∃ t : ActorTask, m.tasks[h]? = some t ∧ t.exited = none

theorem IsLive.lt {h : SessionHandle} (hl : m.IsLive h) : h < m.tasks.length := by
  obtain ⟨t, ht, -⟩ := hl
  exact (List.getElem?_eq_some_iff.1 ht).1

/-- No loop begins again. -/
theorem Follows.isLive (hf : m.Follows m') {h : SessionHandle} (hl : m'.IsLive h) : m.IsLive h := by
  obtain ⟨t', ht', hx⟩ := hl
  obtain ⟨t, ht, hft⟩ := hf.task h t' ht'
  refine ⟨t, ht, ?_⟩
  cases he : t.exited with
  | none => rfl
  | some reason =>
    have hsome := hft.exited (by simp [he])
    simp [hx] at hsome

/-- What happens without a request of a client: no task is started, and whatever
changes in the tracker advances its generation. -/
structure Passes (m m' : SessionManager) : Prop where
  tracked : m'.Tracked
  continues : m.activity.Continues m'.activity
  follows : m.Follows m'
  stopped : m'.stopped = m.stopped

theorem Passes.refl (hm : m.Tracked) : m.Passes m := ⟨hm, .refl _, .refl m, rfl⟩

/-- Something happens on its own. -/
theorem passes_background (hm : m.Tracked) (b : Background) : m.Passes (m.background b) := by
  have hc : Change (fun _ => False) m (m.background b) := .background b
  refine ⟨hm.change (fun _ => not_false) hc, hc.continues, hc.follows.2, ?_⟩
  cases b with
  | finished h => rfl
  | input h env input =>
    rcases m.background_input_cases h env input with he | ⟨t, -, -, he⟩
    · rw [he]
    · rw [he]
      rfl

/-- The manager asks an actor for anything but its end. -/
theorem passes_askUnit (hm : m.Tracked) (h : SessionHandle) {w : Await} (hw : w.early = [])
    {c : SessionCommand} (hc : c ≠ .shutdown) : m.Passes (m.askUnit h w c).2 := by
  have hchanges : Changes (fun _ => False) m (m.askUnit h w c).2 :=
    m.askUnit_changes h w fun he => absurd he hc
  refine ⟨hm.changes (fun _ => not_false) hchanges, hchanges.continues, hchanges.follows.2, ?_⟩
  rw [askUnit_snd, send, hw, Run.run_nil]
  rcases m.receive_cases h w c with ⟨hr, -⟩ | ⟨t, -, -, hr⟩
  · rw [hr]
  · rw [hr]
    unfold deliver
    simp only
    split_ifs <;> rfl

/-- The manager routes a generated title. -/
theorem passes_routeTitleCompletion (hm : m.Tracked) {w : Await} (hw : w.early = [])
    (request : TitleRequest) (generated : Except TitleGenerationError String) :
    m.Passes (m.routeTitleCompletion w request generated) := by
  unfold routeTitleCompletion
  cases m.actors.lookup request.sessionId with
  | none => exact .refl hm
  | some h => exact passes_askUnit hm h hw nofun

/-- The tracker learns of something else than a run. -/
theorem passes_booked (hm : m.Tracked) (activity : ActivityTracker) (titleTasks : List TitleRequest)
    (ha : ∀ id, activity.hasRun id ↔ m.activity.hasRun id)
    (hc : m.activity.Continues activity) :
    m.Passes { m with activity := activity, titleTasks := titleTasks } :=
  ⟨hm.booked titleTasks ha, hc, .of_eq rfl, rfl⟩

/-! ### Starting and ending actors -/

/-- The tasks with a new one. -/
theorem getElem?_register {id : SessionId} {s : Session} {i : SessionHandle} {t : ActorTask}
    (ht : (m.register id s).tasks[i]? = some t) :
    m.tasks[i]? = some t ∨ t = ⟨s.toSessionActor, false, none, false⟩ := by
  simp only [register] at ht
  rcases Nat.lt_trichotomy i m.tasks.length with hlt | rfl | hgt
  · exact .inl (List.getElem?_append_left hlt ▸ ht)
  · rw [List.getElem?_concat_length] at ht
    exact .inr (Option.some.inj ht).symm
  · rw [List.getElem?_eq_none (by simp; omega)] at ht
    simp at ht

/-- The run of a new actor is registered before the actor is. -/
theorem covered_register {id : SessionId} {s : Session}
    (hc : ∀ (i : SessionHandle) (t : ActorTask), m.tasks[i]? = some t → (m.session t).Covered)
    (hs : s.harness.isRunning = true → s.activity.hasRun s.record.id)
    (hruns : ∀ i, m.activity.hasRun i → s.activity.hasRun i) (i : SessionHandle) (t : ActorTask)
    (ht : (m.register id s).tasks[i]? = some t) : ((m.register id s).session t).Covered := by
  rcases getElem?_register ht with ht | rfl
  · exact fun hx hr => hruns _ (hc i t ht hx hr)
  · exact fun _ hr => hs hr

theorem steady_register {id : SessionId} {s : Session}
    (hm : ∀ (i : SessionHandle) (t : ActorTask), m.tasks[i]? = some t →
      t.actor.shuttingDown = false) (hs : s.shuttingDown = false) (i : SessionHandle)
    (t : ActorTask) (ht : (m.register id s).tasks[i]? = some t) : t.actor.shuttingDown = false := by
  rcases getElem?_register ht with ht | rfl
  · exact hm i t ht
  · exact hs

/-- **A new actor is registered as the others are.** -/
theorem Tracked.start (hm : m.Tracked) (hs : Start m m') : m'.Tracked := by
  have hsane := hm.sane.start hs
  have hexclusive := Exclusive.start hm.sane hm.exclusive hs
  cases hs with
  | @loaded id record catalog hl hrow hturns =>
    refine ⟨hsane, hexclusive, steady_register hm.steady rfl,
      covered_register hm.covered nofun fun i hi => ?_⟩
    exact (ActivityTracker.hasRun_setRunningJobs ..).2 hi
  | @materialized request catalog s hs =>
    obtain ⟨runId, h, -, -, -, rfl⟩ := Session.spawnMaterialized_eq_ok hs
    refine ⟨hsane, hexclusive, steady_register hm.steady rfl,
      covered_register (m := m.withRow request) hm.covered (fun _ => ?_) fun i hi => ?_⟩
    · refine (ActivityTracker.hasRun_setRunningJobs ..).2 ?_
      simp [ActivityTracker.hasRun_setRun, Session.spawnActor]
    · refine (ActivityTracker.hasRun_setRunningJobs ..).2 ?_
      rw [ActivityTracker.hasRun_setRun]
      split_ifs
      · rfl
      · exact hi

theorem Tracked.begins (hm : m.Tracked) (hp : ∀ w, ¬p w) (hb : Begins p m m') : m'.Tracked := by
  cases hb with
  | none hc => exact hm.changes hp hc
  | one hc hs hc' => exact ((hm.changes hp hc).start hs).changes hp hc'

/-- A deletion: changes, and at last its task may be forgotten. -/
inductive Forgets (p : Await → Prop) (m : SessionManager) : SessionManager → Prop where
  | kept {m' : SessionManager} (h : Changes p m m') : Forgets p m m'
  | forgot {m₁ : SessionManager} (id : SessionId) (h : Changes p m m₁) :
    Forgets p m { m₁ with actors := m₁.actors.erase id }

theorem Forgets.continues (h : Forgets p m m') : m.activity.Continues m'.activity := by
  cases h with
  | kept h => exact h.continues
  | forgot id h => exact h.continues

theorem abortDeleteActor_forgets {m₁ : SessionManager} (hm : Changes p m m₁) (script : Script)
    (id : SessionId) (h : SessionHandle) : Forgets p m (m₁.abortDeleteActor script id h) := by
  have hs := m₁.send_changes (p := p) h (script.call .abort) .abortDelete nofun
  rw [← askOutcome_snd] at hs
  exact .forgot id (hm.trans hs)

theorem deleteLive_forgets (m : SessionManager) (script : Script) (id : SessionId)
    (h : SessionHandle) : Forgets p m (m.deleteLive script id h).2 := by
  have hp := m.askUnit_changes (p := p) h (script.call .prepare) (c := .prepareDelete) nofun
  unfold deleteLive
  generalize m.askUnit h (script.call .prepare) .prepareDelete = r at hp
  obtain ⟨error | _, m₁⟩ := r
  · exact abortDeleteActor_forgets hp script id h
  have hd := hp.trans (callDelete_changes m₁ (script.call .delete) id)
  simp only at hd ⊢
  generalize m₁.call (script.call .delete) (fun fault store => store.delete fault id) = r at hd
  obtain ⟨error | _, m₂⟩ := r
  · exact abortDeleteActor_forgets hd script id h
  have hf := hd.trans (m₂.send_changes h (script.call .finish) .finishDelete nofun)
  rw [← askOutcome_snd] at hf
  simp only at hf ⊢
  generalize m₂.askOutcome h (script.call .finish) .finishDelete = r at hf
  obtain ⟨error | _ | _, m₃⟩ := r <;> exact .forgot id hf

theorem delete_forgets (m : SessionManager) (script : Script) (id : SessionId) :
    Forgets p m (m.delete script id).2 := by
  unfold delete
  cases m.actors.lookup id with
  | some h => exact deleteLive_forgets m script id h
  | none =>
    have hd := callDelete_changes (p := p) m (script.call .delete) id
    simp only
    generalize m.call (script.call .delete) (fun fault store => store.delete fault id) = r at hd
    obtain ⟨error | _, m₁⟩ := r <;> exact .kept hd

/-- No actor refuses its deletion because it is shutting down. -/
theorem Tracked.delete (hm : m.Tracked) (script : Script) (id : SessionId) :
    (m.delete script id).2.Tracked := by
  have hsane := sane_delete hm.sane script id
  have hexclusive : (m.delete script id).2.Exclusive := by
    refine hm.exclusive.delete fun h t _ ht _ hshut => ?_
    rw [hm.steady h t ht] at hshut
    exact absurd hshut (by simp)
  have hf := m.delete_forgets (p := fun _ => False) script id
  generalize (m.delete script id).2 = m' at hsane hexclusive hf
  cases hf with
  | kept h => exact hm.changes (fun _ => not_false) h
  | forgot i h =>
    have hm₁ := hm.changes (fun _ => not_false) h
    exact ⟨hsane, hexclusive, hm₁.steady, hm₁.covered⟩

/-! ### What clients ask for -/

/-- **What a request of a client does:** it starts one actor at most, or it is a
deletion. -/
theorem request_cases (m : SessionManager) (script : Script) {command : ManagerCommand}
    (hc : command.isRequest = true) : Begins p m (m.handleCommand script command).2 ∨
      ∃ id, command = .delete id ∧ Forgets p m (m.handleCommand script command).2 := by
  cases command with
  | startup cwd connectionId attachmentId =>
    exact .inl (.none (m.startup_changes script cwd connectionId attachmentId))
  | draftDefaults cwd => exact .inl (.none .refl)
  | materializeAndSubmit cwd prompt settings connectionId attachmentId =>
    exact .inl (m.materializeAndSubmit_begins script cwd prompt settings connectionId attachmentId)
  | «open» selector cwdForName connectionId attachmentId =>
    exact .inl (m.openSession_begins script selector cwdForName connectionId attachmentId)
  | list scope => exact .inl (.none (m.list_changes script scope))
  | rename sessionId title => exact .inl (.none (m.rename_changes script sessionId title))
  | delete sessionId => exact .inr ⟨sessionId, rfl, m.delete_forgets script sessionId⟩
  | detach sessionId connectionId attachmentId =>
    exact .inl (.none (m.detach_changes script sessionId connectionId attachmentId))
  | _ => simp [ManagerCommand.isRequest] at hc

/-- **Every request of a client keeps active runs registered.** -/
theorem Tracked.handleCommand (hm : m.Tracked) (script : Script) {command : ManagerCommand}
    (hc : command.isRequest = true) : (m.handleCommand script command).2.Tracked := by
  rcases m.request_cases (p := fun _ => False) script hc with hb | ⟨id, rfl, -⟩
  · exact hm.begins (fun _ => not_false) hb
  · exact hm.delete script id

/-- **No request of a client touches the connections.** -/
theorem continues_handleCommand (m : SessionManager) (script : Script) {command : ManagerCommand}
    (hc : command.isRequest = true) :
    m.activity.Continues (m.handleCommand script command).2.activity := by
  rcases m.request_cases (p := fun _ => True) script hc with hb | ⟨id, -, hf⟩
  · exact hb.continues
  · exact hf.continues

/-- Tasks are only added behind the others, and no loop begins again. -/
structure Grows (m m' : SessionManager) : Prop where
  length : m.tasks.length ≤ m'.tasks.length
  live : ∀ h < m.tasks.length, m'.IsLive h → m.IsLive h

theorem Grows.trans {m'' : SessionManager} (h : m.Grows m') (h' : m'.Grows m'') : m.Grows m'' :=
  ⟨h.length.trans h'.length, fun i hi hl => h.live i hi (h'.live i (hi.trans_le h.length) hl)⟩

theorem Follows.grows (hf : m.Follows m') : m.Grows m' :=
  ⟨hf.length.ge, fun _ _ hl => hf.isLive hl⟩

theorem grows_register (m : SessionManager) (id : SessionId) (s : Session) :
    m.Grows (m.register id s) := by
  refine ⟨by simp [register], fun h hlt hl => ?_⟩
  obtain ⟨t, ht, hx⟩ := hl
  simp only [register] at ht
  exact ⟨t, List.getElem?_append_left hlt ▸ ht, hx⟩

theorem Start.grows (hs : Start m m') : m.Grows m' := by
  cases hs with
  | loaded hl hrow hturns => exact grows_register m _ _
  | @materialized request catalog s hs =>
    have hrow : m.Follows (m.withRow request) := .of_eq rfl
    exact hrow.grows.trans (grows_register _ _ s)

theorem Begins.grows (hb : Begins p m m') : m.Grows m' := by
  cases hb with
  | none h => exact h.follows.2.grows
  | one h hs h' => exact (h.follows.2.grows.trans hs.grows).trans h'.follows.2.grows

theorem Forgets.grows (hf : Forgets p m m') : m.Grows m' := by
  cases hf with
  | kept h => exact h.follows.2.grows
  | forgot i h => exact ⟨h.follows.2.length.ge, fun _ _ hl => h.follows.2.isLive hl⟩

/-- **Every request of a client starts tasks behind the others.** -/
theorem grows_handleCommand (m : SessionManager) (script : Script) {command : ManagerCommand}
    (hc : command.isRequest = true) : m.Grows (m.handleCommand script command).2 := by
  rcases m.request_cases (p := fun _ => True) script hc with hb | ⟨id, -, hf⟩
  · exact hb.grows
  · exact hf.grows

/-- A manager that just started over a repository in order. -/
theorem tracked_new {store : SessionStore} (hs : store.InOrder) : (new store .new).Tracked := by
  have hnone (h : SessionHandle) : (new store .new).tasks[h]? = none := rfl
  refine ⟨sane_new hs, ⟨?_, ?_⟩, ?_, ?_⟩ <;> intro h t ht
  all_goals
    rw [hnone] at ht
    simp at ht

end SessionManager
end Moh
