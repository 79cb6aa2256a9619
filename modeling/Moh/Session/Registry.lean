/-
# At most one live actor per session

The registry of the manager holds every task that is not over (`Exclusive`), so no
session has two.  Two commands forget a task: `Delete`, which ends it first unless
the actor already refuses to be deleted, and `Shutdown`, which trusts the actor's
answer.  A failed `Shutdown` leaves an actor in a state where `prepare_delete` and
`abort_delete` are both refused; the `Delete` that follows forgets it all the same,
and the next `Open` starts a second actor (`two_actors_after_failed_shutdown`).
`Orderly` excludes this, and actors that answer `Shutdown` before their task is
over; every run that is orderly keeps the registry exclusive (`registered_of_run`).
-/

import Moh.Session.Sane

namespace Moh
namespace SessionManager

/-- **At most one live actor per session,** and it is the registered one. -/
structure AtMostOne (m : SessionManager) : Prop where
  unique : ∀ (h h' : SessionHandle) (t t' : ActorTask),
    m.tasks[h]? = some t → m.tasks[h']? = some t' → t.finished = false → t'.finished = false →
      t.actor.record.id = t'.actor.record.id → h = h'
  registered : ∀ (h : SessionHandle) (t : ActorTask), m.tasks[h]? = some t → t.finished = false →
    m.actors.lookup t.actor.record.id = some h

/-- What a command needs so that no live actor is forgotten. -/
def Orderly (m : SessionManager) (script : Script) : ManagerCommand → Prop
  | .delete sessionId => ∀ (h : SessionHandle) (t : ActorTask),
    m.actors.lookup sessionId = some h → m.tasks[h]? = some t → t.finished = false →
      t.actor.shuttingDown = true → t.actor.deleting = true
  | .shutdown => ∀ id, (script.each id).finishes = true
  | _ => True

/-- What a step needs: a command that is handled is orderly. -/
def OrderlyStep (m : SessionManager) : Input → Prop
  | .command script command => m.stopped = false → m.Orderly script command
  | _ => True

/-! ### The invariant -/

/-- Every task that is not over is registered, and one whose loop ended is over. -/
structure Exclusive (m : SessionManager) : Prop where
  live : ∀ (h : SessionHandle) (t : ActorTask), m.tasks[h]? = some t → t.finished = false →
    m.actors.lookup t.actor.record.id = some h
  ended : ∀ (h : SessionHandle) (t : ActorTask), m.tasks[h]? = some t → t.exited.isSome = true →
    t.finished = true

variable {m m' : SessionManager}

theorem Exclusive.atMostOne (he : m.Exclusive) : m.AtMostOne := by
  refine ⟨fun h h' t t' ht ht' hf hf' hid => ?_, he.live⟩
  have hl := he.live h t ht hf
  rw [hid, he.live h' t' ht' hf'] at hl
  exact (Option.some.inj hl).symm

theorem live_of_follows (hl : ∀ (h : SessionHandle) (t : ActorTask), m.tasks[h]? = some t →
      t.finished = false → m.actors.lookup t.actor.record.id = some h)
    (hf : m.Follows m') (ha : m'.actors = m.actors) (h : SessionHandle) (t' : ActorTask)
    (ht' : m'.tasks[h]? = some t') (hlive : t'.finished = false) :
    m'.actors.lookup t'.actor.record.id = some h := by
  obtain ⟨t, ht, hft⟩ := hf.task h t' ht'
  rw [ha, hft.same]
  refine hl h t ht (Bool.eq_false_iff.2 fun hfin => ?_)
  rw [hft.finished hfin] at hlive
  exact absurd hlive (by simp)

/-- A task whose loop ended is over once it is finished. -/
theorem over_finish {h : SessionHandle}
    (ho : ∀ (i : SessionHandle) (t : ActorTask), m.tasks[i]? = some t → i ≠ h →
      t.exited.isSome = true → t.finished = true)
    (i : SessionHandle) (t' : ActorTask) (ht' : (m.finish h).tasks[i]? = some t')
    (hx : t'.exited.isSome = true) : t'.finished = true := by
  obtain ⟨t, ht, rfl⟩ := getElem?_modify ht'
  split_ifs at hx ⊢ with hi
  · simp only at hx ⊢
    simp [hx]
  · exact ho i t ht (fun he => hi he.symm) hx

/-- An input that comes on its own ends no registered loop. -/
theorem Exclusive.admitted (he : m.Exclusive) {h : SessionHandle} {t : ActorTask} {env : Env}
    {input : ActorInput} (ht : m.tasks[h]? = some t) (hadm : m.admits h t input = true)
    (hx : ((m.session t).step (env, input)).exited.isSome = true) : t.finished = true := by
  by_contra hf
  have hl := he.live h t ht (Bool.eq_false_iff.2 hf)
  rw [(Session.step_keeps (m.session t) env (isOrdinary_of_admits hl hadm)).exited] at hx
  exact hf (he.ended h t ht hx)

/-- **Every change keeps the registry exclusive,** if no actor answers a `shutdown`
before its task is over. -/
theorem Exclusive.change (he : m.Exclusive) (h : Change Await.Finishing m m') : m'.Exclusive := by
  refine ⟨live_of_follows he.live h.follows.2 h.follows.1, ?_⟩
  cases h with
  | background b =>
    cases b with
    | finished h => exact over_finish fun i t ht _ hx => he.ended i t ht hx
    | input h env input =>
      rcases m.background_input_cases h env input with hb | ⟨t, ht, hadm, hb⟩
      · rw [hb]
        exact he.ended
      · rw [hb]
        intro i t' ht' hx
        obtain ⟨t₁, ht₁, rfl⟩ := getElem?_modify ht'
        split_ifs at hx ⊢ with hi
        · subst hi
          obtain rfl := Option.some.inj (ht.symm.trans ht₁)
          have hover := he.admitted (t := t) ht hadm hx
          exact hover
        · exact he.ended i t₁ ht₁ hx
  | @delivered h t w c ht hnone hc =>
    have hothers (i : SessionHandle) (t' : ActorTask)
        (ht' : (m.putBack h ((m.session t).handleCommand w.env c).2).tasks[i]? = some t')
        (hi : i ≠ h) (hx : t'.exited.isSome = true) : t'.finished = true := by
      rw [putBack, getElem?_modify_of_ne hi.symm] at ht'
      exact he.ended i t' ht' hx
    unfold deliver
    simp only
    split_ifs with hends
    · exact over_finish hothers
    · simp only [Bool.or_eq_true, not_or, Bool.not_eq_true] at hends
      intro i t' ht' hx
      by_cases hi : i = h
      · subst hi
        rw [putBack, getElem?_modify_self ht] at ht'
        obtain rfl := Option.some.inj ht'
        rcases Session.exited_of_handleCommand (s := m.session t) hnone w.env hx with
          rfl | rfl | rfl
        · exact absurd hends.2 (by simp [SessionCommand.isTerminal])
        · exact absurd hends.2 (by simp [SessionCommand.isTerminal])
        · rw [hc rfl] at hends
          exact absurd hends.1 (by simp)
      · exact hothers i t' ht' hi hx
  | shared h =>
    intro i t' ht' hx
    obtain ⟨t, ht, rfl⟩ := getElem?_modify ht'
    split_ifs at hx ⊢ <;> exact he.ended i t ht hx
  | wrote hf => exact he.ended
  | inserted request => exact he.ended
  | deleted id => exact he.ended
  | booked titleTasks stopped ha => exact he.ended

theorem Exclusive.changes (he : m.Exclusive) (h : Changes Await.Finishing m m') : m'.Exclusive := by
  induction h with
  | refl => exact he
  | tail _ hc ih => exact ih.change hc

/-! ### Starting actors -/

/-- A new actor of a session that no live task is for. -/
theorem Exclusive.register (he : m.Exclusive) {id : SessionId} {s : Session}
    (hid : s.record.id = id)
    (hfree : ∀ (h : SessionHandle) (t : ActorTask), m.tasks[h]? = some t → t.finished = false →
      t.actor.record.id ≠ id) : (m.register id s).Exclusive := by
  refine ⟨fun h t ht hf => ?_, fun h t ht hx => ?_⟩
  all_goals
    simp only [SessionManager.register] at ht ⊢
    rcases Nat.lt_trichotomy h m.tasks.length with hlt | rfl | hgt
  · rw [List.getElem?_append_left hlt] at ht
    rw [AList.lookup_insert_ne (hfree h t ht hf)]
    exact he.live h t ht hf
  · rw [List.getElem?_concat_length] at ht
    obtain rfl := Option.some.inj ht
    change (m.actors.insert id m.tasks.length).lookup s.record.id = some m.tasks.length
    rw [hid, AList.lookup_insert]
  · rw [List.getElem?_eq_none (by simp; omega)] at ht
    simp at ht
  · rw [List.getElem?_append_left hlt] at ht
    exact he.ended h t ht hx
  · rw [List.getElem?_concat_length] at ht
    obtain rfl := Option.some.inj ht
    simp at hx
  · rw [List.getElem?_eq_none (by simp; omega)] at ht
    simp at ht

/-- **A new actor is the only one of its session.** -/
theorem Exclusive.start (hm : m.Sane) (he : m.Exclusive) (h : Start m m') : m'.Exclusive := by
  cases h with
  | @loaded id record catalog hl hrow hturns =>
    refine he.register (hm.store id record hrow).1 fun h t ht hf hid => ?_
    have hreg := he.live h t ht hf
    rw [hid, hl] at hreg
    simp at hreg
  | @materialized request catalog s hs =>
    have he₁ := he.change (.inserted request)
    obtain ⟨runId, h, -, -, -, rfl⟩ := Session.spawnMaterialized_eq_ok hs
    -- the identifier is new, so no task is for it
    refine he₁.register rfl fun h t ht _ hid => ?_
    have hlt := (hm.task ht).known
    rw [hid] at hlt
    exact Nat.lt_irrefl _ hlt

theorem Exclusive.begins (hm : m.Sane) (he : m.Exclusive) (h : Begins Await.Finishing m m') :
    m'.Exclusive := by
  cases h with
  | none hc => exact he.changes hc
  | one hc hs hc' => exact (Exclusive.start (hm.changes hc) (he.changes hc) hs).changes hc'

/-! ### Ending actors -/

/-- The task is over, or its actor is being deleted. -/
def Doomed (m : SessionManager) (h : SessionHandle) : Prop :=
  ∀ t : ActorTask, m.tasks[h]? = some t → t.finished = false → t.actor.deleting = true

/-- The task is over. -/
def Over (m : SessionManager) (h : SessionHandle) : Prop :=
  ∀ t : ActorTask, m.tasks[h]? = some t → t.finished = true

/-- What happens on its own leaves the flags of every actor alone. -/
theorem flags_of_background (b : Background) {h : SessionHandle} {t' : ActorTask}
    (ht' : (m.background b).tasks[h]? = some t') :
    ∃ t : ActorTask, m.tasks[h]? = some t ∧ t.Follows t' ∧
      t'.actor.shuttingDown = t.actor.shuttingDown ∧ t'.actor.deleting = t.actor.deleting := by
  obtain ⟨t, ht, hf⟩ := (Follows.background m b).task h t' ht'
  refine ⟨t, ht, hf, ?_⟩
  cases b with
  | finished i =>
    obtain ⟨t₁, ht₁, rfl⟩ := getElem?_modify ht'
    obtain rfl := Option.some.inj (ht.symm.trans ht₁)
    split_ifs <;> exact ⟨rfl, rfl⟩
  | input i env input =>
    rcases m.background_input_cases i env input with hb | ⟨t₁, ht₁, hadm, hb⟩
    · rw [hb, ht] at ht'
      obtain rfl := Option.some.inj ht'
      exact ⟨rfl, rfl⟩
    · rw [hb] at ht'
      obtain ⟨t₂, ht₂, rfl⟩ := getElem?_modify ht'
      obtain rfl := Option.some.inj (ht.symm.trans ht₂)
      split_ifs with hi
      · subst hi
        obtain rfl := Option.some.inj (ht.symm.trans ht₁)
        refine Session.flags_of_step (m.session t) env fun c hc => ?_
        subst hc
        simp only [admits, Bool.and_eq_true, Bool.not_eq_true'] at hadm
        exact hadm.2
      · exact ⟨rfl, rfl⟩

theorem flags_of_backgrounds (bs : List Background) {h : SessionHandle} {t' : ActorTask}
    (ht' : (Run.run background m bs).tasks[h]? = some t') :
    ∃ t : ActorTask, m.tasks[h]? = some t ∧ t.Follows t' ∧
      t'.actor.shuttingDown = t.actor.shuttingDown ∧ t'.actor.deleting = t.actor.deleting := by
  induction bs generalizing m with
  | nil => exact ⟨t', ht', .refl t', rfl, rfl⟩
  | cons b bs ih =>
    obtain ⟨t₁, ht₁, hf₁, hs₁, hd₁⟩ := ih ht'
    obtain ⟨t, ht, hf, hs, hd⟩ := flags_of_background b ht₁
    exact ⟨t, ht, hf.trans hf₁, hs₁.trans hs, hd₁.trans hd⟩

theorem finished_eq_false {t t' : ActorTask} (hf : t.Follows t') (hlive : t'.finished = false) :
    t.finished = false := by
  cases hfin : t.finished with
  | false => rfl
  | true =>
    rw [hf.finished hfin] at hlive
    exact absurd hlive (by simp)

theorem Doomed.backgrounds {h : SessionHandle} (hd : m.Doomed h) (bs : List Background) :
    (Run.run background m bs).Doomed h := by
  intro t' ht' hlive
  obtain ⟨t, ht, hf, -, hdel⟩ := flags_of_backgrounds bs ht'
  rw [hdel]
  exact hd t ht (finished_eq_false hf hlive)

theorem Doomed.call {α : Type} {h : SessionHandle} (hd : m.Doomed h) (w : Await)
    (f : Option SessionStoreError → SessionStore → Except SessionStoreError α × SessionStore) :
    (m.call w f).2.Doomed h :=
  hd.backgrounds w.early

/-- A registered actor is doomed once it was asked to prepare its deletion, if it
does not refuse for a shutdown that failed. -/
theorem Exclusive.doomed_prepare (he : m.Exclusive) {h : SessionHandle}
    (hG : ∀ t : ActorTask, m.tasks[h]? = some t → t.finished = false →
      t.actor.shuttingDown = true → t.actor.deleting = true) (w : Await) :
    (m.send h w .prepareDelete).2.Doomed h := by
  have heb := he.changes (m.background_changes (p := Await.Finishing) w.early)
  have hGb : ∀ t : ActorTask, (Run.run background m w.early).tasks[h]? = some t →
      t.finished = false → t.actor.shuttingDown = true → t.actor.deleting = true := by
    intro t' ht' hlive hshut
    obtain ⟨t, ht, hf, hs, hd⟩ := flags_of_backgrounds w.early ht'
    rw [hd]
    exact hG t ht (finished_eq_false hf hlive) (by rw [← hs, hshut])
  unfold send
  generalize Run.run background m w.early = m₁ at heb hGb
  rcases m₁.receive_cases h w .prepareDelete with ⟨hr, hx⟩ | ⟨t, ht, hx, hr⟩
  · rw [hr]
    intro t ht hlive
    rw [heb.ended h t ht (hx t ht)] at hlive
    exact absurd hlive (by simp)
  · rw [hr]
    intro t' ht' hlive
    rw [deliver_task ht] at ht'
    obtain rfl := Option.some.inj ht'
    simp only [Bool.or_eq_false_iff] at hlive
    cases hm : (m₁.session t).ensureMutable with
    | ok u => exact (Session.prepareDelete_keeps hm w.env).deleting
    | error error =>
      simp only [Session.handleCommand, Session.prepareDelete_of_error hm]
      by_contra hnd
      have hns : t.actor.shuttingDown ≠ true := fun hs => hnd (hGb t ht hlive.1 hs)
      have hok : (m₁.session t).ensureMutable = .ok () := Session.ensureMutable_eq_ok_iff.2
        ⟨Bool.eq_false_iff.2 hnd, Bool.eq_false_iff.2 hns⟩
      rw [hok] at hm
      simp at hm

/-- A doomed actor is over once either end of its deletion was answered. -/
theorem Exclusive.over_of_doomed (he : m.Exclusive) {h : SessionHandle} (hd : m.Doomed h)
    (w : Await) {c : SessionCommand} (hc : c = .finishDelete ∨ c = .abortDelete) :
    (m.send h w c).2.Over h := by
  have heb := he.changes (m.background_changes (p := Await.Finishing) w.early)
  have hdb := hd.backgrounds w.early
  unfold send
  generalize Run.run background m w.early = m₁ at heb hdb
  rcases m₁.receive_cases h w c with ⟨hr, hx⟩ | ⟨t, ht, hx, hr⟩
  · rw [hr]
    exact fun t ht => heb.ended h t ht (hx t ht)
  · rw [hr]
    intro t' ht'
    rw [deliver_task ht] at ht'
    obtain rfl := Option.some.inj ht'
    cases hfin : t.finished with
    | true => rfl
    | false =>
      have hdel : (m₁.session t).deleting = true := hdb t ht hfin
      rcases hc with rfl | rfl
      · simp [Session.handleCommand_finishDelete hdel, SessionCommand.isTerminal, Session.exit]
      · simp [Session.handleCommand_abortDelete hdel, SessionCommand.isTerminal, Session.exit]

/-- A task that is over may be forgotten. -/
theorem Exclusive.forget (he : m.Exclusive) {id : SessionId} {h : SessionHandle}
    (hl : m.actors.lookup id = some h) (ho : m.Over h) :
    { m with actors := m.actors.erase id }.Exclusive := by
  refine ⟨fun i t ht hf => ?_, he.ended⟩
  have hreg := he.live i t ht hf
  by_cases hid : t.actor.record.id = id
  · rw [hid, hl] at hreg
    obtain rfl := Option.some.inj hreg
    rw [ho t ht] at hf
    exact absurd hf (by simp)
  · rw [AList.lookup_erase_ne hid]
    exact hreg

/-- An aborted deletion forgets a task that is over. -/
theorem Exclusive.abortDeleteActor (he : m.Exclusive) {id : SessionId} {h : SessionHandle}
    (hl : m.actors.lookup id = some h) (hd : m.Doomed h) (script : Script) :
    (m.abortDeleteActor script id h).Exclusive := by
  have hc := m.send_changes (p := Await.Finishing) h (script.call .abort) .abortDelete (by simp)
  have ho := he.over_of_doomed hd (script.call .abort) (.inr rfl)
  have hs := he.changes hc
  unfold SessionManager.abortDeleteActor
  rw [← askOutcome_snd] at hs ho hc
  exact hs.forget (by rw [hc.follows.1, hl]) ho

theorem Exclusive.deleteLive (he : m.Exclusive) {id : SessionId} {h : SessionHandle}
    (hl : m.actors.lookup id = some h)
    (hG : ∀ t : ActorTask, m.tasks[h]? = some t → t.finished = false →
      t.actor.shuttingDown = true → t.actor.deleting = true) (script : Script) :
    (m.deleteLive script id h).2.Exclusive := by
  have hp := m.askUnit_changes (p := Await.Finishing) h (script.call .prepare)
    (c := .prepareDelete) (by simp)
  have hd := he.doomed_prepare hG (script.call .prepare)
  rw [← askUnit_snd] at hd
  unfold SessionManager.deleteLive
  generalize m.askUnit h (script.call .prepare) .prepareDelete = r at hp hd
  obtain ⟨error | _, m₁⟩ := r
  all_goals
    have he₁ := he.changes hp
    have hl₁ : m₁.actors.lookup id = some h := by rw [hp.follows.1, hl]
  · exact he₁.abortDeleteActor hl₁ hd script
  have hp₂ := callDelete_changes (p := Await.Finishing) m₁ (script.call .delete) id
  have hd₂ := Doomed.call hd (script.call .delete) fun fault store => store.delete fault id
  simp only at hd₂ ⊢
  generalize m₁.call (script.call .delete) (fun fault store => store.delete fault id) = r at hp₂ hd₂
  obtain ⟨error | _, m₂⟩ := r
  all_goals
    have he₂ := he₁.changes hp₂
    have hl₂ : m₂.actors.lookup id = some h := by rw [hp₂.follows.1, hl₁]
  · exact he₂.abortDeleteActor hl₂ hd₂ script
  have hp₃ := m₂.send_changes (p := Await.Finishing) h (script.call .finish) .finishDelete (by simp)
  have ho := he₂.over_of_doomed hd₂ (script.call .finish) (.inl rfl)
  have he₃ := he₂.changes hp₃
  rw [← askOutcome_snd] at hp₃ ho he₃
  have hf := he₃.forget (by rw [hp₃.follows.1, hl₂]) ho
  simp only at hf ⊢
  generalize m₂.askOutcome h (script.call .finish) .finishDelete = r at hf
  obtain ⟨error | _ | _, m₃⟩ := r <;> exact hf

theorem Exclusive.delete (he : m.Exclusive) {script : Script} {id : SessionId}
    (hG : m.Orderly script (.delete id)) : (m.delete script id).2.Exclusive := by
  unfold SessionManager.delete
  cases hl : m.actors.lookup id with
  | some h => exact he.deleteLive hl (fun t => hG h t hl) script
  | none =>
    have hd := he.changes (callDelete_changes (p := Await.Finishing) m (script.call .delete) id)
    simp only
    generalize m.call (script.call .delete) (fun fault store => store.delete fault id) = r at hd
    obtain ⟨error | _, m₁⟩ := r <;> exact hd

/-- **An actor that answered a `shutdown` is over.** -/
theorem over_of_shutdown {h : SessionHandle} {w : Await} (hw : w.finishes = true)
    (hs : m.askUnit h w .shutdown = (.ok (), m')) : m'.Over h := by
  unfold askUnit send at hs
  rcases (Run.run background m w.early).receive_cases h w .shutdown with
    ⟨hr, -⟩ | ⟨t, ht, hx, hr⟩
  · rw [hr] at hs
    simp at hs
  · have hd := deliver_task ht w .shutdown
    rw [hr] at hs
    cases hlost : w.lost with
    | true => simp [hlost] at hs
    | false =>
      rcases Session.handleCommand_shutdown_cases
          ((Run.run background m w.early).session t) w.env with ⟨s, hc, -⟩ | ⟨error, s, hc, -⟩
      · have hm : ((Run.run background m w.early).deliver h t w .shutdown).2 = m' := by
          simp only [hlost, Bool.false_eq_true, if_false, deliver, hc] at hs ⊢
          exact (Prod.mk.inj hs).2
        intro t' ht'
        rw [← hm, hd, hc] at ht'
        obtain rfl := Option.some.inj ht'
        simp [hw, Session.exit]
      · simp [hlost, deliver, hc] at hs

theorem Exclusive.shutdownActors (he : m.Exclusive) {script : Script}
    (hG : ∀ id, (script.each id).finishes = true) (ids : List SessionId) :
    (visit script.each .shutdown (fun id m => { m with actors := m.actors.erase id }) ids
      m).2.Exclusive := by
  induction ids generalizing m with
  | nil => exact he
  | cons id ids ih =>
    unfold visit
    cases hl : m.actors.lookup id with
    | none => exact ih he
    | some h =>
      have hc := m.askUnit_changes (p := Await.Finishing) h (script.each id) (c := .shutdown)
        fun _ => hG id
      simp only
      cases ha : m.askUnit h (script.each id) .shutdown with
      | mk result m₁ =>
        rw [ha] at hc
        have he₁ := he.changes hc
        cases result with
        | error error => exact ih he₁
        | ok u =>
          exact ih (he₁.forget (by rw [hc.follows.1, hl]) (over_of_shutdown (hG id) ha))

theorem Exclusive.shutdown (he : m.Exclusive) {script : Script}
    (hG : m.Orderly script .shutdown) : (m.shutdown script).2.Exclusive := by
  have hd := he.changes
    (drainTitleTasks_changes (p := Await.Finishing) script.titles m.titleTasks.length m)
  unfold SessionManager.shutdown
  simp only
  generalize drainTitleTasks script.titles m.titleTasks.length m = m₁ at hd
  have hv : (m₁.shutdownActors script).2.Exclusive := hd.shutdownActors hG _
  generalize m₁.shutdownActors script = r at hv
  obtain ⟨error | _, m₂⟩ := r
  · exact hv
  · exact ⟨hv.live, hv.ended⟩

/-! ### Every orderly run -/

theorem Exclusive.handleCommand (hm : m.Sane) (he : m.Exclusive) {script : Script}
    {command : ManagerCommand} (hG : m.Orderly script command) :
    (m.handleCommand script command).2.Exclusive := by
  cases command with
  | startup cwd connectionId attachmentId =>
    exact he.changes (m.startup_changes script cwd connectionId attachmentId)
  | draftDefaults cwd => exact he
  | materializeAndSubmit cwd prompt settings connectionId attachmentId =>
    exact he.begins hm (m.materializeAndSubmit_begins script cwd prompt settings connectionId
      attachmentId)
  | «open» selector cwdForName connectionId attachmentId =>
    exact he.begins hm (m.openSession_begins script selector cwdForName connectionId attachmentId)
  | list scope => exact he.changes (m.list_changes script scope)
  | rename sessionId title => exact he.changes (m.rename_changes script sessionId title)
  | delete sessionId => exact he.delete hG
  | detach sessionId connectionId attachmentId =>
    exact he.changes (m.detach_changes script sessionId connectionId attachmentId)
  | detachConnection connectionId =>
    exact he.changes (visit_changes script.each (by simp) _ m)
  | flushAll => exact he.changes (visit_changes script.each (by simp) _ m)
  | shutdown => exact he.shutdown hG

theorem Exclusive.step (hm : m.Sane) (he : m.Exclusive) {input : Input}
    (hG : m.OrderlyStep input) : (m.step input).Exclusive := by
  cases input with
  | command script command =>
    unfold SessionManager.step
    split_ifs with hs
    · exact he
    · exact he.handleCommand hm (hG (Bool.eq_false_iff.2 hs))
  | titleCompleted ended =>
    unfold SessionManager.step
    split_ifs
    · exact he
    · exact he.changes (m.completeTitleTask_changes ended)
  | background b => exact he.change (.background b)

/-- **At most one live actor per session, in every orderly run:** whatever fails,
every live actor is the one that is registered for its session. -/
theorem registered_of_run {store : SessionStore} (hs : store.InOrder) {inputs : List Input}
    (hG : Run.Guarded step OrderlyStep (new store .new) inputs) :
    (Run.run step (new store .new) inputs).AtMostOne := by
  have h := Run.run_invariant_of_guarded (I := fun m => m.Sane ∧ m.Exclusive)
    (fun m i hI hi => ⟨hI.1.step i, hI.2.step hI.1 hi⟩)
    ⟨sane_new hs, ⟨fun _ _ ht => absurd ht (by simp [new]), fun _ _ ht => absurd ht (by simp [new])⟩⟩
    hG
  exact h.2.atMostOne

/-- A session is opened and gets a prompt, and the shutdown of its actor fails. -/
def failedShutdown : List Input :=
  [.command quietScript (.open (.id ⟨1⟩) [] ⟨1⟩ ⟨1⟩),
    .background (.input 0 brokenAwait.env (.command (.submit "hello"))),
    .command { quietScript with each := fun _ => brokenAwait } .shutdown]

/-- `registered_of_run` on a shutdown that fails and a prompt that is refused. -/
theorem registered_of_run_failedShutdown :
    (Run.run step (new oneSession .new)
      (failedShutdown ++ [.background (.input 0 brokenAwait.env (.command (.submit "again")))])
      ).AtMostOne :=
  registered_of_run inOrder_oneSession
    ⟨fun _ => trivial, trivial, fun _ _ => rfl, trivial, trivial⟩

/-- **A deletion after a failed shutdown forgets a live actor:** the next `Open`
starts a second one. -/
theorem two_actors_after_failedShutdown :
    ¬(Run.run step (new oneSession .new)
      (failedShutdown ++
        [.command quietScript (.delete ⟨1⟩),
          .command quietScript (.open (.id ⟨1⟩) [] ⟨1⟩ ⟨2⟩)])).AtMostOne := by
  intro h
  have hlive : (Run.run step (new oneSession .new)
      (failedShutdown ++
        [.command quietScript (.delete ⟨1⟩),
          .command quietScript (.open (.id ⟨1⟩) [] ⟨1⟩ ⟨2⟩)])).tasks.map
        (fun t => (t.finished, t.actor.record.id)) = [(false, ⟨1⟩), (false, ⟨1⟩)] := by decide
  generalize Run.run step (new oneSession .new) _ = m at h hlive
  obtain ⟨t, ts, hts, ht, hrest⟩ := List.map_eq_cons_iff.1 hlive
  obtain ⟨t', ts', rfl, ht', hrest'⟩ := List.map_eq_cons_iff.1 hrest
  obtain ⟨hf, hid⟩ := Prod.mk.inj ht
  obtain ⟨hf', hid'⟩ := Prod.mk.inj ht'
  have h01 := h.unique 0 1 t t' (by rw [hts]; rfl) (by rw [hts]; rfl) hf hf' (hid.trans hid'.symm)
  exact absurd h01 (by decide)

end SessionManager
end Moh
