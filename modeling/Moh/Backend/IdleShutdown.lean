/-
# Idle shutdown loses nothing

`backend/server.rs`: the serve loop leaves for idleness only in a state in which nothing
would be lost (`Quiet`): however connections, actors, title tasks and the manager take
turns, and whatever fails.  A flush that fails, a change of the activity while it is
awaited, and a connection that is queued behind it make the loop keep serving.

Every step keeps the accounts of the connections (`Accounted.step`), and the last look
at the tracker before the loop is left finds the generation of the deadline
(`quiet_of_flushing`).
-/

import Moh.Backend.Accounts
import Moh.Library.Run
import Moh.Session.Sane

namespace Moh
namespace Backend
namespace Server

variable {w : Server}

theorem Accounted.initialized (hw : w.Accounted) (hl : w.serving = .listening) (ok : Bool) :
    (w.initialized ok).Accounted := by
  unfold Server.initialized
  split_ifs
  · exact hw
  · exact { hw with
      unready := nofun
      flushing := fun snapshot result hf =>
        (hw.flushing snapshot result hf).congr rfl rfl rfl fun _ hv => hv
      quiet := fun hq => absurd (hl.symm.trans hq) nofun }
  · exact hw.leave (by simp [hl]) (by simp)

theorem Accounted.reap (hw : w.Accounted) (hl : w.serving = .listening) : w.reap.Accounted := by
  unfold Server.reap
  split
  · exact hw
  · exact hw.elsewhere (fun result => by simp [hl]) w.completions _ w.backlog w.waiter
  · exact hw.leave (by simp [hl]) (by simp)

/-- A branch of the loop. -/
theorem Accounted.branch (hw : w.Accounted) {w' : Server}
    (hw' : w.serving = .listening → w'.Accounted) :
    (if let .listening := w.serving then w' else w).Accounted := by
  split
  · rename_i hl
    exact hw' hl
  · exact hw

/-- **Every step keeps the accounts.** -/
theorem Accounted.act (hw : w.Accounted) (hs : w.Serves) (input : Input) :
    (w.act input).Accounted := by
  cases input with
  | connect => exact hw.elsewhere hs w.completions w.completed (w.backlog + 1) w.waiter
  | send id h => exact hw.send hs id h
  | request id command => exact hw.request hs id command
  | hangUp id => exact hw.hangUp hs id
  | closed id => exact hw.closed hs id
  | take script handled => exact hw.take hs script handled
  | ask => exact hw.ask hs
  | answer wait => exact hw.answer hs wait
  | titleFinished index generated => exact hw.titleFinished hs index generated
  | route index wait => exact hw.route hs index wait
  | begin h command => exact hw.begin hs h command
  | handle h env => exact hw.handle hs h env
  | occur h env input => exact hw.occur hs h env input
  | finished h => exact hw.manager hs (SessionManager.passes_background hw.tracked (.finished h))
  | jobs id count =>
    exact hw.manager hs (SessionManager.passes_booked hw.tracked _ w.manager.titleTasks
      (fun i => ActivityTracker.hasRun_setRunningJobs w.activity id i count)
      (ActivityTracker.continues_setRunningJobs ..))
  | accept polled => exact hw.branch fun hl => hw.accept hl polled
  | initialized ok => exact hw.branch fun hl => hw.initialized hl ok
  | signal ok => exact hw.branch fun hl => hw.leave (by simp [hl]) (by cases ok <;> simp)
  | reap => exact hw.branch fun hl => hw.reap hl
  | observe => exact hw.branch fun _ => hw.elsewhere hs w.completions w.completed w.backlog _
  | elapsed polled => exact hw.branch fun hl => hw.elapsed hl polled
  | flushed polled =>
    rw [Server.act]
    split
    · rename_i hf
      exact hw.flushed hf polled
    · exact hw

theorem Accounted.step (hw : w.Accounted) (input : Input) : (w.step input).Accounted := by
  unfold Server.step
  split
  · exact hw
  · rename_i hs
    exact hw.act (fun result hl => hs result hl) input

/-- A backend that just started has nothing to account for. -/
theorem accounted_new {store : SessionStore} (hs : store.InOrder) : (new store).Accounted where
  tracked := SessionManager.tracked_new hs
  connected id := by simp [new, activity, SessionManager.new, ActivityTracker.new]
  allotted := by simp [new]
  requests := by simp [new]
  senders := by simp [new]
  cleanups := by simp [new]
  ordered := List.Pairwise.nil
  managing := by simp [new]
  ahead := by simp [new]
  unready := by simp [new, SessionManager.new]
  fresh _ _ := rfl
  busy := by simp [new]
  inboxes := by simp [new]
  visiting := by simp [new]
  flushing := by simp [new]
  quiet := by simp [new]

/-- **Every reachable backend is accounted for.** -/
theorem accounted_of_run {store : SessionStore} (hs : store.InOrder) (inputs : List Input) :
    (Run.run step (new store) inputs).Accounted :=
  Run.run_invariant (I := Accounted) (fun _ i hw => hw.step i) (accounted_new hs) inputs

/-! ### The generation only grows -/

theorem later_acceptQueued {polled : Polled} {queued : Bool} {w' : Server}
    (h : w.acceptQueued polled = .ok (queued, w')) : w.activity.Later w'.activity := by
  rcases acceptQueued_eq_ok h with ⟨-, rfl⟩ | ⟨-, hr⟩
  · exact .refl _
  · unfold Server.retain at hr
    cases hn : w.nextConnection with
    | none => simp [hn] at hr
    | some id =>
      simp only [hn, Except.ok.injEq] at hr
      subst hr
      exact ActivityTracker.later_setConnection ..

theorem later_accept (w : Server) (polled : Polled) : w.activity.Later (w.accept polled).activity := by
  unfold Server.accept
  cases ha : w.acceptQueued polled with
  | error error => exact .refl _
  | ok r => exact later_acceptQueued ha

theorem later_elapsed (w : Server) (polled : Polled) :
    w.activity.Later (w.elapsed polled).activity := by
  unfold Server.elapsed
  split
  · split_ifs
    · unfold Server.deadline
      cases ha : w.acceptQueued polled with
      | error error => exact .refl _
      | ok r =>
        have hl := later_acceptQueued ha
        simp only
        split_ifs <;> exact hl
    · exact .refl _
  · exact .refl _

theorem later_flushed (w : Server) (snapshot : ActivitySnapshot) (ok : Bool) (polled : Polled) :
    w.activity.Later (w.flushed snapshot ok polled).activity := by
  unfold Server.flushed
  split_ifs
  · exact .refl _
  · cases ha : w.acceptQueued polled with
    | error error => exact .refl _
    | ok r =>
      have hl := later_acceptQueued ha
      simp only
      split_ifs <;> exact hl

theorem activity_settle (w : Server) (purpose : Purpose)
    (result : Except SessionManagerError Unit) : (w.settle purpose result).activity = w.activity := by
  unfold Server.settle
  cases purpose with
  | cleanup id => rfl
  | flush =>
    simp only
    split <;> rfl

theorem later_take (hw : w.Accounted) (script : Script) (handled : SessionHandle → ℕ) :
    w.activity.Later (w.take script handled).activity := by
  unfold Server.take
  split
  · rename_i id command rest hmanaging hq
    split_ifs
    · exact .refl _
    · exact (w.manager.continues_handleCommand script
        (hw.requests id command (by simp [hq]))).later
  · split_ifs
    · exact .inl (activity_settle ..)
    · exact .refl _
  · exact .refl _

theorem later_ask (w : Server) : w.activity.Later w.ask.activity := by
  unfold Server.ask
  split
  · exact .inl (activity_settle ..)
  · split <;> exact .refl _
  · exact .refl _

theorem later_answer (hw : w.Accounted) (wait : Await) :
    w.activity.Later (w.answer wait).activity := by
  unfold Server.answer
  split
  · rename_i purpose h rest error hv
    have hp := SessionManager.passes_askUnit hw.tracked h (w := { wait with early := [] }) rfl
      (c := purpose.command) (by cases purpose <;> simp [Purpose.command])
    generalize w.manager.askUnit h { wait with early := [] } purpose.command = r at hp
    obtain ⟨error | u, m'⟩ := r <;> exact hp.continues.later
  · exact .refl _

/-- A branch of the loop. -/
theorem later_branch {w' : Server} (h : w.activity.Later w'.activity) :
    w.activity.Later (if let .listening := w.serving then w' else w).activity := by
  split
  · exact h
  · exact .refl _

/-- **The generation only grows,** and with every change. -/
theorem later_act (hw : w.Accounted) (input : Input) : w.activity.Later (w.act input).activity := by
  have hbackground (b : Background) : w.activity.Later (w.manager.background b).activity :=
    (SessionManager.passes_background hw.tracked b).continues.later
  cases input with
  | connect => exact .refl _
  | accept polled => exact later_branch (later_accept w polled)
  | initialized ok =>
    refine later_branch ?_
    unfold Server.initialized
    split_ifs <;> exact .refl _
  | signal ok => exact later_branch (.refl _)
  | reap =>
    refine later_branch ?_
    unfold Server.reap
    split <;> exact .refl _
  | observe => exact later_branch (.refl _)
  | elapsed polled => exact later_branch (later_elapsed w polled)
  | flushed polled =>
    rw [Server.act]
    split
    · exact later_flushed w _ _ polled
    · exact .refl _
  | send id h =>
    show w.activity.Later (w.send id h).activity
    unfold Server.send
    split
    · split_ifs <;> exact .refl _
    · exact .refl _
  | request id command =>
    show w.activity.Later (w.request id command).activity
    unfold Server.request
    split
    · split_ifs <;> exact .refl _
    · exact .refl _
  | hangUp id =>
    show w.activity.Later (w.hangUp id).activity
    unfold Server.hangUp
    split
    · split_ifs <;> exact .refl _
    · exact .refl _
  | closed id =>
    show w.activity.Later (w.closed id).activity
    unfold Server.closed
    split
    · exact ActivityTracker.later_setConnection ..
    · exact .refl _
  | take script handled => exact later_take hw script handled
  | ask => exact later_ask w
  | answer wait => exact later_answer hw wait
  | titleFinished index generated =>
    show w.activity.Later (w.titleFinished index generated).activity
    unfold Server.titleFinished
    split
    · exact .refl _
    · exact w.activity.continues_finishTitleTask.later
  | route index wait =>
    show w.activity.Later (w.route index wait).activity
    unfold Server.route
    split
    · split_ifs
      · exact .refl _
      · exact (SessionManager.passes_routeTitleCompletion hw.tracked rfl _ _).continues.later
    · exact .refl _
  | begin h command =>
    show w.activity.Later (w.begin h command).activity
    unfold Server.begin
    split_ifs <;> exact .refl _
  | handle h env =>
    show w.activity.Later (w.handle h env).activity
    unfold Server.handle
    split
    · exact hbackground _
    · exact .refl _
  | occur h env input =>
    show w.activity.Later (w.occur h env input).activity
    unfold Server.occur
    split
    · exact .refl _
    · exact hbackground _
  | finished h => exact hbackground (.finished h)
  | jobs id count => exact ActivityTracker.later_setRunningJobs ..

theorem later_run (hw : w.Accounted) (inputs : List Input) :
    w.activity.Later (Run.run step w inputs).activity := by
  induction inputs generalizing w with
  | nil => exact .refl _
  | cons input inputs ih =>
    have hstep : w.activity.Later (w.step input).activity := by
      unfold Server.step
      split
      · exact .refl _
      · exact later_act hw input
    exact hstep.trans (ih (hw.step input))

/-! ### Idle shutdown -/

/-- The flush was answered, and the loop looks whether it may be left. -/
theorem step_flushed {snapshot : ActivitySnapshot} {ok : Bool}
    (hf : w.serving = .flushing snapshot (some ok)) (polled : Polled) :
    w.step (.flushed polled) = w.flushed snapshot ok polled := by
  simp only [step, act, hf]

/-- A change while the flush was awaited is still seen when it was answered. -/
theorem changed_run (hw : w.Accounted) {snapshot : ActivitySnapshot} {result : Option Bool}
    (hf : w.serving = .flushing snapshot result) (hne : w.activity.snapshot ≠ snapshot)
    (inputs : List Input) : (Run.run step w inputs).activity.snapshot ≠ snapshot := by
  have hold := hw.flushing _ _ hf
  intro he
  have hgrown := (later_run hw inputs).generation_le
  have hgeneration : (Run.run step w inputs).activity.generation = snapshot.generation :=
    congrArg ActivitySnapshot.generation he
  have hlater := hold.later
  exact hne (hold.same (by omega))

/-- **What idle shutdown promises.**  The loop is left for idleness only where nothing
would be lost; a flush that failed, a change while it was awaited, and a connection that
is queued behind it make the loop keep serving. -/
structure LosesNothing (w : Server) : Prop where
  quiet : w.serving = .left (.ok .idle) → w.Quiet
  failed : ∀ snapshot polled, w.serving = .flushing snapshot (some false) →
    (w.step (.flushed polled)).serving = .listening
  changed : ∀ snapshot result, w.serving = .flushing snapshot result →
    w.activity.snapshot ≠ snapshot → ∀ inputs ok,
      (Run.run step w inputs).serving = .flushing snapshot (some ok) → ∀ polled,
        ((Run.run step w inputs).step (.flushed polled)).serving = .listening
  queued : ∀ snapshot ok polled w', w.serving = .flushing snapshot (some ok) →
    w.acceptQueued polled = .ok (true, w') →
      (w.step (.flushed polled)).serving = .listening

/-- **Idle shutdown loses nothing:** in every run, whatever is accepted, hung up,
submitted, completed or fails in it, and in whatever order. -/
theorem losesNothing_of_run {store : SessionStore} (hs : store.InOrder) (inputs : List Input) :
    (Run.run step (new store) inputs).LosesNothing := by
  have hw := accounted_of_run hs inputs
  generalize Run.run step (new store) inputs = w at hw
  refine ⟨hw.quiet, fun snapshot polled hf => ?_,
    fun snapshot result hf hne inputs ok hf' polled => ?_,
    fun snapshot ok polled w' hf ha => ?_⟩
  · rw [step_flushed hf]
    rfl
  · have hchanged := changed_run hw hf hne inputs
    rw [step_flushed hf', Server.flushed, if_pos (by simp [sameIdleGeneration, hchanged])]
    rfl
  · rw [step_flushed hf, Server.flushed]
    split_ifs
    · rfl
    · simp only [ha, if_true]
      rfl

/-- A client connects and hangs up, its connection is cleaned up, and the backend that
nobody uses any more flushes and leaves. -/
def desertedRun : List Input :=
  [.connect, .accept .connection, .initialized true, .hangUp ⟨1⟩,
    .take SessionManager.quietScript fun _ => 0, .ask, .closed ⟨1⟩, .reap, .observe,
    .elapsed .nothing, .take SessionManager.quietScript fun _ => 0, .ask, .flushed .nothing]

/-- `losesNothing_of_run` on a run that leaves for idleness. -/
theorem losesNothing_deserted :
    (Run.run step (new SessionManager.oneSession) desertedRun).serving = .left (.ok .idle) ∧
      (Run.run step (new SessionManager.oneSession) desertedRun).LosesNothing :=
  ⟨rfl, losesNothing_of_run SessionManager.inOrder_oneSession desertedRun⟩

end Server
end Backend
end Moh
