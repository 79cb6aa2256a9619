/-
# Waiting for jobs

`tools/job.rs`: `JobRegistry::wait` subscribes to the version of the registry before it looks
for terminal jobs, and waits for a change where it finds none.  The version changes behind
the critical section of an operation, so between the two a waiter may sleep on a job that is
terminal; no longer than that (`waited_of_run`).  What it returns are snapshots that jobs
settled with.
-/

import Moh.Library.Watch
import Moh.Tools.JobLease

namespace Moh
namespace Tools

variable {D : Type}

/-- `terminal_requested`: the snapshots of those jobs that are terminal, in the order in
which they are asked for; the first one that is not there is an error. -/
def JobRegistry.terminalRequested (r : JobRegistry D) :
    List JobId → Except JobRegistryError (List (JobSnapshot D))
  | [] => .ok []
  | id :: ids =>
    match r.jobs.find id with
    | none => .error (.notFound id)
    | some entry =>
      match r.terminalRequested ids with
      | .error error => .error error
      | .ok rest =>
        .ok (if terminal entry.snapshot.state then entry.snapshot :: rest else rest)

/-- What `wait` returns of a look; it goes on where no job is terminal. -/
def JobRegistry.awaited (r : JobRegistry D) (ids : List JobId) :
    Option (Except JobRegistryError (List (JobSnapshot D))) :=
  match r.terminalRequested ids with
  | .ok [] => none
  | result => some result

/-- `wait` on the registry: an operation announces that it was notified, by its version. -/
def jobWatch (D : Type) : Watch.System (JobWorld D) (JobOperation D) (List JobId)
    (Except JobRegistryError (List (JobSnapshot D))) where
  operate := JobWorld.step
  announces w operation := decide ((w.step operation).registry.version ≠ w.registry.version)
  look w ids := w.registry.awaited ids

namespace JobWait

open JobWorld

variable {w : JobWorld D}

/-! ### What is looked up -/

/-- A job that is there and not terminal. -/
def Pending (r : JobRegistry D) (id : JobId) : Prop :=
  ∃ entry, r.jobs.find id = some entry ∧ terminal entry.snapshot.state = false

theorem terminalRequested_eq_nil_iff {r : JobRegistry D} {ids : List JobId} :
    r.terminalRequested ids = .ok [] ↔ ∀ id ∈ ids, Pending r id := by
  induction ids with
  | nil => simp [JobRegistry.terminalRequested]
  | cons id ids ih =>
    rw [List.forall_mem_cons, ← ih, JobRegistry.terminalRequested, Pending]
    cases hfind : r.jobs.find id with
    | none => simp
    | some entry =>
      cases hrest : r.terminalRequested ids with
      | error error => simp
      | ok rest => cases hstate : terminal entry.snapshot.state <;> simp [hstate]

/-- `wait` goes on as long as all of its jobs are there and none is terminal. -/
theorem awaited_eq_none_iff {r : JobRegistry D} {ids : List JobId} :
    r.awaited ids = none ↔ ∀ id ∈ ids, Pending r id := by
  rw [← terminalRequested_eq_nil_iff, JobRegistry.awaited]
  split
  · rename_i hok
    simp [hok]
  · rename_i hne
    simpa using fun hok => hne hok

/-- What is requested is what the terminal jobs among them settled with. -/
theorem mem_terminalRequested {r : JobRegistry D} {ids : List JobId}
    {snapshots : List (JobSnapshot D)} (h : r.terminalRequested ids = .ok snapshots)
    {snapshot : JobSnapshot D} (hmem : snapshot ∈ snapshots) :
    ∃ id ∈ ids, ∃ entry, r.jobs.find id = some entry ∧
      terminal entry.snapshot.state = true ∧ snapshot = entry.snapshot := by
  induction ids generalizing snapshots with
  | nil =>
    obtain rfl : [] = snapshots := Except.ok.inj h
    simp at hmem
  | cons id ids ih =>
    rw [JobRegistry.terminalRequested] at h
    cases hfind : r.jobs.find id with
    | none => simp [hfind] at h
    | some entry =>
      cases hrest : r.terminalRequested ids with
      | error error => simp [hfind, hrest] at h
      | ok rest =>
        simp only [hfind, hrest, Except.ok.injEq] at h
        subst h
        have htail (hin : snapshot ∈ rest) := ih hrest hin
        split_ifs at hmem with hstate
        · rcases List.mem_cons.1 hmem with rfl | hin
          · exact ⟨id, by simp, entry, hfind, hstate, rfl⟩
          · obtain ⟨other, hother, hentry⟩ := htail hin
            exact ⟨other, List.mem_cons_of_mem _ hother, hentry⟩
        · obtain ⟨other, hother, hentry⟩ := htail hmem
          exact ⟨other, List.mem_cons_of_mem _ hother, hentry⟩

/-- The error of a look is a job that is not there. -/
theorem terminalRequested_eq_error {r : JobRegistry D} {ids : List JobId}
    {error : JobRegistryError} (h : r.terminalRequested ids = .error error) :
    ∃ id ∈ ids, error = .notFound id ∧ r.jobs.find id = none := by
  induction ids with
  | nil => simp [JobRegistry.terminalRequested] at h
  | cons id ids ih =>
    rw [JobRegistry.terminalRequested] at h
    cases hfind : r.jobs.find id with
    | none =>
      simp only [hfind, Except.error.injEq] at h
      exact ⟨id, by simp, h.symm, hfind⟩
    | some entry =>
      cases hrest : r.terminalRequested ids with
      | ok rest => simp [hfind, hrest] at h
      | error error' =>
        simp only [hfind, hrest, Except.error.injEq] at h
        subst h
        obtain ⟨other, hother, herror⟩ := ih hrest
        exact ⟨other, List.mem_cons_of_mem _ hother, herror⟩

/-! ### What is announced -/

/-- A job is pending from its start until it settles. -/
theorem pending_iff (h : w.Steady) {id : JobId} :
    Pending w.registry id ↔ id ∈ w.started ∧ id ∉ w.settledIds := by
  constructor
  · rintro ⟨entry, hentry, hstate⟩
    refine ⟨(h.sound.entry_id id entry hentry).2, fun hsettled => ?_⟩
    rw [(h.sound.terminal_iff id entry hentry).2 hsettled] at hstate
    cases hstate
  · rintro ⟨hstarted, hsettled⟩
    obtain ⟨entry, hentry⟩ := h.sound.kept id hstarted hsettled
    refine ⟨entry, hentry, ?_⟩
    rw [← Bool.not_eq_true, h.sound.terminal_iff id entry hentry]
    exact hsettled

theorem version_notify {r : JobRegistry D} (h : r.version < u64Max) :
    r.notify.2.version = r.version + 1 := by
  have hsucc : checkedSucc r.version = some (r.version + 1) := checkedSucc_eq_some_iff.2 ⟨h, rfl⟩
  simp only [JobRegistry.notify, hsucc]

/-- A job that is settled is announced, while the version has room. -/
theorem announced_finishLease {r : JobRegistry D} (hroom : r.version < u64Max) (id : JobId)
    (state : JobState) (details : JobDetails D) (now : Timestamp) :
    (r.finishLease id state details now).settled = [] ∨
      (r.finishLease id state details now).registry.version = r.version + 1 := by
  unfold JobRegistry.finishLease
  split
  · exact .inl rfl
  · unfold JobRegistry.finish
    split_ifs
    · exact .inl rfl
    · split
      · exact .inl rfl
      · exact .inr (version_notify hroom)

/-- **An operation that is not announced settles no job,** while the version has room. -/
theorem settled_of_version (operation : JobOperation D) (hroom : w.registry.version < u64Max)
    (hversion : (w.step operation).registry.version = w.registry.version) :
    (w.step operation).settled = w.settled := by
  have hquiet {α : Type} {o : Outcome D α} (ho : o.settled = []) :
      (w.record o).settled = w.settled := by
    show w.settled ++ o.settled = w.settled
    rw [ho, List.append_nil]
  cases operation with
  | start kind title details now =>
    rw [JobWorld.step]
    split
    · exact hquiet (settled_start _ _ _ _ _)
    · exact hquiet (settled_start _ _ _ _ _)
  | update id token details => exact hquiet (settled_update _ _ _ _)
  | finish id state details now =>
    rw [JobWorld.step] at hversion ⊢
    split_ifs at hversion ⊢
    · dsimp only at hversion ⊢
      rcases announced_finishLease hroom id state details now with hnothing | hnext
      · split
        · exact hquiet hnothing
        · exact hquiet hnothing
      · split at hversion
        · exact absurd (hnext.symm.trans hversion) (Nat.succ_ne_self _)
        · exact absurd (hnext.symm.trans hversion) (Nat.succ_ne_self _)
    · rfl
  | drop id now =>
    rw [JobWorld.step] at hversion ⊢
    split_ifs at hversion ⊢
    · rcases announced_finishLease hroom id .failed .producerDisappeared now with hnothing | hnext
      · exact hquiet hnothing
      · exact absurd (hnext.symm.trans hversion) (Nat.succ_ne_self _)
    · rfl
  | cancel id => exact hquiet (settled_requestCancel _ _)
  | shutdown => exact hquiet rfl
  | endShutdown =>
    rw [JobWorld.step]
    split_ifs
    · exact hquiet rfl
    · rfl

/-- What was started stays started. -/
theorem started_prefix_step (w : JobWorld D) (operation : JobOperation D) :
    w.started <+: (w.step operation).started := by
  cases operation with
  | start kind title details now =>
    rw [step]
    split <;> exact List.prefix_append _ _
  | finish id state details now =>
    rw [step]
    split_ifs
    · dsimp only
      split <;> exact List.prefix_append _ _
    · exact List.prefix_rfl
  | drop id now =>
    rw [step]
    split_ifs
    · exact List.prefix_append _ _
    · exact List.prefix_rfl
  | endShutdown =>
    rw [step]
    split_ifs
    · exact List.prefix_append _ _
    · exact List.prefix_rfl
  | update id token details => exact List.prefix_append _ _
  | cancel id => exact List.prefix_append _ _
  | shutdown => exact List.prefix_append _ _

/-- What is pending stays so until it is announced. -/
theorem awaited_of_unannounced (h : w.Steady) (operation : JobOperation D) (ids : List JobId)
    (hroom : w.registry.version < u64Max)
    (hversion : (w.step operation).registry.version = w.registry.version)
    (hnone : w.registry.awaited ids = none) :
    (w.step operation).registry.awaited ids = none := by
  rw [awaited_eq_none_iff] at hnone ⊢
  intro id hid
  obtain ⟨hstarted, hsettled⟩ := (pending_iff h).1 (hnone id hid)
  refine (pending_iff (steady_step w operation h)).2
    ⟨(started_prefix_step w operation).subset hstarted, ?_⟩
  rw [settledIds, settled_of_version operation hroom hversion]
  exact hsettled

/-! ### Every run -/

/-- What `wait` returned: snapshots that requested jobs settled with, or the error of a job
that is not retained; one that was started before the run has settled and been evicted. -/
def Returned (known : List JobId) (w : JobWorld D) (ids : List JobId) :
    Except JobRegistryError (List (JobSnapshot D)) → Prop
  | .ok snapshots =>
    snapshots ≠ [] ∧ ∀ snapshot ∈ snapshots, snapshot.id ∈ ids ∧ snapshot ∈ w.settled
  | .error error =>
    ∃ id ∈ ids, error = .notFound id ∧ (id ∈ known → id ∈ w.settledIds)

theorem returned_of_awaited {known : List JobId} (h : w.Steady)
    (hknown : ∀ id ∈ known, id ∈ w.started) {ids : List JobId}
    {result : Except JobRegistryError (List (JobSnapshot D))}
    (hresult : w.registry.awaited ids = some result) : Returned known w ids result := by
  unfold JobRegistry.awaited at hresult
  split at hresult
  · simp at hresult
  · rename_i hne
    obtain rfl := Option.some.inj hresult
    cases hrequested : w.registry.terminalRequested ids with
    | ok snapshots =>
      refine ⟨fun hnil => hne (hnil ▸ hrequested), fun snapshot hmem => ?_⟩
      obtain ⟨id, hid, entry, hentry, hstate, rfl⟩ := mem_terminalRequested hrequested hmem
      rw [(h.sound.entry_id id entry hentry).1]
      exact ⟨hid, h.sound.fixed id entry hentry hstate⟩
    | error error =>
      obtain ⟨id, hid, herror, hnone⟩ := terminalRequested_eq_error hrequested
      refine ⟨id, hid, herror, fun hmem => ?_⟩
      by_contra hunsettled
      obtain ⟨entry, hentry⟩ := h.sound.kept id (hknown id hmem) hunsettled
      rw [hnone] at hentry
      cases hentry

/-- What was returned stays what it was. -/
theorem Returned.step {known ids : List JobId}
    {result : Except JobRegistryError (List (JobSnapshot D))} (h : Returned known w ids result)
    (operation : JobOperation D) : Returned known (w.step operation) ids result := by
  have hgrown := settled_prefix_step w operation
  cases result with
  | ok snapshots =>
    exact ⟨h.1, fun snapshot hmem => ⟨(h.2 snapshot hmem).1, hgrown.subset (h.2 snapshot hmem).2⟩⟩
  | error error =>
    obtain ⟨id, hid, herror, hsettled⟩ := h
    exact ⟨id, hid, herror, fun hmem => (hgrown.map JobSnapshot.id).subset (hsettled hmem)⟩

/-- **No wait sleeps on a job that is terminal.**  However waiters, operations on the
registry and their announcements interleave, as long as the version has room: a waiter that
has seen all announcements, none of which is under way, waits for jobs that are all there and
all running; and what a wait returned are snapshots that requested jobs settled with, at
least one, or the error of a requested job that is not retained, which has settled if it was
started before. -/
theorem waited_of_run (operations : List (JobOperation D))
    (moves : List (Watch.Move (JobOperation D) (List JobId)))
    (hroom : Run.Guarded (Watch.step (jobWatch D))
      (Watch.Meets fun w _ => w.registry.version < u64Max)
      (.start (Run.run JobWorld.step .new operations)) moves) :
    let w := Run.run (Watch.step (jobWatch D)) (.start (Run.run JobWorld.step .new operations))
      moves
    (∀ n ids seen, w.waiter n = .waiting ids seen → w.sends = seen → w.notices = 0 →
      ∀ id ∈ ids, ∃ entry, w.state.registry.jobs.find id = some entry ∧
        terminal entry.snapshot.state = false) ∧
    ∀ n ids result, w.waiter n = .found ids result →
      Returned (Run.run JobWorld.step .new operations).started w.state ids result := by
  intro w
  have hsteady : (Run.run JobWorld.step .new operations : JobWorld D).Steady :=
    Run.run_invariant steady_step steady_new operations
  let known := (Run.run JobWorld.step .new operations : JobWorld D).started
  let P (w : JobWorld D) : Prop := w.Steady ∧ ∀ id ∈ known, id ∈ w.started
  have hstart : P (Run.run JobWorld.step .new operations) := ⟨hsteady, fun id hid => hid⟩
  have hP (s : JobWorld D) (operation : JobOperation D) (hs : P s)
      (_ : s.registry.version < u64Max) : P (s.step operation) :=
    ⟨steady_step s operation hs.1,
      fun id hid => (started_prefix_step s operation).subset (hs.2 id hid)⟩
  constructor
  · intro n ids seen hwaiter hseen hnotices
    refine awaited_eq_none_iff.1 (Watch.awake_of_run hP ?_ hstart hroom hwaiter hseen hnotices)
    intro s operation ids hs hG hannounces hnone
    refine awaited_of_unannounced hs.1 operation ids hG ?_ hnone
    simpa [jobWatch] using hannounces
  · intro n ids result hwaiter
    refine Watch.found_of_run (Q := Returned known) hP ?_ ?_ hstart hroom hwaiter
    · exact fun s ids result hs hlook => returned_of_awaited hs.1 hs.2 hlook
    · exact fun s operation ids result hresult => hresult.step operation

/-- A waiter that looked before the job settled is told of it. -/
theorem waited_of_run_settled :
    let w := Run.run (Watch.step (jobWatch Unit))
      (.start (Run.run JobWorld.step .new [.start .bash "" () 0]))
      [.subscribe 0 [0], .look 0, .operate (.finish 0 .completed (.published ()) 1), .notify,
        .wake 0, .look 0]
    ∃ snapshot, w.waiter 0 = .found [0] (.ok [snapshot]) ∧ snapshot ∈ w.state.settled := by
  have hroom : (1 : ℕ) < u64Max := by decide
  have hreturned := (waited_of_run [.start .bash "" () 0] [.subscribe 0 [0], .look 0,
    .operate (.finish 0 .completed (.published ()) 1), .notify, .wake 0, .look 0]
    ⟨trivial, trivial, hroom, trivial, trivial, trivial, trivial⟩).2 0 [0] _ rfl
  exact ⟨_, rfl, (hreturned.2 _ (List.mem_singleton_self _)).2⟩

end JobWait
end Tools
end Moh
