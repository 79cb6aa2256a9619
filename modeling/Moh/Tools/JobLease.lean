/-
# The lease of a job

`tools/job.rs`: a running job has one `JobLease`, and only that settles it.  What everybody
else does with the registry leaves the job running and the lease where it is
(`lease_of_foreign`); the lease settles the job in the state and with the details that it
gives, whatever the notification of the observers comes to (`settled_of_finish`).
-/

import Moh.Tools.JobLife

namespace Moh
namespace Tools
namespace JobWorld

variable {D : Type} {w : JobWorld D} {id : JobId}

/-- A job gets the next identifier. -/
theorem id_of_start {r : JobRegistry D} {kind : JobKind} {title : String} {details : D}
    {now : Timestamp} (h : (r.start kind title details now).result = .ok id) :
    id = r.nextId := by
  unfold JobRegistry.start at h
  split_ifs at h
  split at h
  · simp at h
  · split at h
    · simp at h
    · have hmap : ((JobRegistry.notify _).1.map fun _ => r.nextId) = .ok id := h
      revert hmap
      cases (JobRegistry.notify _).1 with
      | error error => exact fun hfalse => by cases hfalse
      | ok done => exact fun hdone => (Except.ok.inj hdone).symm

/-- What `finish` settles is the job that it is given. -/
theorem id_of_mem_finishLease (h : w.Steady) {other : JobId} {state : JobState}
    {details : JobDetails D} {now : Timestamp} {snapshot : JobSnapshot D}
    (hmem : snapshot ∈ (w.registry.finishLease other state details now).settled) :
    snapshot.id = other := by
  unfold JobRegistry.finishLease at hmem
  split at hmem
  · simp at hmem
  · rename_i entry hentry
    unfold JobRegistry.finish at hmem
    split_ifs at hmem
    · simp at hmem
    · split at hmem
      · simp at hmem
      · rename_i owner howner
        obtain ⟨hfind, -⟩ := owned_eq_ok howner
        obtain rfl := List.mem_singleton.1 hmem
        exact (h.sound.entry_id other owner hfind).1

/-- What is recorded of a job is settled only by its own operations. -/
theorem notMem_settledIds_record {α : Type} {o : Outcome D α} (hsettled : id ∉ w.settledIds)
    (ho : ∀ snapshot ∈ o.settled, snapshot.id ≠ id) : id ∉ (w.record o).settledIds := by
  intro hmem
  obtain ⟨snapshot, hsnapshot, hid⟩ := List.mem_map.1 hmem
  rcases List.mem_append.1 hsnapshot with hold | hnew
  · exact hsettled (List.mem_map.2 ⟨snapshot, hold, hid⟩)
  · exact ho snapshot hnew hid

theorem settled_start (r : JobRegistry D) (kind : JobKind) (title : String) (details : D)
    (now : Timestamp) : (r.start kind title details now).settled = [] := by
  unfold JobRegistry.start
  split_ifs
  · rfl
  · rfl
  · split
    · rfl
    · split <;> rfl

theorem settled_update (r : JobRegistry D) (other : JobId) (token : ℕ) (details : D) :
    (r.update other token details).settled = [] := by
  unfold JobRegistry.update
  split <;> rfl

theorem settled_requestCancel (r : JobRegistry D) (other : JobId) :
    (r.requestCancel other).settled = [] := by
  unfold JobRegistry.requestCancel
  split
  · rfl
  · split_ifs <;> rfl

/-- **What others do leaves the job to its lease.** -/
theorem lease_of_foreign (h : w.Steady) (operation : JobOperation D)
    (hfinish : ∀ state details now, operation ≠ .finish id state details now)
    (hdrop : ∀ now, operation ≠ .drop id now) (hlease : id ∈ w.leases)
    (hsettled : id ∉ w.settledIds) :
    id ∈ (w.step operation).leases ∧ id ∉ (w.step operation).settledIds := by
  have hkeeps {other : JobId} (hother : other ≠ id) (v : JobWorld D) (hv : id ∈ v.leases) :
      id ∈ (v.release other).leases :=
    List.mem_filter.2 ⟨hv, decide_eq_true hother.symm⟩
  cases operation with
  | start kind title details now =>
    have hquiet := notMem_settledIds_record (o := w.registry.start kind title details now) hsettled
      fun snapshot hmem => by simp [settled_start] at hmem
    rw [step]
    split
    · exact ⟨List.mem_append_left _ hlease, hquiet⟩
    · exact ⟨hlease, hquiet⟩
  | update other token details =>
    exact ⟨hlease, notMem_settledIds_record hsettled fun snapshot hmem => by
      simp [settled_update] at hmem⟩
  | finish other state details now =>
    have hother : other ≠ id := fun heq => hfinish state details now (heq ▸ rfl)
    have hquiet := notMem_settledIds_record
      (o := w.registry.finishLease other state details now) hsettled
      fun snapshot hmem heq => hother ((id_of_mem_finishLease h hmem).symm.trans heq)
    rw [step]
    split_ifs
    · dsimp only
      split
      · exact ⟨hkeeps hother _ hlease, hquiet⟩
      · exact ⟨hlease, hquiet⟩
    · exact ⟨hlease, hsettled⟩
  | drop other now =>
    have hother : other ≠ id := fun heq => hdrop now (heq ▸ rfl)
    have hquiet := notMem_settledIds_record (o := w.registry.dropLease other now) hsettled
      fun snapshot hmem heq => hother ((id_of_mem_finishLease h hmem).symm.trans heq)
    rw [step]
    split_ifs
    · exact ⟨hkeeps hother _ hlease, hquiet⟩
    · exact ⟨hlease, hsettled⟩
  | cancel other =>
    exact ⟨hlease, notMem_settledIds_record hsettled fun snapshot hmem => by
      simp [settled_requestCancel] at hmem⟩
  | shutdown =>
    exact ⟨hlease, notMem_settledIds_record hsettled fun snapshot hmem => by
      simp [JobRegistry.shutdown] at hmem⟩
  | endShutdown =>
    have hquiet := notMem_settledIds_record (o := w.registry.cleanupRetained) hsettled
      fun snapshot hmem => by simp [JobRegistry.cleanupRetained] at hmem
    rw [step]
    split_ifs
    · exact ⟨hlease, hquiet⟩
    · exact ⟨hlease, hsettled⟩

/-- A running job is settled by its lease, whatever the notification comes to. -/
theorem exists_mem_finishLease (h : w.Steady) (hlease : id ∈ w.leases)
    (hsettled : id ∉ w.settledIds) {state : JobState} (hstate : terminal state = true)
    (details : JobDetails D) (now : Timestamp) :
    ∃ snapshot ∈ (w.registry.finishLease id state details now).settled,
      snapshot.id = id ∧ snapshot.state = state ∧ snapshot.details = details := by
  obtain ⟨entry, hentry⟩ := h.sound.kept id (h.sound.leased id hlease) hsettled
  have hrunning : terminal entry.snapshot.state = false := by
    rw [← Bool.not_eq_true, h.sound.terminal_iff id entry hentry]
    exact hsettled
  have howned : w.registry.owned id entry.token = .ok entry := by
    simp [JobRegistry.owned, hentry, hrunning]
  simp only [JobRegistry.finishLease, hentry, JobRegistry.finish, hstate, howned,
    Bool.true_eq_false, if_false]
  exact ⟨_, List.mem_singleton_self _, (h.sound.entry_id id entry hentry).1, rfl, rfl⟩

/-- **The lease settles its job** in the state and with the details that it gives. -/
theorem settled_of_finish (h : w.Steady) (hlease : id ∈ w.leases) (hsettled : id ∉ w.settledIds)
    {state : JobState} (hstate : terminal state = true) (details : JobDetails D)
    (now : Timestamp) :
    ∃ snapshot ∈ ((w.step (.finish id state details now)).step (.drop id now)).settled,
      snapshot.id = id ∧ snapshot.state = state ∧ snapshot.details = details := by
  obtain ⟨snapshot, hmem, hsnapshot⟩ := exists_mem_finishLease h hlease hsettled hstate details now
  refine ⟨snapshot, (settled_prefix_step _ _).subset ?_, hsnapshot⟩
  rw [step, if_pos hlease]
  dsimp only
  split
  · exact List.mem_append_right _ hmem
  · exact List.mem_append_right _ hmem

end JobWorld
end Tools
end Moh
