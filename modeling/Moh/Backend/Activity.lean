/-
# Backend-global activity

`backend/activity.rs`: which connections are open, which sessions own an active
run, how many jobs each session runs and how many title tasks are in flight.
Every real change advances the generation, so a generation that is the same stands
for the same activity (`Later.eq`).
-/

import Moh.Session.Types
import Mathlib.Algebra.GroupWithZero.Nat
import Mathlib.Data.List.AList

namespace Moh

/-- `ActivityState` behind an `ActivityTracker`. -/
structure ActivityTracker where
  connections : List ConnectionId
  activeRuns : List SessionId
  runningJobs : AList fun _ : SessionId => ℕ
  titleTasks : ℕ
  generation : ℕ

/-- `ActivitySnapshot`. -/
structure ActivitySnapshot where
  connections : ℕ
  activeRuns : ℕ
  runningJobs : ℕ
  titleTasks : ℕ
  generation : ℕ
deriving DecidableEq, Repr

/-- `ActivitySnapshot::is_idle`. -/
def ActivitySnapshot.isIdle (s : ActivitySnapshot) : Bool :=
  s.connections = 0 && s.activeRuns = 0 && s.runningJobs = 0 && s.titleTasks = 0

namespace ActivityTracker

/-- `ActivityTracker::new`. -/
def new : ActivityTracker := ⟨[], [], ∅, 0, 0⟩

/-- What `ActivityTracker::publish` tells the subscribers, who only look at the
latest snapshot. -/
def snapshot (t : ActivityTracker) : ActivitySnapshot where
  connections := t.connections.length
  activeRuns := t.activeRuns.length
  runningJobs := (t.runningJobs.entries.map fun entry => entry.2).sum
  titleTasks := t.titleTasks
  generation := t.generation

/-- `ActivityTracker::set_connection`. -/
def setConnection (t : ActivityTracker) (id : ConnectionId) (connected : Bool) : ActivityTracker :=
  if t.connections.contains id = connected then t
  else
    { t with
      connections := if connected then id :: t.connections else t.connections.filter (· != id)
      generation := t.generation + 1 }

/-- `ActivityTracker::set_run`. -/
def setRun (t : ActivityTracker) (id : SessionId) (running : Bool) : ActivityTracker :=
  if t.activeRuns.contains id = running then t
  else
    { t with
      activeRuns := if running then id :: t.activeRuns else t.activeRuns.filter (· != id)
      generation := t.generation + 1 }

/-- `ActivityTracker::set_running_jobs`. -/
def setRunningJobs (t : ActivityTracker) (id : SessionId) (count : ℕ) : ActivityTracker :=
  if (t.runningJobs.lookup id).getD 0 = count then t
  else
    { t with
      runningJobs := if count = 0 then t.runningJobs.erase id else t.runningJobs.insert id count
      generation := t.generation + 1 }

/-- `ActivityTracker::begin_title_task`. -/
def beginTitleTask (t : ActivityTracker) : ActivityTracker :=
  { t with titleTasks := t.titleTasks + 1, generation := t.generation + 1 }

/-- `ActivityTracker::finish_title_task`, which its guard calls when it is dropped. -/
def finishTitleTask (t : ActivityTracker) : ActivityTracker :=
  { t with titleTasks := t.titleTasks - 1, generation := t.generation + 1 }

/-- The session owns an active run. -/
def hasRun (t : ActivityTracker) (id : SessionId) : Prop := id ∈ t.activeRuns

theorem hasRun_setRun (t : ActivityTracker) (id id' : SessionId) (running : Bool) :
    (t.setRun id running).hasRun id' ↔ if id' = id then running = true else t.hasRun id' := by
  unfold setRun hasRun
  by_cases h : t.activeRuns.contains id = running
  · rw [if_pos h]
    split_ifs with he
    · rw [he, ← h]
      simp
    · rfl
  · rw [if_neg h]
    cases running with
    | true =>
      simp only [if_true, List.mem_cons]
      split_ifs with he <;> simp [he]
    | false =>
      simp only [Bool.false_eq_true, if_false, List.mem_filter, bne_iff_ne]
      split_ifs with he <;> simp [he]

@[simp] theorem hasRun_setRunningJobs (t : ActivityTracker) (id id' : SessionId) (count : ℕ) :
    (t.setRunningJobs id count).hasRun id' ↔ t.hasRun id' := by
  unfold setRunningJobs hasRun
  split_ifs <;> rfl

/-! ### Changes and generations -/

/-- Some changes later: the generation has grown, or nothing changed. -/
def Later (t t' : ActivityTracker) : Prop := t' = t ∨ t.generation < t'.generation

variable {t t' t'' : ActivityTracker}

theorem Later.refl (t : ActivityTracker) : t.Later t := .inl rfl

theorem Later.trans (h : t.Later t') (h' : t'.Later t'') : t.Later t'' := by
  rcases h with rfl | h
  · exact h'
  · rcases h' with rfl | h'
    · exact .inr h
    · exact .inr (h.trans h')

theorem Later.generation_le (h : t.Later t') : t.generation ≤ t'.generation := by
  rcases h with rfl | h
  · exact le_rfl
  · exact h.le

/-- **The same generation is the same activity.** -/
theorem Later.eq (h : t.Later t') (hg : t'.generation = t.generation) : t' = t := by
  rcases h with rfl | h
  · rfl
  · omega

theorem later_setConnection (t : ActivityTracker) (id : ConnectionId) (connected : Bool) :
    t.Later (t.setConnection id connected) := by
  unfold setConnection
  split_ifs
  · exact .refl t
  all_goals exact .inr (Nat.lt_succ_self _)

theorem later_setRun (t : ActivityTracker) (id : SessionId) (running : Bool) :
    t.Later (t.setRun id running) := by
  unfold setRun
  split_ifs
  · exact .refl t
  all_goals exact .inr (Nat.lt_succ_self _)

theorem later_setRunningJobs (t : ActivityTracker) (id : SessionId) (count : ℕ) :
    t.Later (t.setRunningJobs id count) := by
  unfold setRunningJobs
  split_ifs
  · exact .refl t
  all_goals exact .inr (Nat.lt_succ_self _)

@[simp] theorem connections_setRun (t : ActivityTracker) (id : SessionId) (running : Bool) :
    (t.setRun id running).connections = t.connections := by
  unfold setRun
  split_ifs <;> rfl

@[simp] theorem connections_setRunningJobs (t : ActivityTracker) (id : SessionId) (count : ℕ) :
    (t.setRunningJobs id count).connections = t.connections := by
  unfold setRunningJobs
  split_ifs <;> rfl

theorem mem_setConnection (t : ActivityTracker) (id id' : ConnectionId) (connected : Bool) :
    id' ∈ (t.setConnection id connected).connections ↔
      if id' = id then connected = true else id' ∈ t.connections := by
  unfold setConnection
  by_cases h : t.connections.contains id = connected
  · rw [if_pos h]
    split_ifs with he
    · rw [he, ← h]
      simp
    · rfl
  · rw [if_neg h]
    cases connected with
    | true =>
      simp only [if_true, List.mem_cons]
      split_ifs with he <;> simp [he]
    | false =>
      simp only [Bool.false_eq_true, if_false, List.mem_filter, bne_iff_ne]
      split_ifs with he <;> simp [he]

@[simp] theorem hasRun_setConnection (t : ActivityTracker) (id : ConnectionId) (connected : Bool)
    (id' : SessionId) : (t.setConnection id connected).hasRun id' ↔ t.hasRun id' := by
  unfold setConnection hasRun
  split_ifs <;> rfl

/-- What happens to the tracker apart from connections that come and go. -/
structure Continues (t t' : ActivityTracker) : Prop where
  connections : t'.connections = t.connections
  later : t.Later t'

theorem Continues.refl (t : ActivityTracker) : t.Continues t := ⟨rfl, .refl t⟩

theorem Continues.trans (h : t.Continues t') (h' : t'.Continues t'') : t.Continues t'' :=
  ⟨h'.connections.trans h.connections, h.later.trans h'.later⟩

theorem continues_setRun (t : ActivityTracker) (id : SessionId) (running : Bool) :
    t.Continues (t.setRun id running) :=
  ⟨connections_setRun t id running, later_setRun t id running⟩

theorem continues_setRunningJobs (t : ActivityTracker) (id : SessionId) (count : ℕ) :
    t.Continues (t.setRunningJobs id count) :=
  ⟨connections_setRunningJobs t id count, later_setRunningJobs t id count⟩

theorem continues_beginTitleTask (t : ActivityTracker) : t.Continues t.beginTitleTask :=
  ⟨rfl, .inr (Nat.lt_succ_self _)⟩

theorem continues_finishTitleTask (t : ActivityTracker) : t.Continues t.finishTitleTask :=
  ⟨rfl, .inr (Nat.lt_succ_self _)⟩

/-- The number of jobs of a session that are registered as running. -/
def jobsOf (t : ActivityTracker) (id : SessionId) : ℕ := (t.runningJobs.lookup id).getD 0

/-- **What an idle snapshot says.** -/
theorem of_isIdle_snapshot (h : t.snapshot.isIdle = true) :
    t.connections = [] ∧ t.activeRuns = [] ∧ (∀ id, t.jobsOf id = 0) ∧ t.titleTasks = 0 := by
  simp only [ActivitySnapshot.isIdle, snapshot, Bool.and_eq_true, decide_eq_true_eq,
    List.length_eq_zero_iff, List.sum_eq_zero_iff_forall_eq_nat, List.forall_mem_map] at h
  obtain ⟨⟨⟨hc, hr⟩, hj⟩, ht⟩ := h
  refine ⟨hc, hr, fun id => ?_, of_decide_eq_true ht⟩
  unfold jobsOf
  cases hl : t.runningJobs.lookup id with
  | none => rfl
  | some count =>
    have hzero : count = 0 := hj _ (AList.mem_lookup_iff.1 hl)
    rw [Option.getD_some, hzero]

end ActivityTracker
end Moh
