/-
# What the registry of jobs retains

What holds of the registry of jobs between two operations (`Lawful`), and the invariant it
follows from (`Sound`): the jobs that settled are, in the order in which they settled, those
that were evicted and behind them those of the terminal order, every job that did not settle
is there, and the last details of a job were released once if the job was evicted or its
entry cleaned, and else not (`Counted`).  Eviction keeps the invariant, and so does what
changes entries in place: an update, a cancellation, and both ends of a shutdown.
-/

import Moh.Tools.Job
import Mathlib.Data.List.Nodup
import Mathlib.Data.List.Perm.Subperm

namespace Moh
namespace Tools
namespace JobWorld

variable {D : Type}

/-- The jobs that settled, in that order. -/
def settledIds (w : JobWorld D) : List JobId := w.settled.map JobSnapshot.id

/-- How often the details that the job `id` settled with were released. -/
def finalCleanups (w : JobWorld D) (id : JobId) : ℕ :=
  w.cleaned.countP fun snapshot => decide (snapshot.id = id) && terminal snapshot.state

/-- **What holds of the registry between two operations.** -/
structure Lawful (w : JobWorld D) : Prop where
  running_le : w.registry.runningCount ≤ maxRunningJobs
  terminal_le :
    (w.registry.jobs.rows.countP fun row => terminal row.2.snapshot.state) ≤ maxTerminalJobs
  order : w.registry.terminalOrder =
    w.settledIds.filter fun id => (w.registry.jobs.find id).isSome
  order_nodup : w.registry.terminalOrder.Nodup
  mem_order : ∀ id, id ∈ w.registry.terminalOrder ↔
    ∃ entry, w.registry.jobs.find id = some entry ∧ terminal entry.snapshot.state = true
  increasing : w.started.Pairwise (· < ·)
  kept : ∀ id ∈ w.started, id ∉ w.settledIds →
    ∃ entry, w.registry.jobs.find id = some entry ∧ entry.snapshot.state = .running
  settles_once : w.settledIds.Nodup
  settles : ∀ id ∈ w.granted, id ∉ w.leases → id ∈ w.settledIds
  fixed : ∀ id entry, w.registry.jobs.find id = some entry →
    terminal entry.snapshot.state = true → entry.snapshot ∈ w.settled
  released : ∀ snapshot ∈ w.cleaned, terminal snapshot.state = true → snapshot ∈ w.settled
  released_once : ∀ id, w.finalCleanups id ≤ 1
  released_behind : ∀ id ∈ w.settledIds,
    w.registry.jobs.find id = none ∨ w.shutDown = true → w.finalCleanups id = 1

/-! ### The invariant -/

/-- The last details of the job `id` have to be released by now: it settled, and is no
longer retained or was cleaned. -/
def CleanupDue (w : JobWorld D) (id : JobId) : Prop :=
  id ∈ w.settledIds ∧ ∀ entry, w.registry.jobs.find id = some entry → entry.cleaned = true

/-- They were released once if they have to be, and else not. -/
def Counted (w : JobWorld D) (id : JobId) : Prop :=
  (w.CleanupDue id → w.finalCleanups id = 1) ∧ (¬w.CleanupDue id → w.finalCleanups id = 0)

/-- What an operation finds and, up to the length of the terminal order, leaves. -/
structure Sound (w : JobWorld D) : Prop where
  running_le : w.registry.runningCount ≤ maxRunningJobs
  entry_id : ∀ id entry, w.registry.jobs.find id = some entry →
    entry.snapshot.id = id ∧ id ∈ w.started
  started_lt : ∀ id ∈ w.started, id < w.registry.nextId
  increasing : w.started.Pairwise (· < ·)
  settled_started : ∀ snapshot ∈ w.settled,
    snapshot.id ∈ w.started ∧ terminal snapshot.state = true
  nodup : w.settledIds.Nodup
  order : ∃ evicted, w.settledIds = evicted ++ w.registry.terminalOrder ∧
    ∀ id ∈ evicted, w.registry.jobs.find id = none
  retained : ∀ id ∈ w.registry.terminalOrder, ∃ entry, w.registry.jobs.find id = some entry
  terminal_iff : ∀ id entry, w.registry.jobs.find id = some entry →
    (terminal entry.snapshot.state = true ↔ id ∈ w.settledIds)
  fixed : ∀ id entry, w.registry.jobs.find id = some entry →
    terminal entry.snapshot.state = true → entry.snapshot ∈ w.settled
  kept : ∀ id ∈ w.started, id ∉ w.settledIds → ∃ entry, w.registry.jobs.find id = some entry
  released : ∀ snapshot ∈ w.cleaned, terminal snapshot.state = true → snapshot ∈ w.settled
  counted : ∀ id, w.Counted id
  leased : ∀ id ∈ w.leases, id ∈ w.started
  granted : ∀ id ∈ w.granted, id ∈ w.leases ∨ id ∈ w.settledIds
  shut : w.shutDown = true → w.registry.shuttingDown = true ∧
    ∀ id entry, w.registry.jobs.find id = some entry → entry.cleaned = true

variable {w : JobWorld D}

theorem mem_settledIds_of_mem {snapshot : JobSnapshot D} (h : snapshot ∈ w.settled) :
    snapshot.id ∈ w.settledIds :=
  List.mem_map_of_mem h

theorem isRunning_eq_false {entry : JobEntry D} (h : terminal entry.snapshot.state = true) :
    entry.isRunning = false := by
  unfold JobEntry.isRunning
  cases hstate : entry.snapshot.state <;> simp_all [terminal]

/-- The terminal order, from the way it is kept. -/
theorem Sound.order_eq (h : w.Sound) : w.registry.terminalOrder =
    w.settledIds.filter fun id => (w.registry.jobs.find id).isSome := by
  obtain ⟨evicted, heq, hnone⟩ := h.order
  have hevicted : evicted.filter (fun id => (w.registry.jobs.find id).isSome) = [] := by
    rw [List.filter_eq_nil_iff]
    intro id hid
    rw [hnone id hid]
    exact Bool.false_ne_true
  have hretained : w.registry.terminalOrder.filter (fun id => (w.registry.jobs.find id).isSome) =
      w.registry.terminalOrder := by
    rw [List.filter_eq_self]
    intro id hid
    obtain ⟨entry, hentry⟩ := h.retained id hid
    rw [hentry]
    rfl
  rw [heq, List.filter_append, hevicted, hretained, List.nil_append]

theorem Sound.mem_order (h : w.Sound) (id : JobId) : id ∈ w.registry.terminalOrder ↔
    ∃ entry, w.registry.jobs.find id = some entry ∧ terminal entry.snapshot.state = true := by
  rw [h.order_eq, List.mem_filter, Option.isSome_iff_exists]
  constructor
  · rintro ⟨hid, entry, hentry⟩
    exact ⟨entry, hentry, (h.terminal_iff id entry hentry).2 hid⟩
  · rintro ⟨entry, hentry, hterminal⟩
    exact ⟨(h.terminal_iff id entry hentry).1 hterminal, entry, hentry⟩

theorem Sound.order_nodup (h : w.Sound) : w.registry.terminalOrder.Nodup := by
  rw [h.order_eq]
  exact h.nodup.filter _

/-- The terminal jobs of the registry are those of the terminal order. -/
theorem Sound.countP_terminal_le (h : w.Sound) :
    (w.registry.jobs.rows.countP fun row => terminal row.2.snapshot.state) ≤
      w.registry.terminalOrder.length := by
  rw [List.countP_eq_length_filter, ← List.length_map (f := Prod.fst)]
  refine (List.Nodup.subperm ?_ ?_).length_le
  · exact ((List.pairwise_map.2 w.registry.jobs.sorted).imp fun hlt => ne_of_lt hlt).sublist
      (List.filter_sublist.map _)
  · intro id hid
    obtain ⟨row, hrow, rfl⟩ := List.mem_map.1 hid
    obtain ⟨hmem, hterminal⟩ := List.mem_filter.1 hrow
    exact (h.mem_order _).2 ⟨row.2, Table.find_eq_some_iff.2 hmem, hterminal⟩

theorem Sound.lawful (h : w.Sound) (hlength : w.registry.terminalOrder.length ≤ maxTerminalJobs) :
    w.Lawful := by
  refine ⟨h.running_le, h.countP_terminal_le.trans hlength, h.order_eq, h.order_nodup, h.mem_order,
    h.increasing, fun id hid hunsettled => ?_, h.nodup, fun id hid hlease => ?_, h.fixed,
    h.released, fun id => ?_, fun id hid hdone => ?_⟩
  · obtain ⟨entry, hentry⟩ := h.kept id hid hunsettled
    refine ⟨entry, hentry, ?_⟩
    have hterminal := mt (h.terminal_iff id entry hentry).1 hunsettled
    revert hterminal
    cases entry.snapshot.state <;> simp [terminal]
  · exact (h.granted id hid).resolve_left hlease
  · by_cases hdue : w.CleanupDue id
    · exact ((h.counted id).1 hdue).le
    · rw [(h.counted id).2 hdue]
      exact Nat.zero_le 1
  · refine (h.counted id).1 ⟨hid, fun entry hentry => ?_⟩
    rcases hdone with hnone | hshut
    · rw [hnone] at hentry
      cases hentry
    · exact (h.shut hshut).2 id entry hentry

/-! ### One operation -/

theorem Counted.congr {w' : JobWorld D} {id : JobId} (h : w.Counted id)
    (hdue : w'.CleanupDue id ↔ w.CleanupDue id) (hcount : w'.finalCleanups id = w.finalCleanups id) :
    w'.Counted id :=
  ⟨fun hd => hcount.trans (h.1 (hdue.1 hd)), fun hd => hcount.trans (h.2 (mt hdue.2 hd))⟩

/-- The final releases of the job `id` among some. -/
def finalsOf (id : JobId) (cleaned : List (JobSnapshot D)) : ℕ :=
  cleaned.countP fun snapshot => decide (snapshot.id = id) && terminal snapshot.state

/-- The releases of one snapshot. -/
theorem finalsOf_singleton (id : JobId) (snapshot : JobSnapshot D) : finalsOf id [snapshot] =
    if snapshot.id = id ∧ terminal snapshot.state = true then 1 else 0 := by
  simp [finalsOf, List.countP_cons]

theorem finalsOf_uncleaned_of_ne {id : JobId} {entry : JobEntry D} (h : entry.snapshot.id ≠ id) :
    finalsOf id entry.uncleaned = 0 := by
  unfold JobEntry.uncleaned
  split_ifs
  · rfl
  · rw [finalsOf_singleton, if_neg fun hboth => h hboth.1]

/-- The world with other jobs in another terminal order, behind some releases. -/
def withJobs (w : JobWorld D) (jobs : Table JobId (JobEntry D)) (order : List JobId)
    (cleaned : List (JobSnapshot D)) : JobWorld D :=
  { w with
    registry := { w.registry with jobs := jobs, terminalOrder := order }
    cleaned := w.cleaned ++ cleaned }

theorem finalCleanups_withJobs (jobs : Table JobId (JobEntry D)) (order : List JobId)
    (cleaned : List (JobSnapshot D)) (id : JobId) :
    (w.withJobs jobs order cleaned).finalCleanups id = w.finalCleanups id + finalsOf id cleaned :=
  List.countP_append

theorem runningCount_remove_le (jobs : Table JobId (JobEntry D)) (id : JobId) :
    ((jobs.remove id).rows.countP fun row => row.2.isRunning) ≤
      jobs.rows.countP fun row => row.2.isRunning :=
  List.filter_sublist.countP_le

/-- What is found behind an eviction is another entry. -/
theorem ne_of_find_remove {jobs : Table JobId (JobEntry D)} {id other : JobId} {found : JobEntry D}
    (hfound : (jobs.remove id).find other = some found) :
    other ≠ id ∧ jobs.find other = some found := by
  rw [Table.find_remove] at hfound
  split_ifs at hfound with hother
  exact ⟨hother, hfound⟩

/-- An eviction releases the details that the job settled with, unless they were. -/
theorem Sound.counted_pop (h : w.Sound) {id : JobId} {entry : JobEntry D} (order : List JobId)
    (hentry : w.registry.jobs.find id = some entry) (hid : id ∈ w.settledIds) (other : JobId) :
    (w.withJobs (w.registry.jobs.remove id) order entry.uncleaned).Counted other := by
  by_cases heq : other = id
  · subst heq
    have hdue :
        (w.withJobs (w.registry.jobs.remove other) order entry.uncleaned).CleanupDue other :=
      ⟨hid, fun found hfound => absurd rfl (ne_of_find_remove hfound).1⟩
    refine ⟨fun _ => ?_, fun hnot => absurd hdue hnot⟩
    rw [finalCleanups_withJobs, JobEntry.uncleaned]
    split_ifs with hcleaned
    · have hdone : w.CleanupDue other := ⟨hid, fun found hfound => by
        rw [hentry] at hfound
        exact Option.some.inj hfound ▸ hcleaned⟩
      rw [(h.counted other).1 hdone]
      rfl
    · have hopen : ¬w.CleanupDue other := fun hdone => hcleaned (hdone.2 entry hentry)
      rw [(h.counted other).2 hopen, finalsOf_singleton,
        if_pos ⟨(h.entry_id other entry hentry).1, (h.terminal_iff other entry hentry).2 hid⟩]
  · refine (h.counted other).congr ?_ ?_
    · refine and_congr_right fun _ => forall_congr' fun found => ?_
      show (w.registry.jobs.remove id).find other = some found → _ ↔ _
      rw [Table.find_remove, if_neg heq]
    · have hne : entry.snapshot.id ≠ other := by
        rw [(h.entry_id id entry hentry).1]
        exact Ne.symm heq
      rw [finalCleanups_withJobs, finalsOf_uncleaned_of_ne hne, Nat.add_zero]

/-- The job that settled first is evicted. -/
theorem Sound.pop (h : w.Sound) {id : JobId} {order : List JobId}
    (horder : w.registry.terminalOrder = id :: order) :
    (w.withJobs (w.registry.jobs.remove id) order
      (((w.registry.jobs.find id).map JobEntry.uncleaned).getD [])).Sound := by
  obtain ⟨evicted, hsettled, hnone⟩ := h.order
  have hmem : id ∈ w.registry.terminalOrder := by simp [horder]
  obtain ⟨entry, hentry⟩ := h.retained id hmem
  have hid : id ∈ w.settledIds := by rw [hsettled]; exact List.mem_append_right _ hmem
  have hterminal : terminal entry.snapshot.state = true := (h.terminal_iff id entry hentry).2 hid
  have hfind : ∀ other, (w.registry.jobs.remove id).find other =
      if other = id then none else w.registry.jobs.find other := Table.find_remove _ _
  rw [hentry]
  show (w.withJobs _ order entry.uncleaned).Sound
  have hnodup : (id :: order).Nodup := horder ▸ h.order_nodup
  constructor
  case running_le => exact (runningCount_remove_le _ id).trans h.running_le
  case entry_id =>
    exact fun other found hfound => h.entry_id other found (ne_of_find_remove hfound).2
  case started_lt => exact h.started_lt
  case increasing => exact h.increasing
  case settled_started => exact h.settled_started
  case nodup => exact h.nodup
  case order =>
    refine ⟨evicted ++ [id], ?_, fun other hother => ?_⟩
    · show w.settledIds = evicted ++ [id] ++ order
      rw [hsettled, horder, List.append_assoc, List.singleton_append]
    · show (w.registry.jobs.remove id).find other = none
      rw [hfind]
      split_ifs with heq
      · rfl
      · rcases List.mem_append.1 hother with hother | hother
        · exact hnone other hother
        · exact absurd (List.mem_singleton.1 hother) heq
  case retained =>
    intro other hother
    have hne : other ≠ id := fun heq => (List.nodup_cons.1 hnodup).1 (heq ▸ hother)
    obtain ⟨found, hfound⟩ := h.retained other (by rw [horder]; exact List.mem_cons_of_mem _ hother)
    exact ⟨found, by rw [← hfound]; exact (hfind other).trans (if_neg hne)⟩
  case terminal_iff =>
    exact fun other found hfound => h.terminal_iff other found (ne_of_find_remove hfound).2
  case fixed => exact fun other found hfound => h.fixed other found (ne_of_find_remove hfound).2
  case kept =>
    intro other hstarted hunsettled
    have hne : other ≠ id := fun heq => hunsettled (heq ▸ hid)
    obtain ⟨found, hfound⟩ := h.kept other hstarted hunsettled
    exact ⟨found, by rw [← hfound]; exact (hfind other).trans (if_neg hne)⟩
  case released =>
    intro snapshot hsnapshot hstate
    rcases List.mem_append.1 hsnapshot with hsnapshot | hsnapshot
    · exact h.released snapshot hsnapshot hstate
    · unfold JobEntry.uncleaned at hsnapshot
      split_ifs at hsnapshot
      · cases hsnapshot
      · rw [List.mem_singleton.1 hsnapshot]
        exact h.fixed id entry hentry hterminal
  case counted => exact h.counted_pop order hentry hid
  case leased => exact h.leased
  case granted => exact h.granted
  case shut =>
    exact fun hshut => ⟨(h.shut hshut).1, fun other found hfound =>
      (h.shut hshut).2 other found (ne_of_find_remove hfound).2⟩

/-- Eviction leaves no more terminal jobs than are retained. -/
theorem Sound.evictFrom {order : List JobId} (h : w.Sound) (horder : w.registry.terminalOrder = order) :
    (w.withJobs (JobRegistry.evictFrom w.registry.jobs order).2.1
        (JobRegistry.evictFrom w.registry.jobs order).2.2
        (JobRegistry.evictFrom w.registry.jobs order).1).Sound ∧
      (JobRegistry.evictFrom w.registry.jobs order).2.2.length ≤ maxTerminalJobs := by
  induction order generalizing w with
  | nil =>
    refine ⟨?_, Nat.zero_le _⟩
    show (w.withJobs w.registry.jobs [] []).Sound
    rw [← horder, withJobs, List.append_nil]
    exact h
  | cons id order ih =>
    rw [JobRegistry.evictFrom]
    split_ifs with hlength
    · have hpop := ih (h.pop horder) rfl
      refine ⟨?_, hpop.2⟩
      have hsound := hpop.1
      unfold withJobs at hsound ⊢
      rw [List.append_assoc] at hsound
      exact hsound
    · refine ⟨?_, Nat.not_lt.1 hlength⟩
      show (w.withJobs w.registry.jobs (id :: order) []).Sound
      rw [← horder, withJobs, List.append_nil]
      exact h

/-- The world with another registry. -/
def withRegistry (w : JobWorld D) (r : JobRegistry D) : JobWorld D := { w with registry := r }

/-- Observers do not matter. -/
theorem Sound.notify {r : JobRegistry D} (h : (w.withRegistry r).Sound) :
    (w.withRegistry r.notify.2).Sound := by
  unfold JobRegistry.notify
  cases checkedSucc r.version with
  | none => exact h
  | some version => exact { h with }

theorem Sound.evict {r : JobRegistry D} (h : (w.withRegistry r).Sound) :
    ({ w with registry := r.evict.2, cleaned := w.cleaned ++ r.evict.1 } : JobWorld D).Sound ∧
      r.evict.2.terminalOrder.length ≤ maxTerminalJobs :=
  h.evictFrom rfl

/-- **Entries change in place.**  Their identifiers and states stay, and the snapshot of a
terminal job does. -/
theorem Sound.mapRows (h : w.Sound) {f : JobId → JobEntry D → JobEntry D}
    {cleaned : List (JobSnapshot D)}
    (hid : ∀ id entry, w.registry.jobs.find id = some entry →
      (f id entry).snapshot.id = entry.snapshot.id ∧
        (f id entry).snapshot.state = entry.snapshot.state)
    (hterminal : ∀ id entry, w.registry.jobs.find id = some entry →
      terminal entry.snapshot.state = true → (f id entry).snapshot = entry.snapshot)
    (hcleaned : ∀ id entry, w.registry.jobs.find id = some entry → entry.cleaned = true →
      (f id entry).cleaned = true)
    (hreleased : ∀ snapshot ∈ cleaned, terminal snapshot.state = true → snapshot ∈ w.settled)
    (hcounted : ∀ id, (w.withJobs (w.registry.jobs.mapRows f) w.registry.terminalOrder cleaned).Counted
      id) :
    (w.withJobs (w.registry.jobs.mapRows f) w.registry.terminalOrder cleaned).Sound := by
  have hback : ∀ id entry, (w.registry.jobs.mapRows f).find id = some entry →
      ∃ old, w.registry.jobs.find id = some old ∧ f id old = entry := by
    intro id entry hentry
    rw [Table.find_mapRows] at hentry
    exact Option.map_eq_some_iff.1 hentry
  have hforth : ∀ id entry, w.registry.jobs.find id = some entry →
      (w.registry.jobs.mapRows f).find id = some (f id entry) := by
    intro id entry hentry
    rw [Table.find_mapRows, hentry]
    rfl
  constructor
  case running_le =>
    refine le_trans ?_ h.running_le
    show ((w.registry.jobs.rows.map fun row => (row.1, f row.1 row.2)).countP _) ≤ _
    rw [List.countP_map]
    refine List.countP_mono_left fun row hrow hrunning => ?_
    have hstate := (hid row.1 row.2 (Table.find_eq_some_iff.2 hrow)).2
    simp only [JobEntry.isRunning, Function.comp, hstate] at hrunning ⊢
    exact hrunning
  case entry_id =>
    intro id entry hentry
    obtain ⟨old, hold, rfl⟩ := hback id entry hentry
    exact ⟨(hid id old hold).1.trans (h.entry_id id old hold).1, (h.entry_id id old hold).2⟩
  case started_lt => exact h.started_lt
  case increasing => exact h.increasing
  case settled_started => exact h.settled_started
  case nodup => exact h.nodup
  case order =>
    obtain ⟨evicted, hsettled, hnone⟩ := h.order
    refine ⟨evicted, hsettled, fun id hevicted => ?_⟩
    show (w.registry.jobs.mapRows f).find id = none
    rw [Table.find_mapRows, hnone id hevicted]
    rfl
  case retained =>
    intro id hmem
    obtain ⟨entry, hentry⟩ := h.retained id hmem
    exact ⟨f id entry, hforth id entry hentry⟩
  case terminal_iff =>
    intro id entry hentry
    obtain ⟨old, hold, rfl⟩ := hback id entry hentry
    rw [(hid id old hold).2]
    exact h.terminal_iff id old hold
  case fixed =>
    intro id entry hentry hstate
    obtain ⟨old, hold, rfl⟩ := hback id entry hentry
    rw [(hid id old hold).2] at hstate
    rw [hterminal id old hold hstate]
    exact h.fixed id old hold hstate
  case kept =>
    intro id hstarted hunsettled
    obtain ⟨entry, hentry⟩ := h.kept id hstarted hunsettled
    exact ⟨f id entry, hforth id entry hentry⟩
  case released =>
    intro snapshot hmem hstate
    rcases List.mem_append.1 hmem with hmem | hmem
    · exact h.released snapshot hmem hstate
    · exact hreleased snapshot hmem hstate
  case counted => exact hcounted
  case leased => exact h.leased
  case granted => exact h.granted
  case shut =>
    refine fun hshut => ⟨(h.shut hshut).1, fun id entry hentry => ?_⟩
    obtain ⟨old, hold, rfl⟩ := hback id entry hentry
    exact hcleaned id old hold ((h.shut hshut).2 id old hold)

/-- Where nothing is marked as cleaned and no last details are released. -/
theorem Sound.counted_mapRows (h : w.Sound) {f : JobId → JobEntry D → JobEntry D}
    {cleaned : List (JobSnapshot D)}
    (hcleaned : ∀ id entry, w.registry.jobs.find id = some entry →
      (f id entry).cleaned = entry.cleaned)
    (hreleased : ∀ snapshot ∈ cleaned, terminal snapshot.state = false) (id : JobId) :
    (w.withJobs (w.registry.jobs.mapRows f) w.registry.terminalOrder cleaned).Counted id := by
  refine (h.counted id).congr (and_congr_right fun _ => ?_) ?_
  · show (∀ entry, (w.registry.jobs.mapRows f).find id = some entry → _) ↔ _
    rw [Table.find_mapRows]
    cases hfind : w.registry.jobs.find id with
    | none => simp
    | some entry => simp [hcleaned id entry hfind]
  · have hnone : finalsOf id cleaned = 0 := by
      rw [finalsOf, List.countP_eq_zero]
      intro snapshot hmem
      simp [hreleased snapshot hmem]
    rw [finalCleanups_withJobs, hnone, Nat.add_zero]

/-- The entry of a running job is replaced, and stays one. -/
theorem Sound.modify (h : w.Sound) {id : JobId} {entry updated : JobEntry D}
    {cleaned : List (JobSnapshot D)} (hentry : w.registry.jobs.find id = some entry)
    (hrunning : terminal entry.snapshot.state = false)
    (hid : updated.snapshot.id = entry.snapshot.id)
    (hstate : updated.snapshot.state = entry.snapshot.state)
    (hcleaned : updated.cleaned = entry.cleaned)
    (hreleased : ∀ snapshot ∈ cleaned, terminal snapshot.state = false) :
    (w.withJobs (w.registry.jobs.modify id fun _ => updated) w.registry.terminalOrder
      cleaned).Sound := by
  have hsame : ∀ {other : JobId} {found : JobEntry D},
      w.registry.jobs.find other = some found → other = id → found = entry := by
    rintro other found hfound rfl
    exact Option.some.inj (hfound.symm.trans hentry)
  have hkept : ∀ other found, w.registry.jobs.find other = some found →
      (if other = id then updated else found).cleaned = found.cleaned := by
    intro other found hfound
    split_ifs with heq
    · rw [hcleaned, hsame hfound heq]
    · rfl
  refine h.mapRows (fun other found hfound => ?_) (fun other found hfound hterminal => ?_)
    (fun other found hfound hold => (hkept other found hfound).trans hold)
    (fun snapshot hmem hterminal => ?_) (h.counted_mapRows hkept hreleased)
  · split_ifs with heq
    · rw [hsame hfound heq]
      exact ⟨hid, hstate⟩
    · exact ⟨rfl, rfl⟩
  · split_ifs with heq
    · rw [hsame hfound heq, hrunning] at hterminal
      cases hterminal
    · rfl
  · rw [hreleased snapshot hmem] at hterminal
    cases hterminal

theorem owned_eq_ok {r : JobRegistry D} {id : JobId} {token : ℕ} {entry : JobEntry D}
    (h : r.owned id token = .ok entry) :
    r.jobs.find id = some entry ∧ terminal entry.snapshot.state = false := by
  unfold JobRegistry.owned at h
  split at h
  · cases h
  · next found hfound =>
    split_ifs at h with hsettled
    obtain rfl := Except.ok.inj h
    exact ⟨hfound, Bool.eq_false_iff.2 fun hterminal => hsettled (.inr hterminal)⟩

/-- The invariant, and the length of the terminal order. -/
structure Steady (w : JobWorld D) : Prop where
  sound : w.Sound
  length_le : w.registry.terminalOrder.length ≤ maxTerminalJobs

theorem terminalOrder_notify (r : JobRegistry D) : r.notify.2.terminalOrder = r.terminalOrder := by
  unfold JobRegistry.notify
  cases checkedSucc r.version <;> rfl

/-- An operation that does nothing. -/
theorem Steady.record_error (h : w.Steady) {α : Type} (result : Except JobRegistryError α) :
    (w.record { result := result, registry := w.registry }).Steady := by
  simp only [record, List.append_nil]
  exact ⟨h.sound, h.length_le⟩

/-- An operation that changes the jobs and releases some details. -/
theorem steady_record {r : JobRegistry D} {cleaned : List (JobSnapshot D)}
    (h : ({ w with registry := r, cleaned := w.cleaned ++ cleaned } : JobWorld D).Sound)
    (hlength : r.terminalOrder.length ≤ maxTerminalJobs) {α : Type}
    (result : Except JobRegistryError α) :
    (w.record { result := result, registry := r.notify.2, cleaned := cleaned }).Steady := by
  simp only [record, List.append_nil]
  refine ⟨Sound.notify (w := { w with cleaned := w.cleaned ++ cleaned }) h, ?_⟩
  show r.notify.2.terminalOrder.length ≤ _
  rw [terminalOrder_notify]
  exact hlength

theorem steady_update (h : w.Steady) (id : JobId) (token : ℕ) (details : D) :
    (w.record (w.registry.update id token details)).Steady := by
  unfold JobRegistry.update
  split
  · exact h.record_error _
  · next entry howned =>
    obtain ⟨hentry, hrunning⟩ := owned_eq_ok howned
    let updated : JobEntry D :=
      { entry with snapshot := { entry.snapshot with details := .published details } }
    have hreleased : ∀ snapshot ∈ updated.replaced, terminal snapshot.state = false := by
      intro snapshot hmem
      unfold JobEntry.replaced at hmem
      split_ifs at hmem
      · rw [List.mem_singleton.1 hmem]
        exact hrunning
      · cases hmem
    have hmodify : (w.withJobs (w.registry.jobs.modify id fun _ => updated)
        w.registry.terminalOrder updated.replaced).Sound :=
      h.sound.modify hentry hrunning rfl rfl rfl hreleased
    exact steady_record hmodify h.length_le _

theorem steady_requestCancel (h : w.Steady) (id : JobId) :
    (w.record (w.registry.requestCancel id)).Steady := by
  unfold JobRegistry.requestCancel
  split
  · exact h.record_error _
  · next entry hentry =>
    split_ifs with hterminal
    · exact h.record_error _
    · have hmodify : (w.withJobs
          (w.registry.jobs.modify id fun _ => { entry with cancellation := true })
          w.registry.terminalOrder []).Sound :=
        h.sound.modify hentry (Bool.eq_false_iff.2 hterminal) rfl rfl rfl (by simp)
      exact steady_record hmodify h.length_le _

theorem steady_shutdown (h : w.Steady) : (w.record w.registry.shutdown).Steady := by
  let cancel : JobId → JobEntry D → JobEntry D := fun _ entry =>
    { entry with cancellation := entry.cancellation || entry.isRunning }
  have hmap : (w.withJobs (w.registry.jobs.mapRows cancel) w.registry.terminalOrder []).Sound :=
    h.sound.mapRows (fun _ _ _ => ⟨rfl, rfl⟩) (fun _ _ _ _ => rfl) (fun _ _ _ hold => hold) (by simp)
      (h.sound.counted_mapRows (fun _ _ _ => rfl) (by simp))
  have hshut : ({ w with
      registry := { w.registry with shuttingDown := true, jobs := w.registry.jobs.mapRows cancel }
      cleaned := w.cleaned ++ [] } : JobWorld D).Sound :=
    { hmap with shut := fun hdone => ⟨rfl, (hmap.shut hdone).2⟩ }
  exact steady_record hshut h.length_le _

/-- `cleanup_retained` releases, of one job, the details that are not released yet. -/
theorem Sound.finalsOf_cleanupRetained (h : w.Sound) (id : JobId) :
    finalsOf id w.registry.cleanupRetained.cleaned = ((w.registry.jobs.find id).filter fun entry =>
      !entry.cleaned && terminal entry.snapshot.state).toList.length := by
  rw [← Table.countP_rows, finalsOf, JobRegistry.cleanupRetained, List.countP_filterMap]
  refine List.countP_congr fun row hrow => ?_
  have hid := (h.entry_id row.1 row.2 (Table.find_eq_some_iff.2 hrow)).1
  cases hcleaned : row.2.cleaned <;> simp [hid]

theorem sound_endShutdown (h : w.Sound) (hshutting : w.registry.shuttingDown = true) :
    ({ w.record w.registry.cleanupRetained with shutDown := true } : JobWorld D).Sound := by
  let clean : JobId → JobEntry D → JobEntry D := fun _ entry => { entry with cleaned := true }
  have hmem : ∀ snapshot ∈ w.registry.cleanupRetained.cleaned, terminal snapshot.state = true →
      snapshot ∈ w.settled := by
    intro snapshot hsnapshot hterminal
    obtain ⟨row, hrow, hsome⟩ := List.mem_filterMap.1 hsnapshot
    split_ifs at hsome
    obtain rfl := Option.some.inj hsome
    exact h.fixed row.1 row.2 (Table.find_eq_some_iff.2 hrow) hterminal
  have hfind : ∀ id entry, (w.registry.jobs.mapRows clean).find id = some entry →
      entry.cleaned = true := by
    intro id entry hentry
    rw [Table.find_mapRows] at hentry
    obtain ⟨old, -, rfl⟩ := Option.map_eq_some_iff.1 hentry
    rfl
  have hcounted : ∀ id, (w.withJobs (w.registry.jobs.mapRows clean) w.registry.terminalOrder
      w.registry.cleanupRetained.cleaned).Counted id := by
    intro id
    refine ⟨fun hdue => ?_, fun hopen => ?_⟩
    · rw [finalCleanups_withJobs, h.finalsOf_cleanupRetained]
      cases hentry : w.registry.jobs.find id with
      | none =>
        rw [(h.counted id).1 ⟨hdue.1, fun entry hfound => by rw [hentry] at hfound; cases hfound⟩]
        rfl
      | some entry =>
        have hterminal := (h.terminal_iff id entry hentry).2 hdue.1
        cases hcleaned : entry.cleaned with
        | true =>
          have hdone : w.CleanupDue id := ⟨hdue.1, fun found hfound => by
            rw [hentry] at hfound
            exact Option.some.inj hfound ▸ hcleaned⟩
          rw [(h.counted id).1 hdone]
          simp [hcleaned]
        | false =>
          have hopen : ¬w.CleanupDue id := fun hdone => by
            rw [hdone.2 entry hentry] at hcleaned
            cases hcleaned
          rw [(h.counted id).2 hopen]
          simp [hcleaned, hterminal]
    · have hunsettled : id ∉ w.settledIds := fun hsettled => hopen ⟨hsettled, hfind id⟩
      rw [finalCleanups_withJobs, h.finalsOf_cleanupRetained,
        (h.counted id).2 fun hdone => hunsettled hdone.1]
      cases hentry : w.registry.jobs.find id with
      | none => rfl
      | some entry =>
        have hrunning := mt (h.terminal_iff id entry hentry).1 hunsettled
        simp [hrunning]
  have hmap : (w.withJobs (w.registry.jobs.mapRows clean) w.registry.terminalOrder
      w.registry.cleanupRetained.cleaned).Sound :=
    h.mapRows (fun _ _ _ => ⟨rfl, rfl⟩) (fun _ _ _ _ => rfl) (fun _ _ _ _ => rfl) hmem hcounted
  have hshut : ({ w.withJobs (w.registry.jobs.mapRows clean) w.registry.terminalOrder
      w.registry.cleanupRetained.cleaned with shutDown := true } : JobWorld D).Sound :=
    { hmap with shut := fun _ => ⟨hshutting, hfind⟩ }
  have hstarted : w.started ++ w.registry.cleanupRetained.started = w.started := List.append_nil _
  have hsettled : w.settled ++ w.registry.cleanupRetained.settled = w.settled := List.append_nil _
  rw [JobWorld.record, hstarted, hsettled]
  exact hshut

end JobWorld
end Tools
end Moh
