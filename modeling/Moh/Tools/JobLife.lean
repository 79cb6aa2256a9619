/-
# The life of a job

Whatever is asked of the registry of jobs, in any order: sixteen jobs run and sixty-four
terminal ones are retained at most, a job settles once, in the state it then keeps, and
its last details are released once, behind its eviction or behind a shutdown
(`lawful_run`).
-/

import Moh.Library.Run
import Moh.Tools.JobRetention

namespace Moh
namespace Tools
namespace JobWorld

variable {D : Type} {w : JobWorld D}

/-! ### Starting and settling -/

/-- The identifier that comes next was never used. -/
theorem Sound.fresh (h : w.Sound) : w.registry.nextId ∉ w.started :=
  fun hmem => lt_irrefl _ (h.started_lt _ hmem)

theorem Sound.settled_mem_started (h : w.Sound) {id : JobId} (hid : id ∈ w.settledIds) :
    id ∈ w.started := by
  obtain ⟨snapshot, hsnapshot, rfl⟩ := List.mem_map.1 hid
  exact (h.settled_started snapshot hsnapshot).1

/-- The world in which a job is inserted under the next identifier. -/
def insert (w : JobWorld D) (entry : JobEntry D) (nextToken : ℕ) : JobWorld D :=
  { w with
    registry :=
      { w.registry with
        jobs := w.registry.jobs.put w.registry.nextId entry
        nextId := w.registry.nextId + 1
        nextToken := nextToken }
    started := w.started ++ [w.registry.nextId] }

section
variable {id : JobId} {entry found : JobEntry D} {nextToken : ℕ}

theorem find_insert (id : JobId) : (w.insert entry nextToken).registry.jobs.find id =
    if id = w.registry.nextId then some entry else w.registry.jobs.find id :=
  Table.find_put _ _ id entry

/-- The jobs that were started before are as they were. -/
theorem Sound.find_insert_of_started (h : w.Sound) (hid : id ∈ w.started) :
    (w.insert entry nextToken).registry.jobs.find id = w.registry.jobs.find id := by
  rw [find_insert, if_neg]
  exact fun heq => h.fresh (heq ▸ hid)

/-- What is found there is the new job, or another one as it was. -/
theorem eq_or_of_find_insert
    (hfound : (w.insert entry nextToken).registry.jobs.find id = some found) :
    (id = w.registry.nextId ∧ found = entry) ∨ w.registry.jobs.find id = some found := by
  rw [find_insert] at hfound
  split_ifs at hfound with heq
  · exact .inl ⟨heq, (Option.some.inj hfound).symm⟩
  · exact .inr hfound

/-- One job more runs at most. -/
theorem Sound.runningCount_insert_le (h : w.Sound) :
    (w.insert entry nextToken).registry.runningCount ≤ w.registry.runningCount + 1 := by
  have hlast : ∀ row ∈ w.registry.jobs.rows, row.1 < w.registry.nextId := fun row hrow =>
    h.started_lt _ (h.entry_id row.1 row.2 (Table.find_eq_some_iff.2 hrow)).2
  show (w.registry.jobs.put w.registry.nextId entry).rows.countP _ ≤ _
  rw [Table.rows_put_of_lt hlast, List.countP_append]
  have hone : [(w.registry.nextId, entry)].countP (fun row => row.2.isRunning) ≤ 1 :=
    List.countP_le_length
  exact Nat.add_le_add_left hone _

end

/-- A job is inserted as running, under the next identifier. -/
theorem Sound.insert (h : w.Sound) (entry : JobEntry D) (nextToken : ℕ)
    (hcapacity : w.registry.runningCount < maxRunningJobs)
    (hopen : w.registry.shuttingDown = false) (hid : entry.snapshot.id = w.registry.nextId)
    (hstate : entry.snapshot.state = .running) : (w.insert entry nextToken).Sound := by
  have hnew : w.registry.nextId ∉ w.settledIds := fun hmem => h.fresh (h.settled_mem_started hmem)
  constructor
  case running_le => exact h.runningCount_insert_le.trans hcapacity
  case entry_id =>
    intro id found hfound
    rcases eq_or_of_find_insert hfound with ⟨rfl, rfl⟩ | hfound
    · exact ⟨hid, List.mem_append_right _ (List.mem_singleton_self _)⟩
    · exact ⟨(h.entry_id id found hfound).1, List.mem_append_left _ (h.entry_id id found hfound).2⟩
  case started_lt =>
    intro id hmem
    rcases List.mem_append.1 hmem with hmem | hmem
    · exact Nat.lt_succ_of_lt (h.started_lt id hmem)
    · rw [List.mem_singleton.1 hmem]
      exact Nat.lt_succ_self _
  case increasing =>
    refine List.pairwise_append.2 ⟨h.increasing, List.pairwise_singleton .., ?_⟩
    intro id hmem last hlast
    rw [List.mem_singleton.1 hlast]
    exact h.started_lt id hmem
  case settled_started =>
    intro snapshot hmem
    exact ⟨List.mem_append_left _ (h.settled_started snapshot hmem).1,
      (h.settled_started snapshot hmem).2⟩
  case nodup => exact h.nodup
  case order =>
    obtain ⟨evicted, hsettled, hgone⟩ := h.order
    refine ⟨evicted, hsettled, fun id hmem => ?_⟩
    have hstarted : id ∈ w.started :=
      h.settled_mem_started (by rw [hsettled]; exact List.mem_append_left _ hmem)
    exact (h.find_insert_of_started hstarted).trans (hgone id hmem)
  case retained =>
    intro id hmem
    obtain ⟨found, hfound⟩ := h.retained id hmem
    exact ⟨found, (h.find_insert_of_started (h.entry_id id found hfound).2).trans hfound⟩
  case terminal_iff =>
    intro id found hfound
    rcases eq_or_of_find_insert hfound with ⟨rfl, rfl⟩ | hfound
    · rw [hstate]
      constructor
      · intro hfalse
        cases hfalse
      · exact fun hmem => absurd hmem hnew
    · exact h.terminal_iff id found hfound
  case fixed =>
    intro id found hfound hterminal
    rcases eq_or_of_find_insert hfound with ⟨rfl, rfl⟩ | hfound
    · rw [hstate] at hterminal
      cases hterminal
    · exact h.fixed id found hfound hterminal
  case kept =>
    intro id hmem hunsettled
    rcases List.mem_append.1 hmem with hmem | hmem
    · obtain ⟨found, hfound⟩ := h.kept id hmem hunsettled
      exact ⟨found, (h.find_insert_of_started hmem).trans hfound⟩
    · rw [List.mem_singleton.1 hmem]
      exact ⟨entry, (find_insert _).trans (if_pos rfl)⟩
  case released => exact h.released
  case counted =>
    refine fun id => (h.counted id).congr (and_congr_right fun hsettled => ?_) rfl
    rw [h.find_insert_of_started (h.settled_mem_started hsettled)]
  case leased => exact fun id hmem => List.mem_append_left _ (h.leased id hmem)
  case granted => exact h.granted
  case shut =>
    intro hdone
    have hshutting := (h.shut hdone).1
    rw [hopen] at hshutting
    cases hshutting

/-- The world in which the job `id` settles, with another entry. -/
def settle (w : JobWorld D) (id : JobId) (settled : JobEntry D) : JobWorld D :=
  { w with
    registry :=
      { w.registry with
        jobs := w.registry.jobs.modify id fun _ => settled
        terminalOrder := w.registry.terminalOrder ++ [id] }
    settled := w.settled ++ [settled.snapshot]
    cleaned := w.cleaned ++ settled.replaced }

section
variable {id other : JobId} {entry settled found : JobEntry D}

theorem find_settle (hentry : w.registry.jobs.find id = some entry) (other : JobId) :
    (w.settle id settled).registry.jobs.find other =
      if other = id then some settled else w.registry.jobs.find other := by
  show (w.registry.jobs.modify id fun _ => settled).find other = _
  rw [Table.find_modify]
  split_ifs with heq
  · rw [heq, hentry]
    rfl
  · rfl

/-- What is found there is the entry of the job, or another one as it was. -/
theorem eq_or_of_find_settle (hentry : w.registry.jobs.find id = some entry)
    (hfound : (w.settle id settled).registry.jobs.find other = some found) :
    (other = id ∧ found = settled) ∨ (other ≠ id ∧ w.registry.jobs.find other = some found) := by
  rw [find_settle hentry] at hfound
  split_ifs at hfound with heq
  · exact .inl ⟨heq, (Option.some.inj hfound).symm⟩
  · exact .inr ⟨heq, hfound⟩

/-- Every job that was there still is. -/
theorem exists_find_settle (hentry : w.registry.jobs.find id = some entry)
    (hfound : w.registry.jobs.find other = some found) :
    ∃ now, (w.settle id settled).registry.jobs.find other = some now := by
  rw [find_settle hentry]
  split_ifs
  · exact ⟨settled, rfl⟩
  · exact ⟨found, hfound⟩

theorem settledIds_settle (hid : settled.snapshot.id = id) :
    (w.settle id settled).settledIds = w.settledIds ++ [id] := by
  show (w.settled ++ [settled.snapshot]).map JobSnapshot.id = _
  rw [List.map_append, List.map_singleton, hid]
  rfl

theorem mem_settledIds_settle (hid : settled.snapshot.id = id) :
    other ∈ (w.settle id settled).settledIds ↔ other ∈ w.settledIds ∨ other = id := by
  rw [settledIds_settle hid, List.mem_append, List.mem_singleton]

theorem finalCleanups_settle : (w.settle id settled).finalCleanups other =
    w.finalCleanups other + finalsOf other settled.replaced :=
  List.countP_append

/-- The details that the job settles with are released at once if it was cleaned, and those
of the other jobs are not. -/
theorem Sound.counted_settle (h : w.Sound) (hentry : w.registry.jobs.find id = some entry)
    (hid : settled.snapshot.id = id) (hunsettled : id ∉ w.settledIds)
    (hstate : terminal settled.snapshot.state = true) (other : JobId) :
    (w.settle id settled).Counted other := by
  by_cases heq : other = id
  · subst heq
    have hzero : w.finalCleanups other = 0 := (h.counted other).2 fun hdone => hunsettled hdone.1
    refine ⟨fun hdue => ?_, fun hopen => ?_⟩
    · have hdone : settled.cleaned = true :=
        hdue.2 settled ((find_settle hentry other).trans (if_pos rfl))
      rw [finalCleanups_settle, hzero, JobEntry.replaced, if_pos hdone, finalsOf_singleton,
        if_pos ⟨hid, hstate⟩]
    · have hnot : ¬settled.cleaned = true := by
        intro hdone
        refine hopen ⟨(mem_settledIds_settle hid).2 (.inr rfl), fun found hfound => ?_⟩
        rcases eq_or_of_find_settle hentry hfound with ⟨-, rfl⟩ | ⟨hne, -⟩
        · exact hdone
        · exact absurd rfl hne
      rw [finalCleanups_settle, hzero, JobEntry.replaced, if_neg hnot]
      rfl
  · refine (h.counted other).congr ?_ ?_
    · refine and_congr ((mem_settledIds_settle hid).trans (or_iff_left heq))
        (forall_congr' fun found => ?_)
      rw [find_settle hentry, if_neg heq]
    · have hnone : finalsOf other settled.replaced = 0 := by
        unfold JobEntry.replaced
        split_ifs
        · rw [finalsOf_singleton, if_neg fun hboth => heq (hboth.1.symm.trans hid)]
        · rfl
      rw [finalCleanups_settle, hnone, Nat.add_zero]

/-- No more jobs run than did. -/
theorem runningCount_settle_le (hstate : terminal settled.snapshot.state = true) :
    (w.settle id settled).registry.runningCount ≤ w.registry.runningCount := by
  show ((w.registry.jobs.rows.map fun row => (row.1, if row.1 = id then settled else row.2)).countP
    _) ≤ _
  rw [List.countP_map]
  refine List.countP_mono_left fun row _ hrow => ?_
  simp only [Function.comp] at hrow
  split_ifs at hrow
  · rw [isRunning_eq_false hstate] at hrow
    cases hrow
  · exact hrow

end

/-- The job of an entry that is running settles. -/
theorem Sound.settle (h : w.Sound) {id : JobId} {entry : JobEntry D} (settled : JobEntry D)
    (hentry : w.registry.jobs.find id = some entry)
    (hrunning : terminal entry.snapshot.state = false)
    (hid : settled.snapshot.id = entry.snapshot.id)
    (hstate : terminal settled.snapshot.state = true) (hcleaned : settled.cleaned = entry.cleaned) :
    (w.settle id settled).Sound := by
  have hself : settled.snapshot.id = id := hid.trans (h.entry_id id entry hentry).1
  have hstarted : id ∈ w.started := (h.entry_id id entry hentry).2
  have hunsettled : id ∉ w.settledIds := by
    rw [← h.terminal_iff id entry hentry, hrunning]
    exact Bool.false_ne_true
  constructor
  case running_le => exact (runningCount_settle_le hstate).trans h.running_le
  case entry_id =>
    intro other found hfound
    rcases eq_or_of_find_settle hentry hfound with ⟨rfl, rfl⟩ | ⟨-, hfound⟩
    · exact ⟨hself, hstarted⟩
    · exact h.entry_id other found hfound
  case started_lt => exact h.started_lt
  case increasing => exact h.increasing
  case settled_started =>
    intro snapshot hsnapshot
    rcases List.mem_append.1 hsnapshot with hsnapshot | hsnapshot
    · exact h.settled_started snapshot hsnapshot
    · rw [List.mem_singleton.1 hsnapshot]
      exact ⟨hself ▸ hstarted, hstate⟩
  case nodup =>
    rw [settledIds_settle hself, List.nodup_append]
    refine ⟨h.nodup, List.pairwise_singleton _ id, fun other hother last hlast => ?_⟩
    rw [List.mem_singleton.1 hlast]
    exact fun heq => hunsettled (heq ▸ hother)
  case order =>
    obtain ⟨evicted, hsettled, hgone⟩ := h.order
    refine ⟨evicted, ?_, fun other hevicted => ?_⟩
    · rw [settledIds_settle hself, hsettled, List.append_assoc]
      rfl
    · have hne : other ≠ id := fun heq =>
        hunsettled (by rw [hsettled, ← heq]; exact List.mem_append_left _ hevicted)
      exact ((find_settle hentry other).trans (if_neg hne)).trans (hgone other hevicted)
  case retained =>
    intro other hother
    rcases List.mem_append.1 hother with hother | hother
    · obtain ⟨found, hfound⟩ := h.retained other hother
      exact exists_find_settle hentry hfound
    · rw [List.mem_singleton.1 hother]
      exact exists_find_settle hentry hentry
  case terminal_iff =>
    intro other found hfound
    refine Iff.trans ?_ (mem_settledIds_settle hself).symm
    rcases eq_or_of_find_settle hentry hfound with ⟨rfl, rfl⟩ | ⟨hne, hfound⟩
    · rw [hstate]
      exact ⟨fun _ => .inr rfl, fun _ => rfl⟩
    · rw [h.terminal_iff other found hfound]
      exact (or_iff_left hne).symm
  case fixed =>
    intro other found hfound hterminal
    rcases eq_or_of_find_settle hentry hfound with ⟨rfl, rfl⟩ | ⟨-, hfound⟩
    · exact List.mem_append_right _ (List.mem_singleton_self _)
    · exact List.mem_append_left _ (h.fixed other found hfound hterminal)
  case kept =>
    intro other hother hopen
    obtain ⟨found, hfound⟩ := h.kept other hother fun hsettled =>
      hopen ((mem_settledIds_settle hself).2 (.inl hsettled))
    exact exists_find_settle hentry hfound
  case released =>
    intro snapshot hsnapshot hterminal
    rcases List.mem_append.1 hsnapshot with hsnapshot | hsnapshot
    · exact List.mem_append_left _ (h.released snapshot hsnapshot hterminal)
    · unfold JobEntry.replaced at hsnapshot
      split_ifs at hsnapshot
      · exact List.mem_append_right _ hsnapshot
      · cases hsnapshot
  case counted => exact h.counted_settle hentry hself hunsettled hstate
  case leased => exact h.leased
  case granted =>
    intro other hgranted
    exact (h.granted other hgranted).imp_right fun hsettled =>
      (mem_settledIds_settle hself).2 (.inl hsettled)
  case shut =>
    refine fun hdone => ⟨(h.shut hdone).1, fun other found hfound => ?_⟩
    rcases eq_or_of_find_settle hentry hfound with ⟨-, rfl⟩ | ⟨-, hfound⟩
    · rw [hcleaned]
      exact (h.shut hdone).2 id entry hentry
    · exact (h.shut hdone).2 other found hfound

/-! ### Every operation -/

/-- An operation that evicts, and then notifies the observers. -/
theorem steady_evict {r : JobRegistry D} (h : (w.withRegistry r).Sound) :
    ({ w with registry := r.evict.2.notify.2, cleaned := w.cleaned ++ r.evict.1 } :
      JobWorld D).Steady := by
  obtain ⟨hsound, hlength⟩ := h.evict
  refine ⟨Sound.notify (w := { w with cleaned := w.cleaned ++ r.evict.1 }) hsound, ?_⟩
  show r.evict.2.notify.2.terminalOrder.length ≤ _
  rw [terminalOrder_notify]
  exact hlength

theorem Steady.grant (h : w.Steady) {id : JobId} (hid : id ∈ w.started) : (w.grant id).Steady := by
  refine ⟨{ h.sound with leased := ?_, granted := ?_ }, h.length_le⟩
  · intro other hother
    rcases List.mem_append.1 hother with hother | hother
    · exact h.sound.leased other hother
    · rw [List.mem_singleton.1 hother]
      exact hid
  · intro other hother
    rcases List.mem_append.1 hother with hother | hother
    · exact (h.sound.granted other hother).imp_left fun hlease => List.mem_append_left _ hlease
    · exact .inl (List.mem_append_right _ hother)

theorem Steady.release (h : w.Steady) {id : JobId} (hid : id ∈ w.settledIds) :
    (w.release id).Steady := by
  refine ⟨{ h.sound with leased := ?_, granted := ?_ }, h.length_le⟩
  · exact fun other hother => h.sound.leased other (List.mem_filter.1 hother).1
  · intro other hother
    by_cases heq : other = id
    · exact .inr (heq ▸ hid)
    · refine (h.sound.granted other hother).imp_left fun hlease => ?_
      exact List.mem_filter.2 ⟨hlease, decide_eq_true heq⟩

/-- `start`: a job, or nothing. -/
theorem steady_start (h : w.Steady) (kind : JobKind) (title : String) (details : D)
    (now : Timestamp) : (w.record (w.registry.start kind title details now)).Steady ∧
      ∀ id, (w.registry.start kind title details now).result = .ok id →
        id ∈ (w.record (w.registry.start kind title details now)).started := by
  have hnothing : ∀ (error : JobRegistryError) (nextId : ℕ), w.registry.nextId ≤ nextId →
      (w.record ({ result := .error error, registry := { w.registry with nextId := nextId } } :
        Outcome D JobId)).Steady := by
    intro error nextId hle
    simp only [record, List.append_nil]
    exact ⟨{ h.sound with started_lt := fun id hid => (h.sound.started_lt id hid).trans_le hle },
      h.length_le⟩
  unfold JobRegistry.start
  split_ifs with hshutting hcapacity
  · exact ⟨hnothing _ _ le_rfl, fun id hid => by cases hid⟩
  · exact ⟨hnothing _ _ le_rfl, fun id hid => by cases hid⟩
  · split
    · exact ⟨hnothing _ _ le_rfl, fun id hid => by cases hid⟩
    · next nextId hnext =>
      obtain rfl := (checkedSucc_eq_some_iff.1 hnext).2
      split
      · exact ⟨hnothing _ _ (Nat.le_succ _), fun id hid => by cases hid⟩
      · next nextToken htoken =>
        let entry : JobEntry D :=
          { snapshot :=
              { id := w.registry.nextId
                kind := kind
                state := .running
                title := title
                startedAt := now
                completedAt := none
                details := .published details }
            token := w.registry.nextToken
            cancellation := false
            cleaned := false }
        have hinsert := h.sound.insert entry nextToken (Nat.not_le.1 hcapacity)
          (Bool.eq_false_iff.2 hshutting) rfl rfl
        have hsteady := steady_evict (w := { w with started := w.started ++ [w.registry.nextId] })
          hinsert
        refine ⟨?_, fun id hid => ?_⟩
        · simp only [record, List.append_nil]
          exact hsteady
        · have hmap : ((JobRegistry.notify _).1.map fun _ => w.registry.nextId) = .ok id := hid
          obtain rfl : w.registry.nextId = id := by
            revert hmap
            cases (JobRegistry.notify _).1 with
            | error error => exact fun hfalse => by cases hfalse
            | ok done => exact Except.ok.inj
          exact List.mem_append_right _ (List.mem_singleton_self _)

/-- `JobLease::finish` on the entry of the lease: the job has settled behind it, whatever
it returns, unless it is still running. -/
theorem steady_finishLease (h : w.Steady) {id : JobId} (hid : id ∈ w.started) (state : JobState)
    (details : JobDetails D) (now : Timestamp) :
    (w.record (w.registry.finishLease id state details now)).Steady ∧
      ((w.registry.finishLease id state details now).result = .ok () ∨ terminal state = true →
        id ∈ (w.record (w.registry.finishLease id state details now)).settledIds) := by
  have hnothing : ∀ error : JobRegistryError,
      (w.record ({ result := .error error, registry := w.registry } : Outcome D Unit)).Steady :=
    fun error => h.record_error _
  have hsame : ∀ error : JobRegistryError, id ∈ w.settledIds → id ∈ (w.record
      ({ result := .error error, registry := w.registry } : Outcome D Unit)).settledIds := by
    intro error hmem
    show id ∈ (w.settled ++ []).map JobSnapshot.id
    rw [List.append_nil]
    exact hmem
  unfold JobRegistry.finishLease
  split
  · next hnone =>
    refine ⟨hnothing _, fun _ => hsame _ ?_⟩
    by_contra hunsettled
    obtain ⟨entry, hentry⟩ := h.sound.kept id hid hunsettled
    rw [hnone] at hentry
    cases hentry
  · next entry hentry =>
    unfold JobRegistry.finish
    split_ifs with hstate
    · refine ⟨hnothing _, fun hdone => ?_⟩
      rcases hdone with hdone | hdone
      · cases hdone
      · rw [hstate] at hdone
        cases hdone
    · have hterminal : terminal state = true := Bool.of_not_eq_false hstate
      split
      · next error howned =>
        refine ⟨hnothing _, fun _ => hsame _ ?_⟩
        rw [JobRegistry.owned, hentry] at howned
        dsimp only at howned
        split_ifs at howned with hsettled
        exact (h.sound.terminal_iff id entry hentry).1 (hsettled.resolve_left fun hne => hne rfl)
      · next owner howned =>
        obtain ⟨howner, hrunning⟩ := owned_eq_ok howned
        let settled : JobEntry D :=
          { owner with
            snapshot :=
              { owner.snapshot with state := state, completedAt := some now, details := details } }
        have hsettle := h.sound.settle settled howner hrunning rfl hterminal rfl
        have hsteady := steady_evict (w := { w with
          settled := w.settled ++ [settled.snapshot], cleaned := w.cleaned ++ settled.replaced })
          hsettle
        refine ⟨?_, fun _ => ?_⟩
        · simp only [record, List.append_nil]
          rw [← List.append_assoc]
          exact hsteady
        · show id ∈ (w.settled ++ [settled.snapshot]).map JobSnapshot.id
          rw [List.map_append, List.map_singleton]
          refine List.mem_append_right _ (List.mem_singleton.2 ?_)
          exact (h.sound.entry_id id owner howner).1.symm

theorem steady_step (w : JobWorld D) (operation : JobOperation D) (h : w.Steady) :
    (w.step operation).Steady := by
  cases operation with
  | start kind title details now =>
    obtain ⟨hsteady, hstarted⟩ := steady_start h kind title details now
    rw [step]
    split
    · next id hid => exact hsteady.grant (hstarted id hid)
    · exact hsteady
  | update id token details => exact steady_update h id token details
  | finish id state details now =>
    rw [step]
    split_ifs with hlease
    · obtain ⟨hsteady, hsettled⟩ := steady_finishLease h (h.sound.leased id hlease) state details now
      dsimp only
      split
      · next hdone => exact hsteady.release (hsettled (.inl hdone))
      · exact hsteady
    · exact h
  | drop id now =>
    rw [step]
    split_ifs with hlease
    · obtain ⟨hsteady, hsettled⟩ := steady_finishLease h (h.sound.leased id hlease) .failed
        .producerDisappeared now
      exact hsteady.release (hsettled (.inr rfl))
    · exact h
  | cancel id => exact steady_requestCancel h id
  | shutdown => exact steady_shutdown h
  | endShutdown =>
    rw [step]
    split_ifs with hshutting
    · exact ⟨sound_endShutdown h.sound hshutting, h.length_le⟩
    · exact h

theorem steady_new : (new : JobWorld D).Steady := by
  refine ⟨?_, Nat.zero_le _⟩
  constructor
  case order => exact ⟨[], rfl, fun id hid => absurd hid List.not_mem_nil⟩
  case counted => exact fun id => ⟨fun hdue => absurd hdue.1 List.not_mem_nil, fun _ => rfl⟩
  case running_le => exact Nat.zero_le _
  case increasing => exact .nil
  case nodup => exact .nil
  case shut => exact fun hfalse => by cases hfalse
  all_goals intros; contradiction

/-- What an operation settled stays settled. -/
theorem settled_prefix_step (w : JobWorld D) (operation : JobOperation D) :
    w.settled <+: (w.step operation).settled := by
  cases operation with
  | start kind title details now =>
    rw [step]
    split <;> exact List.prefix_append _ _
  | finish id state details now =>
    rw [step]
    split_ifs
    · dsimp only
      split <;> exact List.prefix_append _ _
    · exact List.prefix_rfl
  | drop id now =>
    rw [step]
    split_ifs
    · exact List.prefix_append _ _
    · exact List.prefix_rfl
  | endShutdown =>
    rw [step]
    split_ifs
    · exact List.prefix_append _ _
    · exact List.prefix_rfl
  | update id token details => exact List.prefix_append _ _
  | cancel id => exact List.prefix_append _ _
  | shutdown => exact List.prefix_append _ _

theorem settled_prefix_run (w : JobWorld D) (operations : List (JobOperation D)) :
    w.settled <+: (Run.run step w operations).settled :=
  Run.run_invariant (I := fun later : JobWorld D => w.settled <+: later.settled)
    (fun later operation h => h.trans (settled_prefix_step later operation)) List.prefix_rfl operations

/-- Two snapshots that one job settled with are one. -/
theorem Lawful.eq_of_id_eq (h : w.Lawful) {a b : JobSnapshot D} (ha : a ∈ w.settled)
    (hb : b ∈ w.settled) (hid : a.id = b.id) : a = b :=
  List.inj_on_of_nodup_map h.settles_once ha hb hid

/-- **Every run of the registry is lawful,** and a job that settled keeps its snapshot for as
long as it is retained. -/
theorem lawful_run (operations : List (JobOperation D)) :
    (Run.run step new operations).Lawful ∧
      ∀ (more : List (JobOperation D)) (id : JobId) (entry later : JobEntry D),
        (Run.run step new operations).registry.jobs.find id = some entry →
        terminal entry.snapshot.state = true →
        (Run.run step new (operations ++ more)).registry.jobs.find id = some later →
        later.snapshot = entry.snapshot := by
  have hsteady : ∀ operations : List (JobOperation D), (Run.run step new operations).Steady :=
    fun operations => Run.run_invariant steady_step steady_new operations
  have hlawful : ∀ operations : List (JobOperation D), (Run.run step new operations).Lawful :=
    fun operations => (hsteady operations).sound.lawful (hsteady operations).length_le
  refine ⟨hlawful operations, fun more id entry later hentry hterminal hlater => ?_⟩
  have hsettled : entry.snapshot ∈ (Run.run step new (operations ++ more)).settled := by
    rw [Run.run_append]
    exact (settled_prefix_run _ more).subset ((hlawful operations).fixed id entry hentry hterminal)
  have hid : entry.snapshot.id = id := ((hsteady operations).sound.entry_id id entry hentry).1
  have hlater_id := (hsteady (operations ++ more)).sound.entry_id id later hlater
  have hlater_terminal : terminal later.snapshot.state = true := by
    rw [(hsteady (operations ++ more)).sound.terminal_iff id later hlater, ← hid]
    exact mem_settledIds_of_mem hsettled
  exact (hlawful _).eq_of_id_eq ((hlawful _).fixed id later hlater hlater_terminal) hsettled
    (hlater_id.1.trans hid.symm)

end JobWorld
end Tools
end Moh
