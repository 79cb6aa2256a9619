/-
# The accounts of the connections

Everything that a client left in a queue is accounted for by its connection, which the
activity tracker knows until the cleanup behind it was answered (`Accounted`).  The queue
of the manager is served in order, so the cleanup of a connection comes behind its
requests; and so is the queue of an actor, so the actors that the cleanup has visited
have handled every command of the client.  Once no connection is known, no actor has a
command of a client to handle.

During a flush no connection is open, and the snapshot of the deadline is the one of the
tracker as long as the generation is the same (`Flushing`).
-/

import Moh.Backend.Server
import Moh.Session.Tracked
import Mathlib.Data.List.Dedup

namespace Moh
namespace Backend

open SessionManager

/-- A task that has not taken its connection off, nor been told that it may. -/
def Phase.isOpen : Phase → Bool
  | .detached _ => false
  | _ => true

/-- Whom a request comes from: `flush` is the serve loop. -/
def Request.sender : Request → Purpose
  | .client id _ => .cleanup id
  | .visit purpose => purpose

/-- An actor that the visit has not reached, or that has the client's commands ahead of
the visit's. -/
def Visit.Covers (v : Visit) (h : SessionHandle) (inbox : List ConnectionId) (id : ConnectionId) :
    Prop :=
  h ∈ v.left ∧ ∀ rest k, v.left = h :: rest → v.ahead = some k → id ∉ inbox.drop k

@[simp] theorem Visit.purpose_advance (v : Visit) (h : SessionHandle) :
    (v.advance h).purpose = v.purpose := by
  unfold advance
  split_ifs <;> rfl

@[simp] theorem Visit.left_advance (v : Visit) (h : SessionHandle) :
    (v.advance h).left = v.left := by
  unfold advance
  split_ifs <;> rfl

@[simp] theorem Visit.error_advance (v : Visit) (h : SessionHandle) :
    (v.advance h).error = v.error := by
  unfold advance
  split_ifs <;> rfl

theorem Visit.isSome_ahead_advance (v : Visit) (h : SessionHandle) :
    (v.advance h).ahead.isSome = v.ahead.isSome := by
  unfold advance
  split_ifs
  · exact Option.isSome_map
  · rfl

/-- What is ahead of the command of the visit. -/
theorem Visit.ahead_advance {v : Visit} {h i : SessionHandle} {rest : List SessionHandle} {k : ℕ}
    (hleft : v.left = i :: rest) (hk : (v.advance h).ahead = some k) :
    ∃ k', v.ahead = some k' ∧ k = if i = h then k' - 1 else k' := by
  unfold advance at hk
  rw [hleft, List.head?_cons] at hk
  split_ifs at hk with hi
  · obtain ⟨k', hk', rfl⟩ := Option.map_eq_some_iff.1 hk
    exact ⟨k', hk', by rw [if_pos (Option.some.inj hi)]⟩
  · have hne : i ≠ h := fun he => hi (congrArg some he)
    exact ⟨k, hk, (if_neg hne).symm⟩

namespace Server

variable {w : Server}

/-- Who may have something in the queue of the manager. -/
def Waits (w : Server) : Purpose → Prop
  | .cleanup id => w.connections id = some .serving ∨ w.connections id = some .queued
  | .flush => ∃ snapshot, w.serving = .flushing snapshot none

/-- For whom the manager may visit the actors. -/
def IsVisited (w : Server) : Purpose → Prop
  | .cleanup id => w.connections id = some .visiting
  | .flush => (∃ snapshot, w.serving = .flushing snapshot none) ∧
    ∀ r ∈ w.queue, r.sender ≠ .flush

/-- Who waits for a connection goes on to, while no connection changes its phase. -/
theorem Waits.congr {w w' : Server} {p : Purpose} (h : w.Waits p)
    (hconnections : w'.connections = w.connections)
    (hflush : p = .flush → w.Waits .flush → w'.Waits .flush) : w'.Waits p := by
  cases p with
  | cleanup id =>
    rw [Waits, hconnections]
    exact h
  | flush => exact hflush rfl h

/-- So does who is visited for. -/
theorem IsVisited.congr {w w' : Server} {p : Purpose} (h : w.IsVisited p)
    (hconnections : w'.connections = w.connections)
    (hflush : p = .flush → w.IsVisited .flush → w'.IsVisited .flush) : w'.IsVisited p := by
  cases p with
  | cleanup id =>
    rw [IsVisited, hconnections]
    exact h
  | flush => exact hflush rfl h

/-- The actor answered a flush with success at the generation `g` or later. -/
def AnsweredSince (w : Server) (h : SessionHandle) (g : ℕ) : Prop :=
  ∃ g', w.answered h = some g' ∧ g ≤ g' ∧ g' ≤ w.activity.generation

/-- **What holds while a flush is awaited.** -/
structure Flushing (w : Server) (snapshot : ActivitySnapshot) (result : Option Bool) : Prop where
  idle : snapshot.isIdle = true
  later : snapshot.generation ≤ w.activity.generation
  same : w.activity.generation = snapshot.generation → w.activity.snapshot = snapshot
  closed : ∀ id, w.connections id = none
  visited : ∀ v, w.managing = some v → v.purpose = .flush → v.error = none →
    ∀ h, w.manager.IsLive h → h ∈ v.left ∨ w.AnsweredSince h snapshot.generation
  done : result = some true → w.manager.stopped = false ∧
    ∀ h, w.manager.IsLive h → w.AnsweredSince h snapshot.generation

/-- **Nothing would be lost.**  No connection is open; no actor has an active run or a
command of a client to handle; no job and no title task is registered; and every actor
answered a flush with success at the current generation. -/
structure Quiet (w : Server) : Prop where
  connections : (∀ id, w.connections id = none) ∧ w.activity.connections = []
  runs : ∀ (h : SessionHandle) (t : ActorTask), w.manager.tasks[h]? = some t → t.exited = none →
    w.activeRun h t = false
  inboxes : ∀ h, w.manager.IsLive h → w.inbox h = []
  jobs : ∀ id, w.activity.jobsOf id = 0
  titles : w.activity.titleTasks = 0
  flushed : ∀ h, w.manager.IsLive h → w.answered h = some w.activity.generation

/-- **Every queue is accounted for.** -/
structure Accounted (w : Server) : Prop where
  tracked : w.manager.Tracked
  connected : ∀ id, id ∈ w.activity.connections ↔ (w.connections id).isSome = true
  allotted : ∀ next, w.nextConnection = some next → ∀ id, (w.connections id).isSome = true →
    id.value < next.value
  requests : ∀ id command, .client id command ∈ w.queue → command.isRequest = true
  senders : ∀ r ∈ w.queue, w.Waits r.sender
  cleanups : ∀ id, .visit (.cleanup id) ∈ w.queue → w.connections id = some .queued
  ordered : w.queue.Pairwise fun a b => ∀ p, a = .visit p → b.sender ≠ p
  managing : ∀ v, w.managing = some v → w.IsVisited v.purpose ∧ w.manager.stopped = false
  ahead : ∀ v k, w.managing = some v → v.ahead = some k →
    ∃ h rest, v.left = h :: rest ∧ k ≤ (w.inbox h).length
  unready : w.ready = false → w.queue = [] ∧ w.managing = none ∧ w.manager.tasks.length = 0
  fresh : ∀ h, w.manager.tasks.length ≤ h → w.inbox h = []
  busy : ∀ h, (w.busy h).isSome = true → w.inbox h ≠ []
  inboxes : w.manager.stopped = false → ∀ h, w.manager.IsLive h → ∀ id ∈ w.inbox h,
    ∃ phase, w.connections id = some phase ∧ phase.isOpen = true
  visiting : ∀ v id, w.managing = some v → v.purpose = .cleanup id → ∀ h, w.manager.IsLive h →
    id ∈ w.inbox h → v.Covers h (w.inbox h) id
  flushing : ∀ snapshot result, w.serving = .flushing snapshot result → w.Flushing snapshot result
  quiet : w.serving = .left (.ok .idle) → w.Quiet

/-- The loop was not left. -/
def Serves (w : Server) : Prop := ∀ result, w.serving ≠ .left result

/-! ### Steps that change one thing -/

theorem AnsweredSince.manager {h : SessionHandle} {g : ℕ} (ha : w.AnsweredSince h g)
    {m' : SessionManager} (hp : w.manager.Passes m') :
    AnsweredSince { w with manager := m' } h g := by
  obtain ⟨g', hg', hle, hle'⟩ := ha
  exact ⟨g', hg', hle, hle'.trans hp.continues.later.generation_le⟩

/-- **What happens without a request of a client.** -/
theorem Accounted.manager (hw : w.Accounted) (hs : w.Serves) {m' : SessionManager}
    (hp : w.manager.Passes m') : Accounted { w with manager := m' } where
  tracked := hp.tracked
  connected id := by
    rw [← hw.connected id]
    exact Eq.to_iff (congrArg (id ∈ ·) hp.continues.connections)
  allotted := hw.allotted
  requests := hw.requests
  senders := hw.senders
  cleanups := hw.cleanups
  ordered := hw.ordered
  managing v hv := ⟨(hw.managing v hv).1, hp.stopped.trans (hw.managing v hv).2⟩
  ahead := hw.ahead
  unready hr := (hw.unready hr).imp_right (And.imp_right hp.follows.length.trans)
  fresh h hle := hw.fresh h (hp.follows.length ▸ hle)
  busy := hw.busy
  inboxes hns h hl := hw.inboxes (hp.stopped ▸ hns) h (hp.follows.isLive hl)
  visiting v id hv hpurpose h hl := hw.visiting v id hv hpurpose h (hp.follows.isLive hl)
  flushing snapshot result hf := by
    have hold := hw.flushing snapshot result hf
    refine ⟨hold.idle, hold.later.trans hp.continues.later.generation_le, fun hg => ?_, hold.closed,
      fun v hv hpurpose herror h hl => ?_, fun hr => ?_⟩
    · have hsame : m'.activity = w.manager.activity :=
        hp.continues.later.eq (le_antisymm (hg.trans_le hold.later) hp.continues.later.generation_le)
      show m'.activity.snapshot = snapshot
      rw [hsame]
      exact hold.same ((congrArg ActivityTracker.generation hsame).symm.trans hg)
    · exact (hold.visited v hv hpurpose herror h (hp.follows.isLive hl)).imp_right
        fun ha => ha.manager hp
    · exact ⟨hp.stopped.trans (hold.done hr).1, fun h hl =>
        ((hold.done hr).2 h (hp.follows.isLive hl)).manager hp⟩
  quiet hq := absurd hq (hs _)

/-- The loop goes elsewhere, from where it does not wait for a flush. -/
theorem Accounted.serve (hw : w.Accounted) (hnone : ∀ snapshot, w.serving ≠ .flushing snapshot none)
    {serving : Serving} (hflush : ∀ snapshot result, serving ≠ .flushing snapshot result)
    (hquiet : serving = .left (.ok .idle) → w.Quiet) (waiter : Option ActivitySnapshot) :
    Accounted { w with serving := serving, waiter := waiter } where
  tracked := hw.tracked
  connected := hw.connected
  allotted := hw.allotted
  requests := hw.requests
  senders r hr := (hw.senders r hr).congr rfl fun _ hwaits => by
    obtain ⟨snapshot, hf⟩ := hwaits
    exact absurd hf (hnone snapshot)
  cleanups := hw.cleanups
  ordered := hw.ordered
  managing v hv := by
    obtain ⟨hvisited, hstopped⟩ := hw.managing v hv
    refine ⟨hvisited.congr rfl fun _ hflush => ?_, hstopped⟩
    obtain ⟨snapshot, hf⟩ := hflush.1
    exact absurd hf (hnone snapshot)
  ahead := hw.ahead
  unready := hw.unready
  fresh := hw.fresh
  busy := hw.busy
  inboxes := hw.inboxes
  visiting := hw.visiting
  flushing snapshot result hf := absurd hf (hflush snapshot result)
  quiet hq :=
    have h := hquiet hq
    ⟨h.connections, h.runs, h.inboxes, h.jobs, h.titles, h.flushed⟩

/-! ### The serve loop -/

theorem Accounted.keepServing (hw : w.Accounted)
    (hnone : ∀ snapshot, w.serving ≠ .flushing snapshot none) : w.keepServing.Accounted :=
  hw.serve hnone (by simp) (by simp) none

theorem Accounted.leave (hw : w.Accounted)
    (hnone : ∀ snapshot, w.serving ≠ .flushing snapshot none)
    {result : Except BackendError ShutdownReason} (hquiet : result = .ok .idle → w.Quiet) :
    (w.leave result).Accounted :=
  hw.serve hnone (by simp) (fun h => hquiet (Serving.left.inj h)) w.waiter

/-! ### Queues -/

/-- Another queue, or no visit any more. -/
theorem Flushing.congr {w' : Server} {snapshot : ActivitySnapshot} {result : Option Bool}
    (hf : w.Flushing snapshot result) (hmanager : w'.manager = w.manager)
    (hconnections : w'.connections = w.connections) (hanswered : w'.answered = w.answered)
    (hmanaging : ∀ v, w'.managing = some v → w.managing = some v) :
    w'.Flushing snapshot result := by
  have hactivity : w'.activity = w.activity := congrArg SessionManager.activity hmanager
  refine ⟨hf.idle, ?_, ?_, ?_, fun v hv hpurpose herror h hl => ?_, fun hr => ?_⟩
  · rw [hactivity]
    exact hf.later
  · rw [hactivity]
    exact hf.same
  · rw [hconnections]
    exact hf.closed
  · rw [hmanager] at hl
    unfold AnsweredSince
    rw [hanswered, hactivity]
    exact hf.visited v (hmanaging v hv) hpurpose herror h hl
  · rw [hmanager]
    unfold AnsweredSince
    rw [hanswered, hactivity]
    exact hf.done hr

/-- What is not accounted for. -/
theorem Accounted.elsewhere (hw : w.Accounted) (hs : w.Serves)
    (completions : List (TitleRequest × Except TitleGenerationError String))
    (completed : List (Except SessionManagerError Unit)) (backlog : ℕ)
    (waiter : Option ActivitySnapshot) :
    Accounted { w with
      completions := completions
      completed := completed
      backlog := backlog
      waiter := waiter } :=
  { hw with
    flushing := fun snapshot result hf =>
      (hw.flushing snapshot result hf).congr rfl rfl rfl fun _ hv => hv
    quiet := fun hq => absurd hq (hs _) }

/-- The manager takes a command from its queue. -/
theorem Accounted.dequeue (hw : w.Accounted) (hs : w.Serves) {r : Request} {rest : List Request}
    (hq : w.queue = r :: rest) : Accounted { w with queue := rest } := by
  have hmem (a : Request) (ha : a ∈ rest) : a ∈ w.queue := hq ▸ List.mem_cons_of_mem r ha
  exact { hw with
    requests := fun id command ha => hw.requests id command (hmem _ ha)
    senders := fun a ha => hw.senders a (hmem a ha)
    cleanups := fun id ha => hw.cleanups id (hmem _ ha)
    ordered := by
      have ho := hw.ordered
      rw [hq] at ho
      exact (List.pairwise_cons.1 ho).2
    managing := fun v hv => by
      obtain ⟨hvisited, hstopped⟩ := hw.managing v hv
      exact ⟨hvisited.congr rfl fun _ hflush =>
        ⟨hflush.1, fun a ha => hflush.2 a (hmem a ha)⟩, hstopped⟩
    unready := fun hr => by
      have hnil := (hw.unready hr).1
      rw [hq] at hnil
      simp at hnil
    flushing := fun snapshot result hf =>
      (hw.flushing snapshot result hf).congr rfl rfl rfl fun _ hv => hv
    quiet := fun hq => absurd hq (hs _) }

/-- Something is sent to the manager. -/
theorem Accounted.enqueue (hw : w.Accounted) (hs : w.Serves) (hready : w.ready = true) {r : Request}
    (hrequest : ∀ id command, r = .client id command → command.isRequest = true)
    (hwaits : w.Waits r.sender)
    (hcleanup : ∀ id, r = .visit (.cleanup id) → w.connections id = some .queued)
    (hlast : ∀ a ∈ w.queue, ∀ p, a = .visit p → r.sender ≠ p)
    (hflush : ∀ v, w.managing = some v → v.purpose = .flush → r.sender ≠ .flush) :
    Accounted { w with queue := w.queue ++ [r] } := by
  have hmem (a : Request) (ha : a ∈ w.queue ++ [r]) : a ∈ w.queue ∨ a = r := by
    simpa using ha
  exact { hw with
    requests := fun id command ha => by
      rcases hmem _ ha with ha | ha
      · exact hw.requests id command ha
      · exact hrequest id command ha.symm
    senders := fun a ha => by
      rcases hmem a ha with ha | rfl
      · exact hw.senders a ha
      · exact hwaits
    cleanups := fun id ha => by
      rcases hmem _ ha with ha | ha
      · exact hw.cleanups id ha
      · exact hcleanup id ha.symm
    ordered := by
      refine List.pairwise_append.2 ⟨hw.ordered, List.pairwise_singleton _ _, fun a ha b hb => ?_⟩
      obtain rfl := List.mem_singleton.1 hb
      exact hlast a ha
    managing := fun v hv => by
      obtain ⟨hvisited, hstopped⟩ := hw.managing v hv
      refine ⟨hvisited.congr rfl fun hpurpose hold => ⟨hold.1, fun a ha => ?_⟩, hstopped⟩
      rcases hmem a ha with ha | rfl
      · exact hold.2 a ha
      · exact hflush v hv hpurpose
    unready := fun hr => absurd (hready.symm.trans hr) (by simp)
    flushing := fun snapshot result hf =>
      (hw.flushing snapshot result hf).congr rfl rfl rfl fun _ hv => hv
    quiet := fun hq => absurd hq (hs _) }

/-- The manager has no visit to go on with. -/
theorem Accounted.dismiss (hw : w.Accounted) (hs : w.Serves) :
    Accounted { w with managing := none } :=
  have hnone : ∀ v : Visit, (none : Option Visit) ≠ some v := fun v => (Option.some_ne_none v).symm
  { hw with
    managing := fun v hv => absurd hv (hnone v)
    ahead := fun v _ hv => absurd hv (hnone v)
    unready := fun hr => ⟨(hw.unready hr).1, rfl, (hw.unready hr).2.2⟩
    visiting := fun v _ hv => absurd hv (hnone v)
    flushing := fun snapshot result hf =>
      (hw.flushing snapshot result hf).congr rfl rfl rfl fun v hv => absurd hv (hnone v)
    quiet := fun hq => absurd hq (hs _) }

/-! ### Connections -/

/-- Nothing of a connection that is there happens during a flush. -/
theorem not_flushing (hw : w.Accounted) {id : ConnectionId} {phase : Phase}
    (hc : w.connections id = some phase) (snapshot : ActivitySnapshot) (result : Option Bool) :
    w.serving ≠ .flushing snapshot result := by
  intro hf
  rw [(hw.flushing snapshot result hf).closed id] at hc
  simp at hc

/-- **A connection comes to another phase,** which goes with what is left of it in the
queues. -/
theorem Accounted.phase (hw : w.Accounted) (hs : w.Serves)
    (hf : ∀ snapshot result, w.serving ≠ .flushing snapshot result) {id : ConnectionId}
    (phase : Option Phase) (activity : ActivityTracker) (next : Option ConnectionId)
    (hruns : ∀ i, activity.hasRun i ↔ w.activity.hasRun i)
    (hconnected : ∀ id', id' ∈ activity.connections ↔
      (Function.update w.connections id phase id').isSome = true)
    (hallotted : ∀ n, next = some n → ∀ id',
      (Function.update w.connections id phase id').isSome = true → id'.value < n.value)
    (hqueue : ∀ r ∈ w.queue, r.sender = .cleanup id →
      phase = some .serving ∨ phase = some .queued)
    (hcleanup : .visit (.cleanup id) ∈ w.queue → phase = some .queued)
    (hvisit : ∀ v, w.managing = some v → v.purpose = .cleanup id → phase = some .visiting)
    (hinbox : w.manager.stopped = false → ∀ h, w.manager.IsLive h → id ∈ w.inbox h →
      ∃ p, phase = some p ∧ p.isOpen = true) :
    Accounted { w.track activity with
      connections := Function.update w.connections id phase
      nextConnection := next } where
  tracked := hw.tracked.booked w.manager.titleTasks hruns
  connected := hconnected
  allotted := hallotted
  requests := hw.requests
  senders r hr := by
    have hwaits := hw.senders r hr
    cases hsender : r.sender with
    | flush => rwa [hsender] at hwaits
    | cleanup id' =>
      show Function.update w.connections id phase id' = _ ∨
        Function.update w.connections id phase id' = _
      by_cases hid : id' = id
      · subst hid
        rw [Function.update_self]
        exact hqueue r hr hsender
      · rw [Function.update_of_ne hid]
        rwa [hsender] at hwaits
  cleanups id' hr := by
    show Function.update w.connections id phase id' = _
    by_cases hid : id' = id
    · subst hid
      rw [Function.update_self]
      exact hcleanup hr
    · rw [Function.update_of_ne hid]
      exact hw.cleanups id' hr
  ordered := hw.ordered
  managing v hv := by
    obtain ⟨hvisited, hstopped⟩ := hw.managing v hv
    refine ⟨?_, hstopped⟩
    cases hpurpose : v.purpose with
    | flush => rwa [hpurpose] at hvisited
    | cleanup id' =>
      show Function.update w.connections id phase id' = _
      by_cases hid : id' = id
      · subst hid
        rw [Function.update_self]
        exact hvisit v hv hpurpose
      · rw [Function.update_of_ne hid]
        rwa [hpurpose] at hvisited
  ahead := hw.ahead
  unready := hw.unready
  fresh := hw.fresh
  busy := hw.busy
  inboxes hns h hl id' hmem := by
    show ∃ p, Function.update w.connections id phase id' = some p ∧ _
    by_cases hid : id' = id
    · subst hid
      rw [Function.update_self]
      exact hinbox hns h hl hmem
    · rw [Function.update_of_ne hid]
      exact hw.inboxes hns h hl id' hmem
  visiting := hw.visiting
  flushing snapshot result hserving := absurd hserving (hf snapshot result)
  quiet hq := absurd hq (hs _)

/-- The tracker knows the connections that are there. -/
theorem connected_setConnection (hw : w.Accounted) (id : ConnectionId) (phase : Option Phase)
    (id' : ConnectionId) : id' ∈ (w.activity.setConnection id phase.isSome).connections ↔
      (Function.update w.connections id phase id').isSome = true := by
  rw [ActivityTracker.mem_setConnection, Function.update_apply]
  split_ifs
  · rfl
  · exact hw.connected id'

/-- The connections that are there, when the phase of one of them changes. -/
theorem connected_update (hw : w.Accounted) {id : ConnectionId} {phase phase' : Phase}
    (hc : w.connections id = some phase) (id' : ConnectionId) :
    id' ∈ w.activity.connections ↔
      (Function.update w.connections id (some phase') id').isSome = true := by
  rw [Function.update_apply]
  split_ifs with hid
  · rw [hw.connected id', hid, hc]
    rfl
  · exact hw.connected id'

theorem allotted_update (hw : w.Accounted) {id : ConnectionId} {phase : Phase}
    {phase' : Option Phase} (hc : w.connections id = some phase) (next : ConnectionId)
    (hn : w.nextConnection = some next) (id' : ConnectionId)
    (hsome : (Function.update w.connections id phase' id').isSome = true) :
    id'.value < next.value := by
  rw [Function.update_apply] at hsome
  split_ifs at hsome with hid
  · exact hw.allotted next hn id' (by rw [hid, hc]; rfl)
  · exact hw.allotted next hn id' hsome

/-- A connection that is being visited for is in that phase. -/
theorem visited_phase (hw : w.Accounted) {v : Visit} {id : ConnectionId}
    (hv : w.managing = some v) (hpurpose : v.purpose = .cleanup id) :
    w.connections id = some .visiting := by
  have hvisited := (hw.managing v hv).1
  rwa [hpurpose] at hvisited

theorem waiting_phase (hw : w.Accounted) {r : Request} {id : ConnectionId} (hr : r ∈ w.queue)
    (hsender : r.sender = .cleanup id) :
    w.connections id = some .serving ∨ w.connections id = some .queued := by
  have hwaits := hw.senders r hr
  rwa [hsender] at hwaits

/-- **A connection is retained** before anything comes from it. -/
theorem Accounted.retain (hw : w.Accounted) (hl : w.serving = .listening) {w' : Server}
    (hr : w.retain = .ok w') : w'.Accounted ∧ w'.serving = .listening := by
  unfold Server.retain at hr
  cases hn : w.nextConnection with
  | none => simp [hn] at hr
  | some id =>
    simp only [hn, Except.ok.injEq] at hr
    subst hr
    refine ⟨?_, hl⟩
    have hs : w.Serves := fun result => by simp [hl]
    have hnew : w.connections id = none := by
      cases hc : w.connections id with
      | none => rfl
      | some phase => exact absurd (hw.allotted id hn id (by simp [hc])) (Nat.lt_irrefl _)
    have h := hw.phase hs (by simp [hl]) (some .serving) (w.activity.setConnection id true)
      ((checkedSucc id.value).map ConnectionId.mk)
      (ActivityTracker.hasRun_setConnection _ _ _)
      (connected_setConnection hw id (some .serving)) ?_
      (fun r hr hsender => .inl rfl)
      (fun hr => absurd (hw.cleanups id hr) (by simp [hnew]))
      (fun v hv hp => absurd (visited_phase hw hv hp) (by simp [hnew]))
      (fun _ _ _ _ => ⟨_, rfl, rfl⟩)
    · exact h.elsewhere hs w.completions w.completed (w.backlog - 1) w.waiter
    · intro next hnext id' hsome
      obtain ⟨value, hvalue, rfl⟩ := Option.map_eq_some_iff.1 hnext
      obtain ⟨-, rfl⟩ := checkedSucc_eq_some_iff.1 hvalue
      rw [Function.update_apply] at hsome
      split_ifs at hsome with hid
      · rw [hid]
        exact Nat.lt_succ_self _
      · exact (hw.allotted id hn id' hsome).trans (Nat.lt_succ_self _)

/-- The loop goes on serving before or after a connection is retained. -/
theorem retain_keepServing {w' : Server} (hr : w.retain = .ok w') :
    w.keepServing.retain = .ok w'.keepServing := by
  unfold Server.retain at hr ⊢
  cases hn : w.nextConnection with
  | none => simp [hn] at hr
  | some id =>
    simp only [hn, Except.ok.injEq] at hr
    subst hr
    simp only [Server.keepServing, hn]
    rfl

theorem acceptQueued_eq_ok {polled : Polled} {queued : Bool} {w' : Server}
    (h : w.acceptQueued polled = .ok (queued, w')) :
    queued = false ∧ w' = w ∨ queued = true ∧ w.retain = .ok w' := by
  cases polled with
  | nothing =>
    simp only [acceptQueued, Except.ok.injEq, Prod.mk.injEq] at h
    exact .inl ⟨h.1.symm, h.2.symm⟩
  | failed error => simp [acceptQueued] at h
  | connection =>
    simp only [acceptQueued] at h
    split_ifs at h with hb
    · simp only [Except.ok.injEq, Prod.mk.injEq] at h
      exact .inl ⟨h.1.symm, h.2.symm⟩
    · cases hr : w.retain with
      | error error => simp [hr] at h
      | ok w₁ =>
        simp only [hr, Except.ok.injEq, Prod.mk.injEq] at h
        exact .inr ⟨h.1.symm, by rw [h.2]⟩

theorem Accounted.accept (hw : w.Accounted) (hl : w.serving = .listening) (polled : Polled) :
    (w.accept polled).Accounted := by
  unfold Server.accept
  cases ha : w.acceptQueued polled with
  | error error => exact hw.leave (by simp [hl]) (by simp)
  | ok r =>
    obtain ⟨queued, w'⟩ := r
    rcases acceptQueued_eq_ok ha with ⟨-, rfl⟩ | ⟨-, hr⟩
    · exact hw
    · exact (hw.retain hl hr).1

theorem sameIdleGeneration_eq_true {snapshot : ActivitySnapshot}
    (h : w.sameIdleGeneration snapshot = true) :
    w.activity.snapshot = snapshot ∧ snapshot.isIdle = true := by
  simpa [sameIdleGeneration] using h

/-- An idle tracker knows no connection, so there is none. -/
theorem closed_of_idle (hw : w.Accounted) (hi : w.activity.snapshot.isIdle = true)
    (id : ConnectionId) : w.connections id = none := by
  obtain ⟨hc, -⟩ := ActivityTracker.of_isIdle_snapshot hi
  cases hp : w.connections id with
  | none => rfl
  | some phase =>
    have hmem := (hw.connected id).2 (by rw [hp]; rfl)
    rw [hc] at hmem
    simp at hmem

/-- **A flush begins** with no connection. -/
theorem Accounted.flush (hw : w.Accounted) (hl : w.serving = .listening) (hready : w.ready = true)
    {snapshot : ActivitySnapshot} (hsame : w.sameIdleGeneration snapshot = true) :
    Accounted { w with
      serving := .flushing snapshot none
      queue := w.queue ++ [.visit .flush] } := by
  obtain ⟨rfl, hidle⟩ := sameIdleGeneration_eq_true hsame
  have hclosed := closed_of_idle hw hidle
  -- the loop does not wait for a flush, so there is none in the queue and none is visited for
  have hqueue (r : Request) (hr : r ∈ w.queue) : r.sender ≠ .flush := by
    intro hsender
    have hwaits := hw.senders r hr
    rw [hsender] at hwaits
    obtain ⟨s, hf⟩ := hwaits
    simp [hl] at hf
  have hvisit (v : Visit) (hv : w.managing = some v) : v.purpose ≠ .flush := by
    intro hpurpose
    have hvisited := (hw.managing v hv).1
    rw [hpurpose] at hvisited
    obtain ⟨⟨s, hf⟩, -⟩ := hvisited
    simp [hl] at hf
  have h : Accounted { w with serving := .flushing w.activity.snapshot none } := { hw with
    senders := fun r hr =>
      (hw.senders r hr).congr rfl fun hsender _ => absurd hsender (hqueue r hr)
    managing := fun v hv => by
      obtain ⟨hvisited, hstopped⟩ := hw.managing v hv
      exact ⟨hvisited.congr rfl fun hpurpose _ => absurd hpurpose (hvisit v hv), hstopped⟩
    flushing := fun snapshot result hf => by
      obtain ⟨rfl, rfl⟩ := Serving.flushing.inj hf
      exact ⟨hidle, le_rfl, fun _ => rfl, hclosed,
        fun v hv hpurpose => absurd hpurpose (hvisit v hv), nofun⟩
    quiet := nofun }
  refine h.enqueue nofun hready nofun ⟨_, rfl⟩ nofun (fun a ha p hp => ?_) fun v hv hpurpose => ?_
  · rintro rfl
    exact hqueue a ha (by rw [hp]; rfl)
  · exact absurd hpurpose (hvisit v hv)

/-- **A flush begins** with no connection, and nothing from one anywhere. -/
theorem Accounted.deadline (hw : w.Accounted) (hl : w.serving = .listening)
    (hready : w.ready = true) (snapshot : ActivitySnapshot) (polled : Polled) :
    (w.deadline snapshot polled).Accounted := by
  unfold Server.deadline
  cases ha : w.acceptQueued polled with
  | error error => exact hw.leave (by simp [hl]) (by simp)
  | ok r =>
    obtain ⟨queued, w'⟩ := r
    rcases acceptQueued_eq_ok ha with ⟨rfl, rfl⟩ | ⟨rfl, hr⟩
    · simp only [Bool.false_eq_true, if_false]
      split_ifs with hsame
      · exact hw.keepServing (by simp [hl])
      · exact hw.flush hl hready (by simpa using hsame)
    · exact (hw.retain hl hr).1.keepServing (by simp [(hw.retain hl hr).2])

theorem Accounted.elapsed (hw : w.Accounted) (hl : w.serving = .listening) (polled : Polled) :
    (w.elapsed polled).Accounted := by
  have hs : w.Serves := fun result => by simp [hl]
  unfold Server.elapsed
  split
  · rename_i snapshot hready hwaiter
    split_ifs
    · exact hw.deadline hl hready _ polled
    · exact hw.elsewhere hs w.completions w.completed w.backlog none
  · exact hw

/-- **What the last look before leaving says.** -/
theorem quiet_of_flushing (hw : w.Accounted) {snapshot : ActivitySnapshot}
    (hf : w.serving = .flushing snapshot (some true))
    (hsame : w.sameIdleGeneration snapshot = true) : w.Quiet := by
  obtain ⟨rfl, hidle⟩ := sameIdleGeneration_eq_true hsame
  obtain ⟨hconnections, hruns, hjobs, htitles⟩ := ActivityTracker.of_isIdle_snapshot hidle
  have hold := hw.flushing _ _ hf
  obtain ⟨hstopped, hanswered⟩ := hold.done rfl
  have hinbox (h : SessionHandle) (hl : w.manager.IsLive h) : w.inbox h = [] := by
    refine List.eq_nil_iff_forall_not_mem.2 fun id hid => ?_
    obtain ⟨phase, hphase, -⟩ := hw.inboxes hstopped h hl id hid
    rw [hold.closed id] at hphase
    simp at hphase
  refine ⟨⟨hold.closed, hconnections⟩, fun h t ht hx => ?_, hinbox, hjobs, htitles, fun h hl => ?_⟩
  · have hbusy : w.busy h = none := by
      by_contra hb
      exact hw.busy h (Option.isSome_iff_ne_none.2 hb) (hinbox h ⟨t, ht, hx⟩)
    have hrun : t.actor.harness.isRunning = false := by
      by_contra hr
      have hrunning : t.actor.harness.isRunning = true := by simpa using hr
      have hreg : w.activity.hasRun t.actor.record.id := hw.tracked.covered h t ht hx hrunning
      rw [ActivityTracker.hasRun, hruns] at hreg
      simp at hreg
    simp [activeRun, hrun, hbusy]
  · obtain ⟨g, hg, hle, hle'⟩ := hanswered h hl
    rw [hg, le_antisymm hle' hle]

/-- **The flush was answered:** the loop is left only if nothing would be lost. -/
theorem Accounted.flushed (hw : w.Accounted) {snapshot : ActivitySnapshot} {ok : Bool}
    (hf : w.serving = .flushing snapshot (some ok)) (polled : Polled) :
    (w.flushed snapshot ok polled).Accounted := by
  have hnone : ∀ s, w.serving ≠ .flushing s none := fun s => by simp [hf]
  unfold Server.flushed
  split_ifs with hveto
  · exact hw.keepServing hnone
  · simp only [Bool.or_eq_true, decide_eq_true_eq, not_or, Bool.not_eq_false] at hveto
    obtain ⟨rfl, hsame⟩ := hveto
    cases ha : w.acceptQueued polled with
    | error error => exact hw.leave hnone (by simp)
    | ok r =>
      obtain ⟨queued, w'⟩ := r
      rcases acceptQueued_eq_ok ha with ⟨rfl, rfl⟩ | ⟨rfl, hr⟩
      · exact hw.leave hnone fun _ => quiet_of_flushing hw hf hsame
      · exact ((hw.keepServing hnone).retain rfl (retain_keepServing hr)).1

/-! ### What clients do -/

/-- **A command that is sent is accounted for** by its connection. -/
theorem Accounted.send (hw : w.Accounted) (hs : w.Serves) (id : ConnectionId) (h : SessionHandle) :
    (w.send id h).Accounted := by
  unfold Server.send
  split
  · rename_i t hc ht
    split_ifs
    · have hlt : h < w.manager.tasks.length := (List.getElem?_eq_some_iff.1 ht).1
      have hinbox (i : SessionHandle) :
          Function.update w.inbox h (w.inbox h ++ [id]) i =
            if i = h then w.inbox i ++ [id] else w.inbox i := by
        rw [Function.update_apply]
        split_ifs with hi
        · rw [hi]
        · rfl
      exact { hw with
        ahead := fun v k hv hk => by
          obtain ⟨i, rest, hleft, hle⟩ := hw.ahead v k hv hk
          refine ⟨i, rest, hleft, hle.trans ?_⟩
          simp only [hinbox]
          split_ifs <;> simp
        fresh := fun i (hi : w.manager.tasks.length ≤ i) => by
          have hne : i ≠ h := fun he => absurd hlt (Nat.not_lt.2 (he ▸ hi))
          simp only [hinbox, if_neg hne]
          exact hw.fresh i hi
        busy := fun i hi => by
          simp only [hinbox]
          split_ifs
          · simp
          · exact hw.busy i hi
        inboxes := fun hns i hl id' hid' => by
          simp only [hinbox] at hid'
          split_ifs at hid'
          · rcases List.mem_append.1 hid' with hid' | hid'
            · exact hw.inboxes hns i hl id' hid'
            · obtain rfl := List.mem_singleton.1 hid'
              exact ⟨_, hc, rfl⟩
          · exact hw.inboxes hns i hl id' hid'
        visiting := fun v id' hv hpurpose i hl hid' => by
          have hne : id' ≠ id := by
            rintro rfl
            have hphase := visited_phase hw hv hpurpose
            rw [hc] at hphase
            simp at hphase
          simp only [hinbox] at hid' ⊢
          split_ifs at hid' ⊢ with hi
          · have hmem : id' ∈ w.inbox i := by simpa [hne] using hid'
            obtain ⟨hleft, hcovers⟩ := hw.visiting v id' hv hpurpose i hl hmem
            refine ⟨hleft, fun rest k hrest hk hdrop => hcovers rest k hrest hk ?_⟩
            obtain ⟨i', rest', hleft', hle⟩ := hw.ahead v k hv hk
            obtain ⟨rfl, -⟩ := List.cons.inj (hrest.symm.trans hleft')
            rw [List.drop_append_of_le_length hle] at hdrop
            simpa [hne] using hdrop
          · exact hw.visiting v id' hv hpurpose i hl hid'
        flushing := fun snapshot result hf => absurd hf (not_flushing hw hc snapshot result)
        quiet := fun hq => absurd hq (hs _) }
    · exact hw
  · exact hw

theorem Accounted.request (hw : w.Accounted) (hs : w.Serves) (id : ConnectionId)
    (command : ManagerCommand) : (w.request id command).Accounted := by
  unfold Server.request
  split
  · rename_i hc
    split_ifs with hready
    · simp only [Bool.and_eq_true] at hready
      refine hw.enqueue hs hready.1 (fun id' command' he => ?_) (.inl hc) nofun
        (fun a ha p hp hsender => ?_) (by simp [Request.sender])
      · obtain ⟨-, rfl⟩ := Request.client.inj he
        exact hready.2
      obtain rfl : .cleanup id = p := hsender
      rw [hp] at ha
      have hqueued := hw.cleanups id ha
      rw [hc] at hqueued
      simp at hqueued
    · exact hw
  · exact hw

/-- **A client that hangs up** leaves its cleanup behind everything it sent. -/
theorem Accounted.hangUp (hw : w.Accounted) (hs : w.Serves) (id : ConnectionId) :
    (w.hangUp id).Accounted := by
  unfold Server.hangUp
  split
  · rename_i hc
    have hnot : .visit (.cleanup id) ∉ w.queue := fun hr => by
      have hqueued := hw.cleanups id hr
      rw [hc] at hqueued
      simp at hqueued
    have hvisit (v : Visit) (hv : w.managing = some v) : v.purpose ≠ .cleanup id := fun hp => by
      have hphase := visited_phase hw hv hp
      rw [hc] at hphase
      simp at hphase
    split_ifs with hready
    · have h := hw.phase hs (not_flushing hw hc) (some .queued) _ _ (fun _ => Iff.rfl)
        (connected_update hw hc) (allotted_update hw hc) (fun _ _ _ => .inr rfl) (fun _ => rfl)
        (fun v hv hp => absurd hp (hvisit v hv)) fun _ _ _ _ => ⟨_, rfl, rfl⟩
      refine h.enqueue hs hready nofun (.inr (Function.update_self ..)) (fun id' hid' => ?_)
        (fun a ha p hp hsender => ?_) (by simp [Request.sender])
      · obtain rfl : id = id' := by simpa using hid'
        exact Function.update_self ..
      · obtain rfl : .cleanup id = p := hsender
        rw [hp] at ha
        exact hnot ha
    · obtain ⟨hqueue, hmanaging, htasks⟩ := hw.unready (by simpa using hready)
      refine hw.phase hs (not_flushing hw hc) (some (.detached (.ok ()))) _ _
        (fun _ => Iff.rfl) (connected_update hw hc) (allotted_update hw hc) ?_ ?_ ?_ ?_
      · simp [hqueue]
      · simp [hqueue]
      · simp [hmanaging]
      · intro _ h hl
        have hlt : h < w.manager.tasks.length := hl.lt
        rw [htasks] at hlt
        exact absurd hlt (Nat.not_lt_zero h)
  · exact hw

/-- **A connection is taken off** when nothing is left of it. -/
theorem Accounted.closed (hw : w.Accounted) (hs : w.Serves) (id : ConnectionId) :
    (w.closed id).Accounted := by
  unfold Server.closed
  split
  · rename_i result hc
    have hnot (p : Prop) (h : w.connections id = some .serving ∨ w.connections id = some .queued) :
        p := by
      rcases h with h | h <;> simp [hc] at h
    have h := hw.phase hs (not_flushing hw hc) none (w.activity.setConnection id false) _
      (ActivityTracker.hasRun_setConnection _ _ _) (connected_setConnection hw id none)
      (allotted_update hw hc) (fun r hr hsender => hnot _ (waiting_phase hw hr hsender))
      (fun hr => hnot _ (.inr (hw.cleanups id hr)))
      (fun v hv hp => absurd (visited_phase hw hv hp) (by simp [hc]))
      fun hns h hl hid => by
        obtain ⟨phase, hphase, hopen⟩ := hw.inboxes hns h hl id hid
        rw [hc] at hphase
        obtain rfl := Option.some.inj hphase
        simp [Phase.isOpen] at hopen
    exact h.elsewhere hs w.completions (w.completed ++ [result]) w.backlog w.waiter
  · exact hw

/-! ### What the manager does -/

/-- The answer to the cleanup of a connection from which no actor has a command. -/
theorem Accounted.settle_cleanup (hw : w.Accounted) (hs : w.Serves) {id : ConnectionId}
    {phase : Phase} (hc : w.connections id = some phase)
    (hqueue : ∀ r ∈ w.queue, r.sender ≠ .cleanup id)
    (hvisit : ∀ v, w.managing = some v → v.purpose ≠ .cleanup id)
    (hinbox : w.manager.stopped = false → ∀ h, w.manager.IsLive h → id ∉ w.inbox h)
    (result : Except SessionManagerError Unit) : (w.settle (.cleanup id) result).Accounted :=
  hw.phase hs (not_flushing hw hc) (some (.detached result)) _ _ (fun _ => Iff.rfl)
    (connected_update hw hc) (allotted_update hw hc)
    (fun r hr hsender => absurd hsender (hqueue r hr)) (fun hr => absurd rfl (hqueue _ hr))
    (fun v hv hp => absurd hp (hvisit v hv)) fun hns h hl hid => absurd hid (hinbox hns h hl)

/-- The answer to a flush. -/
theorem Accounted.settle_flush (hw : w.Accounted)
    (hqueue : ∀ r ∈ w.queue, r.sender ≠ .flush)
    (hvisit : ∀ v, w.managing = some v → v.purpose ≠ .flush)
    {result : Except SessionManagerError Unit}
    (hdone : ∀ snapshot, w.serving = .flushing snapshot none → result.isOk = true →
      w.manager.stopped = false ∧
        ∀ h, w.manager.IsLive h → w.AnsweredSince h snapshot.generation) :
    (w.settle .flush result).Accounted := by
  unfold Server.settle
  simp only
  split
  · rename_i snapshot hf
    have hold := hw.flushing _ _ hf
    exact { hw with
      senders := fun r hr =>
        (hw.senders r hr).congr rfl fun hsender _ => absurd hsender (hqueue r hr)
      managing := fun v hv => by
        obtain ⟨hvisited, hstopped⟩ := hw.managing v hv
        exact ⟨hvisited.congr rfl fun hpurpose _ => absurd hpurpose (hvisit v hv), hstopped⟩
      flushing := fun snapshot' result' hf' => by
        obtain ⟨rfl, rfl⟩ := Serving.flushing.inj hf'
        exact ⟨hold.idle, hold.later, hold.same, hold.closed, hold.visited,
          fun hr => hdone _ hf (Option.some.inj hr)⟩
      quiet := nofun }
  · exact hw

/-- The first command of the queue of the manager: nothing from its sender is behind it
if it ends with it. -/
theorem sender_of_head (hw : w.Accounted) {purpose : Purpose} {rest : List Request}
    (hq : w.queue = .visit purpose :: rest) (r : Request) (hr : r ∈ rest) : r.sender ≠ purpose := by
  have ho := hw.ordered
  rw [hq] at ho
  exact (List.pairwise_cons.1 ho).1 r hr purpose rfl

/-- The manager begins a visit of all actors. -/
theorem Accounted.manage (hw : w.Accounted) (hs : w.Serves) (hready : w.ready = true) {v : Visit}
    (hvisited : w.IsVisited v.purpose) (hstopped : w.manager.stopped = false)
    (hahead : v.ahead = none) (hall : ∀ h, w.manager.IsLive h → h ∈ v.left) :
    Accounted { w with managing := some v } :=
  { hw with
    managing := fun v' hv => by
      obtain rfl := Option.some.inj hv
      exact ⟨hvisited, hstopped⟩
    ahead := fun v' k hv hk => by
      obtain rfl := Option.some.inj hv
      simp [hahead] at hk
    unready := fun hr => absurd (hready.symm.trans hr) (by simp)
    visiting := fun v' id hv hpurpose h hl hid => by
      obtain rfl := Option.some.inj hv
      exact ⟨hall h hl, fun rest k _ hk => by simp [hahead] at hk⟩
    flushing := fun snapshot result hf => by
      have hold := hw.flushing snapshot result hf
      refine ⟨hold.idle, hold.later, hold.same, hold.closed, fun v' hv _ _ h hl => ?_, hold.done⟩
      obtain rfl := Option.some.inj hv
      exact .inl (hall h hl)
    quiet := fun hq => absurd hq (hs _) }

/-- **Every live actor is visited.** -/
theorem mem_visitOrder {m : SessionManager} (hm : m.Tracked) {h : SessionHandle} (hl : m.IsLive h)
    (order : List SessionId) : h ∈ (m.visitOrder order).filterMap m.actors.lookup := by
  obtain ⟨t, ht, hx⟩ := hl
  have hreg := hm.exclusive.live h t ht (hm.live ht hx)
  have hkey : t.actor.record.id ∈ m.actors.keys :=
    AList.mem_keys.1 (AList.lookup_isSome.1 (by rw [hreg]; rfl))
  refine List.mem_filterMap.2 ⟨t.actor.record.id, ?_, hreg⟩
  unfold visitOrder
  by_cases ho : t.actor.record.id ∈ order
  · exact List.mem_append_left _ (List.mem_filter.2 ⟨List.mem_dedup.2 ho, by simpa using hkey⟩)
  · exact List.mem_append_right _ (List.mem_filter.2 ⟨hkey, by simpa using ho⟩)

/-- **A request of a client is handled** while its connection is there. -/
theorem Accounted.take_client (hw : w.Accounted) (hs : w.Serves) {id : ConnectionId}
    {command : ManagerCommand} (hc : command.isRequest = true)
    (hwaits : w.Waits (.cleanup id)) (hready : w.ready = true) (hmanaging : w.managing = none)
    (hstopped : w.manager.stopped = false) (script : Script) (handled : SessionHandle → ℕ) :
    Accounted { w with
      manager := (w.manager.handleCommand script command).2
      inbox := fun h => (w.inbox h).drop (handled h)
      busy := fun h => if handled h = 0 then w.busy h else none } := by
  have hgrows := w.manager.grows_handleCommand script hc
  have hphase : ∃ phase, w.connections id = some phase := by
    rcases hwaits with h | h <;> exact ⟨_, h⟩
  obtain ⟨phase, hphase⟩ := hphase
  exact { hw with
    tracked := hw.tracked.handleCommand script hc
    connected := fun id' => by
      rw [← hw.connected id']
      exact Eq.to_iff (congrArg (id' ∈ ·) (w.manager.continues_handleCommand script hc).connections)
    managing := fun v hv => by simp [hmanaging] at hv
    ahead := fun v k hv => by simp [hmanaging] at hv
    unready := fun hr => absurd (hready.symm.trans hr) (by simp)
    fresh := fun h hle => by
      have hnil := hw.fresh h (hgrows.length.trans hle)
      simp only [hnil, List.drop_nil]
    busy := fun h hb => by
      by_cases hzero : handled h = 0
      · simp only [hzero, if_true, List.drop_zero] at hb ⊢
        exact hw.busy h hb
      · simp [hzero] at hb
    inboxes := fun _ h hl id' hid' => by
      have hmem : id' ∈ w.inbox h := List.mem_of_mem_drop hid'
      have hlt : h < w.manager.tasks.length := by
        by_contra hge
        rw [hw.fresh h (Nat.not_lt.1 hge)] at hmem
        simp at hmem
      exact hw.inboxes hstopped h (hgrows.live h hlt hl) id' hmem
    visiting := fun v id' hv => by simp [hmanaging] at hv
    flushing := fun snapshot result hf => absurd hf (not_flushing hw hphase snapshot result)
    quiet := fun hq => absurd hq (hs _) }

/-- **The manager takes the first command of its queue.** -/
theorem Accounted.take (hw : w.Accounted) (hs : w.Serves) (script : Script)
    (handled : SessionHandle → ℕ) : (w.take script handled).Accounted := by
  unfold Server.take
  split
  · rename_i id command rest hmanaging hq
    have hwaits : w.Waits (.cleanup id) := hw.senders (.client id command) (by simp [hq])
    have hready : w.ready = true := by
      by_contra hr
      have hnil := (hw.unready (by simpa using hr)).1
      simp [hq] at hnil
    have hd := hw.dequeue hs hq
    split_ifs with hstopped
    · exact hd
    · exact hd.take_client hs (hw.requests id command (by simp [hq])) hwaits hready hmanaging
        (by simpa using hstopped) script handled
  · rename_i purpose rest hmanaging hq
    have hready : w.ready = true := by
      by_contra hr
      have hnil := (hw.unready (by simpa using hr)).1
      simp [hq] at hnil
    have hd := hw.dequeue hs hq
    have hrest := sender_of_head hw hq
    have hwaits : w.Waits purpose := hw.senders (.visit purpose) (by simp [hq])
    have hnone (v : Visit) (hv : w.managing = some v) : v.purpose ≠ purpose := by
      simp [hmanaging] at hv
    split_ifs with hstopped
    · cases purpose with
      | cleanup id =>
        have hc := hw.cleanups id (by simp [hq])
        exact hd.settle_cleanup hs hc hrest hnone
          (fun hns => absurd (hstopped.symm.trans hns) (by simp)) _
      | flush => exact hd.settle_flush hrest hnone (by simp [Except.isOk, Except.toBool])
    · have hns : w.manager.stopped = false := by simpa using hstopped
      have hall (h : SessionHandle) (hl : w.manager.IsLive h) :=
        mem_visitOrder hw.tracked hl script.order
      unfold beginVisit
      cases purpose with
      | flush => exact hd.manage hs hready ⟨hwaits, hrest⟩ hns rfl hall
      | cleanup id =>
        have hc := hw.cleanups id (by simp [hq])
        have h := hd.phase hs (not_flushing hd hc) (some .visiting) _ _ (fun _ => Iff.rfl)
          (connected_update hd hc) (allotted_update hd hc)
          (fun r hr hsender => absurd hsender (hrest r hr)) (fun hr => absurd rfl (hrest _ hr))
          (fun _ _ _ => rfl) fun _ _ _ _ => ⟨_, rfl, rfl⟩
        exact h.manage hs hready (Function.update_self ..) hns rfl hall
  · exact hw

/-- A visit goes on: the actors that are not left any more have no command of the client
to handle, or answered the flush. -/
theorem Accounted.proceed (hw : w.Accounted) (hs : w.Serves) {v : Visit}
    (hv : w.managing = some v) (v' : Visit) (hpurpose : v'.purpose = v.purpose)
    {answered : SessionHandle → Option ℕ}
    (hanswered : ∀ h, answered h = w.answered h ∨ answered h = some w.activity.generation)
    (hahead : ∀ k, v'.ahead = some k → ∃ h rest, v'.left = h :: rest ∧ k ≤ (w.inbox h).length)
    (hcovers : ∀ id h, v.purpose = .cleanup id → w.manager.IsLive h → id ∈ w.inbox h →
      v.Covers h (w.inbox h) id → v'.Covers h (w.inbox h) id)
    (hleft : v.purpose = .flush → v'.error = none → v.error = none ∧
      ∀ h, w.manager.IsLive h → h ∈ v.left →
        h ∈ v'.left ∨ answered h = some w.activity.generation) :
    Accounted { w with managing := some v', answered := answered } := by
  have hsince {h : SessionHandle} {g : ℕ} (hg : g ≤ w.activity.generation)
      (ha : w.AnsweredSince h g ∨ answered h = some w.activity.generation) :
      AnsweredSince { w with managing := some v', answered := answered } h g := by
    rcases hanswered h with he | he
    · rcases ha with ⟨g', hg', hle⟩ | ha
      · exact ⟨g', he.trans hg', hle⟩
      · exact ⟨_, ha, hg, le_rfl⟩
    · exact ⟨_, he, hg, le_rfl⟩
  exact { hw with
    managing := fun u hu => by
      obtain rfl := Option.some.inj hu
      rw [hpurpose]
      exact hw.managing v hv
    ahead := fun u k hu hk => by
      obtain rfl := Option.some.inj hu
      exact hahead k hk
    unready := fun hr => absurd ((hw.unready hr).2.1.symm.trans hv) (by simp)
    visiting := fun u id hu hp h hl hid => by
      obtain rfl := Option.some.inj hu
      rw [hpurpose] at hp
      exact hcovers id h hp hl hid (hw.visiting v id hv hp h hl hid)
    flushing := fun snapshot result hf => by
      have hold := hw.flushing snapshot result hf
      refine ⟨hold.idle, hold.later, hold.same, hold.closed, fun u hu hp he h hl => ?_, fun hr => ?_⟩
      · obtain rfl := Option.some.inj hu
        rw [hpurpose] at hp
        obtain ⟨herror, hgoes⟩ := hleft hp he
        rcases hold.visited v hv hp herror h hl with hmem | ha
        · exact (hgoes h hl hmem).imp_right fun ha => hsince hold.later (.inr ha)
        · exact .inr (hsince hold.later (.inl ha))
      · exact ⟨(hold.done hr).1, fun h hl => hsince hold.later (.inl ((hold.done hr).2 h hl))⟩
    quiet := fun hq => absurd hq (hs _) }

/-- **The manager goes on with its visit.** -/
theorem Accounted.ask (hw : w.Accounted) (hs : w.Serves) : w.ask.Accounted := by
  unfold Server.ask
  split
  · rename_i purpose ahead error hv
    have hd := hw.dismiss hs
    cases purpose with
    | cleanup id =>
      have hc := visited_phase hw hv rfl
      refine hd.settle_cleanup hs hc (fun r hr hsender => ?_) nofun (fun _ h hl hid => ?_) _
      · rcases waiting_phase hw hr hsender with h | h <;> simp [hc] at h
      · exact absurd (hw.visiting _ id hv rfl h hl hid).1 List.not_mem_nil
    | flush =>
      obtain ⟨⟨-, hqueue⟩, hstopped⟩ := hw.managing _ hv
      refine hd.settle_flush hqueue nofun fun snapshot hf hok => ⟨hstopped, fun h hl => ?_⟩
      have herror : error = none := by
        cases error with
        | none => rfl
        | some error => simp [firstError, Except.isOk, Except.toBool] at hok
      exact ((hw.flushing _ _ hf).visited _ hv rfl herror h hl).resolve_left List.not_mem_nil
  · rename_i purpose h rest error hv
    split
    · rename_i t ht
      refine hw.proceed hs hv ⟨purpose, h :: rest, some (w.inbox h).length, error⟩ rfl
        (fun _ => .inl rfl) (fun k hk => ?_) (fun id i _ _ _ hc => ?_)
        fun _ he => ⟨he, fun _ _ hmem => .inl hmem⟩
      · obtain rfl := Option.some.inj hk
        exact ⟨h, rest, rfl, le_rfl⟩
      · refine ⟨hc.1, fun rest' k hrest hk => ?_⟩
        obtain ⟨rfl, -⟩ := List.cons.inj hrest
        obtain rfl := Option.some.inj hk
        simp
    · rename_i hgone
      have hdead : ¬w.manager.IsLive h := by
        rintro ⟨⟨actor, shared, exited, finished⟩, ht, hx⟩
        obtain rfl : exited = none := hx
        exact hgone actor shared finished ht
      have hmem (i : SessionHandle) (hl : w.manager.IsLive i) (hi : i ∈ h :: rest) : i ∈ rest :=
        (List.mem_cons.1 hi).resolve_left fun he => hdead (he ▸ hl)
      exact hw.proceed hs hv ⟨purpose, rest, none, some (error.getD .unavailable)⟩ rfl
        (fun _ => .inl rfl) nofun
        (fun id i _ hl _ hc => ⟨hmem i hl hc.1, fun _ _ _ hk => by simp at hk⟩) nofun
  · exact hw

/-- **An actor answers** once nothing of the client is ahead of the visit. -/
theorem Accounted.answer (hw : w.Accounted) (hs : w.Serves) (wait : Await) :
    (w.answer wait).Accounted := by
  unfold Server.answer
  split
  · rename_i purpose h rest error hv
    have hp := passes_askUnit hw.tracked h (w := { wait with early := [] }) rfl
      (c := purpose.command) (by cases purpose <;> simp [Purpose.command])
    generalize w.manager.askUnit h { wait with early := [] } purpose.command = r at hp
    obtain ⟨result, m'⟩ := r
    have hm := hw.manager hs hp
    have hcovers (id : ConnectionId) (i : SessionHandle) (error' : Option SessionCommandError)
        (hid : id ∈ w.inbox i)
        (hc : Visit.Covers ⟨purpose, h :: rest, some 0, error⟩ i (w.inbox i) id) :
        Visit.Covers ⟨purpose, rest, none, error'⟩ i (w.inbox i) id := by
      refine ⟨(List.mem_cons.1 hc.1).resolve_left fun he => ?_, fun _ _ _ hk => by simp at hk⟩
      subst he
      exact hc.2 rest 0 rfl rfl hid
    cases result with
    | ok u =>
      refine hm.proceed hs hv ⟨purpose, rest, none, error⟩ rfl (fun i => ?_) nofun
        (fun id i _ _ hid hc => hcovers id i _ hid hc) fun hflush he => ⟨he, fun i _ hi => ?_⟩
      · split_ifs
        · by_cases hi : i = h
          · subst hi
            exact .inr (Function.update_self ..)
          · exact .inl (Function.update_of_ne hi ..)
        · exact .inl rfl
      · obtain rfl : purpose = .flush := hflush
        rcases List.mem_cons.1 hi with rfl | hi
        · exact .inr (Function.update_self ..)
        · exact .inl hi
    | error failure =>
      exact hm.proceed hs hv ⟨purpose, rest, none, some (error.getD failure)⟩ rfl
        (fun _ => .inl rfl) nofun (fun id i _ _ hid hc => hcovers id i _ hid hc) nofun
  · exact hw

theorem Accounted.titleFinished (hw : w.Accounted) (hs : w.Serves) (index : ℕ)
    (generated : Option (Except TitleGenerationError String)) :
    (w.titleFinished index generated).Accounted := by
  unfold Server.titleFinished
  split
  · exact hw
  · have hm := hw.manager hs (passes_booked hw.tracked w.activity.finishTitleTask
      (w.manager.titleTasks.eraseIdx index) (fun _ => Iff.rfl)
      w.activity.continues_finishTitleTask)
    exact hm.elsewhere hs _ w.completed w.backlog w.waiter

theorem Accounted.route (hw : w.Accounted) (hs : w.Serves) (index : ℕ) (wait : Await) :
    (w.route index wait).Accounted := by
  unfold Server.route
  split
  · split_ifs
    · exact hw
    · exact (hw.manager hs (passes_routeTitleCompletion hw.tracked rfl _ _)).elsewhere hs _
        w.completed w.backlog w.waiter
  · exact hw

/-! ### What actors do -/

theorem Accounted.begin (hw : w.Accounted) (hs : w.Serves) (h : SessionHandle)
    (command : SessionCommand) : (w.begin h command).Accounted := by
  unfold Server.begin
  split_ifs with hb
  · exact hw
  · exact { hw with
      busy := fun i hi => by
        by_cases hne : i = h
        · subst hne
          simp only [Bool.or_eq_true, not_or, List.isEmpty_iff] at hb
          exact hb.1.1
        · simp only [Function.update_of_ne hne] at hi
          exact hw.busy i hi
      flushing := fun snapshot result hf =>
        (hw.flushing snapshot result hf).congr rfl rfl rfl fun _ hv => hv
      quiet := fun hq => absurd hq (hs _) }

/-- **A command leaves the queue of its actor:** those of a client are still ahead of the
visit that follows it. -/
theorem Accounted.pop (hw : w.Accounted) (hs : w.Serves) {h : SessionHandle} {id : ConnectionId}
    {rest : List ConnectionId} (hinbox : w.inbox h = id :: rest) :
    Accounted { w with
      inbox := Function.update w.inbox h rest
      busy := Function.update w.busy h none
      managing := w.managing.map (Visit.advance h) } := by
  have hrest (i : SessionHandle) :
      Function.update w.inbox h rest i = if i = h then rest else w.inbox i :=
    Function.update_apply ..
  have hmem (i : SessionHandle) (id' : ConnectionId)
      (hid' : id' ∈ if i = h then rest else w.inbox i) : id' ∈ w.inbox i := by
    split_ifs at hid' with hi
    · rw [hi, hinbox]
      exact List.mem_cons_of_mem _ hid'
    · exact hid'
  have hvisit (v' : Visit) (hv' : w.managing.map (Visit.advance h) = some v') :
      ∃ v, w.managing = some v ∧ v' = v.advance h := by
    obtain ⟨v, hv, rfl⟩ := Option.map_eq_some_iff.1 hv'
    exact ⟨v, hv, rfl⟩
  exact { hw with
    managing := fun v' hv' => by
      obtain ⟨v, hv, rfl⟩ := hvisit v' hv'
      rw [Visit.purpose_advance]
      exact hw.managing v hv
    ahead := fun v' k hv' hk => by
      obtain ⟨v, hv, rfl⟩ := hvisit v' hv'
      have hsome : v.ahead.isSome = true := by
        rw [← v.isSome_ahead_advance h, hk]
        rfl
      obtain ⟨k₀, hk₀⟩ := Option.isSome_iff_exists.1 hsome
      obtain ⟨i, left, hleft, hle₀⟩ := hw.ahead v k₀ hv hk₀
      obtain ⟨k', hk', rfl⟩ := Visit.ahead_advance hleft hk
      obtain rfl := Option.some.inj (hk₀.symm.trans hk')
      refine ⟨i, left, (v.left_advance h).trans hleft, ?_⟩
      simp only [hrest]
      split_ifs with hi
      · rw [hi, hinbox, List.length_cons] at hle₀
        omega
      · exact hle₀
    unready := fun hr => by
      obtain ⟨hq, hm, ht⟩ := hw.unready hr
      exact ⟨hq, by simp only [hm, Option.map_none], ht⟩
    fresh := fun i (hi : w.manager.tasks.length ≤ i) => by
      simp only [hrest]
      split_ifs with he
      · subst he
        have hnil := hw.fresh i hi
        rw [hinbox] at hnil
        simp at hnil
      · exact hw.fresh i hi
    busy := fun i hi => by
      by_cases he : i = h
      · subst he
        simp at hi
      · simp only [Function.update_of_ne he] at hi ⊢
        exact hw.busy i hi
    inboxes := fun hns i hl id' hid' => by
      simp only [hrest] at hid'
      exact hw.inboxes hns i hl id' (hmem i id' hid')
    visiting := fun v' id' hv' hp i hl hid' => by
      obtain ⟨v, hv, rfl⟩ := hvisit v' hv'
      simp only [hrest] at hid' ⊢
      rw [Visit.purpose_advance] at hp
      obtain ⟨hleft, hdrop⟩ := hw.visiting v id' hv hp i hl (hmem i id' hid')
      refine ⟨by rwa [Visit.left_advance], fun left k hl' hk => ?_⟩
      rw [Visit.left_advance] at hl'
      obtain ⟨k', hk', rfl⟩ := Visit.ahead_advance hl' hk
      have hnot := hdrop left k' hl' hk'
      split_ifs with hi
      · rw [hi, hinbox] at hnot
        cases k' with
        | zero => exact fun hin => hnot (List.mem_cons_of_mem _ hin)
        | succ k' => exact hnot
      · exact hnot
    flushing := fun snapshot result hf => by
      have hold := hw.flushing snapshot result hf
      refine ⟨hold.idle, hold.later, hold.same, hold.closed, fun v' hv' hp he i hl => ?_, hold.done⟩
      obtain ⟨v, hv, rfl⟩ := hvisit v' hv'
      rw [Visit.left_advance]
      exact hold.visited v hv (v.purpose_advance h ▸ hp) (v.error_advance h ▸ he) i hl
    quiet := fun hq => absurd hq (hs _) }

theorem Accounted.handle (hw : w.Accounted) (hs : w.Serves) (h : SessionHandle) (env : Env) :
    (w.handle h env).Accounted := by
  unfold Server.handle
  split
  · rename_i id rest command hinbox hbusy
    have hp := passes_background hw.tracked (.input h env (.command command))
    exact (hw.manager hs hp).pop hs hinbox
  · exact hw

theorem Accounted.occur (hw : w.Accounted) (hs : w.Serves) (h : SessionHandle) (env : Env)
    (input : ActorInput) : (w.occur h env input).Accounted := by
  unfold Server.occur
  split
  · exact hw
  · exact hw.manager hs (passes_background hw.tracked _)

end Server
end Backend
end Moh
