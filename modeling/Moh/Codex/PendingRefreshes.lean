/-
# The refreshes that a shutdown waits for

`providers/codex/auth.rs`: a refresh runs in a task of its own, which goes on when the one
who asked for it is gone.  The task is registered (`register_refresh_task`), and taken out
again by the one who asked when its result is there (`complete_refresh_task`) or by a later
registration when it is finished (`prune_completed_refresh_tasks`).  A drain
(`drain_pending_refresh_tasks`) takes all that are registered, under a lock that only drains
take, and waits for them; `serve` drains before it returns.

Tasks, registrations and drains interleave in any order.  As long as no drain is dropped
between taking the tasks and returning, a drain that returned leaves no refresh running that
was registered when it was called (`drained_of_run`).
-/

import Mathlib.Data.List.Basic
import Mathlib.Logic.Function.Basic
import Moh.Library.Serial

namespace Moh
namespace Codex
namespace Drain

/-! ### The registry -/

/-- `PendingRefreshes`: tasks with the identities that they were registered under. -/
structure PendingRefreshes where
  nextId : ℕ
  tasks : List (ℕ × ℕ)

/-- `prune_completed_refresh_tasks`. -/
def PendingRefreshes.prune (p : PendingRefreshes) (isFinished : ℕ → Bool) : PendingRefreshes :=
  { p with tasks := p.tasks.filter fun entry => !isFinished entry.2 }

/-- `register_refresh_task`, with the identity. -/
def PendingRefreshes.register (p : PendingRefreshes) (isFinished : ℕ → Bool) (task : ℕ) :
    ℕ × PendingRefreshes :=
  let pruned := p.prune isFinished
  (pruned.nextId, ⟨pruned.nextId + 1, pruned.tasks ++ [(pruned.nextId, task)]⟩)

/-- `Vec::swap_remove`: the last element takes the place of the one that is removed. -/
def swapRemove {α : Type} (l : List α) (index : ℕ) : List α :=
  match l.getLast? with
  | none => l
  | some last => (l.set index last).dropLast

/-- `complete_refresh_task`. -/
def PendingRefreshes.complete (p : PendingRefreshes) (id : ℕ) : PendingRefreshes :=
  match p.tasks.findIdx? fun entry => entry.1 = id with
  | none => p
  | some index => { p with tasks := swapRemove p.tasks index }

/-! ### Tasks, callers and drains -/

/-- How far a task is: not there, running, with its result sent, so that the refresh is over,
finished, or ended by a panic. -/
inductive Stage where
  | absent
  | running
  | sent
  | finished
  | failed
deriving DecidableEq, Repr

/-- `JoinHandle::is_finished`. -/
def Stage.isFinished : Stage → Bool
  | .finished | .failed => true
  | .absent | .running | .sent => false

/-- The refresh of the task is over: it holds no lock and writes no file. -/
def Stage.Over (stage : Stage) : Prop := stage = .sent ∨ stage.isFinished = true

/-- How far a drain is: not called, waiting for the lock, waiting for the tasks that it took,
returned, or dropped. -/
inductive Progress where
  | absent
  | queued
  | waiting (tasks : List (ℕ × ℕ))
  | returned
  | dropped
deriving DecidableEq, Repr

/-- A drain that has the lock. -/
def Progress.Holds : Progress → Prop
  | .waiting _ => True
  | .absent | .queued | .returned | .dropped => False

/-- The registry; the tasks, and the identities that their callers got; the drains and the
lock that they take; the tasks that are registered so far, and those that were when a drain
was called. -/
structure World where
  pending : PendingRefreshes
  stage : ℕ → Stage
  id : ℕ → Option ℕ
  lock : Option ℕ
  drain : ℕ → Progress
  registered : List ℕ
  before : ℕ → List ℕ

/-- Nothing has happened. -/
def World.start : World :=
  ⟨⟨0, []⟩, fun _ => .absent, fun _ => none, none, fun _ => .absent, [], fun _ => []⟩

/-- What happens to a task (it is spawned and registered, sends its result and finishes, or
panics; its caller takes it out of the registry) or to a drain (it is called, takes the
tasks, sees that the next one of them is finished, returns, or is dropped). -/
inductive Move where
  | spawn (task : ℕ)
  | register (task : ℕ)
  | send (task : ℕ)
  | finish (task : ℕ)
  | panic (task : ℕ)
  | complete (task : ℕ)
  | call (drain : ℕ)
  | take (drain : ℕ)
  | await (drain : ℕ)
  | leave (drain : ℕ)
  | drop (drain : ℕ)

/-- A task gets on. -/
def World.advance (w : World) (task : ℕ) (stage : Stage) : World :=
  { w with stage := Function.update w.stage task stage }

/-- A drain gets on. -/
def World.proceed (w : World) (d : ℕ) (progress : Progress) : World :=
  { w with drain := Function.update w.drain d progress }

/-- A drain lets go of the lock, if it has it. -/
def World.release (w : World) (d : ℕ) (progress : Progress) : World :=
  { w with
    lock := if w.lock = some d then none else w.lock
    drain := Function.update w.drain d progress }

/-- A step of `refresh_with_policy`, of its task or of `drain_pending_refresh_tasks`. -/
def step (w : World) : Move → World
  | .spawn task =>
    match w.stage task with
    | .absent => w.advance task .running
    | _ => w
  | .register task =>
    match w.stage task, w.id task with
    | .absent, _ | _, some _ => w
    | _, none =>
      let (id, pending) := w.pending.register (fun task => (w.stage task).isFinished) task
      { w with pending, id := Function.update w.id task (some id),
               registered := w.registered ++ [task] }
  | .send task =>
    match w.stage task with
    | .running => w.advance task .sent
    | _ => w
  | .finish task =>
    match w.stage task with
    | .sent => w.advance task .finished
    | _ => w
  | .panic task =>
    match w.stage task with
    | .running => w.advance task .failed
    | _ => w
  | .complete task =>
    match w.stage task, w.id task with
    | .sent, some id | .finished, some id => { w with pending := w.pending.complete id }
    | _, _ => w
  | .call d =>
    match w.drain d with
    | .absent =>
      { w.proceed d .queued with before := Function.update w.before d w.registered }
    | _ => w
  | .take d =>
    match w.drain d, w.lock with
    | .queued, none =>
      { w.proceed d (.waiting w.pending.tasks) with
        lock := some d, pending := { w.pending with tasks := [] } }
    | _, _ => w
  | .await d =>
    match w.drain d with
    | .waiting ((_, task) :: tasks) =>
      if (w.stage task).isFinished then w.proceed d (.waiting tasks) else w
    | _ => w
  | .leave d =>
    match w.drain d with
    | .waiting [] => w.release d .returned
    | _ => w
  | .drop d =>
    match w.drain d with
    | .queued | .waiting _ => w.release d .dropped
    | _ => w

/-- No drain is dropped while it waits for tasks that it took. -/
def Patient (w : World) : Move → Prop
  | .drop d =>
    match w.drain d with
    | .waiting (_ :: _) => False
    | _ => True
  | _ => True

/-! ### Elements that are removed -/

/-- What is not the removed element stays. -/
theorem mem_swapRemove {α : Type} {l : List α} {index : ℕ} {a removed : α}
    (hindex : l[index]? = some removed) (ha : a ∈ l) (hne : a ≠ removed) :
    a ∈ swapRemove l index := by
  unfold swapRemove
  cases hlast : l.getLast? with
  | none => exact ha
  | some last =>
    obtain ⟨init, rfl⟩ := List.getLast?_eq_some_iff.1 hlast
    show a ∈ ((init ++ [last]).set index last).dropLast
    by_cases hin : index < init.length
    · rw [List.set_append_left _ _ hin, List.dropLast_concat]
      rw [List.getElem?_append_left hin] at hindex
      rcases List.mem_append.1 ha with hinit | hlast
      · obtain ⟨k, hk, rfl⟩ := List.mem_iff_getElem.1 hinit
        have hother : index ≠ k := by
          rintro rfl
          exact hne (by simpa [List.getElem?_eq_getElem hk] using hindex)
        exact List.mem_iff_getElem.2 ⟨k, by simpa using hk, by simp [hother]⟩
      · obtain rfl : a = last := by simpa using hlast
        exact List.mem_iff_getElem.2 ⟨index, by simpa using hin, by simp⟩
    · have hbound : index < (init ++ [last]).length := (List.getElem?_eq_some_iff.1 hindex).1
      obtain rfl : index = init.length := by
        simp only [List.length_append, List.length_singleton] at hbound
        omega
      obtain rfl : last = removed := by simpa using hindex
      rw [List.set_append_right _ _ (Nat.le_refl _)]
      rcases List.mem_append.1 ha with hinit | hlast
      · simpa using hinit
      · exact absurd (by simpa using hlast) hne

/-- What stays was there. -/
theorem mem_of_mem_swapRemove {α : Type} {l : List α} {index : ℕ} {a : α}
    (ha : a ∈ swapRemove l index) : a ∈ l := by
  unfold swapRemove at ha
  cases hlast : l.getLast? with
  | none => simpa [hlast] using ha
  | some last =>
    simp only [hlast] at ha
    rcases List.mem_or_eq_of_mem_set ((List.dropLast_sublist _).subset ha) with hmem | rfl
    · exact hmem
    · exact List.mem_of_getLast? hlast

/-- **A completion takes out the task of its identity and no other.** -/
theorem PendingRefreshes.mem_complete {p : PendingRefreshes} {id : ℕ} {entry : ℕ × ℕ}
    (hentry : entry ∈ p.tasks) (hne : entry.1 ≠ id) : entry ∈ (p.complete id).tasks := by
  unfold PendingRefreshes.complete
  cases hfind : p.tasks.findIdx? fun entry => entry.1 = id with
  | none => exact hentry
  | some index =>
    obtain ⟨hbound, hid, -⟩ := List.findIdx?_eq_some_iff_getElem.1 hfind
    refine mem_swapRemove (List.getElem?_eq_getElem hbound) hentry ?_
    rintro rfl
    exact hne (by simpa using hid)

theorem PendingRefreshes.mem_of_mem_complete {p : PendingRefreshes} {id : ℕ} {entry : ℕ × ℕ}
    (hentry : entry ∈ (p.complete id).tasks) : entry ∈ p.tasks := by
  unfold PendingRefreshes.complete at hentry
  cases hfind : p.tasks.findIdx? fun entry => entry.1 = id with
  | none => simpa [hfind] using hentry
  | some index =>
    simp only [hfind] at hentry
    exact mem_of_mem_swapRemove hentry

/-! ### Identities -/

@[simp] theorem PendingRefreshes.register_id (p : PendingRefreshes) (isFinished : ℕ → Bool)
    (task : ℕ) : (p.register isFinished task).1 = p.nextId := rfl

@[simp] theorem PendingRefreshes.register_nextId (p : PendingRefreshes) (isFinished : ℕ → Bool)
    (task : ℕ) : (p.register isFinished task).2.nextId = p.nextId + 1 := rfl

@[simp] theorem PendingRefreshes.register_tasks (p : PendingRefreshes) (isFinished : ℕ → Bool)
    (task : ℕ) : (p.register isFinished task).2.tasks =
      (p.tasks.filter fun entry => !isFinished entry.2) ++ [(p.nextId, task)] := rfl

@[simp] theorem PendingRefreshes.complete_nextId (p : PendingRefreshes) (id : ℕ) :
    (p.complete id).nextId = p.nextId := by
  unfold PendingRefreshes.complete
  split <;> rfl

/-- The identities in the registry are those that the callers got, and each is of one
task. -/
structure Named (p : PendingRefreshes) (id : ℕ → Option ℕ) : Prop where
  identified : ∀ n task, (n, task) ∈ p.tasks → id task = some n
  fresh : ∀ task n, id task = some n → n < p.nextId
  own : ∀ task task' n, id task = some n → id task' = some n → task = task'

/-- A new identity is of no other task. -/
theorem Named.register {p : PendingRefreshes} {id : ℕ → Option ℕ} (h : Named p id)
    (isFinished : ℕ → Bool) {task : ℕ} (hid : id task = none) :
    Named (p.register isFinished task).2 (Function.update id task (some p.nextId)) := by
  have hold {other n : ℕ} (hother : other ≠ task) :
      Function.update id task (some p.nextId) other = some n ↔ id other = some n := by
    rw [Function.update_of_ne hother]
  have hnew {n : ℕ} :
      Function.update id task (some p.nextId) task = some n ↔ p.nextId = n := by
    rw [Function.update_self, Option.some.injEq]
  constructor
  · intro n other hentry
    rw [PendingRefreshes.register_tasks, List.mem_append, List.mem_filter] at hentry
    rcases hentry with ⟨hmem, -⟩ | hlast
    · have hsome := h.identified n other hmem
      have hother : other ≠ task := by
        rintro rfl
        rw [hid] at hsome
        simp at hsome
      exact (hold hother).2 hsome
    · obtain ⟨rfl, rfl⟩ := Prod.mk.inj (List.mem_singleton.1 hlast)
      exact hnew.2 rfl
  · intro other n hsome
    rw [PendingRefreshes.register_nextId]
    by_cases hother : other = task
    · subst hother
      have heq := hnew.1 hsome
      omega
    · have hlt := h.fresh other n ((hold hother).1 hsome)
      omega
  · intro a b n ha hb
    by_cases hat : a = task
    · subst hat
      by_contra hab
      have heq := hnew.1 ha
      have hlt := h.fresh b n ((hold (Ne.symm hab)).1 hb)
      omega
    · by_cases hbt : b = task
      · subst hbt
        have heq := hnew.1 hb
        have hlt := h.fresh a n ((hold hat).1 ha)
        omega
      · exact h.own a b n ((hold hat).1 ha) ((hold hbt).1 hb)

/-- A completion leaves the identities. -/
theorem Named.complete {p : PendingRefreshes} {id : ℕ → Option ℕ} (h : Named p id) (n : ℕ) :
    Named (p.complete n) id where
  identified m task hentry := h.identified m task (PendingRefreshes.mem_of_mem_complete hentry)
  fresh task m hsome := by
    rw [PendingRefreshes.complete_nextId]
    exact h.fresh task m hsome
  own := h.own

/-! ### Who waits for what -/

/-- A task whose refresh is over, or is among those of the list. -/
def World.Awaited (w : World) (tasks : List (ℕ × ℕ)) (task : ℕ) : Prop :=
  (w.stage task).Over ∨ ∃ id, (id, task) ∈ tasks

/-- What the drain that has the lock still waits for. -/
def World.taken (w : World) : List (ℕ × ℕ) :=
  match w.lock.map w.drain with
  | some (.waiting tasks) => tasks
  | _ => []

/-- **What holds while no drain is dropped that waits for tasks:** the identities are those
that the callers got and are their own; one drain has the lock; what is registered is over,
or in the registry, or among what that drain waits for; and a drain waits for all that was
registered when it was called, until it returns. -/
structure Inv (w : World) : Prop where
  named : Named w.pending w.id
  exclusive : Serial.Exclusive Progress.Holds w.lock w.drain
  covered : ∀ task ∈ w.registered, w.Awaited (w.pending.tasks ++ w.taken) task
  earlier : ∀ d, ∀ task ∈ w.before d, task ∈ w.registered
  waiting : ∀ d tasks, w.drain d = .waiting tasks → ∀ task ∈ w.before d, w.Awaited tasks task
  returned : ∀ d, w.drain d = .returned → ∀ task ∈ w.before d, (w.stage task).Over

theorem World.Awaited.mono {w : World} {tasks tasks' : List (ℕ × ℕ)} {task : ℕ}
    (h : w.Awaited tasks task)
    (htasks : ∀ id, (id, task) ∈ tasks → (w.stage task).Over ∨ ∃ id, (id, task) ∈ tasks') :
    w.Awaited tasks' task := by
  rcases h with hover | ⟨id, hmem⟩
  · exact .inl hover
  · exact htasks id hmem

theorem inv_start : Inv .start where
  named :=
    { identified := fun _ _ h => by simp [World.start] at h
      fresh := fun _ _ h => by simp [World.start] at h
      own := fun _ _ _ h => by simp [World.start] at h }
  exclusive d := by simp [World.start, Progress.Holds]
  covered _ h := by simp [World.start] at h
  earlier _ _ h := by simp [World.start] at h
  waiting _ _ h := by simp [World.start] at h
  returned _ h := by simp [World.start] at h

section Steps

variable {w : World}

/-- A task gets on, and is over if it was. -/
theorem Inv.advance (h : Inv w) {task : ℕ} {stage : Stage}
    (hover : (w.stage task).Over → stage.Over) : Inv (w.advance task stage) := by
  have hstays (other : ℕ) (ho : (w.stage other).Over) :
      (Function.update w.stage task stage other).Over := by
    by_cases hother : other = task
    · subst hother
      rw [Function.update_self]
      exact hover ho
    · rw [Function.update_of_ne hother]
      exact ho
  exact
    { named := h.named
      exclusive := h.exclusive
      covered := fun other hother => (h.covered other hother).imp (hstays other) id
      earlier := h.earlier
      waiting := fun d tasks hd other hother =>
        (h.waiting d tasks hd other hother).imp (hstays other) id
      returned := fun d hd other hother => hstays other (h.returned d hd other hother) }

/-- A task is registered; those that are finished are forgotten. -/
theorem Inv.register (h : Inv w) {task : ℕ} (hid : w.id task = none) :
    let registered := w.pending.register (fun task => (w.stage task).isFinished) task
    Inv { w with
      pending := registered.2
      id := Function.update w.id task (some registered.1)
      registered := w.registered ++ [task] } := by
  intro registered
  refine ⟨h.named.register _ hid, h.exclusive, fun other hother => ?_, ?_, h.waiting, h.returned⟩
  · rcases List.mem_append.1 hother with hold | hnew
    · refine (h.covered other hold).mono fun id hentry => ?_
      rcases List.mem_append.1 hentry with hpending | htaken
      · by_cases hfinished : (w.stage other).isFinished = true
        · exact .inl (.inr hfinished)
        · refine .inr ⟨id, List.mem_append_left _ (List.mem_append_left _ ?_)⟩
          exact List.mem_filter.2 ⟨hpending, by simpa using hfinished⟩
      · exact .inr ⟨id, List.mem_append_right _ htaken⟩
    · obtain rfl : other = task := List.mem_singleton.1 hnew
      refine .inr ⟨w.pending.nextId, List.mem_append_left _ (List.mem_append_right _ ?_)⟩
      exact List.mem_singleton.2 rfl
  · exact fun d other hd => List.mem_append_left _ (h.earlier d other hd)

/-- The caller of a task whose refresh is over takes it out. -/
theorem Inv.complete (h : Inv w) {task id : ℕ} (hid : w.id task = some id)
    (hover : (w.stage task).Over) : Inv { w with pending := w.pending.complete id } := by
  refine ⟨h.named.complete id, h.exclusive, fun other hother => ?_, h.earlier, h.waiting,
    h.returned⟩
  refine (h.covered other hother).mono fun id' hentry => ?_
  rcases List.mem_append.1 hentry with hpending | htaken
  · by_cases heq : id' = id
    · subst heq
      obtain rfl := h.named.own other task id' (h.named.identified id' other hpending) hid
      exact .inl hover
    · exact .inr ⟨id', List.mem_append_left _ (PendingRefreshes.mem_complete hpending heq)⟩
  · exact .inr ⟨id', List.mem_append_right _ htaken⟩

/-- What is waited for does not depend on a drain without the lock. -/
theorem taken_of_ne {d : ℕ} (hd : w.lock ≠ some d) (progress : Progress) :
    (w.proceed d progress).taken = w.taken := by
  have hdrain : (w.lock.map fun e => Function.update w.drain d progress e) =
      w.lock.map w.drain := by
    cases hlock : w.lock with
    | none => rfl
    | some e =>
      have hne : e ≠ d := fun heq => hd (heq ▸ hlock)
      rw [Option.map_some, Option.map_some, Function.update_of_ne hne]
  show (match w.lock.map fun e => Function.update w.drain d progress e with
    | some (.waiting tasks) => tasks
    | _ => []) = _
  rw [hdrain]
  rfl

/-- What is waited for is what the drain that has the lock took. -/
theorem taken_of_waiting {d : ℕ} {tasks : List (ℕ × ℕ)} (hlock : w.lock = some d)
    (hd : w.drain d = .waiting tasks) : w.taken = tasks := by
  simp only [World.taken, hlock, Option.map_some, hd]

theorem taken_of_free (hlock : w.lock = none) : w.taken = [] := by
  simp only [World.taken, hlock, Option.map_none]

/-- A drain is called. -/
theorem Inv.call (h : Inv w) {d : ℕ} (hd : w.drain d = .absent) :
    Inv { w.proceed d .queued with before := Function.update w.before d w.registered } := by
  have hfree : ¬(w.drain d).Holds := by
    rw [hd]
    exact id
  have hlock : w.lock ≠ some d := fun hheld => hfree ((h.exclusive d).2 hheld)
  have hold {e : ℕ} {progress : Progress} (hne : progress ≠ .queued)
      (he : Function.update w.drain d .queued e = progress) :
      e ≠ d ∧ w.drain e = progress := by
    by_cases hed : e = d
    · subst hed
      rw [Function.update_self] at he
      exact absurd he.symm hne
    · rw [Function.update_of_ne hed] at he
      exact ⟨hed, he⟩
  refine ⟨h.named, h.exclusive.pass hfree id, fun task htask => ?_, fun e task htask => ?_,
    fun e tasks he task htask => ?_, fun e he task htask => ?_⟩
  · show w.Awaited (w.pending.tasks ++ (w.proceed d .queued).taken) task
    rw [taken_of_ne hlock]
    exact h.covered task htask
  · show task ∈ w.registered
    by_cases hed : e = d
    · subst hed
      simpa using htask
    · exact h.earlier e task (by simpa [Function.update_of_ne hed] using htask)
  · obtain ⟨hed, hwaiting⟩ := hold (by simp) he
    exact h.waiting e tasks hwaiting task (by simpa [Function.update_of_ne hed] using htask)
  · obtain ⟨hed, hreturned⟩ := hold (by simp) he
    exact h.returned e hreturned task (by simpa [Function.update_of_ne hed] using htask)

/-- A drain takes the lock and all that is in the registry. -/
theorem Inv.take (h : Inv w) {d : ℕ} (hlock : w.lock = none) :
    Inv { w.proceed d (.waiting w.pending.tasks) with
      lock := some d, pending := { w.pending with tasks := [] } } := by
  have hexclusive := h.exclusive
  rw [hlock] at hexclusive
  have hcovered (task : ℕ) (htask : task ∈ w.registered) : w.Awaited w.pending.tasks task := by
    have hawaited := h.covered task htask
    rw [taken_of_free hlock, List.append_nil] at hawaited
    exact hawaited
  refine ⟨⟨fun n task hentry => by simp at hentry, h.named.fresh, h.named.own⟩,
    hexclusive.acquire trivial, fun task htask => ?_, h.earlier, fun e tasks he task htask => ?_,
    fun e he task htask => ?_⟩
  · rw [taken_of_waiting (d := d) rfl (Function.update_self ..)]
    exact hcovered task htask
  · by_cases hed : e = d
    · subst hed
      obtain rfl : w.pending.tasks = tasks := by simpa [World.proceed] using he
      exact hcovered task (h.earlier e task htask)
    · exact h.waiting e tasks (by simpa [World.proceed, Function.update_of_ne hed] using he) task
        htask
  · by_cases hed : e = d
    · subst hed
      simp [World.proceed] at he
    · exact h.returned e (by simpa [World.proceed, Function.update_of_ne hed] using he) task htask

/-- The drain that has the lock sees that a task is finished. -/
theorem Inv.await (h : Inv w) {d id task : ℕ} {tasks : List (ℕ × ℕ)}
    (hd : w.drain d = .waiting ((id, task) :: tasks))
    (hfinished : (w.stage task).isFinished = true) : Inv (w.proceed d (.waiting tasks)) := by
  have hholds : (w.drain d).Holds := by
    rw [hd]
    exact trivial
  have hlock : w.lock = some d := (h.exclusive d).1 hholds
  have hrest {k : List (ℕ × ℕ)} {other : ℕ}
      (hawaited : w.Awaited (k ++ (id, task) :: tasks) other) :
      w.Awaited (k ++ tasks) other := by
    refine hawaited.mono fun n hentry => ?_
    rcases List.mem_append.1 hentry with hknown | htaken
    · exact .inr ⟨n, List.mem_append_left _ hknown⟩
    · rcases List.mem_cons.1 htaken with heq | htail
      · obtain ⟨-, rfl⟩ := Prod.mk.inj heq
        exact .inl (.inr hfinished)
      · exact .inr ⟨n, List.mem_append_right _ htail⟩
  refine ⟨h.named, h.exclusive.keep hholds trivial, fun other hother => ?_, h.earlier,
    fun e others he other hother => ?_, fun e he other hother => ?_⟩
  · rw [taken_of_waiting (w := w.proceed d (.waiting tasks)) hlock (Function.update_self ..)]
    have hawaited := h.covered other hother
    rw [taken_of_waiting hlock hd] at hawaited
    exact hrest hawaited
  · by_cases hed : e = d
    · subst hed
      obtain rfl : tasks = others := by simpa [World.proceed] using he
      exact hrest (k := []) (h.waiting e _ hd other hother)
    · exact h.waiting e others (by simpa [World.proceed, Function.update_of_ne hed] using he)
        other hother
  · by_cases hed : e = d
    · subst hed
      simp [World.proceed] at he
    · exact h.returned e (by simpa [World.proceed, Function.update_of_ne hed] using he) other
        hother

/-- A drain that waits for nothing is over. -/
theorem Inv.release (h : Inv w) {d : ℕ} {progress : Progress}
    (hd : w.drain d = .queued ∨ w.drain d = .waiting []) (hprogress : ¬progress.Holds)
    (hreturned : progress = .returned → w.drain d = .waiting []) :
    Inv (w.release d progress) := by
  have htaken : (w.release d progress).taken = w.taken := by
    by_cases hlock : w.lock = some d
    · have hholds : (w.drain d).Holds := (h.exclusive d).2 hlock
      rcases hd with hqueued | hwaiting
      · rw [hqueued] at hholds
        exact hholds.elim
      · rw [taken_of_waiting hlock hwaiting]
        exact taken_of_free (by simp [World.release, hlock])
    · have hrelease : w.release d progress = w.proceed d progress := by
        simp only [World.release, World.proceed, if_neg hlock]
      rw [hrelease]
      exact taken_of_ne hlock progress
  refine ⟨h.named, h.exclusive.release hprogress, fun task htask => ?_, h.earlier,
    fun e tasks he task htask => ?_, fun e he task htask => ?_⟩
  · rw [htaken]
    exact h.covered task htask
  · by_cases hed : e = d
    · subst hed
      obtain rfl : progress = .waiting tasks := by simpa [World.release] using he
      exact absurd trivial hprogress
    · exact h.waiting e tasks (by simpa [World.release, Function.update_of_ne hed] using he) task
        htask
  · by_cases hed : e = d
    · subst hed
      have hempty := hreturned (by simpa [World.release] using he)
      rcases h.waiting e [] hempty task htask with hover | ⟨n, hmem⟩
      · exact hover
      · simp at hmem
    · exact h.returned e (by simpa [World.release, Function.update_of_ne hed] using he) task htask

end Steps

/-- **A step keeps what drains wait for.** -/
theorem inv_step (w : World) (m : Move) (h : Inv w) (hpatient : Patient w m) :
    Inv (step w m) := by
  cases m with
  | spawn task =>
    simp only [step]
    split
    · rename_i hstage
      exact h.advance fun hover => by simp [hstage, Stage.Over, Stage.isFinished] at hover
    · exact h
  | register task =>
    simp only [step]
    split
    · exact h
    · exact h
    · rename_i hid _
      exact h.register hid
  | send task =>
    simp only [step]
    split
    · exact h.advance fun _ => .inl rfl
    · exact h
  | finish task =>
    simp only [step]
    split
    · exact h.advance fun _ => .inr rfl
    · exact h
  | panic task =>
    simp only [step]
    split
    · exact h.advance fun _ => .inr rfl
    · exact h
  | complete task =>
    simp only [step]
    split
    · rename_i id hstage hid
      exact h.complete hid (hstage ▸ .inl rfl)
    · rename_i id hstage hid
      exact h.complete hid (hstage ▸ .inr rfl)
    · exact h
  | call d =>
    simp only [step]
    split
    · rename_i hd
      exact h.call hd
    · exact h
  | take d =>
    simp only [step]
    split
    · rename_i hlock
      exact h.take hlock
    · exact h
  | await d =>
    simp only [step]
    split
    · rename_i id task tasks hd
      split_ifs with hfinished
      · exact h.await hd hfinished
      · exact h
    · exact h
  | leave d =>
    simp only [step]
    split
    · rename_i hd
      exact h.release (.inr hd) id fun _ => hd
    · exact h
  | drop d =>
    simp only [Patient] at hpatient
    simp only [step]
    split
    · rename_i hd
      exact h.release (.inl hd) id fun heq => by simp at heq
    · rename_i tasks hd
      cases tasks with
      | nil => exact h.release (.inr hd) id fun heq => by simp at heq
      | cons entry tasks => simp [hd] at hpatient
    · exact h

/-- **A drain that returned leaves no refresh running that was registered when it was
called,** in any interleaving of tasks, registrations, completions and drains, whoever
dropped the future that asked for a refresh, as long as no drain is dropped while it waits
for tasks that it took. -/
theorem drained_of_run (moves : List Move)
    (hpatient : Run.Guarded step Patient .start moves) :
    let w := Run.run step .start moves
    ∀ d, w.drain d = .returned → ∀ task ∈ w.before d, (w.stage task).Over :=
  (Run.run_invariant_of_guarded inv_step inv_start hpatient).returned

/-- A drain waits for a refresh whose caller is gone, while another one is registered and
completed. -/
theorem drained_of_run_two :
    let w := Run.run step .start [.spawn 0, .register 0, .spawn 1, .register 1, .call 0, .send 1,
      .complete 1, .take 0, .send 0, .finish 0, .await 0, .leave 0]
    ∀ task ∈ w.before 0, (w.stage task).Over :=
  drained_of_run [.spawn 0, .register 0, .spawn 1, .register 1, .call 0, .send 1,
      .complete 1, .take 0, .send 0, .finish 0, .await 0, .leave 0]
    (by refine ⟨?_, ?_, ?_, ?_, ?_, ?_, ?_, ?_, ?_, ?_, ?_, ?_, ?_⟩ <;> exact trivial) 0 rfl

end Drain
end Codex
end Moh
