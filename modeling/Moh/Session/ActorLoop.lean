/-
# The loop of a session actor

`SessionActor::run` and the channels it waits on (`session/actor.rs`): the command channel of
the handles, the events of the job monitor, the requests of the plan tool, and the active run.
Only the top of the loop asks whether a handle is left; the `select!` below it waits for a
message, and a channel that is closed merely has none.

Handles are cloned and dropped at any time, also while the loop waits.  If the last one is
dropped while the loop waits for nothing but messages, nothing wakes it: the actor keeps its
jobs and what it registered with the activity tracker (`ActorLoop.leaves_iff`).
-/

import Moh.Library.Mailbox
import Moh.Session.Reachable

namespace Moh

/-- `COMMAND_CAPACITY`. -/
def commandCapacity : ℕ := 128

/-- `PLAN_UPDATE_CHANNEL_CAPACITY`. -/
def planUpdateChannelCapacity : ℕ := 8

/-- Where the loop stands: at its top, in the `select!`, with the input that it took, or over,
because a command ended it (`ended`), because no handle is left (`left`), or because the
`select!` had no branch to wait for (`panicked`). -/
inductive Phase where
  | top
  | waiting
  | handling (input : ActorInput)
  | ended
  | left
  | panicked

/-- How far the loop is from its end, when nothing keeps it. -/
def Phase.rank : Phase → ℕ
  | .waiting => 3
  | .handling _ => 2
  | .top => 1
  | .ended => 0
  | .left => 0
  | .panicked => 0

/-- A branch of the `select!`; the one of the run comes with what the engine's stream yields. -/
inductive Branch where
  | command
  | run (polled : Option (Except RunFailure EngineEvent))
  | jobsChanged
  | planUpdate

/-- The actor, what it waits on, and, once it left, what `JobRegistry::shutdown` answered. -/
structure ActorLoop where
  session : Session
  commands : Mailbox SessionCommand
  jobEvents : Mailbox Unit
  plans : Mailbox (List PlanItem × Option String)
  phase : Phase
  stopped : Option (Except JobRegistryError Unit)

/-- One turn of the world: what holders of the channels do, what the job monitor does after a
change (`none` when the registry's lock is poisoned), or the loop's own next move. -/
inductive Turn where
  | cloneHandle
  | dropHandle
  | send (command : SessionCommand)
  | jobsChanged (running : Option ℕ)
  | clonePlans
  | dropPlans
  | replace (plan : List PlanItem) (explanation : Option String)
  | recv (token : ℕ)
  | closeReceiver (token : ℕ)
  | enter (env : Env)
  | select (branch : Branch)
  | handle (env : Env)

namespace Session

/-- `monitor_activity.set_running_jobs(session_id, count)`. -/
def setRunningJobs (s : Session) (count : ℕ) : Session :=
  { s with activity := s.activity.setRunningJobs s.record.id count }

/-- Nothing of the session is registered with the activity tracker. -/
def Unregistered (s : Session) : Prop :=
  ¬s.activity.hasRun s.record.id ∧ (s.activity.runningJobs.lookup s.record.id).getD 0 = 0

theorem unregistered_clearActivity (s : Session) : s.clearActivity.Unregistered := by
  refine ⟨?_, ?_⟩
  · simp [clearActivity, ActivityTracker.hasRun_setRun]
  · simp only [clearActivity, ActivityTracker.setRunningJobs]
    split_ifs with hnone
    · exact hnone
    · simp

end Session

namespace ActorLoop

/-- The loop of a new actor, with one handle; `clients` clients of the plan tool belong to the
engine. -/
def spawn (s : Session) (clients : ℕ) : ActorLoop where
  session := s
  commands := .new 1
  jobEvents := .new 1
  plans := .new clients
  phase := .top
  stopped := none

/-- The loop is over. -/
def isOver (l : ActorLoop) : Bool := l.phase.rank = 0

/-- The top of the loop: it leaves once no handle is left and no run is active. -/
def enter (l : ActorLoop) (env : Env) : ActorLoop :=
  if l.commands.isClosed && !l.session.harness.isRunning then
    { l with
      session := l.session.step (env, .handlesDropped)
      stopped := some env.jobsShutdown
      phase := .left }
  else { l with phase := .waiting }

/-- What a branch of the `select!` yields, when it is ready. -/
def take (l : ActorLoop) : Branch → Option (ActorInput × ActorLoop)
  | .command =>
    l.commands.next.map fun (command, commands) =>
      (.command command, { l with commands := commands })
  | .run polled => if l.session.harness.isRunning then some (.run polled, l) else none
  | .jobsChanged =>
    l.jobEvents.next.map fun (_, jobEvents) => (.jobsChanged, { l with jobEvents := jobEvents })
  | .planUpdate =>
    l.plans.next.map fun (request, plans) =>
      (.planUpdate request.1 request.2, { l with plans := plans })

/-- The `select!`.  A channel that is closed and empty disables its branch; without any branch
that can become ready the macro panics. -/
def select (l : ActorLoop) (branch : Branch) : ActorLoop :=
  match l.take branch with
  | some (input, l) => { l with phase := .handling input }
  | none =>
    if l.commands.isDone && !l.session.harness.isRunning && l.jobEvents.isDone && l.plans.isDone
    then { l with phase := .panicked }
    else l

/-- The input is handled; some commands end the loop. -/
def handle (l : ActorLoop) (env : Env) (input : ActorInput) : ActorLoop :=
  let session := l.session.step (env, input)
  { l with session := session, phase := if session.exited.isSome then .ended else .top }

/-- The job monitor after a change of the registry: it publishes the number of running jobs
and wakes the actor; it ends when it cannot read the number. -/
def watch (l : ActorLoop) (running : Option ℕ) : ActorLoop :=
  if l.jobEvents.isClosed then l
  else
    match running with
    | some count =>
      { l with session := l.session.setRunningJobs count, jobEvents := l.jobEvents.send 1 () }
    | none => { l with session := l.session.setRunningJobs 1, jobEvents := l.jobEvents.drop }

/-- One turn.  When the loop is over its receivers are gone and the monitor is stopped. -/
def step (l : ActorLoop) (turn : Turn) : ActorLoop :=
  if l.isOver then l
  else
    match turn with
    | .cloneHandle => { l with commands := l.commands.clone }
    | .dropHandle => { l with commands := l.commands.drop }
    | .send command => { l with commands := l.commands.send commandCapacity command }
    | .jobsChanged running => l.watch running
    | .clonePlans => { l with plans := l.plans.clone }
    | .dropPlans => { l with plans := l.plans.drop }
    | .replace plan explanation =>
      { l with plans := l.plans.send planUpdateChannelCapacity (plan, explanation) }
    | .recv token =>
      { l with session := { l.session with stream := l.session.stream.recv token } }
    | .closeReceiver token =>
      { l with session := { l.session with stream := l.session.stream.close token } }
    | .enter env =>
      match l.phase with
      | .top => l.enter env
      | _ => l
    | .select branch =>
      match l.phase with
      | .waiting => l.select branch
      | _ => l
    | .handle env =>
      match l.phase with
      | .handling input => l.handle env input
      | _ => l

/-! ### What is to hold -/

/-- A message waits that wakes the loop. -/
def isReady (l : ActorLoop) : Bool :=
  l.commands.hasNext || l.jobEvents.hasNext || l.plans.hasNext

/-- **The loop waits for nothing:** no handle is left, no command waits and no run is active,
but the loop is in its `select!`, where no other message wakes it either. -/
structure Stranded (l : ActorLoop) : Prop where
  waiting : l.phase = .waiting
  closed : l.commands.isClosed = true
  idle : l.session.harness.isRunning = false
  quiet : l.isReady = false

/-- The turn is a move of the loop that it can make. -/
def Enabled (l : ActorLoop) : Turn → Prop
  | .enter _ => l.phase = .top
  | .select branch => l.phase = .waiting ∧ (l.take branch).isSome = true
  | .handle _ => ∃ input, l.phase = .handling input
  | _ => False

/-- **An actor that no handle can reach leaves:** it is never stranded and does not panic; as
long as no run is active it has a move, and every move of it brings it nearer to its end or
starts a run; and at its end it has shut the jobs down and taken itself off the activity
tracker. -/
structure Leaves (l : ActorLoop) : Prop where
  awake : ¬l.Stranded
  sound : l.phase ≠ .panicked
  moves : l.commands.isClosed = true → l.session.harness.isRunning = false → l.isOver = false →
    (∃ turn, l.Enabled turn) ∧ ∀ turn, l.Enabled turn →
      (l.step turn).session.harness.isRunning = true ∨ (l.step turn).phase.rank < l.phase.rank
  released : l.phase = .left →
    l.session.exited = some .dropped ∧ l.stopped = some (.ok ()) ∧ l.session.Unregistered

/-- The turn does not drop the last handle while the loop waits for nothing but messages, and
none is there; and when the loop leaves, the registry does not fail to shut the jobs down. -/
structure Noticed (l : ActorLoop) (turn : Turn) : Prop where
  woken : turn = .dropHandle → l.commands.senders = 1 → l.phase = .waiting →
    l.session.harness.isRunning = true ∨ l.isReady = true
  shutDown : ∀ env, turn = .enter env → l.phase = .top → l.commands.isClosed = true →
    l.session.harness.isRunning = false → env.jobsShutdown = .ok ()

/-! ### Moves of the loop -/

variable {l l' : ActorLoop}

theorem isReady_eq_false_iff : l.isReady = false ↔ l.commands.hasNext = false ∧
    l.jobEvents.hasNext = false ∧ l.plans.hasNext = false := by
  simp [isReady, and_assoc]

/-- Taking an input leaves the actor as it is. -/
theorem session_of_take {branch : Branch} {input : ActorInput}
    (h : l.take branch = some (input, l')) : l'.session = l.session := by
  cases branch with
  | command =>
    obtain ⟨_, -, heq⟩ := Option.map_eq_some_iff.1 h
    exact (congrArg (·.2.session) heq).symm
  | run polled =>
    unfold take at h
    split_ifs at h
    exact (congrArg (·.2.session) (Option.some.inj h)).symm
  | jobsChanged =>
    obtain ⟨_, -, heq⟩ := Option.map_eq_some_iff.1 h
    exact (congrArg (·.2.session) heq).symm
  | planUpdate =>
    obtain ⟨_, -, heq⟩ := Option.map_eq_some_iff.1 h
    exact (congrArg (·.2.session) heq).symm

/-- A loop that no handle can reach leaves at its top. -/
theorem enter_of_closed (hclosed : l.commands.isClosed = true)
    (hidle : l.session.harness.isRunning = false) (env : Env) :
    l.enter env =
      { l with
        session := l.session.step (env, .handlesDropped)
        stopped := some env.jobsShutdown
        phase := .left } := by
  rw [enter, hclosed, hidle]
  rfl

/-- A ready branch is taken. -/
theorem phase_select {branch : Branch} (h : (l.take branch).isSome = true) :
    ∃ input, (l.select branch).phase = .handling input := by
  obtain ⟨⟨input, l'⟩, htake⟩ := Option.isSome_iff_exists.1 h
  exact ⟨input, by rw [select, htake]⟩

/-- A message that waits makes its branch ready. -/
theorem exists_take (h : l.isReady = true) : ∃ branch, (l.take branch).isSome = true := by
  simp only [isReady, Bool.or_eq_true, ← Mailbox.next_isSome] at h
  rcases h with (h | h) | h
  · exact ⟨.command, by rwa [take, Option.isSome_map]⟩
  · exact ⟨.jobsChanged, by rwa [take, Option.isSome_map]⟩
  · exact ⟨.planUpdate, by rwa [take, Option.isSome_map]⟩

/-- After an input the loop is at its top, or over. -/
theorem rank_handle (l : ActorLoop) (env : Env) (input : ActorInput) :
    (l.handle env input).phase.rank ≤ 1 := by
  unfold handle
  simp only
  split_ifs
  · exact Nat.zero_le 1
  · exact le_rfl

/-- **A loop that is awake has a move,** and each of its moves brings it nearer to its end. -/
theorem moves_of_awake (h : ¬l.Stranded) (hclosed : l.commands.isClosed = true)
    (hidle : l.session.harness.isRunning = false) (hlive : l.isOver = false) :
    (∃ turn, l.Enabled turn) ∧ ∀ turn, l.Enabled turn →
      (l.step turn).session.harness.isRunning = true ∨
        (l.step turn).phase.rank < l.phase.rank := by
  have hstep : ¬l.isOver = true := by simp [hlive]
  constructor
  · cases hphase : l.phase with
    | top => exact ⟨.enter Session.quietEnv, hphase⟩
    | waiting =>
      have hready : l.isReady = true := by
        by_contra hquiet
        exact h ⟨hphase, hclosed, hidle, by simpa using hquiet⟩
      obtain ⟨branch, htake⟩ := exists_take hready
      exact ⟨.select branch, hphase, htake⟩
    | handling input => exact ⟨.handle Session.quietEnv, input, hphase⟩
    | _ => simp [isOver, hphase, Phase.rank] at hlive
  · intro turn henabled
    right
    cases turn with
    | enter env =>
      have hphase : l.phase = .top := henabled
      simp only [step, if_neg hstep, hphase, enter_of_closed hclosed hidle]
      exact Nat.zero_lt_one
    | select branch =>
      obtain ⟨hphase, htake⟩ := henabled
      obtain ⟨input, hselect⟩ := phase_select htake
      simp only [step, if_neg hstep, hphase, hselect]
      exact Nat.lt_succ_self 2
    | handle env =>
      obtain ⟨input, hphase⟩ := henabled
      simp only [step, if_neg hstep, hphase]
      exact Nat.lt_succ_of_le (l.rank_handle env input)
    | _ => exact henabled.elim

/-! ### Runs -/

/-- What the turns keep, as long as every one of them is noticed. -/
structure Sound (l : ActorLoop) : Prop where
  awake : ¬l.Stranded
  sound : l.phase ≠ .panicked
  live : l.isOver = false → l.session.exited = none
  released : l.phase = .left →
    l.session.exited = some .dropped ∧ l.stopped = some (.ok ()) ∧ l.session.Unregistered

theorem Sound.leaves (h : l.Sound) : l.Leaves :=
  ⟨h.awake, h.sound, fun hclosed hidle hlive => moves_of_awake h.awake hclosed hidle hlive,
    h.released⟩

/-- A turn that is no move of the loop keeps what holds, when it takes no message away. -/
theorem Sound.wait (h : l.Sound) (hlive : l.isOver = false) (hphase : l'.phase = l.phase)
    (hexited : l'.session.exited = l.session.exited) (hawake : l'.Stranded → l.Stranded) :
    l'.Sound := by
  refine ⟨fun hstranded => h.awake (hawake hstranded), by rw [hphase]; exact h.sound,
    fun _ => hexited.trans (h.live hlive), fun hleft => ?_⟩
  rw [isOver, ← hphase, hleft] at hlive
  exact absurd hlive (by decide)

theorem Sound.enter (h : l.Sound) (hphase : l.phase = .top) {env : Env}
    (hn : l.Noticed (.enter env)) : (l.enter env).Sound := by
  have hlive : l.session.exited = none := h.live (by rw [isOver, hphase]; rfl)
  unfold ActorLoop.enter
  split_ifs with hleave
  · obtain ⟨hclosed, hidle⟩ := (Bool.and_eq_true _ _).mp hleave
    have hidle' : ¬l.session.harness.isRunning = true := by simpa using hidle
    have hjobs : env.jobsShutdown = .ok () :=
      hn.shutDown env rfl hphase hclosed (by simpa using hidle)
    have hstep : l.session.step (env, .handlesDropped) =
        l.session.clearActivity.exit .dropped := by
      simp [Session.step, hlive, hidle', hjobs]
    refine ⟨fun hstranded => by simpa using hstranded.waiting, by simp, ?_, fun _ => ?_⟩
    · intro hover
      simp [isOver, Phase.rank] at hover
    · rw [hstep, hjobs]
      exact ⟨rfl, rfl, Session.unregistered_clearActivity _⟩
  · refine ⟨fun hstranded => hleave ?_, by simp, fun _ => hlive, by simp⟩
    rw [show l.commands.isClosed = true from hstranded.closed,
      show l.session.harness.isRunning = false from hstranded.idle]
    rfl

theorem Sound.select (h : l.Sound) (hphase : l.phase = .waiting) (branch : Branch) :
    (l.select branch).Sound := by
  have hlive : l.session.exited = none := h.live (by rw [isOver, hphase]; rfl)
  unfold ActorLoop.select
  cases htake : l.take branch with
  | some taken =>
    obtain ⟨input, l'⟩ := taken
    refine ⟨fun hstranded => by simpa using hstranded.waiting, by simp, fun _ => ?_, by simp⟩
    rw [session_of_take htake]
    exact hlive
  | none =>
    simp only
    split_ifs with hdone
    · -- With every channel closed and empty the loop would be stranded.
      simp only [Bool.and_eq_true, Mailbox.isDone, Bool.not_eq_true'] at hdone
      obtain ⟨⟨⟨⟨hclosed, hcommands⟩, hidle⟩, -, hjobs⟩, -, hplans⟩ := hdone
      exact absurd ⟨hphase, hclosed, hidle, by simp [isReady, hcommands, hjobs, hplans]⟩ h.awake
    · exact h

theorem Sound.handle (l : ActorLoop) (env : Env) (input : ActorInput) :
    (l.handle env input).Sound := by
  unfold ActorLoop.handle
  simp only
  split_ifs with hexited
  · refine ⟨fun hstranded => by simpa using hstranded.waiting, by simp, ?_, by simp⟩
    intro hover
    simp [isOver, Phase.rank] at hover
  · refine ⟨fun hstranded => by simpa using hstranded.waiting, by simp, fun _ => ?_, by simp⟩
    simpa using hexited

/-- **One turn keeps what holds,** unless it drops the last handle unnoticed or the jobs are
not shut down. -/
theorem Sound.step (h : l.Sound) {turn : Turn} (hn : l.Noticed turn) : (l.step turn).Sound := by
  unfold ActorLoop.step
  split_ifs with hover
  · exact h
  have hlive : l.isOver = false := by simpa using hover
  cases turn with
  | cloneHandle =>
    exact h.wait hlive rfl rfl fun hs =>
      ⟨hs.waiting, by simpa using hs.closed, hs.idle, by simpa [isReady] using hs.quiet⟩
  | dropHandle =>
    refine h.wait hlive rfl rfl fun hs => ⟨hs.waiting, ?_, hs.idle, hs.quiet⟩
    refine ((Mailbox.isClosed_drop _).1 hs.closed).resolve_right fun hlast => ?_
    rcases hn.woken rfl hlast hs.waiting with hrunning | hready
    · exact absurd (hrunning.symm.trans hs.idle) (by decide)
    · exact absurd (hready.symm.trans hs.quiet) (by decide)
  | send command =>
    refine h.wait hlive rfl rfl fun hs => ⟨hs.waiting, by simpa using hs.closed, hs.idle, ?_⟩
    obtain ⟨hcommands, hjobs, hplans⟩ := isReady_eq_false_iff.1 hs.quiet
    exact isReady_eq_false_iff.2 ⟨Mailbox.hasNext_of_send hcommands, hjobs, hplans⟩
  | jobsChanged running =>
    simp only [watch]
    split_ifs with hended
    · exact h
    cases running with
    | some count =>
      refine h.wait hlive rfl rfl fun hs => ⟨hs.waiting, hs.closed, hs.idle, ?_⟩
      obtain ⟨hcommands, hjobs, hplans⟩ := isReady_eq_false_iff.1 hs.quiet
      exact isReady_eq_false_iff.2 ⟨hcommands, Mailbox.hasNext_of_send hjobs, hplans⟩
    | none => exact h.wait hlive rfl rfl fun hs => ⟨hs.waiting, hs.closed, hs.idle, hs.quiet⟩
  | clonePlans =>
    exact h.wait hlive rfl rfl fun hs =>
      ⟨hs.waiting, hs.closed, hs.idle, by simpa [isReady] using hs.quiet⟩
  | dropPlans =>
    exact h.wait hlive rfl rfl fun hs => ⟨hs.waiting, hs.closed, hs.idle, hs.quiet⟩
  | replace plan explanation =>
    refine h.wait hlive rfl rfl fun hs => ⟨hs.waiting, hs.closed, hs.idle, ?_⟩
    obtain ⟨hcommands, hjobs, hplans⟩ := isReady_eq_false_iff.1 hs.quiet
    exact isReady_eq_false_iff.2 ⟨hcommands, hjobs, Mailbox.hasNext_of_send hplans⟩
  | recv token =>
    exact h.wait hlive rfl rfl fun hs => ⟨hs.waiting, hs.closed, hs.idle, hs.quiet⟩
  | closeReceiver token =>
    exact h.wait hlive rfl rfl fun hs => ⟨hs.waiting, hs.closed, hs.idle, hs.quiet⟩
  | enter env =>
    simp only
    split
    · rename_i hphase
      exact h.enter hphase hn
    · exact h
  | select branch =>
    simp only
    split
    · rename_i hphase
      exact h.select hphase branch
    · exact h
  | handle env =>
    simp only
    split
    · exact .handle l env _
    · exact h

/-- **The last handle that is dropped unnoticed** strands the loop. -/
theorem stranded_of_unnoticed (hlast : l.commands.senders = 1) (hphase : l.phase = .waiting)
    (hidle : l.session.harness.isRunning = false) (hquiet : l.isReady = false) :
    (l.step .dropHandle).Stranded := by
  have hlive : ¬l.isOver = true := by simp [isOver, hphase, Phase.rank]
  simp only [step, if_neg hlive]
  exact ⟨hphase, (Mailbox.isClosed_drop _).2 (.inr hlast), hidle, hquiet⟩

/-- **A loop that leaves while the registry fails** has not shut the jobs down. -/
theorem not_leaves_of_failed_shutdown {env : Env} (hphase : l.phase = .top)
    (hclosed : l.commands.isClosed = true) (hidle : l.session.harness.isRunning = false)
    (hjobs : env.jobsShutdown ≠ .ok ()) : ¬(l.step (.enter env)).Leaves := by
  have hlive : ¬l.isOver = true := by simp [isOver, hphase, Phase.rank]
  have hstep : l.step (.enter env) = l.enter env := by simp only [step, if_neg hlive, hphase]
  rw [hstep, enter_of_closed hclosed hidle]
  intro h
  obtain ⟨-, hstopped, -⟩ := h.released rfl
  exact hjobs (Option.some.inj hstopped)

/-- A turn that is not noticed breaks what is to hold. -/
theorem not_leaves_of_unnoticed {turn : Turn} (hn : ¬l.Noticed turn) : ¬(l.step turn).Leaves := by
  by_cases hwoken : turn = .dropHandle → l.commands.senders = 1 → l.phase = .waiting →
      l.session.harness.isRunning = true ∨ l.isReady = true
  · have hshut : ¬∀ env, turn = .enter env → l.phase = .top → l.commands.isClosed = true →
        l.session.harness.isRunning = false → env.jobsShutdown = .ok () :=
      fun hshut => hn ⟨hwoken, hshut⟩
    push Not at hshut
    obtain ⟨env, rfl, hphase, hclosed, hidle, hjobs⟩ := hshut
    exact not_leaves_of_failed_shutdown hphase hclosed hidle hjobs
  · simp only [Classical.not_imp, not_or, Bool.not_eq_true] at hwoken
    obtain ⟨rfl, hlast, hphase, hidle, hquiet⟩ := hwoken
    exact fun h => h.awake (stranded_of_unnoticed hlast hphase hidle hquiet)

theorem sound_spawn {s : Session} (hs : s.exited = none) (clients : ℕ) :
    (spawn s clients).Sound :=
  ⟨fun hstranded => by simpa [spawn] using hstranded.waiting, by simp [spawn], fun _ => hs,
    by simp [spawn]⟩

/-- **A session actor whose last handle is dropped leaves** in every run, and only in those
runs, in which the last handle is never dropped while the loop waits with no run active and no
message to wake it, and no shutdown of the jobs fails when the loop leaves. -/
theorem leaves_iff {s : Session} (hs : s.exited = none) (clients : ℕ) (turns : List Turn) :
    (∀ pre, pre <+: turns → (Run.run step (spawn s clients) pre).Leaves) ↔
      Run.Guarded step Noticed (spawn s clients) turns :=
  Run.forall_prefix_iff_guarded (I := Sound) (fun _ h => h.leaves) (fun _ _ h hn => h.step hn)
    (fun _ _ _ hn => not_leaves_of_unnoticed hn) (sound_spawn hs clients)

/-- `leaves_iff` on a handle that is dropped behind its last command. -/
theorem leaves_idleSession :
    (∀ pre, pre <+:
      [.enter Session.quietEnv, .send .listJobs, .dropHandle, .select .command,
        .handle Session.quietEnv, .enter Session.quietEnv] →
      (Run.run step (spawn Session.idleSession 1) pre).Leaves) ↔
    Run.Guarded step Noticed (spawn Session.idleSession 1)
      [.enter Session.quietEnv, .send .listJobs, .dropHandle, .select .command,
        .handle Session.quietEnv, .enter Session.quietEnv] :=
  leaves_iff rfl 1 _

/-- The command wakes the loop, which then finds that no handle is left. -/
example : Run.Guarded step Noticed (spawn Session.idleSession 1)
    [.enter Session.quietEnv, .send .listJobs, .dropHandle, .select .command,
      .handle Session.quietEnv, .enter Session.quietEnv] := by
  have hshut : ∀ (l : ActorLoop) env, Turn.enter Session.quietEnv = .enter env → l.phase = .top →
      l.commands.isClosed = true → l.session.harness.isRunning = false →
      env.jobsShutdown = .ok () := by
    rintro l env henv - - -
    obtain rfl := Turn.enter.inj henv
    rfl
  exact ⟨⟨by simp, hshut _⟩, ⟨by simp, by simp⟩, ⟨fun _ _ _ => .inr rfl, by simp⟩,
    ⟨by simp, by simp⟩, ⟨by simp, by simp⟩, ⟨by simp, hshut _⟩, trivial⟩

/-- **A handle that is dropped while its actor waits** strands the actor: the loop polls its
channels in vain. -/
theorem stranded_idleSession :
    let l := Run.run step (spawn Session.idleSession 1) [.enter Session.quietEnv, .dropHandle]
    l.Stranded ∧ ∀ branch, l.step (.select branch) = l := by
  refine ⟨⟨rfl, rfl, rfl, rfl⟩, fun branch => ?_⟩
  cases branch <;> rfl

/-! ### The actor in its loop -/

/-- What a turn does to the actor is a step of it, or a number that the monitor publishes. -/
theorem agrees_step (ha : l.session.Agrees) (turn : Turn) : (l.step turn).session.Agrees := by
  have hstep : ∀ input, (l.session.step input).Agrees :=
    fun input => Session.agrees_of_run ha [input]
  unfold step
  split_ifs
  · exact ha
  cases turn with
  | jobsChanged running =>
    simp only [watch]
    split_ifs
    · exact ha
    · cases running <;> exact ha
  | recv token => exact hstep (Session.quietEnv, .recv token)
  | closeReceiver token => exact hstep (Session.quietEnv, .closeReceiver token)
  | enter env =>
    simp only
    split
    · unfold enter
      split_ifs
      · exact hstep _
      · exact ha
    · exact ha
  | select branch =>
    simp only
    split
    · unfold select
      split
      · rename_i htake
        rw [session_of_take htake]
        exact ha
      · split_ifs <;> exact ha
    · exact ha
  | handle env =>
    simp only
    split
    · exact hstep _
    · exact ha
  | _ => exact ha

/-- **Whatever the order of arrivals,** the record, the projection, the harness and the durable
turns of the actor tell the same story. -/
theorem consistent_of_turns {s : Session} (hs : Spawned s) (clients : ℕ)
    (turns : List Turn) : (Run.run step (spawn s clients) turns).session.Consistent :=
  .of_agrees (Run.run_invariant (I := fun l : ActorLoop => l.session.Agrees)
    (fun _ turn ha => agrees_step ha turn) (Session.agrees_of_spawned hs) turns)

end ActorLoop

end Moh
