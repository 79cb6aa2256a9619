/-
# What the commands of the manager do to its world

A command of the manager is a sequence of changes that are made as one (`Change`):
something happens on its own, an actor handles a command, the repository writes,
creates or removes a row, or only the books of the manager change.  Starting a
task and forgetting one are the two changes of the registry, which `openSession`,
`materialize`, `deleteLive` and `shutdownActors` make by themselves.

Whatever happens, every task keeps the session it is for, and one that is over
stays over (`Changes.follows`).
-/

import Moh.Session.Frame
import Moh.Session.Manager

namespace Moh

namespace ActorTask

/-- What happens to a task: it stays with its session, and never starts again. -/
structure Follows (t t' : ActorTask) : Prop where
  same : t'.actor.record.id = t.actor.record.id
  exited : t.exited.isSome = true → t'.exited.isSome = true
  finished : t.finished = true → t'.finished = true

variable {t t' t'' : ActorTask}

theorem Follows.refl (t : ActorTask) : t.Follows t := ⟨rfl, id, id⟩

theorem Follows.trans (h : t.Follows t') (h' : t'.Follows t'') : t.Follows t'' :=
  ⟨h'.same.trans h.same, fun he => h'.exited (h.exited he), fun hf => h'.finished (h.finished hf)⟩

end ActorTask

/-- The task of an actor whose loop ends is over when the manager goes on. -/
abbrev Await.Finishing (w : Await) : Prop := w.finishes = true

namespace SessionManager

variable {m m' m'' : SessionManager}

/-! ### One task changes -/

/-- A task is changed, or left as it is. -/
theorem getElem?_modify {tasks : List ActorTask} {h h' : SessionHandle}
    {f : ActorTask → ActorTask} {t' : ActorTask} (ht' : (tasks.modify h f)[h']? = some t') :
    ∃ t, tasks[h']? = some t ∧ t' = if h = h' then f t else t := by
  rw [List.getElem?_modify] at ht'
  obtain ⟨t, ht, rfl⟩ := Option.map_eq_some_iff.1 ht'
  refine ⟨t, ht, ?_⟩
  split_ifs <;> rfl

/-- The task that is changed. -/
theorem getElem?_modify_self {tasks : List ActorTask} {h : SessionHandle}
    {f : ActorTask → ActorTask} {t : ActorTask} (ht : tasks[h]? = some t) :
    (tasks.modify h f)[h]? = some (f t) := by
  rw [List.getElem?_modify, ht]
  simp

/-- Another task. -/
theorem getElem?_modify_of_ne {tasks : List ActorTask} {h h' : SessionHandle} (hne : h ≠ h')
    (f : ActorTask → ActorTask) : (tasks.modify h f)[h']? = tasks[h']? := by
  rw [List.getElem?_modify]
  cases tasks[h']? <;> simp [hne]

/-- A registered handle is found. -/
theorem isRegistered_of_lookup {id : SessionId} {h : SessionHandle}
    (hl : m.actors.lookup id = some h) : m.isRegistered h = true := by
  refine List.any_eq_true.2 ⟨⟨id, h⟩, ?_, by simp⟩
  exact AList.mem_lookup_iff.1 hl

/-- What reaches a registered actor on its own neither steers it nor ends its loop. -/
theorem isOrdinary_of_admits {id : SessionId} {h : SessionHandle} {t : ActorTask}
    {input : ActorInput} (hl : m.actors.lookup id = some h) (hadm : m.admits h t input = true) :
    input.isOrdinary = true := by
  cases input with
  | command c =>
    simp only [admits, Bool.and_eq_true] at hadm
    exact hadm.2
  | handlesDropped =>
    simp only [admits, isRegistered_of_lookup hl] at hadm
    exact absurd hadm (by simp)
  | _ => rfl

/-- An input reaches an actor, or nothing happens. -/
theorem background_input_cases (m : SessionManager) (h : SessionHandle) (env : Env)
    (input : ActorInput) :
    m.background (.input h env input) = m ∨
      ∃ t, m.tasks[h]? = some t ∧ m.admits h t input = true ∧
        m.background (.input h env input) = m.putBack h ((m.session t).step (env, input)) := by
  unfold background
  cases ht : m.tasks[h]? with
  | none => exact .inl (by simp only [ht])
  | some t =>
    simp only [ht]
    split_ifs with ha
    · exact .inr ⟨t, rfl, ha, rfl⟩
    · exact .inl rfl

/-- Every task of the later world is one of the earlier world. -/
structure Follows (m m' : SessionManager) : Prop where
  length : m'.tasks.length = m.tasks.length
  task : ∀ (h : SessionHandle) (t' : ActorTask), m'.tasks[h]? = some t' →
    ∃ t : ActorTask, m.tasks[h]? = some t ∧ t.Follows t'

namespace Follows

theorem refl (m : SessionManager) : m.Follows m := ⟨rfl, fun _ t ht => ⟨t, ht, .refl t⟩⟩

theorem trans (h : m.Follows m') (h' : m'.Follows m'') : m.Follows m'' := by
  refine ⟨h'.length.trans h.length, fun i t'' ht'' => ?_⟩
  obtain ⟨t', ht', hf'⟩ := h'.task i t'' ht''
  obtain ⟨t, ht, hf⟩ := h.task i t' ht'
  exact ⟨t, ht, hf.trans hf'⟩

/-- And every task of the earlier world is there later. -/
theorem forward (h : m.Follows m') {i : SessionHandle} {t : ActorTask}
    (ht : m.tasks[i]? = some t) : ∃ t' : ActorTask, m'.tasks[i]? = some t' ∧ t.Follows t' := by
  have hlt : i < m'.tasks.length := h.length ▸ (List.getElem?_eq_some_iff.1 ht).1
  obtain ⟨t₁, ht₁, hf⟩ := h.task i _ (List.getElem?_eq_getElem hlt)
  obtain rfl := Option.some.inj (ht.symm.trans ht₁)
  exact ⟨_, List.getElem?_eq_getElem hlt, hf⟩

/-- One task is changed. -/
theorem modify {h : SessionHandle} {f : ActorTask → ActorTask} {t : ActorTask}
    (ht : m.tasks[h]? = some t) (hf : t.Follows (f t))
    (htasks : m'.tasks = m.tasks.modify h f) : m.Follows m' := by
  refine ⟨by rw [htasks, List.length_modify], fun i t' ht' => ?_⟩
  rw [htasks] at ht'
  obtain ⟨t₁, ht₁, rfl⟩ := getElem?_modify ht'
  refine ⟨t₁, ht₁, ?_⟩
  split_ifs with hi
  · subst hi
    obtain rfl := Option.some.inj (ht.symm.trans ht₁)
    exact hf
  · exact .refl _

/-- A flag of a task is raised. -/
theorem raise {h : SessionHandle} {f : ActorTask → ActorTask} (hf : ∀ t : ActorTask, t.Follows (f t))
    (htasks : m'.tasks = m.tasks.modify h f) : m.Follows m' := by
  refine ⟨by rw [htasks, List.length_modify], fun i t' ht' => ?_⟩
  rw [htasks] at ht'
  obtain ⟨t₁, ht₁, rfl⟩ := getElem?_modify ht'
  refine ⟨t₁, ht₁, ?_⟩
  split_ifs
  · exact hf t₁
  · exact .refl _

theorem finish (m : SessionManager) (h : SessionHandle) : m.Follows (m.finish h) :=
  raise (f := fun t => { t with finished := t.finished || t.exited.isSome })
    (fun _ => ⟨rfl, id, fun hf => by simp [hf]⟩) rfl

theorem share (m : SessionManager) (h : SessionHandle) : m.Follows (m.share h) :=
  raise (f := fun t => { t with shared := true }) (fun _ => ⟨rfl, id, id⟩) rfl

/-- A handler of the task ran. -/
theorem putBack {h : SessionHandle} {t : ActorTask} {s : Session} (ht : m.tasks[h]? = some t)
    (hs : (m.session t).Spares s) : m.Follows (m.putBack h s) :=
  modify (f := fun t => { t with actor := s.toSessionActor, exited := s.exited }) ht
    ⟨hs.id, hs.exited, id⟩ rfl

/-- The tasks are not touched at all. -/
theorem of_eq (htasks : m'.tasks = m.tasks) : m.Follows m' := by
  refine ⟨by rw [htasks], fun i t ht => ?_⟩
  rw [htasks] at ht
  exact ⟨t, ht, .refl t⟩

theorem background (m : SessionManager) (b : Background) : m.Follows (m.background b) := by
  cases b with
  | input h env input =>
    rcases m.background_input_cases h env input with he | ⟨t, ht, -, he⟩
    · rw [he]
      exact .refl m
    · rw [he]
      exact putBack ht (Session.step_spares _ env input)
  | finished h => exact finish m h

theorem deliver {h : SessionHandle} {t : ActorTask} (ht : m.tasks[h]? = some t) (w : Await)
    (c : SessionCommand) : m.Follows (m.deliver h t w c).2 := by
  have hp := putBack ht (Session.handleCommand_spares (m.session t) w.env c)
  unfold SessionManager.deliver
  simp only
  split_ifs
  · exact hp.trans (finish _ h)
  · exact hp

end Follows

/-- The identifier that is handed out next. -/
def nextSession (m : SessionManager) : SessionId := ⟨m.store.nextId⟩

/-- The row of a first prompt was created. -/
def withRow (m : SessionManager) (request : MaterializeSession) : SessionManager :=
  { m with
    store :=
      { rows := m.store.rows.insert m.nextSession
          (SessionStore.materializedRecord request m.nextSession)
        nextId := m.store.nextId + 1 } }

theorem lookup_withRow (m : SessionManager) (request : MaterializeSession) :
    (m.withRow request).store.rows.lookup m.nextSession =
      some (SessionStore.materializedRecord request m.nextSession) :=
  AList.lookup_insert _

/-! ### Changes -/

/-- **The changes that are made as one.**  A `shutdown` reaches an actor only in a
wait of which `p` holds. -/
inductive Change (p : Await → Prop) (m : SessionManager) : SessionManager → Prop where
  /-- Something happens on its own. -/
  | background (b : Background) : Change p m (m.background b)
  /-- An actor handles a command. -/
  | delivered {h : SessionHandle} {t : ActorTask} {w : Await} {c : SessionCommand}
    (ht : m.tasks[h]? = some t) (he : t.exited = none)
    (hc : c = .shutdown → p w) : Change p m (m.deliver h t w c).2
  /-- A client gets a handle. -/
  | shared (h : SessionHandle) : Change p m (m.share h)
  /-- A row is written. -/
  | wrote {id : SessionId} {store : SessionStore} (hf : m.store.Frame id store) :
    Change p m { m with store := store }
  /-- A row is created. -/
  | inserted (request : MaterializeSession) : Change p m (m.withRow request)
  /-- A row is removed. -/
  | deleted (id : SessionId) :
    Change p m { m with store := { m.store with rows := m.store.rows.erase id } }
  /-- The title tasks change, or the manager stops. -/
  | booked {activity : ActivityTracker} (titleTasks : List TitleRequest) (stopped : Bool)
    (ha : ∀ id, activity.hasRun id ↔ m.activity.hasRun id)
    (hc : m.activity.Continues activity) :
    Change p m { m with activity := activity, titleTasks := titleTasks, stopped := stopped }

/-- A sequence of changes. -/
abbrev Changes (p : Await → Prop) : SessionManager → SessionManager → Prop :=
  Relation.ReflTransGen (Change p)

variable {p : Await → Prop}

theorem Change.changes (h : Change p m m') : Changes p m m' := .single h

/-- **What no change touches:** the registry, and which task is for which session. -/
theorem Change.follows (h : Change p m m') : m'.actors = m.actors ∧ m.Follows m' := by
  cases h with
  | background b =>
    refine ⟨?_, .background m b⟩
    cases b with
    | input h env input =>
      rcases m.background_input_cases h env input with he | ⟨t, -, -, he⟩
      · rw [he]
      · rw [he]
        rfl
    | finished h => rfl
  | delivered ht he hc =>
    refine ⟨?_, .deliver ht _ _⟩
    unfold deliver
    simp only
    split_ifs <;> rfl
  | shared h => exact ⟨rfl, .share m h⟩
  | wrote hf => exact ⟨rfl, .of_eq rfl⟩
  | inserted request => exact ⟨rfl, .of_eq rfl⟩
  | deleted id => exact ⟨rfl, .of_eq rfl⟩
  | booked titleTasks stopped ha => exact ⟨rfl, .of_eq rfl⟩

theorem Changes.follows (h : Changes p m m') : m'.actors = m.actors ∧ m.Follows m' := by
  induction h with
  | refl => exact ⟨rfl, .refl m⟩
  | tail _ hc ih => exact ⟨hc.follows.1.trans ih.1, ih.2.trans hc.follows.2⟩

/-! ### The pieces of the commands -/

theorem background_changes (m : SessionManager) (bs : List Background) :
    Changes p m (Run.run background m bs) := by
  induction bs generalizing m with
  | nil => exact .refl
  | cons b bs ih => exact (Change.background b).changes.trans (ih _)

/-- The task after its actor handled a command. -/
theorem deliver_task {h : SessionHandle} {t : ActorTask} (ht : m.tasks[h]? = some t) (w : Await)
    (c : SessionCommand) :
    (m.deliver h t w c).2.tasks[h]? = some
      { actor := ((m.session t).handleCommand w.env c).2.toSessionActor
        shared := t.shared
        exited := ((m.session t).handleCommand w.env c).2.exited
        finished := t.finished || ((w.finishes || c.isTerminal) &&
          ((m.session t).handleCommand w.env c).2.exited.isSome) } := by
  unfold deliver putBack
  simp only
  split_ifs with hends
  · rw [hends, Bool.true_and]
    exact getElem?_modify_self (getElem?_modify_self ht)
  · rw [Bool.eq_false_iff.2 hends, Bool.false_and, Bool.or_false]
    exact getElem?_modify_self ht

/-- And the repository. -/
theorem deliver_store (m : SessionManager) (h : SessionHandle) (t : ActorTask) (w : Await)
    (c : SessionCommand) :
    (m.deliver h t w c).2.store = ((m.session t).handleCommand w.env c).2.store := by
  unfold deliver
  simp only
  split_ifs <;> rfl

/-- A command that is sent reaches an actor whose loop goes on, or nothing
happens. -/
theorem receive_cases (m : SessionManager) (h : SessionHandle) (w : Await) (c : SessionCommand) :
    (m.receive h w c = (.error .unavailable, m) ∧
      ∀ t : ActorTask, m.tasks[h]? = some t → t.exited.isSome = true) ∨
    ∃ t : ActorTask, m.tasks[h]? = some t ∧ t.exited = none ∧
      m.receive h w c =
        (if w.lost then .error .unavailable else .ok (m.deliver h t w c).1,
          (m.deliver h t w c).2) := by
  unfold receive
  cases ht : m.tasks[h]? with
  | none => exact .inl ⟨rfl, fun _ ht' => absurd ht' (by simp)⟩
  | some t =>
    by_cases hx : t.exited.isSome = true
    · refine .inl ⟨if_pos hx, fun t' ht' => ?_⟩
      obtain rfl := Option.some.inj ht'
      exact hx
    · exact .inr ⟨t, rfl, by simpa using hx, if_neg hx⟩

theorem receive_changes (m : SessionManager) (h : SessionHandle) (w : Await) (c : SessionCommand)
    (hc : c = .shutdown → p w) : Changes p m (m.receive h w c).2 := by
  rcases m.receive_cases h w c with ⟨hr, -⟩ | ⟨t, ht, hx, hr⟩
  · rw [hr]
  · rw [hr]
    exact (Change.delivered ht hx hc).changes

theorem send_changes (m : SessionManager) (h : SessionHandle) (w : Await) (c : SessionCommand)
    (hc : c = .shutdown → p w) : Changes p m (m.send h w c).2 :=
  (background_changes m w.early).trans (receive_changes _ h w c hc)

section Ask

variable (m : SessionManager) (h : SessionHandle) (w : Await) {c : SessionCommand}

theorem askSnapshot_snd (c : SessionCommand) : (m.askSnapshot h w c).2 = (m.send h w c).2 := by
  unfold askSnapshot
  split <;> simp_all

theorem askUnit_snd (c : SessionCommand) : (m.askUnit h w c).2 = (m.send h w c).2 := by
  unfold askUnit
  split <;> simp_all

theorem askOutcome_snd (c : SessionCommand) : (m.askOutcome h w c).2 = (m.send h w c).2 := by
  unfold askOutcome
  split <;> simp_all

theorem askCount_snd (c : SessionCommand) : (m.askCount h w c).2 = (m.send h w c).2 := by
  unfold askCount
  split <;> simp_all

theorem askUnit_changes (hc : c = .shutdown → p w) :
    Changes p m (m.askUnit h w c).2 := by
  rw [askUnit_snd]
  exact m.send_changes h w c hc

theorem attach_changes (connectionId : ConnectionId) (attachmentId : AttachmentId) :
    Changes p m (m.attach h w connectionId attachmentId).2 := by
  have hs : Changes p m (m.askSnapshot h w (.attach connectionId attachmentId)).2 := by
    rw [askSnapshot_snd]
    exact m.send_changes h w _ nofun
  unfold attach
  cases ha : m.askSnapshot h w (.attach connectionId attachmentId) with
  | mk result m' =>
    rw [ha] at hs
    cases result with
    | error error => exact hs
    | ok snapshot => exact hs.trans (Change.shared h).changes

end Ask

/-- A repository call that changes at most one row. -/
theorem call_changes {α : Type} (m : SessionManager) (w : Await)
    {f : Option SessionStoreError → SessionStore → Except SessionStoreError α × SessionStore}
    (hf : ∀ fault store, ∃ id, SessionStore.Frame id store (f fault store).2) :
    Changes p m (m.call w f).2 := by
  refine (background_changes m w.early).trans ?_
  unfold call
  generalize Run.run background m w.early = m₁
  obtain ⟨id, hs⟩ := hf w.env.fault m₁.store
  exact (Change.wrote hs).changes

theorem resolveId_changes (m : SessionManager) (script : Script) (selector : SessionSelector)
    (cwd : List UInt8) : Changes p m (m.resolveId script selector cwd).2 := by
  cases selector with
  | id id => exact .refl
  | title title =>
    have hc : Changes p m
        (m.call (script.call .resolve) fun fault store => store.list fault (.project cwd)).2 :=
      m.call_changes _ fun fault store => ⟨⟨0⟩, store.frame_list _ fault _⟩
    unfold resolveId
    simp only
    generalize m.call (script.call .resolve)
      (fun fault store => store.list fault (.project cwd)) = r at hc
    obtain ⟨error | summaries, m'⟩ := r
    · exact hc
    · simp only
      split <;> exact hc

theorem overlay_changes (each : SessionId → Await) (summaries : List SessionSummary)
    (m : SessionManager) : Changes p m (overlay each summaries m).2 := by
  induction summaries generalizing m with
  | nil => exact .refl
  | cons summary summaries ih =>
    unfold overlay
    cases m.actors.lookup summary.id with
    | none =>
      have hi := ih m
      simp only
      generalize overlay each summaries m = r at hi
      obtain ⟨error | summaries, m'⟩ := r <;> exact hi
    | some h =>
      have hs : Changes p m (m.askSnapshot h (each summary.id) .snapshot).2 := by
        rw [askSnapshot_snd]
        exact m.send_changes h _ _ nofun
      simp only
      generalize m.askSnapshot h (each summary.id) .snapshot = r at hs
      obtain ⟨error | snapshot, m₁⟩ := r
      · exact hs
      · have hi := ih m₁
        simp only at hi hs ⊢
        generalize overlay each summaries m₁ = r at hi
        obtain ⟨error | summaries, m'⟩ := r <;> exact hs.trans hi

theorem list_changes (m : SessionManager) (script : Script) (scope : SessionListScope) :
    Changes p m (m.list script scope).2 := by
  have hc : Changes p m
      (m.call (script.call .list) fun fault store => store.list fault scope).2 :=
    m.call_changes _ fun fault store => ⟨⟨0⟩, store.frame_list _ fault _⟩
  unfold list
  generalize m.call (script.call .list) (fun fault store => store.list fault scope) = r at hc
  obtain ⟨error | summaries, m₁⟩ := r
  · exact hc
  · have ho := overlay_changes (p := p) script.each summaries m₁
    simp only at hc ho ⊢
    generalize overlay script.each summaries m₁ = r at ho
    obtain ⟨error | summaries, m₂⟩ := r <;> exact hc.trans ho

theorem startup_changes (m : SessionManager) (script : Script) (cwd : List UInt8)
    (connectionId : ConnectionId) (attachmentId : AttachmentId) :
    Changes p m (m.startup script cwd connectionId attachmentId).2 := by
  have hl := m.list_changes (p := p) script (.project cwd)
  unfold startup
  generalize m.list script (.project cwd) = r at hl
  obtain ⟨error | summaries, m₁⟩ := r
  · exact hl
  simp only at hl ⊢
  split
  · exact hl
  · rename_i h handles _
    have ha := m₁.attach_changes (p := p) h (script.call .attach) connectionId attachmentId
    generalize m₁.attach h (script.call .attach) connectionId attachmentId = r at ha
    obtain ⟨error | session, m₂⟩ := r <;> exact hl.trans ha

theorem rename_changes (m : SessionManager) (script : Script) (sessionId : SessionId)
    (title : SessionTitle) : Changes p m (m.rename script sessionId title).2 := by
  unfold rename
  cases m.actors.lookup sessionId with
  | some h =>
    have ha : Changes p m (m.askUnit h (script.call .rename) (.rename title)).2 :=
      m.askUnit_changes h _ nofun
    simp only
    generalize m.askUnit h (script.call .rename) (.rename title) = r at ha
    obtain ⟨error | _, m₁⟩ := r <;> exact ha
  | none =>
    have hc : Changes p m
        (m.call (script.call .rename) fun fault store => store.rename fault sessionId title).2 :=
      m.call_changes _ fun fault store => ⟨sessionId, store.frame_rename sessionId title fault⟩
    simp only
    generalize m.call (script.call .rename)
      (fun fault store => store.rename fault sessionId title) = r at hc
    obtain ⟨error | record, m₁⟩ := r <;> exact hc

theorem detach_changes (m : SessionManager) (script : Script) (sessionId : SessionId)
    (connectionId : ConnectionId) (attachmentId : AttachmentId) :
    Changes p m (m.detach script sessionId connectionId attachmentId).2 := by
  unfold detach
  cases m.actors.lookup sessionId with
  | none => exact .refl
  | some h =>
    have ha : Changes p m
        (m.askCount h (script.call .detach) (.detach connectionId attachmentId)).2 := by
      rw [askCount_snd]
      exact m.send_changes h _ _ nofun
    simp only
    generalize m.askCount h (script.call .detach) (.detach connectionId attachmentId) = r at ha
    obtain ⟨error | count, m₁⟩ := r <;> exact ha

/-- A loop over the actors that leaves the registry alone. -/
theorem visit_changes (each : SessionId → Await) {c : SessionCommand} (hc : c ≠ .shutdown)
    (ids : List SessionId) (m : SessionManager) :
    Changes p m (visit each c (fun _ m => m) ids m).2 := by
  induction ids generalizing m with
  | nil => exact .refl
  | cons id ids ih =>
    unfold visit
    cases m.actors.lookup id with
    | none => exact ih m
    | some h =>
      have ha : Changes p m (m.askUnit h (each id) c).2 :=
        m.askUnit_changes h _ fun he => absurd he hc
      simp only
      generalize m.askUnit h (each id) c = r at ha
      obtain ⟨error | _, m₁⟩ := r <;> exact ha.trans (ih m₁)

theorem routeTitleCompletion_changes (m : SessionManager) (w : Await) (request : TitleRequest)
    (generated : Except TitleGenerationError String) :
    Changes p m (m.routeTitleCompletion w request generated) := by
  unfold routeTitleCompletion
  cases m.actors.lookup request.sessionId with
  | none => exact .refl
  | some h => exact m.askUnit_changes h w nofun

theorem completeTitleTask_changes (m : SessionManager) (ended : TitleEnd) :
    Changes p m (m.completeTitleTask ended) := by
  unfold completeTitleTask
  simp only
  split
  · exact .refl
  · have hb : Change p m
        { m with
          activity := m.activity.finishTitleTask
          titleTasks := m.titleTasks.eraseIdx (ended.index % m.titleTasks.length) } :=
      .booked _ m.stopped (fun _ => Iff.rfl) m.activity.continues_finishTitleTask
    split
    · exact hb.changes
    · exact hb.changes.trans (routeTitleCompletion_changes _ _ _ _)

theorem drainTitleTasks_changes (titles : ℕ → TitleEnd) (n : ℕ) (m : SessionManager) :
    Changes p m (drainTitleTasks titles n m) := by
  induction n generalizing m with
  | zero => exact .refl
  | succ n ih => exact (completeTitleTask_changes m _).trans (ih _)

/-- A deletion in the repository fails and changes nothing, or removes the row. -/
theorem call_delete_cases (m : SessionManager) (w : Await) (id : SessionId) :
    let m₁ := Run.run background m w.early
    (∃ error, m.call w (fun fault store => store.delete fault id) = (.error error, m₁)) ∨
      m.call w (fun fault store => store.delete fault id) =
        (.ok (), { m₁ with store := { m₁.store with rows := m₁.store.rows.erase id } }) := by
  intro m₁
  unfold call
  simp only
  cases hd : (Run.run background m w.early).store.delete w.env.fault id with
  | mk result next =>
    cases result with
    | error error =>
      obtain rfl := SessionStore.attempt_eq_error hd
      exact .inl ⟨error, rfl⟩
    | ok u =>
      obtain rfl := SessionStore.delete_eq_ok hd
      exact .inr rfl

/-- A checkpoint fails and changes nothing, or replaces the row. -/
theorem call_checkpoint_cases (m : SessionManager) (w : Await) (record : SessionRecord) :
    let m₁ := Run.run background m w.early
    (∃ error, m.call w (fun fault store => store.checkpoint fault record) = (.error error, m₁)) ∨
      ∃ row, m₁.store.rows.lookup record.id = some row ∧
        m.call w (fun fault store => store.checkpoint fault record) =
          (.ok (),
            { m₁ with
              store := m₁.store.setRow record.id
                { record with cwd := row.cwd, createdAt := row.createdAt } }) := by
  intro m₁
  unfold call
  simp only
  rcases (Run.run background m w.early).store.checkpoint_cases w.env.fault record with
    ⟨error, hc⟩ | ⟨row, hl, hc⟩
  · exact .inl ⟨error, by rw [hc]⟩
  · exact .inr ⟨row, hl, by rw [hc]⟩

theorem callDelete_changes (m : SessionManager) (w : Await) (id : SessionId) :
    Changes p m (m.call w fun fault store => store.delete fault id).2 := by
  refine (background_changes m w.early).trans ?_
  rcases m.call_delete_cases w id with ⟨error, h⟩ | h
  · rw [h]
  · rw [h]
    exact (Change.deleted id).changes

theorem persistFailedMaterialization_changes (m : SessionManager) (script : Script)
    (record : SessionRecord) (prompt : String) (runId : ℕ) (failure : RunFailureSnapshot) :
    Changes p m
      (m.persistFailedMaterialization script record prompt runId failure).2 := by
  have hc : Changes p m
      (m.call (script.call .checkpoint) fun fault store =>
        store.checkpoint fault (failedMaterialization record prompt runId failure)).2 :=
    m.call_changes _ fun fault store => ⟨_, store.frame_checkpoint fault _⟩
  unfold persistFailedMaterialization
  simp only
  generalize m.call (script.call .checkpoint) (fun fault store =>
    store.checkpoint fault (failedMaterialization record prompt runId failure)) = r at hc
  obtain ⟨error | _, m₁⟩ := r
  · exact hc.trans (callDelete_changes m₁ _ _)
  · exact hc

/-! ### Starting actors -/

/-- **A new actor is started and registered:** for a session that was just loaded
and has none, or for a first prompt, whose row is created. -/
inductive Start (m : SessionManager) : SessionManager → Prop where
  | loaded {id : SessionId} {record : SessionRecord} {catalog : ModelCatalogState}
    (hl : m.actors.lookup id = none) (hrow : m.store.rows.lookup id = some record)
    (hturns : ∀ turn ∈ record.turns, turn.status ≠ .running) :
    Start m (m.register id (.spawn m.store record (.fromRecord record catalog) m.activity))
  | materialized {request : MaterializeSession} {catalog : ModelCatalogState} {s : Session}
    (hs : Session.spawnMaterialized (m.withRow request).store
      (SessionStore.materializedRecord request m.nextSession)
      (.fromRecord (SessionStore.materializedRecord request m.nextSession) catalog) request.prompt
      m.activity = .ok s) :
    Start m ((m.withRow request).register m.nextSession s)

/-- A command that starts at most one actor. -/
inductive Begins (p : Await → Prop) (m : SessionManager) : SessionManager → Prop where
  | none {m' : SessionManager} (h : Changes p m m') : Begins p m m'
  | one {m₁ m₂ m' : SessionManager} (h : Changes p m m₁) (hs : Start m₁ m₂)
    (h' : Changes p m₂ m') : Begins p m m'

/-- A load that succeeds: its record is the row, and no turn of it runs. -/
theorem call_load_eq_ok {w : Await} {id : SessionId} {record : SessionRecord}
    (h : m.call w (fun fault store => store.load fault id) = (.ok record, m')) :
    m'.store.rows.lookup id = some record ∧ ∀ turn ∈ record.turns, turn.status ≠ .running := by
  unfold call at h
  simp only [Prod.mk.injEq] at h
  obtain ⟨hr, rfl⟩ := h
  have hl := SessionStore.load_eq_ok (Prod.ext hr rfl)
  exact ⟨hl.1, hl.2.1⟩

theorem callLoad_changes (m : SessionManager) (w : Await) (id : SessionId) :
    Changes p m (m.call w fun fault store => store.load fault id).2 :=
  m.call_changes w fun fault store => ⟨id, store.frame_load id fault⟩

theorem openSession_begins (m : SessionManager) (script : Script) (selector : SessionSelector)
    (cwd : List UInt8) (connectionId : ConnectionId) (attachmentId : AttachmentId) :
    Begins p m (m.openSession script selector cwd connectionId attachmentId).2 := by
  have hr := m.resolveId_changes (p := p) script selector cwd
  unfold openSession
  generalize m.resolveId script selector cwd = r at hr
  obtain ⟨error | id, m₁⟩ := r
  · exact .none hr
  simp only at hr ⊢
  cases hlook : m₁.actors.lookup id with
  | some h => exact .none (hr.trans (m₁.attach_changes h _ _ _))
  | none =>
    have hl := hr.trans (m₁.callLoad_changes (p := p) (script.call .load) id)
    simp only
    cases hload : m₁.call (script.call .load) fun fault store => store.load fault id with
    | mk result m₂ =>
      rw [hload] at hl
      cases result with
      | error error => exact .none hl
      | ok record =>
        obtain ⟨hrow, hturns⟩ := call_load_eq_ok hload
        cases script.factory.create with
        | error failure => exact .none hl
        | ok u =>
          have hc := m₁.callLoad_changes (p := p) (script.call .load) id
          rw [hload] at hc
          have hnone : m₂.actors.lookup id = none := by rw [hc.follows.1, hlook]
          exact .one hl (.loaded hnone hrow hturns) (attach_changes _ _ _ _ _)

/-- A materialization that fails changes nothing by itself; one that succeeds
creates the row of the next identifier. -/
theorem call_materialize_cases (m : SessionManager) (w : Await) (request : MaterializeSession) :
    let m₁ := Run.run background m w.early
    (∃ error, m.call w (fun fault store => store.materialize fault request) = (.error error, m₁)) ∨
      m.call w (fun fault store => store.materialize fault request) =
        (.ok (SessionStore.materializedRecord request m₁.nextSession), m₁.withRow request) := by
  intro m₁
  unfold call
  simp only
  cases hr : (Run.run background m w.early).store.materialize w.env.fault request with
  | mk result next =>
    cases result with
    | error error =>
      obtain rfl := SessionStore.attempt_eq_error hr
      exact .inl ⟨error, rfl⟩
    | ok record =>
      obtain ⟨rfl, rfl⟩ := SessionStore.materialize_eq_ok hr
      exact .inr rfl

theorem dispatchTitleTask_changes (m : SessionManager) (request : TitleRequest) :
    Changes p m (m.dispatchTitleTask request) :=
  have hb : Change p m (m.dispatchTitleTask request) :=
    .booked _ m.stopped (fun _ => Iff.rfl) m.activity.continues_beginTitleTask
  hb.changes

theorem materialize_begins (m : SessionManager) (script : Script) (request : MaterializeSession)
    (reasoning : ReasoningLevel) (connectionId : ConnectionId) (attachmentId : AttachmentId) :
    Begins p m (m.materialize script request reasoning connectionId attachmentId).2 := by
  have hb := m.background_changes (p := p) (script.call .materialize).early
  unfold materialize
  rcases m.call_materialize_cases (script.call .materialize) request with ⟨error, h⟩ | h
  · rw [h]
    exact .none hb
  rw [h]
  simp only
  generalize Run.run background m (script.call .materialize).early = m₁ at hb
  have hrow := hb.trans (Change.inserted request).changes
  have hfailed (failure : RunFailureSnapshot) := hrow.trans
    ((m₁.withRow request).persistFailedMaterialization_changes script
      (SessionStore.materializedRecord request m₁.nextSession) request.prompt request.runId failure)
  cases script.factory.create with
  | error failure =>
    have hf := hfailed (startupFailure failure.message failure.retryable)
    simp only
    generalize (m₁.withRow request).persistFailedMaterialization script _ request.prompt
      request.runId _ = r at hf
    obtain ⟨error | _, m₃⟩ := r <;> exact .none hf
  | ok u =>
    simp only
    cases hs : Session.spawnMaterialized (m₁.withRow request).store
        (SessionStore.materializedRecord request m₁.nextSession)
        (.fromRecord (SessionStore.materializedRecord request m₁.nextSession)
          script.factory.catalog) request.prompt (m₁.withRow request).activity with
    | error error =>
      have hf := hfailed (startupFailure error.message false)
      simp only
      generalize (m₁.withRow request).persistFailedMaterialization script _ request.prompt
        request.runId _ = r at hf
      obtain ⟨error | _, m₃⟩ := r <;> exact .none hf
    | ok s =>
      have ha := attach_changes (p := p) ((m₁.withRow request).register m₁.nextSession s)
        (m₁.withRow request).tasks.length (script.call .attach) connectionId attachmentId
      simp only [SessionStore.materializedRecord_id]
      generalize ((m₁.withRow request).register m₁.nextSession s).attach
        (m₁.withRow request).tasks.length (script.call .attach) connectionId attachmentId = r at ha
      obtain ⟨error | session, m₃⟩ := r
      · exact .one hb (.materialized hs) ha
      · exact .one hb (.materialized hs) (ha.trans (m₃.dispatchTitleTask_changes _))

theorem materializeAndSubmit_begins (m : SessionManager) (script : Script) (cwd : List UInt8)
    (prompt : String) (settings : SessionSettings) (connectionId : ConnectionId)
    (attachmentId : AttachmentId) :
    Begins p m
      (m.materializeAndSubmit script cwd prompt settings connectionId attachmentId).2 := by
  unfold materializeAndSubmit
  split_ifs
  · exact .none .refl
  split
  · exact .none .refl
  split
  · exact m.materialize_begins script _ _ connectionId attachmentId
  · have hb : Change p m { m with stopped := true } :=
      .booked m.titleTasks true (fun _ => Iff.rfl) (.refl _)
    exact .none hb.changes

end SessionManager
end Moh
