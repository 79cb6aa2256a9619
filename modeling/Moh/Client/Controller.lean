/-
# The workspace controller and its update call

`client/workspace.rs`: `WorkspaceController` owns at most one attached session and
what is presented of it.  `next_update` is an asynchronous function that the event
loop of `client/app.rs` starts anew in every turn and drops when its timer is first:
its `Location` says at which await point a call stands.  A session update is taken
from the session before the answer of the backend to the fallback startup is awaited,
so a call that is dropped there takes the deletion with it
(`kept_iff_awaitsFallback`).
-/

import Moh.Client.Workspace

namespace Moh
namespace Client

/-! ### The controller -/

/-- `WorkspaceSession`: what the controller reads of a session synchronously. -/
class WorkspaceSession (S : Type) where
  /-- The snapshot the session was opened with, or the one that replaced it. -/
  snapshot : S → SessionSnapshot

instance : WorkspaceSession Rpc.RpcSessionClient := ⟨Rpc.RpcSessionClient.snapshot⟩

/-- `WorkspaceStartup`. -/
inductive WorkspaceStartup (S : Type) where
  | draft (state : DraftState)
  | attached (session : S)

/-- A controller update that distinguishes ordinary session events from deletion fallback. -/
inductive WorkspaceUpdate where
  | session (update : Rpc.SessionUpdate)
  | deleted (sessionId : SessionId) (cwd : List UInt8)
  | warning (message : String)

/-- `WorkspaceController`, without the backend that answers it. -/
structure WorkspaceController (S : Type) where
  session : Option S
  projection : ChatProjection
  pendingWarning : Option String

section

variable {S : Type} [WorkspaceSession S]

namespace WorkspaceController

/-- `draft_for_cwd`. -/
def draftForCwd (c : WorkspaceController S) (cwd : List UInt8) : DraftState :=
  match c.projection with
  | .draft draft => { draft with cwd := cwd, settings := { draft.settings with contextTokens := 0 } }
  | .session snapshot =>
    { cwd := cwd
      settings := { snapshot.settings with contextTokens := 0 }
      catalog := snapshot.catalog }

/-- The working directory of what is presented. -/
def cwd (c : WorkspaceController S) : List UInt8 :=
  match c.projection with
  | .draft draft => draft.cwd
  | .session snapshot => snapshot.summary.cwd

/-- `draft_from_current`. -/
def draftFromCurrent (c : WorkspaceController S) : DraftState :=
  c.draftForCwd c.cwd

/-- `install_session`; the replaced session is the one of `c`. -/
def installSession (c : WorkspaceController S) (session : S) : WorkspaceController S :=
  { c with session := some session, projection := .session (WorkspaceSession.snapshot session) }

/-- `install_startup`. -/
def installStartup (c : WorkspaceController S) : WorkspaceStartup S → WorkspaceController S
  | .draft draft => { c with session := none, projection := .draft draft }
  | .attached session => c.installSession session

/-- `retain_warning`: the first warning stays. -/
def retainWarning (c : WorkspaceController S) (error : ClientSessionError) :
    WorkspaceController S :=
  if c.pendingWarning.isNone then { c with pendingWarning := some error.message } else c

/-- `startup_fallback`, up to its await. -/
def beginFallback (c : WorkspaceController S) (cwd : List UInt8) : WorkspaceController S :=
  { c with session := none, projection := .draft (c.draftForCwd cwd) }

/-- `startup_fallback`, from the answer of the backend on. -/
def finishFallback (c : WorkspaceController S) :
    Except ClientSessionError (WorkspaceStartup S) → WorkspaceController S
  | .ok startup => c.installStartup startup
  | .error error => c.retainWarning error

/-- The end of a detachment: a failure becomes a warning, when a session was attached. -/
def detachOld (c : WorkspaceController S) (old : Option S)
    (detached : Except ClientSessionError Unit) : WorkspaceController S :=
  match old, detached with
  | some _, .error error => c.retainWarning error
  | _, _ => c

/-! ### The commands

Each command is awaited to its end before the next turn of the loop.  The answers of
the session and of the backend are arguments. -/

/-- What `attached` reports where there is no session. -/
def notDurable : ClientSessionError := { message := "the current chat is not durable" }

/-- `submit`. -/
def submit (c : WorkspaceController S) (submitted : Except ClientSessionError ℕ)
    (materialized : Except ClientSessionError (S × ℕ)) :
    Except ClientSessionError ℕ × WorkspaceController S :=
  match c.projection with
  | .session _ => if c.session.isNone then (.error notDurable, c) else (submitted, c)
  | .draft _ =>
    match materialized with
    | .error error => (.error error, c)
    | .ok (session, runId) => (.ok runId, c.installSession session)

/-- `select_model`; a draft whose model has no reasoning effort keeps the model it was
given. -/
def selectModel (c : WorkspaceController S) (model : String)
    (selected : Except ClientSessionError Unit) :
    Except ClientSessionError Unit × WorkspaceController S :=
  match c.projection with
  | .session _ => if c.session.isNone then (.error notDurable, c) else (selected, c)
  | .draft draft =>
    match draft.catalog with
    | .ready models =>
      match models.find? fun candidate => candidate.id == model with
      | none => (.error { message := "model is not available" }, c)
      | some candidate =>
        let settings := { draft.settings with model := model }
        let efforts := candidate.reasoningEfforts
        if efforts.contains settings.reasoning then
          (.ok (), { c with
            projection := .draft { draft with settings := { settings with contextTokens := 0 } } })
        else
          match candidate.defaultReasoning <|> efforts.head? with
          | none =>
            (.error { message := "model has no supported reasoning effort" },
              { c with projection := .draft { draft with settings := settings } })
          | some reasoning =>
            (.ok (), { c with
              projection := .draft { draft with
                settings := { settings with reasoning := reasoning, contextTokens := 0 } } })
    | _ => (.error { message := "model catalog is not ready" }, c)

/-- `select_reasoning`. -/
def selectReasoning (c : WorkspaceController S) (reasoning : ReasoningLevel)
    (selected : Except ClientSessionError Unit) :
    Except ClientSessionError Unit × WorkspaceController S :=
  match c.projection with
  | .session _ => if c.session.isNone then (.error notDurable, c) else (selected, c)
  | .draft draft =>
    match draft.catalog with
    | .ready models =>
      if (models.find? fun model => model.id == draft.settings.model).any
          fun model => model.reasoningEfforts.contains reasoning then
        (.ok (), { c with
          projection := .draft { draft with
            settings := { draft.settings with reasoning := reasoning, contextTokens := 0 } } })
      else
        (.error { message := "reasoning effort is not supported by the active model" }, c)
    | _ => (.error { message := "model catalog is not ready" }, c)

/-- `new_draft`. -/
def newDraft (c : WorkspaceController S) (detached : Except ClientSessionError Unit) :
    Except ClientSessionError Unit × WorkspaceController S :=
  let drafted := { c with session := none, projection := .draft c.draftFromCurrent }
  (.ok (), drafted.detachOld c.session detached)

/-- `switch_session`. -/
def switchSession (c : WorkspaceController S) (id : SessionId)
    (opened : Except ClientSessionError S) (detached : Except ClientSessionError Unit) :
    Except ClientSessionError Unit × WorkspaceController S :=
  match opened with
  | .error error => (.error error, c)
  | .ok target =>
    if (WorkspaceSession.snapshot target).summary.id ≠ id then
      (.error { message := "backend opened an unexpected session" }, c)
    else (.ok (), (c.installSession target).detachOld c.session detached)

/-- The working directory of the session `id`, where it is the one presented. -/
def currentCwd (c : WorkspaceController S) (id : SessionId) : Option (List UInt8) :=
  match c.projection with
  | .session snapshot => if snapshot.summary.id = id then some snapshot.summary.cwd else none
  | .draft _ => none

/-- `delete_session`. -/
def deleteSession (c : WorkspaceController S) (id : SessionId)
    (deleted : Except ClientSessionError Unit) (reopened : Except ClientSessionError S)
    (detached : Except ClientSessionError Unit)
    (startup : Except ClientSessionError (WorkspaceStartup S)) :
    Except ClientSessionError Unit × WorkspaceController S :=
  match deleted, c.currentCwd id with
  | .error error, none => (.error error, c)
  | .error error, some _ =>
    match reopened with
    | .error failure => (.error error, c.retainWarning failure)
    | .ok session =>
      if (WorkspaceSession.snapshot session).summary.id = id then
        (.error error, (c.installSession session).detachOld c.session detached)
      else
        (.error error, c.retainWarning
          { message := "backend reopened an unexpected session after deletion failed" })
  | .ok (), none => (.ok (), c)
  | .ok (), some cwd => (.ok (), ({ c with session := none }.beginFallback cwd).finishFallback startup)

end WorkspaceController

/-! ### One call of `next_update` -/

/-- Where `next_update` stands: it is not being called, it waits for an update of the
session, it waits for ever because there is no session, or it waits for the startup
that replaces a deleted session. -/
inductive Location where
  | idle
  | session
  | never
  | startup (sessionId : SessionId) (cwd : List UInt8)
deriving DecidableEq

/-- A command with the answers it gets. -/
inductive Command (S : Type) where
  | submit (submitted : Except ClientSessionError ℕ)
      (materialized : Except ClientSessionError (S × ℕ))
  | selectModel (model : String) (selected : Except ClientSessionError Unit)
  | selectReasoning (reasoning : ReasoningLevel) (selected : Except ClientSessionError Unit)
  | newDraft (detached : Except ClientSessionError Unit)
  | switchSession (id : SessionId) (opened : Except ClientSessionError S)
      (detached : Except ClientSessionError Unit)
  | deleteSession (id : SessionId) (deleted : Except ClientSessionError Unit)
      (reopened : Except ClientSessionError S) (detached : Except ClientSessionError Unit)
      (startup : Except ClientSessionError (WorkspaceStartup S))

/-- The controller after a command. -/
def WorkspaceController.execute (c : WorkspaceController S) : Command S → WorkspaceController S
  | .submit submitted materialized => (c.submit submitted materialized).2
  | .selectModel model selected => (c.selectModel model selected).2
  | .selectReasoning reasoning selected => (c.selectReasoning reasoning selected).2
  | .newDraft detached => (c.newDraft detached).2
  | .switchSession id opened detached => (c.switchSession id opened detached).2
  | .deleteSession id deleted reopened detached startup =>
    (c.deleteSession id deleted reopened detached startup).2

/-- One thing that happens: `next_update` is called, a poll finds the session pending,
the session or the backend answers, the call is dropped by the `select!` of the event
loop, or a command is executed between two calls. -/
inductive Input (S : Type) where
  | call
  | sessionPending (session : S)
  | sessionAnswers (session : S) (result : Except ClientSessionError Rpc.SessionUpdate)
  | startupAnswers (result : Except ClientSessionError (WorkspaceStartup S))
  | drop
  | command (command : Command S)

/-- The controller, the call in flight, the deletions taken from a session and the
results returned so far, oldest first. -/
structure Machine (S : Type) where
  controller : WorkspaceController S
  location : Location
  consumed : List (SessionId × List UInt8)
  results : List (Except ClientSessionError WorkspaceUpdate)

namespace Machine

/-- A controller of which no update was asked yet. -/
def start (c : WorkspaceController S) : Machine S := ⟨c, .idle, [], []⟩

/-- The call returns. -/
def return_ (m : Machine S) (c : WorkspaceController S)
    (result : Except ClientSessionError WorkspaceUpdate) : Machine S :=
  { m with controller := c, location := .idle, results := m.results ++ [result] }

/-- `next_update`, up to its first await. -/
def call (m : Machine S) : Machine S :=
  match m.controller.pendingWarning with
  | some warning => m.return_ { m.controller with pendingWarning := none } (.ok (.warning warning))
  | none => { m with location := if m.controller.session.isSome then .session else .never }

/-- `next_update`, from the answer of the session to the next await. -/
def receive (m : Machine S) (session : S) (result : Except ClientSessionError Rpc.SessionUpdate) :
    Machine S :=
  let c := { m.controller with session := some session }
  match result with
  | .error error => m.return_ c (.error error)
  | .ok (.warning warning) => m.return_ c (.ok (.warning warning))
  | .ok (.deleted sessionId cwd) =>
    -- The session is dropped and the draft presented before the startup is awaited.
    { m with
      controller := { c with session := none }.beginFallback cwd
      location := .startup sessionId cwd
      consumed := m.consumed ++ [(sessionId, cwd)] }
  | .ok update =>
    match applyProjectionUpdate c.projection update with
    | (.error error, projection) => m.return_ { c with projection := projection } (.error error)
    | (.ok (), projection) => m.return_ { c with projection := projection } (.ok (.session update))

/-- One step; an input that does not fit the location changes nothing. -/
def step (m : Machine S) : Input S → Machine S
  | .call => if m.location = .idle then m.call else m
  | .sessionPending session =>
    if m.location = .session then
      { m with controller := { m.controller with session := some session } }
    else m
  | .sessionAnswers session result => if m.location = .session then m.receive session result else m
  | .startupAnswers result =>
    match m.location with
    | .startup sessionId cwd =>
      m.return_ (m.controller.finishFallback result) (.ok (.deleted sessionId cwd))
    | _ => m
  | .drop => { m with location := .idle }
  | .command command =>
    if m.location = .idle then { m with controller := m.controller.execute command } else m

/-! ### What becomes of a deletion -/

/-- The deletion a result reports. -/
def reportedDeletion : Except ClientSessionError WorkspaceUpdate → Option (SessionId × List UInt8)
  | .ok (.deleted sessionId cwd) => some (sessionId, cwd)
  | _ => none

/-- The deletions returned so far. -/
def returnedDeletions (m : Machine S) : List (SessionId × List UInt8) :=
  m.results.filterMap reportedDeletion

/-- The deletion that the call in flight will return. -/
def inFlight (m : Machine S) : List (SessionId × List UInt8) :=
  match m.location with
  | .startup sessionId cwd => [(sessionId, cwd)]
  | _ => []

/-- The fallback startup for `cwd` is installed in `c`: what the backend answered, or a
draft in the directory together with a warning where it failed. -/
def FallbackInstalled (cwd : List UInt8) (c : WorkspaceController S) :
    Except ClientSessionError (WorkspaceStartup S) → Prop
  | .ok (.draft draft) => c.session = none ∧ c.projection = .draft draft
  | .ok (.attached session) =>
    c.session = some session ∧ c.projection = .session (WorkspaceSession.snapshot session)
  | .error _ =>
    c.session = none ∧ (∃ draft, c.projection = .draft draft ∧ draft.cwd = cwd) ∧
      c.pendingWarning.isSome

/-- No deletion is lost: those taken from a session are those returned and, at most, one
more, for which a call waits that returns it, the fallback installed, whatever the backend
answers. -/
structure Kept (m : Machine S) : Prop where
  accounted : m.consumed = m.returnedDeletions ++ m.inFlight
  returns : ∀ deletion ∈ m.inFlight, ∀ answer,
    (m.step (.startupAnswers answer)).results =
        m.results ++ [.ok (.deleted deletion.1 deletion.2)] ∧
      FallbackInstalled deletion.2 (m.step (.startupAnswers answer)).controller answer

/-- The step does not drop a call that waits for the startup behind a deletion. -/
def AwaitsFallback (m : Machine S) : Input S → Prop
  | .drop => m.inFlight = []
  | _ => True

/-- What holds between two steps: the deletions are accounted for, and while one is in
flight a draft in its directory is presented. -/
structure Sound (m : Machine S) : Prop where
  accounted : m.consumed = m.returnedDeletions ++ m.inFlight
  drafted : ∀ deletion ∈ m.inFlight, m.controller.session = none ∧
    ∃ draft, m.controller.projection = .draft draft ∧ draft.cwd = deletion.2

variable {m : Machine S}

omit [WorkspaceSession S] in
/-- Away from the await of a fallback, what was taken was returned. -/
theorem sound_of_inFlight_eq_nil (h : m.consumed = m.returnedDeletions) (hnone : m.inFlight = []) :
    m.Sound :=
  ⟨by rw [h, hnone, List.append_nil], fun deletion hd => by rw [hnone] at hd; cases hd⟩

omit [WorkspaceSession S] in
theorem Sound.consumed_eq (h : m.Sound) (hnone : m.inFlight = []) :
    m.consumed = m.returnedDeletions := by
  rw [h.accounted, hnone, List.append_nil]

omit [WorkspaceSession S] in
/-- A call that returns anything but a deletion. -/
theorem Sound.return_ (h : m.Sound) (hnone : m.inFlight = []) (c : WorkspaceController S)
    {result : Except ClientSessionError WorkspaceUpdate} (hr : reportedDeletion result = none) :
    (m.return_ c result).Sound := by
  refine sound_of_inFlight_eq_nil ?_ rfl
  show m.consumed = (m.results ++ [result]).filterMap reportedDeletion
  rw [List.filterMap_append, List.filterMap_cons, hr]
  exact (h.consumed_eq hnone).trans (List.append_nil _).symm

omit [WorkspaceSession S] in
theorem sound_call (h : m.Sound) (hidle : m.location = .idle) : m.call.Sound := by
  have hnone : m.inFlight = [] := by rw [inFlight, hidle]
  unfold call
  split
  · exact h.return_ hnone _ rfl
  · refine sound_of_inFlight_eq_nil (h.consumed_eq hnone) ?_
    show inFlight { m with location := if m.controller.session.isSome then .session else .never } = []
    by_cases hsession : m.controller.session.isSome = true
    · rw [if_pos hsession]
      rfl
    · rw [if_neg hsession]
      rfl

omit [WorkspaceSession S] in
/-- The answer of the session: a deletion is in flight from here on. -/
theorem sound_receive (h : m.Sound) (hsession : m.location = .session) (session : S)
    (result : Except ClientSessionError Rpc.SessionUpdate) : (m.receive session result).Sound := by
  have hnone : m.inFlight = [] := by rw [inFlight, hsession]
  match result with
  | .error error => exact h.return_ hnone _ rfl
  | .ok (.warning warning) => exact h.return_ hnone _ rfl
  | .ok (.deleted sessionId cwd) =>
    refine ⟨congrArg (· ++ [(sessionId, cwd)]) (h.consumed_eq hnone), fun deletion hd => ?_⟩
    obtain rfl : deletion = (sessionId, cwd) := List.mem_singleton.1 hd
    refine ⟨rfl, _, rfl, ?_⟩
    show (WorkspaceController.draftForCwd _ cwd).cwd = cwd
    unfold WorkspaceController.draftForCwd
    split <;> rfl
  | .ok (.event envelope) =>
    dsimp only [receive]
    split
    · exact h.return_ hnone _ rfl
    · exact h.return_ hnone _ rfl
  | .ok (.snapshotReplaced snapshot) =>
    dsimp only [receive]
    split
    · exact h.return_ hnone _ rfl
    · exact h.return_ hnone _ rfl

/-- Behind the fallback of a deletion its startup is installed. -/
theorem fallbackInstalled_finishFallback {cwd : List UInt8} {c : WorkspaceController S}
    (hsession : c.session = none) {draft : DraftState} (hdraft : c.projection = .draft draft)
    (hcwd : draft.cwd = cwd) (answer : Except ClientSessionError (WorkspaceStartup S)) :
    FallbackInstalled cwd (c.finishFallback answer) answer := by
  match answer with
  | .ok (.draft draft) => exact ⟨rfl, rfl⟩
  | .ok (.attached session) => exact ⟨rfl, rfl⟩
  | .error error =>
    show _ ∧ _ ∧ (c.retainWarning error).pendingWarning.isSome = true
    unfold WorkspaceController.finishFallback WorkspaceController.retainWarning
    cases hwarning : c.pendingWarning with
    | none => exact ⟨hsession, ⟨draft, hdraft, hcwd⟩, rfl⟩
    | some warning => exact ⟨hsession, ⟨draft, hdraft, hcwd⟩, by simp [hwarning]⟩

theorem Sound.kept (h : m.Sound) : m.Kept := by
  refine ⟨h.accounted, fun deletion hd answer => ?_⟩
  obtain ⟨hsession, draft, hdraft, hcwd⟩ := h.drafted deletion hd
  cases hlocation : m.location with
  | startup sessionId cwd =>
    rw [inFlight, hlocation] at hd
    obtain rfl : deletion = (sessionId, cwd) := List.mem_singleton.1 hd
    rw [step, hlocation]
    exact ⟨rfl, fallbackInstalled_finishFallback hsession hdraft hcwd answer⟩
  | _ => rw [inFlight, hlocation] at hd; cases hd

/-- One step that does not drop a deletion. -/
theorem sound_step (m : Machine S) (input : Input S) (h : m.Sound) (hawaits : m.AwaitsFallback input) :
    (m.step input).Sound := by
  cases input with
  | call =>
    rw [step]
    split_ifs with hidle
    · exact sound_call h hidle
    · exact h
  | sessionPending session =>
    rw [step]
    split_ifs with hsession
    · have hnone : m.inFlight = [] := by rw [inFlight, hsession]
      exact sound_of_inFlight_eq_nil (h.consumed_eq hnone) hnone
    · exact h
  | sessionAnswers session result =>
    rw [step]
    split_ifs with hsession
    · exact sound_receive h hsession session result
    · exact h
  | startupAnswers result =>
    rw [step]
    split
    next sessionId cwd hlocation =>
      refine sound_of_inFlight_eq_nil ?_ rfl
      show m.consumed = (m.results ++ [_]).filterMap reportedDeletion
      rw [List.filterMap_append, h.accounted, inFlight, hlocation]
      rfl
    next => exact h
  | drop => exact sound_of_inFlight_eq_nil (h.consumed_eq hawaits) rfl
  | command command =>
    rw [step]
    split_ifs with hidle
    · have hnone : m.inFlight = [] := by rw [inFlight, hidle]
      exact sound_of_inFlight_eq_nil (h.consumed_eq hnone) hnone
    · exact h

/-- A call that is dropped behind a deletion takes it along. -/
theorem not_kept_of_not_awaitsFallback (m : Machine S) (input : Input S) (h : m.Sound)
    (hawaits : ¬m.AwaitsFallback input) : ¬(m.step input).Kept := by
  intro hkept
  cases input with
  | drop =>
    have hlost : m.consumed = m.returnedDeletions ++ [] := hkept.accounted
    rw [h.accounted] at hlost
    exact hawaits (List.append_cancel_left hlost)
  | _ => exact hawaits trivial

/-- **A remote deletion reaches the caller exactly if no call is dropped behind it.**
From any controller, all along a sequence of calls, answers, drops and commands, every
deletion taken from a session is returned, or awaited by a call that returns it with the
fallback startup installed, if and only if no step drops `next_update` at its second
await. -/
theorem kept_iff_awaitsFallback (c : WorkspaceController S) (inputs : List (Input S)) :
    (∀ pre, pre <+: inputs → (Run.run step (start c) pre).Kept) ↔
      Run.Guarded step AwaitsFallback (start c) inputs :=
  Run.forall_prefix_iff_guarded (I := Sound) (fun _ h => h.kept) sound_step
    not_kept_of_not_awaitsFallback (sound_of_inFlight_eq_nil rfl rfl)

end Machine

end

/-- A client of an empty session, and the controller attached to it. -/
def attachedSession : Rpc.RpcSessionClient :=
  .new 1 ⟨false, false, false⟩ (emptyProjection.snapshot []) ⟨1, [], true⟩

@[inherit_doc attachedSession]
def attachedController : WorkspaceController Rpc.RpcSessionClient where
  session := some attachedSession
  projection := .session attachedSession.snapshot
  pendingWarning := none

/-- **The frame timer loses a deletion.**  The session reports that it was deleted, the
timer is first while the startup is awaited, and the next call waits as a draft without a
session: the deletion was never returned. -/
theorem deletion_lost_by_timer :
    (∃ m, Run.run Machine.step (Machine.start attachedController)
          [.call, .sessionAnswers attachedSession (.ok (.deleted ⟨1⟩ [])), .drop, .call] = m ∧
        m.consumed = [(⟨1⟩, [])] ∧ m.returnedDeletions = [] ∧ m.controller.session = none ∧
        m.location = .never) ∧
      ¬∀ inputs, (Run.run Machine.step (Machine.start attachedController) inputs).Kept := by
  refine ⟨⟨_, rfl, rfl, rfl, rfl, rfl⟩, fun hall => ?_⟩
  have haccounted := (hall
    [.call, .sessionAnswers attachedSession (.ok (.deleted ⟨1⟩ [])), .drop, .call]).accounted
  cases haccounted

end Client
end Moh
