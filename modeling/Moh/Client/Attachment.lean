/-
# What is presented is what is attached

`client/workspace.rs`: the controller keeps the attached session and what it presents in
two fields, which a launch, every command and every update of the session move together.
A session is presented exactly while one is attached, and it is that one (`Matched`), all
along a run of the controller, its calls of `next_update` and its commands
(`matched_of_run`); what fails to be opened, attached or materialized changes neither of
the two (`KeepsOnFailure`).

What a session client reports of itself is an assumption (`Own`): its snapshots, and the
snapshots among its updates, carry its own identifier.
-/

import Moh.Client.Controller

namespace Moh
namespace Client

variable {S : Type} [WorkspaceSession S]

/-- The session that a client is attached to. -/
def sessionId (session : S) : SessionId := (WorkspaceSession.snapshot session).summary.id

/-! ### The rest of the controller -/

/-- `LaunchMode`. -/
inductive LaunchMode where
  | startup
  | newDraft
  | session (selector : SessionSelector)

/-- The loop of a launch: it asks again while the backend is starting.  There is no
result yet when every answer said so. -/
def awaitReady {α : Type} :
    List (Except ClientSessionError α) → Option (Except ClientSessionError α)
  | [] => none
  | .error error :: answers =>
    if error.backendStarting then awaitReady answers else some (.error error)
  | .ok a :: _ => some (.ok a)

namespace WorkspaceController

/-- `from_session`. -/
def fromSession (session : S) : WorkspaceController S where
  session := some session
  projection := .session (WorkspaceSession.snapshot session)
  pendingWarning := none

/-- A draft without a session. -/
def fromDraft (draft : DraftState) : WorkspaceController S where
  session := none
  projection := .draft draft
  pendingWarning := none

/-- `from_startup`. -/
def fromStartup : WorkspaceStartup S → WorkspaceController S
  | .draft draft => fromDraft draft
  | .attached session => fromSession session

/-- `launch`, with the answers of the backend to each request of it. -/
def launch (drafts : List (Except ClientSessionError DraftState))
    (startups : List (Except ClientSessionError (WorkspaceStartup S)))
    (sessions : List (Except ClientSessionError S)) :
    LaunchMode → Option (Except ClientSessionError (WorkspaceController S))
  | .newDraft => (awaitReady drafts).map fun result => result.map fromDraft
  | .startup => (awaitReady startups).map fun result => result.map fromStartup
  | .session _ => (awaitReady sessions).map fun result => result.map fromSession

/-! ### Presented and attached -/

/-- **What is presented is what is attached:** a session exactly if there is one, and
that one. -/
structure Matched (c : WorkspaceController S) : Prop where
  presented : (∃ snapshot, c.projection = .session snapshot) ↔ c.session.isSome = true
  same : ∀ snapshot session, c.projection = .session snapshot → c.session = some session →
    snapshot.summary.id = sessionId session

/-- **What fails changes neither the projection nor the attachment:** a switch, a
submission (which materializes a draft), the reopening behind a failed deletion, and the
startup that a fallback asks for. -/
structure KeepsOnFailure (c : WorkspaceController S) : Prop where
  switch : ∀ id opened detached error, (c.switchSession id opened detached).1 = .error error →
    (c.switchSession id opened detached).2 = c
  submit : ∀ submitted materialized error, (c.submit submitted materialized).1 = .error error →
    (c.submit submitted materialized).2 = c
  reopen : ∀ id error reopened detached startup,
    (∀ session, reopened = .ok session → sessionId session ≠ id) →
      (c.deleteSession id (.error error) reopened detached startup).2.projection = c.projection ∧
        (c.deleteSession id (.error error) reopened detached startup).2.session = c.session
  startup : ∀ error, (c.finishFallback (.error error)).projection = c.projection ∧
    (c.finishFallback (.error error)).session = c.session

variable {c : WorkspaceController S}

/-- Only the two fields count. -/
theorem Matched.congr (hc : c.Matched) {c' : WorkspaceController S}
    (hprojection : c'.projection = c.projection) (hsession : c'.session = c.session) :
    c'.Matched := by
  constructor
  · rw [hprojection, hsession]
    exact hc.presented
  · rw [hprojection, hsession]
    exact hc.same

theorem matched_of_draft {draft : DraftState} (hprojection : c.projection = .draft draft)
    (hsession : c.session = none) : c.Matched := by
  constructor
  · simp [hprojection, hsession]
  · simp [hprojection]

/-- A session is presented that carries the identifier of the attached one. -/
theorem matched_of_session {snapshot : SessionSnapshot} {session : S}
    (hprojection : c.projection = .session snapshot) (hsession : c.session = some session)
    (hid : snapshot.summary.id = sessionId session) : c.Matched := by
  constructor
  · simp [hprojection, hsession]
  · intro snapshot' session' hp hs
    rw [hprojection] at hp
    rw [hsession] at hs
    obtain rfl := ChatProjection.session.inj hp
    obtain rfl := Option.some.inj hs
    exact hid

theorem matched_installSession (c : WorkspaceController S) (session : S) :
    (c.installSession session).Matched :=
  matched_of_session rfl rfl rfl

theorem matched_installStartup (c : WorkspaceController S) (startup : WorkspaceStartup S) :
    (c.installStartup startup).Matched := by
  cases startup with
  | draft draft => exact matched_of_draft rfl rfl
  | attached session => exact matched_installSession c session

omit [WorkspaceSession S] in
@[simp] theorem retainWarning_projection (c : WorkspaceController S) (error : ClientSessionError) :
    (c.retainWarning error).projection = c.projection := by
  unfold retainWarning
  split_ifs <;> rfl

omit [WorkspaceSession S] in
@[simp] theorem retainWarning_session (c : WorkspaceController S) (error : ClientSessionError) :
    (c.retainWarning error).session = c.session := by
  unfold retainWarning
  split_ifs <;> rfl

theorem Matched.retainWarning (hc : c.Matched) (error : ClientSessionError) :
    (c.retainWarning error).Matched :=
  hc.congr (retainWarning_projection c error) (retainWarning_session c error)

theorem Matched.detachOld (hc : c.Matched) (old : Option S)
    (detached : Except ClientSessionError Unit) : (c.detachOld old detached).Matched := by
  unfold WorkspaceController.detachOld
  split
  · exact hc.retainWarning _
  · exact hc

theorem Matched.finishFallback (hc : c.Matched)
    (answer : Except ClientSessionError (WorkspaceStartup S)) : (c.finishFallback answer).Matched := by
  cases answer with
  | error error => exact hc.retainWarning error
  | ok startup => exact matched_installStartup c startup

/-! ### The commands -/

theorem Matched.submit (hc : c.Matched) (submitted : Except ClientSessionError ℕ)
    (materialized : Except ClientSessionError (S × ℕ)) :
    (c.submit submitted materialized).2.Matched := by
  unfold WorkspaceController.submit
  split
  · split_ifs <;> exact hc
  · split
    · exact hc
    · exact matched_installSession c _

/-- A choice of a model leaves a session to its client, and a draft a draft. -/
theorem Matched.selectModel (hc : c.Matched) (model : String)
    (selected : Except ClientSessionError Unit) : (c.selectModel model selected).2.Matched := by
  unfold WorkspaceController.selectModel
  split
  · split_ifs <;> exact hc
  · rename_i draft hdraft
    have hsession : c.session = none := by
      simpa [hdraft] using hc.presented
    split
    · split
      · exact hc
      · dsimp only
        split_ifs
        · exact matched_of_draft rfl hsession
        · split
          · exact matched_of_draft rfl hsession
          · exact matched_of_draft rfl hsession
    · exact hc

theorem Matched.selectReasoning (hc : c.Matched) (reasoning : ReasoningLevel)
    (selected : Except ClientSessionError Unit) : (c.selectReasoning reasoning selected).2.Matched := by
  unfold WorkspaceController.selectReasoning
  split
  · split_ifs <;> exact hc
  · rename_i draft hdraft
    have hsession : c.session = none := by
      simpa [hdraft] using hc.presented
    split
    · split_ifs
      · exact matched_of_draft rfl hsession
      · exact hc
    · exact hc

theorem matched_newDraft (c : WorkspaceController S) (detached : Except ClientSessionError Unit) :
    (c.newDraft detached).2.Matched :=
  Matched.detachOld (matched_of_draft rfl rfl) _ _

theorem Matched.switchSession (hc : c.Matched) (id : SessionId)
    (opened : Except ClientSessionError S) (detached : Except ClientSessionError Unit) :
    (c.switchSession id opened detached).2.Matched := by
  unfold WorkspaceController.switchSession
  split
  · exact hc
  · split_ifs
    · exact hc
    · exact (matched_installSession c _).detachOld _ _

theorem Matched.deleteSession (hc : c.Matched) (id : SessionId)
    (deleted : Except ClientSessionError Unit) (reopened : Except ClientSessionError S)
    (detached : Except ClientSessionError Unit)
    (startup : Except ClientSessionError (WorkspaceStartup S)) :
    (c.deleteSession id deleted reopened detached startup).2.Matched := by
  unfold WorkspaceController.deleteSession
  split
  · exact hc
  · split
    · exact hc.retainWarning _
    · split_ifs
      · exact (matched_installSession c _).detachOld _ _
      · exact hc.retainWarning _
  · exact hc
  · exact Matched.finishFallback (matched_of_draft rfl rfl) startup

/-- **Every command keeps presented and attached together,** whatever it is answered. -/
theorem Matched.execute (hc : c.Matched) (command : Command S) : (c.execute command).Matched := by
  cases command with
  | submit submitted materialized => exact hc.submit submitted materialized
  | selectModel model selected => exact hc.selectModel model selected
  | selectReasoning reasoning selected => exact hc.selectReasoning reasoning selected
  | newDraft detached => exact matched_newDraft c detached
  | switchSession id opened detached => exact hc.switchSession id opened detached
  | deleteSession id deleted reopened detached startup =>
    exact hc.deleteSession id deleted reopened detached startup

/-- **What fails keeps both,** in any controller. -/
theorem keepsOnFailure (c : WorkspaceController S) : c.KeepsOnFailure where
  switch := by
    intro id opened detached error he
    unfold WorkspaceController.switchSession at he ⊢
    split at he
    · rfl
    · split_ifs at he with hid
      simp only [if_pos hid]
  submit := by
    intro submitted materialized error he
    unfold WorkspaceController.submit at he ⊢
    split at he
    · split_ifs <;> rfl
    · split at he
      · rfl
      · simp at he
  reopen := by
    intro id error reopened detached startup hother
    unfold WorkspaceController.deleteSession
    cases c.currentCwd id with
    | none => exact ⟨rfl, rfl⟩
    | some cwd =>
      cases reopened with
      | error failure => exact ⟨retainWarning_projection c _, retainWarning_session c _⟩
      | ok session =>
        have hid : ¬(WorkspaceSession.snapshot session).summary.id = id := hother session rfl
        simp only [if_neg hid]
        exact ⟨retainWarning_projection c _, retainWarning_session c _⟩
  startup := fun error => ⟨retainWarning_projection c error, retainWarning_session c error⟩

/-! ### Launches -/

theorem matched_fromSession (session : S) : (fromSession session).Matched :=
  matched_of_session rfl rfl rfl

theorem matched_fromStartup (startup : WorkspaceStartup S) : (fromStartup startup).Matched := by
  cases startup with
  | draft draft => exact matched_of_draft rfl rfl
  | attached session => exact matched_fromSession session

/-- A launch that succeeds presents what it attached. -/
theorem matched_of_launch {drafts : List (Except ClientSessionError DraftState)}
    {startups : List (Except ClientSessionError (WorkspaceStartup S))}
    {sessions : List (Except ClientSessionError S)} {mode : LaunchMode}
    (hl : launch drafts startups sessions mode = some (.ok c)) : c.Matched := by
  cases mode with
  | newDraft =>
    obtain ⟨result, -, hr⟩ := Option.map_eq_some_iff.1 hl
    cases result with
    | error error => simp [Except.map] at hr
    | ok draft =>
      obtain rfl := Except.ok.inj hr
      exact matched_of_draft rfl rfl
  | startup =>
    obtain ⟨result, -, hr⟩ := Option.map_eq_some_iff.1 hl
    cases result with
    | error error => simp [Except.map] at hr
    | ok startup =>
      obtain rfl := Except.ok.inj hr
      exact matched_fromStartup startup
  | session selector =>
    obtain ⟨result, -, hr⟩ := Option.map_eq_some_iff.1 hl
    cases result with
    | error error => simp [Except.map] at hr
    | ok session =>
      obtain rfl := Except.ok.inj hr
      exact matched_fromSession session

end WorkspaceController

/-! ### Updates -/

/-- An event leaves the identifier of a snapshot. -/
theorem reduceEvent_id {projection next : SessionSnapshot} {event : SessionEvent}
    (hr : reduceEvent projection event = .ok next) : next.summary.id = projection.summary.id := by
  cases event with
  | deleted id => simp [reduceEvent] at hr
  | _ =>
    obtain rfl := Except.ok.inj hr
    rfl

/-- An update that is applied leaves a session presented, under the same identifier. -/
theorem applyProjectionUpdate_id {current : SessionSnapshot} {update : Rpc.SessionUpdate}
    (hown : ∀ snapshot, update = .snapshotReplaced snapshot →
      snapshot.summary.id = current.summary.id) :
    ∃ snapshot, (applyProjectionUpdate (.session current) update).2 = .session snapshot ∧
      snapshot.summary.id = current.summary.id := by
  cases update with
  | warning message => exact ⟨current, rfl, rfl⟩
  | deleted id cwd => exact ⟨current, rfl, rfl⟩
  | snapshotReplaced snapshot =>
    simp only [applyProjectionUpdate]
    split
    · exact ⟨current, rfl, rfl⟩
    · exact ⟨snapshot, rfl, hown snapshot rfl⟩
  | event envelope =>
    simp only [applyProjectionUpdate]
    split
    · exact ⟨current, rfl, rfl⟩
    · rename_i next hnext
      refine ⟨next, rfl, ?_⟩
      unfold applySessionEvent at hnext
      split_ifs at hnext with hseq
      · simp at hnext
      · split at hnext
        · simp at hnext
        · split at hnext
          · simp at hnext
          · rename_i reduced hreduced
            obtain ⟨-, rfl⟩ := Prod.mk.inj hnext
            have hid := reduceEvent_id hreduced
            exact hid

/-- One thing that is done with a controller: an input of its machine, or a call that
borrows the controller only (`cancel`, `list_jobs`, `cancel_job`, `rename_session` and
`list_sessions`). -/
inductive Operation (S : Type) where
  | input (input : Input S)
  | borrow

namespace Machine

/-- The machine after an operation. -/
def perform (m : Machine S) : Operation S → Machine S
  | .input input => m.step input
  | .borrow => m

/-- **What a session client says of itself is its own:** it keeps its identifier when it is
polled, and a snapshot that it reports carries it. -/
def Own (m : Machine S) : Operation S → Prop
  | .input (.sessionPending session) => ∀ attached, m.controller.session = some attached →
    sessionId session = sessionId attached
  | .input (.sessionAnswers session result) =>
    (∀ attached, m.controller.session = some attached →
      sessionId session = sessionId attached) ∧
    ∀ snapshot, result = .ok (.snapshotReplaced snapshot) →
      snapshot.summary.id = sessionId session
  | _ => True

/-- Between two steps presented and attached belong together, and a call that waits for a
session has one. -/
structure Together (m : Machine S) : Prop where
  matched : m.controller.Matched
  attached : m.location = .session → m.controller.session.isSome = true

variable {m : Machine S}

/-- The polled session is still the one that is presented. -/
theorem Together.polled (hm : m.Together) (hsession : m.location = .session) {session : S}
    (hown : ∀ attached, m.controller.session = some attached →
      sessionId session = sessionId attached) :
    ∃ snapshot, m.controller.projection = .session snapshot ∧
      snapshot.summary.id = sessionId session := by
  have hsome := hm.attached hsession
  obtain ⟨attached, ha⟩ := Option.isSome_iff_exists.1 hsome
  obtain ⟨snapshot, hp⟩ := hm.matched.presented.2 hsome
  exact ⟨snapshot, hp, (hm.matched.same snapshot attached hp ha).trans (hown attached ha).symm⟩

/-- The answer of the session. -/
theorem Together.receive (hm : m.Together) (hsession : m.location = .session) {session : S}
    {result : Except ClientSessionError Rpc.SessionUpdate}
    (hown : m.Own (.input (.sessionAnswers session result))) : (m.receive session result).Together := by
  obtain ⟨snapshot, hp, hid⟩ := hm.polled hsession hown.1
  have hkept : WorkspaceController.Matched { m.controller with session := some session } :=
    WorkspaceController.matched_of_session hp rfl hid
  have happlied (update : Rpc.SessionUpdate)
      (hreplaced : ∀ snapshot, update = .snapshotReplaced snapshot →
        snapshot.summary.id = sessionId session) :
      WorkspaceController.Matched { m.controller with
        session := some session
        projection := (applyProjectionUpdate m.controller.projection update).2 } := by
    have hsame : ∀ replaced, update = .snapshotReplaced replaced →
        replaced.summary.id = snapshot.summary.id := fun replaced hr =>
      (hreplaced replaced hr).trans hid.symm
    obtain ⟨next, hnext, hnextId⟩ := applyProjectionUpdate_id hsame
    exact WorkspaceController.matched_of_session (hp ▸ hnext) rfl (hnextId.trans hid)
  match result with
  | .error error => exact ⟨hkept, nofun⟩
  | .ok (.warning warning) => exact ⟨hkept, nofun⟩
  | .ok (.deleted sessionId cwd) =>
    exact ⟨WorkspaceController.matched_of_draft rfl rfl, nofun⟩
  | .ok (.event envelope) =>
    have ha := happlied (.event envelope) fun _ h => Rpc.SessionUpdate.noConfusion h
    dsimp only [Machine.receive]
    split <;> rename_i hu <;> rw [hu] at ha <;> exact ⟨ha, nofun⟩
  | .ok (.snapshotReplaced replaced) =>
    have ha := happlied (.snapshotReplaced replaced) fun snapshot hs =>
      hown.2 snapshot (congrArg Except.ok hs)
    dsimp only [Machine.receive]
    split <;> rename_i hu <;> rw [hu] at ha <;> exact ⟨ha, nofun⟩

/-- **Every step keeps presented and attached together.** -/
theorem Together.step (hm : m.Together) {input : Input S} (hown : m.Own (.input input)) :
    (m.step input).Together := by
  cases input with
  | call =>
    rw [Machine.step]
    split_ifs with hidle
    · unfold Machine.call
      split
      · exact ⟨hm.matched.congr rfl rfl, fun hl => by cases hl⟩
      · refine ⟨hm.matched, fun hl => ?_⟩
        by_contra hnone
        simp [hnone] at hl
    · exact hm
  | sessionPending session =>
    rw [Machine.step]
    split_ifs with hsession
    · obtain ⟨snapshot, hp, hid⟩ := hm.polled hsession hown
      exact ⟨WorkspaceController.matched_of_session hp rfl hid, fun _ => rfl⟩
    · exact hm
  | sessionAnswers session result =>
    rw [Machine.step]
    split_ifs with hsession
    · exact hm.receive hsession hown
    · exact hm
  | startupAnswers result =>
    rw [Machine.step]
    split
    · exact ⟨hm.matched.finishFallback result, fun hl => by cases hl⟩
    · exact hm
  | drop => exact ⟨hm.matched, fun hl => by cases hl⟩
  | command command =>
    rw [Machine.step]
    split_ifs with hidle
    · refine ⟨hm.matched.execute command, fun hl => ?_⟩
      have hl' : m.location = .session := hl
      simp [hidle] at hl'
    · exact hm

theorem Together.perform (m : Machine S) (operation : Operation S) (hm : m.Together)
    (hown : m.Own operation) : (m.perform operation).Together := by
  cases operation with
  | input input => exact hm.step hown
  | borrow => exact hm

/-- **What is presented is what is attached,** from a launch on: in every run of commands
and of updates, with any answers of the backend, in which a session client reports only
its own identifier; and what fails changes neither. -/
theorem matched_of_run (drafts : List (Except ClientSessionError DraftState))
    (startups : List (Except ClientSessionError (WorkspaceStartup S)))
    (sessions : List (Except ClientSessionError S)) (mode : LaunchMode)
    {c : WorkspaceController S}
    (hl : WorkspaceController.launch drafts startups sessions mode = some (.ok c))
    {operations : List (Operation S)}
    (hown : Run.Guarded perform Own (start c) operations) :
    (Run.run perform (start c) operations).controller.Matched ∧
      (Run.run perform (start c) operations).controller.KeepsOnFailure := by
  have hstart : (start c).Together := ⟨WorkspaceController.matched_of_launch hl, nofun⟩
  have hrun := Run.run_invariant_of_guarded Together.perform hstart hown
  exact ⟨hrun.matched, WorkspaceController.keepsOnFailure _⟩

end Machine

/-- A launch into a session that gets a plan while it is presented, then a failed
switch and a new draft. -/
def presentedRun : List (Operation Rpc.RpcSessionClient) :=
  [.input .call, .input (.sessionPending attachedSession),
    .input (.sessionAnswers attachedSession (.ok (.event ⟨1, .planChanged []⟩))), .borrow,
    .input (.command (.switchSession ⟨2⟩ (.error { message := "refused" }) (.ok ()))),
    .input (.command (.newDraft (.ok ())))]

/-- `matched_of_run` on that run. -/
theorem matched_presentedRun :
    (Run.run Machine.perform (Machine.start attachedController) presentedRun).controller.Matched ∧
      (Run.run Machine.perform (Machine.start attachedController)
        presentedRun).controller.KeepsOnFailure := by
  have hown : Run.Guarded Machine.perform Machine.Own (Machine.start attachedController)
      presentedRun := by
    refine ⟨trivial, ?_, ⟨?_, ?_⟩, trivial, trivial, trivial, trivial⟩
    · intro attached ha
      obtain rfl := Option.some.inj ha
      rfl
    · intro attached ha
      obtain rfl := Option.some.inj ha
      rfl
    · intro snapshot hreplaced
      exact Rpc.SessionUpdate.noConfusion (Except.ok.inj hreplaced)
  exact Machine.matched_of_run [] [] [.ok attachedSession] (.session (.id ⟨1⟩)) rfl hown

end Client
end Moh
