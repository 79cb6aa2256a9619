/-
# Runs of the event loop

What `run_event_loop` keeps from turn to turn (`App.Good`), and what follows for whole runs.  A
turn is taken apart where its parts meet: drawing writes nothing that an event reads
(`App.Draws`), an event moves the interface (`App.Moves`), the list of the sessions is scheduled
(`App.Listed`), and a poll of `next_update` waits, falls back from a deletion, or returns what
`consume_workspace_update` shows (`Polled`).

No run panics.  The user sees what an event meets, unless a deletion was lost; and what the loop
asks of the workspace, the user asked for, or the browser lists.
-/

import Moh.Client.Commands

namespace Moh
namespace Client

open SessionBrowserState (Settled)

variable {classes : CharClasses} {G : Segmentation Char} {width : String → ℕ}
  {widget : ℕ → Option ℕ → ℕ → ℕ → ℕ}

/-! ### Drawing -/

/-- Drawing leaves the text alone. -/
theorem PromptText.value_displayRows {e e' : PromptText} {limit visibleHeight : ℕ}
    {rows : EditorRows} (h : e.displayRows G width limit visibleHeight = some (rows, e')) :
    e'.value = e.value := by
  unfold displayRows at h
  split_ifs at h
  · obtain ⟨-, rfl⟩ := Prod.mk.inj (Option.some.inj h)
    rfl
  · obtain ⟨cursor, -, h⟩ := Option.bind_eq_some_iff.1 h
    obtain ⟨lines, -, h⟩ := Option.bind_eq_some_iff.1 h
    obtain ⟨-, rfl⟩ := Prod.mk.inj (Option.some.inj h)
    rfl

/-- The fields of the browser that schedule its list. -/
structure SessionBrowserState.SameList (b b' : SessionBrowserState) : Prop where
  isOpen : b'.isOpen = b.isOpen
  mode : b'.mode = b.mode
  refreshRequested : b'.refreshRequested = b.refreshRequested

/-- What a frame makes of the browser. -/
theorem UiState.sound_of_frame {b : SessionBrowserState} (hwidget : Settled widget) (h : b.Sound)
    (height : Option ℕ) :
    (match height with
      | none => b
      | some height => b.renderSessionList widget height).Sound ∧
    b.SameList (match height with
      | none => b
      | some height => b.renderSessionList widget height) := by
  cases height with
  | none => exact ⟨h, rfl, rfl, rfl⟩
  | some height =>
    obtain ⟨b', hb', hsound, -⟩ := SessionBrowserState.does_renderSessionList hwidget h height
    obtain rfl := Option.some.inj hb'
    exact ⟨hsound, rfl, rfl, rfl⟩

variable (width) in
/-- **Drawing is defined,** and a sound interface stays sound. -/
theorem UiState.exists_render {ui : UiState} {p : ChatProjection} (hwidget : Settled widget)
    (h : ui.Sound classes G p) (frame : UiState.Frame) :
    ∃ ui', ui.render G width widget frame = some ui' ∧ ui'.Sound classes G p ∧
      ui.sessionBrowser.SameList ui'.sessionBrowser ∧ ui'.needsRedraw = ui.needsRedraw := by
  obtain ⟨hbrowser, hsame⟩ := UiState.sound_of_frame hwidget h.browser frame.browser
  have hlists {editor : PromptText} (hvalue : editor.value = ui.editor.value) :
      ui.menu.Lists classes editor.value p := hvalue.symm ▸ h.lists
  unfold UiState.render
  cases frame.prompt with
  | none =>
    refine ⟨_, rfl, ⟨⟨h.editor, hbrowser, h.menu, fun hopen => ?_⟩, hlists rfl⟩, hsame, rfl⟩
    exact h.browsing (hsame.isOpen.symm.trans hopen)
  | some size =>
    obtain ⟨rows, editor, hrows, hinv⟩ :=
      @PromptText.keeps_displayRows G width _ h.editor size.1 size.2
    have hvalue := PromptText.value_displayRows hrows
    simp only [hrows, Option.map_some, Option.bind_eq_bind, Option.bind_some]
    refine ⟨_, rfl, ⟨⟨hinv, hbrowser, h.menu, fun hopen => ?_⟩, hlists hvalue⟩, hsame, rfl⟩
    obtain ⟨hmenu, hnil⟩ := h.browsing (hsame.isOpen.symm.trans hopen)
    exact ⟨hmenu, hvalue.trans hnil⟩

namespace App

variable {S : Type} {app app' : App S}

variable (classes G) in
/-- **What drawing does:** nothing that an event reads. -/
structure Draws (app app' : App S) : Prop where
  sound : app'.ui.Sound classes G app'.projection
  list : app.ui.sessionBrowser.SameList app'.ui.sessionBrowser
  machine : app'.machine = app.machine
  calls : app'.calls = app.calls
  next : app'.nextBrowserRefresh = app.nextBrowserRefresh
  pending : app'.pendingBrowserRefresh = app.pendingBrowserRefresh
  ended : app'.status ≠ .left
  drawn : app'.status = .running → app'.ui.needsRedraw = false ∧
    (app' = app ∨ app'.screen = some app'.view)

variable (width) in
/-- `draw_if_needed` is defined. -/
theorem exists_drawIfNeeded [WorkspaceSession S] (hwidget : Settled widget)
    (h : app.ui.Sound classes G app.projection) (hrunning : app.status = .running)
    (frame : Except String UiState.Frame) :
    ∃ app', app.drawIfNeeded G width widget frame = some app' ∧ app.Draws classes G app' := by
  unfold drawIfNeeded
  split_ifs with hclean
  · exact ⟨app, rfl, h, ⟨rfl, rfl, rfl⟩, rfl, rfl, rfl, rfl, by simp [hrunning],
      fun _ => ⟨hclean, .inl rfl⟩⟩
  · have hundrawn : ({ app.ui with needsRedraw := false } : UiState).Sound classes G
        app.projection := h.congr rfl rfl rfl
    cases frame with
    | error message =>
      exact ⟨_, rfl, hundrawn, ⟨rfl, rfl, rfl⟩, rfl, rfl, rfl, rfl, by simp [fail],
        fun hr => by simp [fail] at hr⟩
    | ok frame =>
      obtain ⟨ui, hui, hsound, hsame, hneeds⟩ :=
        UiState.exists_render width hwidget hundrawn frame
      simp only [onUi, hui, Option.map_some]
      exact ⟨_, rfl, hsound, hsame, rfl, rfl, rfl, rfl, by simp [hrunning],
        fun _ => ⟨hneeds, .inr rfl⟩⟩

end App

/-! ### A poll of `next_update` -/

/-- The same models and efforts are offered. -/
def ChatProjection.SameOffers (p p' : ChatProjection) : Prop :=
  p'.availableModels = p.availableModels ∧ p'.availableEfforts = p.availableEfforts

/-- An accepted event is no deletion, and what is offered changes with the settings and the
catalog only. -/
theorem offers_of_applySessionEvent {current next : SessionSnapshot}
    {envelope : SessionEventEnvelope}
    (h : applySessionEvent current envelope = (.ok (), next)) :
    envelope.event.isDeleted = false ∧
      ((∃ settings time, envelope.event = .settingsChanged settings time) ∨
        (∃ catalog, envelope.event = .catalogChanged catalog) ∨
        (ChatProjection.session current).SameOffers (.session next)) := by
  unfold applySessionEvent at h
  split_ifs at h
  · simp at h
  · cases hv : validateEventRun current envelope.event with
    | error error => simp [hv] at h
    | ok u =>
      simp only [hv] at h
      cases he : envelope.event with
      | deleted id => simp [he, reduceEvent] at h
      | settingsChanged settings time => exact ⟨rfl, .inl ⟨settings, time, rfl⟩⟩
      | catalogChanged catalog => exact ⟨rfl, .inr (.inl ⟨catalog, rfl⟩)⟩
      | _ =>
        simp only [he, reduceEvent] at h
        obtain rfl := (Prod.mk.inj h).2
        exact ⟨rfl, .inr (.inr ⟨rfl, rfl⟩)⟩

section

variable {S : Type} {m m' : Machine S}

namespace Machine

/-- What a result says of the workspace. -/
def Tells (m m' : Machine S) : Except ClientSessionError WorkspaceUpdate → Prop
  | .ok (.deleted id cwd) => m'.consumed = m.consumed ++ [(id, cwd)]
  | .ok (.session (.snapshotReplaced snapshot)) =>
    m'.consumed = m.consumed ∧ m'.controller.projection = .session snapshot
  | .ok (.session (.event envelope)) => m'.consumed = m.consumed ∧ ∃ current next,
      m.controller.projection = .session current ∧
        applySessionEvent current envelope = (.ok (), next) ∧
        m'.controller.projection = .session next
  | .ok (.session _) => False
  | _ => m'.consumed = m.consumed ∧ m'.controller.projection = m.controller.projection

/-- **How far a call of `next_update` got:** it waits, or fell back from a deletion and waits for
the startup, or returned. -/
inductive Polled (m m' : Machine S) : Prop
  | waits (location : ∀ id cwd, m'.location ≠ .startup id cwd) (results : m'.results = m.results)
      (consumed : m'.consumed = m.consumed)
      (projection : m'.controller.projection = m.controller.projection)
  | falls (id : SessionId) (cwd : List UInt8) (location : m'.location = .startup id cwd)
      (results : m'.results = m.results) (consumed : m'.consumed = m.consumed ++ [(id, cwd)])
      (offers : m.controller.projection.SameOffers m'.controller.projection)
  | returns (result : Except ClientSessionError WorkspaceUpdate) (location : m'.location = .idle)
      (results : m'.results = m.results ++ [result]) (tells : m.Tells m' result)

/-- The draft of a deleted session offers the same. -/
theorem sameOffers_draftForCwd (c : WorkspaceController S) (cwd : List UInt8) :
    c.projection.SameOffers (.draft (c.draftForCwd cwd)) := by
  unfold WorkspaceController.draftForCwd
  cases hp : c.projection with
  | draft draft => exact ⟨rfl, rfl⟩
  | session snapshot => exact ⟨rfl, rfl⟩

/-- The session answers. -/
theorem polled_receive (hresults : m'.results = m.results) (hconsumed : m'.consumed = m.consumed)
    (hprojection : m'.controller.projection = m.controller.projection) (session : S)
    (result : Except ClientSessionError Rpc.SessionUpdate) :
    m.Polled (m'.receive session result) := by
  have hreturned {c : WorkspaceController S} {result : Except ClientSessionError WorkspaceUpdate}
      (htells : m.Tells (m'.return_ c result) result) : m.Polled (m'.return_ c result) :=
    .returns result rfl (congrArg (· ++ [result]) hresults) htells
  match result with
  | .error error => exact hreturned ⟨hconsumed, hprojection⟩
  | .ok (.warning warning) => exact hreturned ⟨hconsumed, hprojection⟩
  | .ok (.deleted id cwd) =>
    refine .falls id cwd rfl hresults (congrArg (· ++ [(id, cwd)]) hconsumed) ?_
    rw [← hprojection]
    exact sameOffers_draftForCwd { m'.controller with session := none } cwd
  | .ok (.snapshotReplaced snapshot) =>
    dsimp only [receive]
    cases hp : m'.controller.projection with
    | draft draft => exact hreturned ⟨hconsumed, hp.symm.trans hprojection⟩
    | session current =>
      simp only [applyProjectionUpdate]
      cases validateSnapshot snapshot with
      | error error => exact hreturned ⟨hconsumed, hp.symm.trans hprojection⟩
      | ok u => exact hreturned ⟨hconsumed, rfl⟩
  | .ok (.event envelope) =>
    dsimp only [receive]
    cases hp : m'.controller.projection with
    | draft draft => exact hreturned ⟨hconsumed, hp.symm.trans hprojection⟩
    | session current =>
      simp only [applyProjectionUpdate]
      cases happly : applySessionEvent current envelope with
      | mk result next =>
        cases result with
        | error error => exact hreturned ⟨hconsumed, hp.symm.trans hprojection⟩
        | ok u => exact hreturned ⟨hconsumed, current, next, hprojection.symm.trans hp, happly, rfl⟩

/-- A result reports the deletion that was taken, if one was. -/
theorem Tells.returnedDeletions (h : m.returnedDeletions.Sublist m.consumed)
    {result : Except ClientSessionError WorkspaceUpdate} (htells : m.Tells m' result)
    (hresults : m'.results = m.results ++ [result]) :
    m'.returnedDeletions.Sublist m'.consumed := by
  have hreturned :
      m'.returnedDeletions = m.returnedDeletions ++ (reportedDeletion result).toList := by
    rw [Machine.returnedDeletions, hresults, List.filterMap_append]
    cases hreported : reportedDeletion result <;> simp [hreported, Machine.returnedDeletions]
  have hnone (hreported : reportedDeletion result = none) (hconsumed : m'.consumed = m.consumed) :
      m'.returnedDeletions.Sublist m'.consumed := by
    rw [hreturned, hreported, hconsumed]
    simpa using h
  cases result with
  | error error => exact hnone rfl htells.1
  | ok update =>
    cases update with
    | warning warning => exact hnone rfl htells.1
    | deleted id cwd =>
      have hconsumed : m'.consumed = m.consumed ++ [(id, cwd)] := htells
      rw [hreturned, hconsumed]
      exact h.append (List.Sublist.refl _)
    | session update =>
      cases update with
      | event envelope => exact hnone rfl htells.1
      | snapshotReplaced snapshot => exact hnone rfl htells.1
      | warning warning => exact htells.elim
      | deleted id cwd => exact htells.elim

variable [WorkspaceSession S]

/-- The call begins. -/
theorem polled_call (h : m.location = .idle) : m.Polled (m.step .call) := by
  rw [step, if_pos h, call]
  cases m.controller.pendingWarning with
  | some warning => exact .returns _ rfl rfl ⟨rfl, rfl⟩
  | none => exact .waits (by intro id cwd; dsimp only; split_ifs <;> simp) rfl rfl rfl

/-- **A poll goes on.** -/
theorem Polled.step (h : m.Polled m') {input : Input S} (hinput : App.isPoll input = true) :
    m.Polled (m'.step input) := by
  cases h with
  | waits location results consumed projection =>
    cases input with
    | sessionPending session =>
      rw [Machine.step]
      split_ifs
      · exact .waits location results consumed projection
      · exact .waits location results consumed projection
    | sessionAnswers session result =>
      rw [Machine.step]
      split_ifs
      · exact polled_receive results consumed projection session result
      · exact .waits location results consumed projection
    | startupAnswers result =>
      have hsame : m'.step (.startupAnswers result) = m' := by
        rw [Machine.step]
        split
        next id cwd hlocation => exact absurd hlocation (location id cwd)
        next => rfl
      rw [hsame]
      exact .waits location results consumed projection
    | _ => simp [App.isPoll] at hinput
  | falls id cwd location results consumed offers =>
    cases input with
    | startupAnswers result =>
      simp only [Machine.step, location]
      exact .returns _ rfl (congrArg (· ++ [_]) results) consumed
    | sessionPending session =>
      rw [Machine.step, if_neg (by simp [location])]
      exact .falls id cwd location results consumed offers
    | sessionAnswers session result =>
      rw [Machine.step, if_neg (by simp [location])]
      exact .falls id cwd location results consumed offers
    | _ => simp [App.isPoll] at hinput
  | returns result location results tells =>
    have hsame : m'.step input = m' := by
      cases input with
      | sessionPending session => rw [Machine.step, if_neg (by simp [location])]
      | sessionAnswers session result => rw [Machine.step, if_neg (by simp [location])]
      | startupAnswers result => simp only [Machine.step, location]
      | _ => simp [App.isPoll] at hinput
    rw [hsame]
    exact .returns result location results tells

/-- **The call of a turn.** -/
theorem polled_pollUpdate (h : m.location = .idle) (turn : App.Turn S) :
    m.Polled (App.pollUpdate m turn) := by
  unfold App.pollUpdate
  split_ifs
  · have hpolls : ∀ (inputs : List (Input S)) (m' : Machine S), m.Polled m' →
        (∀ input ∈ inputs, App.isPoll input = true) →
          m.Polled (Run.run Machine.step m' inputs) := by
      intro inputs
      induction inputs with
      | nil => exact fun m' h _ => h
      | cons input inputs ih =>
        intro m' h hall
        rw [Run.run_cons]
        exact ih _ (h.step (hall input (by simp))) fun input hi => hall input (by simp [hi])
    rw [Run.run_cons]
    exact hpolls _ _ (polled_call h) fun input hi => (List.mem_filter.1 hi).2
  · exact .waits (by simp [h]) rfl rfl rfl

end Machine

end

/-! ### The list of the sessions -/

/-- What a call lists, and when. -/
def Call.listing : Call → Option (SessionListScope × ℕ)
  | .listSessions scope now => some (scope, now)
  | _ => none

/-- The list that was asked for last. -/
def lastListing (calls : List Call) : Option (SessionListScope × ℕ) :=
  (calls.filterMap Call.listing).getLast?

theorem lastListing_append {calls added : List Call} (h : ∀ call ∈ added, call.listing = none) :
    lastListing (calls ++ added) = lastListing calls := by
  rw [lastListing, List.filterMap_append, List.filterMap_eq_nil_iff.2 h, List.append_nil,
    lastListing]

theorem lastListing_concat (calls : List Call) (scope : SessionListScope) (now : ℕ) :
    lastListing (calls ++ [.listSessions scope now]) = some (scope, now) := by
  simp [lastListing, Call.listing]

namespace App

variable {S : Type} {app app' : App S}

/-- What the user asks for is no list. -/
theorem Commands.listing_eq_none {event : TerminalEvent} {call : Call}
    (h : app.Commands classes event call) : call.listing = none := by
  cases call with
  | listSessions scope now =>
    unfold Commands at h
    split_ifs at h
    · exact h.elim
    · exact h.2.elim
  | _ => rfl

/-- The list that was asked for last is one of the browser's mode; the next one is due a second
later, and one that is on its way is this one. -/
def ListedAt (app : App S) (cwd : List UInt8) (time : ℕ) : Prop :=
  lastListing app.calls = some (listScope cwd app.ui.sessionBrowser.mode, time) ∧
    app.nextBrowserRefresh = some (time + 1000) ∧
    ∀ pending, app.pendingBrowserRefresh = some pending →
      pending = ⟨cwd, listScope cwd app.ui.sessionBrowser.mode⟩

/-- **The browser's list is in order,** unless it asks for another one. -/
def Listed (app : App S) : Prop :=
  app.ui.sessionBrowser.isOpen = true → app.ui.sessionBrowser.refreshRequested = false →
    ∃ cwd time, app.ListedAt cwd time

/-- The list of a browser that goes on in its mode. -/
theorem Listed.move (h : app.Listed) (hcalls : lastListing app'.calls = lastListing app.calls)
    (hnext : app'.nextBrowserRefresh = app.nextBrowserRefresh)
    (hpending : ∀ pending, app'.pendingBrowserRefresh = some pending →
      app.pendingBrowserRefresh = some pending)
    (hasks : app.ui.sessionBrowser.Asks app'.ui.sessionBrowser) : app'.Listed := by
  intro hopen hrequested
  rcases hasks with hclosed | hasked | ⟨hsame, hmode, hsame'⟩
  · exact absurd (hclosed.symm.trans hopen) Bool.false_ne_true
  · exact absurd (hrequested.symm.trans hasked) Bool.false_ne_true
  · obtain ⟨cwd, time, hlast, hdue, hway⟩ :=
      h (hsame.symm.trans hopen) (hsame'.symm.trans hrequested)
    refine ⟨cwd, time, ?_, hnext.trans hdue, fun pending hp => ?_⟩
    · rw [hcalls, hlast, hmode]
    · rw [hway pending (hpending pending hp), hmode]

theorem asks_of_sameList {b b' : SessionBrowserState} (h : b.SameList b') : b.Asks b' :=
  .inr (.inr ⟨h.isOpen, h.mode, h.refreshRequested⟩)

/-- **What the loop waits with,** at the time `now`: nothing for a closed browser; for an open one
a list that was asked for in its mode, and that is on its way or not a second old. -/
structure Refreshes (app : App S) (now : ℕ) : Prop where
  closed : app.ui.sessionBrowser.isOpen = false →
    app.nextBrowserRefresh = none ∧ app.pendingBrowserRefresh = none
  opened : app.ui.sessionBrowser.isOpen = true →
    app.ui.sessionBrowser.refreshRequested = false ∧ ∃ cwd time, app.ListedAt cwd time ∧
      (app.pendingBrowserRefresh.isSome = true ∨ now < time + 1000)

theorem Refreshes.listed {now : ℕ} (h : app.Refreshes now) : app.Listed := by
  intro hopen _
  obtain ⟨-, cwd, time, hlisted, -⟩ := h.opened hopen
  exact ⟨cwd, time, hlisted⟩

/-- **The list is scheduled.** -/
theorem refreshes_scheduleRefresh (h : app.Listed) (now : ℕ) :
    (app.scheduleRefresh now).Refreshes now := by
  unfold scheduleRefresh
  by_cases hclosed : app.ui.sessionBrowser.isOpen = false
  · rw [if_pos hclosed]
    exact ⟨fun _ => ⟨rfl, rfl⟩, fun hopen => absurd (hclosed.symm.trans hopen) Bool.false_ne_true⟩
  rw [if_neg hclosed]
  have hopen : app.ui.sessionBrowser.isOpen = true := by simpa using hclosed
  dsimp only
  by_cases hrequested : app.ui.sessionBrowser.refreshRequested = true
  · -- the request drops the list on its way, and asks anew
    rw [if_pos hrequested, if_pos ⟨rfl, .inl hrequested⟩]
    refine ⟨fun hc => absurd (hc.symm.trans hopen) Bool.false_ne_true, fun _ => ⟨rfl, _, now, ⟨?_,
      rfl, fun pending hp => (Option.some.inj hp).symm⟩, .inl rfl⟩⟩
    exact lastListing_concat _ _ _
  · have hquiet : app.ui.sessionBrowser.refreshRequested = false := by simpa using hrequested
    obtain ⟨cwd, time, hlast, hdue, hway⟩ := h hopen hquiet
    rw [if_neg hrequested, hdue, Option.getD_some]
    split_ifs with hstart
    · refine ⟨fun hc => absurd (hc.symm.trans hopen) Bool.false_ne_true, fun _ => ⟨rfl, _, now, ⟨?_,
        rfl, fun pending hp => (Option.some.inj hp).symm⟩, .inl rfl⟩⟩
      exact lastListing_concat _ _ _
    · refine ⟨fun hc => absurd (hc.symm.trans hopen) Bool.false_ne_true, fun _ => ⟨rfl, cwd, time,
        ⟨hlast, rfl, hway⟩, ?_⟩⟩
      by_cases hnone : app.pendingBrowserRefresh.isNone = true
      · refine .inr (Nat.lt_of_not_le fun hle => hstart ⟨hnone, .inr hle⟩)
      · exact .inl (by simpa [Option.isSome_iff_ne_none] using hnone)

/-! ### A turn -/

/-- No deletion that was taken from a session was dropped. -/
def NoneLost (app : App S) : Prop := app.machine.consumed = app.machine.returnedDeletions

/-- **What a running loop keeps** from turn to turn. -/
structure InOrder (app : App S) : Prop where
  idle : app.machine.location = .idle
  returned : app.machine.returnedDeletions.Sublist app.machine.consumed
  shown : app.NoneLost → app.ui.needsRedraw = false → app.screen = some app.view
  listed : app.Listed

variable (classes G) in
/-- **The invariant of the loop.** -/
structure Good (app : App S) : Prop where
  sound : app.ui.Sound classes G app.projection
  inOrder : app.status = .running → app.InOrder

/-- Drawing keeps the order. -/
theorem InOrder.draws (h : app.InOrder) (hdraws : app.Draws classes G app')
    (hrunning : app'.status = .running) :
    app'.InOrder ∧ app'.ui.needsRedraw = false := by
  obtain ⟨hclean, hdrawn⟩ := hdraws.drawn hrunning
  refine ⟨⟨by rw [hdraws.machine]; exact h.idle, by rw [hdraws.machine]; exact h.returned, ?_, ?_⟩,
    hclean⟩
  · rcases hdrawn with rfl | hscreen
    · exact h.shown
    · exact fun _ _ => hscreen
  · exact h.listed.move (by rw [hdraws.calls]) hdraws.next
      (fun pending hp => by rwa [← hdraws.pending]) (asks_of_sameList hdraws.list)

/-- An event keeps it. -/
theorem InOrder.moves (h : app.InOrder) (hmoves : app.Moves classes G app')
    (hcalls : lastListing app'.calls = lastListing app.calls) : app'.InOrder := by
  have hloop := hmoves.loop
  refine ⟨hloop.location.trans h.idle, ?_, fun hlost hclean => ?_, ?_⟩
  · rw [Machine.returnedDeletions, hloop.results, hloop.consumed]
    exact h.returned
  · obtain ⟨hclean', hview⟩ := hmoves.redraws hclean
    rw [hloop.screen, hview]
    refine h.shown ?_ hclean'
    rw [NoneLost, Machine.returnedDeletions, ← hloop.results, ← hloop.consumed]
    exact hlost
  · exact h.listed.move hcalls hloop.next (fun pending hp => by rwa [← hloop.pending]) hmoves.asks

section

variable [WorkspaceSession S]

omit [WorkspaceSession S] in
theorem proceed_of_running {f : App S → Option (App S)} (h : app.status = .running) :
    proceed (some app) f = f app := if_pos h

omit [WorkspaceSession S] in
theorem proceed_of_ended {f : App S → Option (App S)} (h : ¬app.status = .running) :
    proceed (some app) f = some app := if_neg h

variable (width) in
/-- **The poll of the terminal.** -/
theorem exists_poll (hwidget : Settled widget) (h : app.ui.Sound classes G app.projection)
    (hrunning : app.status = .running) (turn : Turn S) :
    ∃ app', app.poll classes G width widget turn = some app' ∧
      app'.ui.Sound classes G app'.projection ∧
      (app.InOrder → app'.status = .running → app'.InOrder) ∧
      (∃ added, app'.calls = app.calls ++ added ∧ (added = [] ∨ ∃ event call,
        turn.event = .ok (some event) ∧ added = [call] ∧ app.Commands classes event call)) ∧
      (app'.status = .left → ∃ event, turn.event = .ok (some event) ∧ app.Quits event) := by
  have hsilent : app.calls = app.calls ++ [] := (List.append_nil _).symm
  unfold poll
  cases hevent : turn.event with
  | error message =>
    exact ⟨_, rfl, h, fun _ hr => by simp [fail] at hr, ⟨[], hsilent, .inl rfl⟩,
      fun hleft => by simp [fail] at hleft⟩
  | ok found =>
    cases found with
    | none =>
      exact ⟨app, rfl, h, fun hin _ => hin, ⟨[], hsilent, .inl rfl⟩,
        fun hleft => by simp [hrunning] at hleft⟩
    | some event =>
      obtain ⟨running, app₁, happ, hmoves⟩ := handles_event width h turn.answers event
      obtain ⟨⟨added, hcalls, hlength, hcommands⟩, hquits⟩ :=
        obeys_event width h turn.answers event running app₁ happ
      have hlast : lastListing app₁.calls = lastListing app.calls := by
        rw [hcalls]
        exact lastListing_append fun call hcall => (hcommands call hcall).listing_eq_none
      have hasked : added = [] ∨ ∃ event' call,
          Except.ok (some event) = (.ok (some event') : Except String (Option TerminalEvent)) ∧
            added = [call] ∧ app.Commands classes event' call := by
        cases added with
        | nil => exact .inl rfl
        | cons call rest =>
          obtain rfl : rest = [] := List.length_eq_zero_iff.1 (by simpa using hlength)
          exact .inr ⟨event, call, rfl, rfl, hcommands call (by simp)⟩
      have hstatus : app₁.status = .running := hmoves.loop.status.trans hrunning
      simp only [happ]
      cases running with
      | true =>
        exact ⟨app₁, rfl, hmoves.sound, fun hin _ => hin.moves hmoves hlast,
          ⟨added, hcalls, hasked⟩, fun hleft => by simp [hstatus] at hleft⟩
      | false =>
        obtain ⟨app₂, hdrawn, hdraws⟩ :=
          exists_drawIfNeeded width hwidget hmoves.sound hstatus turn.second
        simp only [hdrawn]
        by_cases hended : app₂.status = .running
        · rw [proceed_of_running hended]
          exact ⟨_, rfl, hdraws.sound, fun _ hr => by simp at hr,
            ⟨added, hdraws.calls.trans hcalls, hasked⟩, fun _ => ⟨event, rfl, hquits rfl⟩⟩
        · rw [proceed_of_ended hended]
          exact ⟨_, rfl, hdraws.sound, fun _ hr => absurd hr hended,
            ⟨added, hdraws.calls.trans hcalls, hasked⟩, fun hleft => absurd hleft hdraws.ended⟩

variable (classes G width widget) in
/-- **The user's command:** the event of the turn, in the state that was drawn before it. -/
def Ordered (app : App S) (turn : Turn S) (P : App S → TerminalEvent → Prop) : Prop :=
  ∃ app₁ event, app.drawIfNeeded G width widget turn.first = some app₁ ∧
    (app₁.NoneLost → app₁.screen = some app₁.view) ∧ turn.event = .ok (some event) ∧ P app₁ event

variable (classes G width widget) in
/-- **What a turn asks of the workspace:** at most one thing that the user asks for, and one list
of the sessions. -/
def Serves (app : App S) (turn : Turn S) (calls : List Call) : Prop :=
  ∃ added listed, calls = app.calls ++ added ++ listed ∧
    (added = [] ∨ ∃ call, added = [call] ∧
      app.Ordered G width widget turn fun app₁ event => app₁.Commands classes event call) ∧
    (listed = [] ∨ ∃ scope, listed = [.listSessions scope turn.now])

omit [WorkspaceSession S] in
/-- The schedule asks for one list at most. -/
theorem calls_scheduleRefresh (app : App S) (now : ℕ) : ∃ listed,
    (app.scheduleRefresh now).calls = app.calls ++ listed ∧
      (listed = [] ∨ ∃ scope, listed = [.listSessions scope now]) := by
  unfold scheduleRefresh
  dsimp only
  split_ifs
  all_goals first
    | exact ⟨[], (List.append_nil _).symm, .inl rfl⟩
    | exact ⟨_, rfl, .inr ⟨_, rfl⟩⟩

omit [WorkspaceSession S] in
/-- The schedule takes a request from the browser, and leaves all that is seen. -/
theorem sameBut_scheduleRefresh (app : App S) (now : ℕ) :
    (app.scheduleRefresh now).machine = app.machine ∧
      (app.scheduleRefresh now).screen = app.screen ∧
      (app.scheduleRefresh now).status = app.status ∧
      ((app.scheduleRefresh now).ui = app.ui ∨ (app.scheduleRefresh now).ui =
        { app.ui with sessionBrowser := app.ui.sessionBrowser.takeRefreshRequest }) := by
  unfold scheduleRefresh
  dsimp only
  split_ifs
  · exact ⟨rfl, rfl, rfl, .inl rfl⟩
  all_goals exact ⟨rfl, rfl, rfl, .inr rfl⟩

omit [WorkspaceSession S] in
theorem InOrder.scheduleRefresh (h : app.InOrder) (hclean : app.ui.needsRedraw = false) (now : ℕ) :
    (app.scheduleRefresh now).InOrder ∧ (app.scheduleRefresh now).ui.needsRedraw = false := by
  obtain ⟨hmachine, hscreen, -, hui⟩ := sameBut_scheduleRefresh app now
  have hseen : (app.scheduleRefresh now).ui.seen = app.ui.seen ∧
      (app.scheduleRefresh now).ui.needsRedraw = app.ui.needsRedraw := by
    rcases hui with hui | hui <;> rw [hui] <;> exact ⟨rfl, rfl⟩
  refine ⟨⟨by rw [hmachine]; exact h.idle, by rw [hmachine]; exact h.returned, fun hlost _ => ?_,
    (refreshes_scheduleRefresh h.listed now).listed⟩, hseen.2.trans hclean⟩
  rw [NoneLost, hmachine] at hlost
  rw [hscreen, h.shown hlost hclean, view, view, hseen.1, projection, projection, client, client,
    hmachine]

omit [WorkspaceSession S] in
theorem sound_scheduleRefresh (h : app.ui.Sound classes G app.projection) (now : ℕ) :
    (app.scheduleRefresh now).ui.Sound classes G (app.scheduleRefresh now).projection := by
  obtain ⟨hmachine, -, -, hui⟩ := sameBut_scheduleRefresh app now
  have hprojection : (app.scheduleRefresh now).projection = app.projection := by
    rw [projection, projection, client, client, hmachine]
  rw [hprojection]
  rcases hui with hui | hui
  · exact h.congr (by rw [hui]) (by rw [hui]) (by rw [hui])
  · rw [hui]
    have hview : app.ui.sessionBrowser.SameView app.ui.sessionBrowser.takeRefreshRequest :=
      ⟨rfl, rfl, rfl, rfl, rfl⟩
    exact ⟨⟨h.editor, hview.sound h.browser, h.menu, h.browsing⟩, h.lists⟩

variable (width) in
/-- **A turn up to the `select!`.** -/
theorem exists_waiting (hwidget : Settled widget) (h : app.Good classes G)
    (hrunning : app.status = .running) (turn : Turn S) :
    ∃ app', app.waiting classes G width widget turn = some app' ∧
      app'.ui.Sound classes G app'.projection ∧
      (app'.status = .running → app'.InOrder ∧ app'.ui.needsRedraw = false ∧
        app'.Refreshes turn.now) ∧
      app.Serves classes G width widget turn app'.calls ∧
      (app'.status = .left → app.Ordered G width widget turn Quits) := by
  have hin := h.inOrder hrunning
  unfold waiting
  obtain ⟨app₁, hfirst, hdraws⟩ :=
    exists_drawIfNeeded width hwidget h.sound hrunning turn.first
  rw [hfirst]
  by_cases hended : app₁.status = .running
  · obtain ⟨hin₁, hclean₁⟩ := hin.draws hdraws hended
    have hseen (hlost : app₁.NoneLost) : app₁.screen = some app₁.view := hin₁.shown hlost hclean₁
    obtain ⟨app₂, hpoll, hsound₂, hin₂, ⟨added, hcalls, hadded⟩, hleft⟩ :=
      exists_poll width hwidget hdraws.sound hended turn
    have hordered : added = [] ∨ ∃ call, added = [call] ∧
        app.Ordered G width widget turn fun app₁ event => app₁.Commands classes event call := by
      rcases hadded with hnil | ⟨event, call, hevent, hcall, hcommands⟩
      · exact .inl hnil
      · exact .inr ⟨call, hcall, app₁, event, hfirst, hseen, hevent, hcommands⟩
    have hquits (hended : app₂.status = .left) : app.Ordered G width widget turn Quits := by
      obtain ⟨event, hevent, hquits⟩ := hleft hended
      exact ⟨app₁, event, hfirst, hseen, hevent, hquits⟩
    have hcalls₂ : app₂.calls = app.calls ++ added := by rw [hcalls, hdraws.calls]
    rw [proceed_of_running hended, hpoll]
    by_cases hended₂ : app₂.status = .running
    · obtain ⟨app₃, hsecond, hdraws₃⟩ :=
        exists_drawIfNeeded width hwidget hsound₂ hended₂ turn.second
      rw [proceed_of_running hended₂, hsecond]
      have hcalls₃ : app₃.calls = app.calls ++ added := hdraws₃.calls.trans hcalls₂
      by_cases hended₃ : app₃.status = .running
      · obtain ⟨hin₃, hclean₃⟩ := (hin₂ hin₁ hended₂).draws hdraws₃ hended₃
        rw [proceed_of_running hended₃]
        obtain ⟨listed, hlisted, hone⟩ := calls_scheduleRefresh app₃ turn.now
        obtain ⟨hin₄, hclean₄⟩ := hin₃.scheduleRefresh hclean₃ turn.now
        have hstatus := (sameBut_scheduleRefresh app₃ turn.now).2.2.1.trans hended₃
        exact ⟨_, rfl, sound_scheduleRefresh hdraws₃.sound turn.now,
          fun _ => ⟨hin₄, hclean₄, refreshes_scheduleRefresh hin₃.listed turn.now⟩,
          ⟨added, listed, by rw [hlisted, hcalls₃], hordered, hone⟩,
          fun hleft => by simp [hstatus] at hleft⟩
      · rw [proceed_of_ended hended₃]
        exact ⟨app₃, rfl, hdraws₃.sound, fun hr => absurd hr hended₃,
          ⟨added, [], by rw [hcalls₃, List.append_nil], hordered, .inl rfl⟩,
          fun hleft => absurd hleft hdraws₃.ended⟩
    · rw [proceed_of_ended hended₂]
      exact ⟨app₂, rfl, hsound₂, fun hr => absurd hr hended₂,
        ⟨added, [], by rw [hcalls₂, List.append_nil], hordered, .inl rfl⟩, hquits⟩
  · rw [proceed_of_ended hended]
    exact ⟨app₁, rfl, hdraws.sound, fun hr => absurd hr hended,
      ⟨[], [], by simp [hdraws.calls], .inl rfl, .inl rfl⟩, fun hleft => absurd hleft hdraws.ended⟩

/-! ### What a turn brings -/

omit [WorkspaceSession S] in
/-- **An update is shown:** `consume_workspace_update` finds what `next_update` promises, and
whatever the update changes is drawn anew. -/
theorem exists_consumeUpdate (app : App S) {m : Machine S}
    (hsound : app.ui.Sound classes G m.controller.projection) {update : WorkspaceUpdate}
    (htells : m.Tells app.machine (.ok update)) :
    ∃ ui, app.consumeUpdate classes update = .ok { app with ui } ∧
      ui.Sound classes G app.projection ∧ ui.needsRedraw = true ∧
      app.ui.sessionBrowser.Asks ui.sessionBrowser := by
  have hredrawn {f : UiState → UiState} (h : (f app.ui).Sound classes G app.projection)
      (hasks : app.ui.sessionBrowser.Asks (f app.ui).sessionBrowser) :
      ∃ ui, ((.ok (app.onUi f) : Except AppError (App S)).map (onUi UiState.requestRedraw)) =
          .ok { app with ui } ∧ ui.Sound classes G app.projection ∧ ui.needsRedraw = true ∧
        app.ui.sessionBrowser.Asks ui.sessionBrowser :=
    ⟨_, rfl, h.congr rfl rfl rfl, rfl, hasks⟩
  have hsteady := hsound.toSteady
  cases update with
  | warning warning =>
    have hsame : app.projection = m.controller.projection := htells.2
    refine hredrawn ?_ (SessionBrowserState.asks_refl _)
    rw [hsame]
    exact hsound.congr rfl rfl rfl
  | deleted id cwd =>
    exact hredrawn (UiState.sound_chatTransitionReset hsteady.browser _) (.inl rfl)
  | session update =>
    cases update with
    | snapshotReplaced snapshot =>
      refine hredrawn (f := fun ui => refreshMenu classes app.projection ui.authoritativeReset)
        (UiState.sound_refreshMenu _ hsteady.editor hsteady.browser fun hopen => ⟨rfl, ?_⟩)
        (SessionBrowserState.asks_refl _)
      exact (hsteady.browsing hopen).2
    | warning warning => exact htells.elim
    | deleted id cwd => exact htells.elim
    | event envelope =>
      obtain ⟨-, current, next, hcurrent, happly, hnext⟩ := htells
      have hnext : app.projection = .session next := hnext
      rw [hcurrent] at hsound
      obtain ⟨hdeleted, hoffers⟩ := offers_of_applySessionEvent happly
      have hrefreshed {ui : UiState} (heditor : ui.editor = app.ui.editor)
          (hmenu : ui.menu = app.ui.menu) (hbrowser : ui.sessionBrowser = app.ui.sessionBrowser) :
          (refreshMenu classes app.projection ui).Sound classes G app.projection := by
        refine UiState.sound_refreshMenu _ (heditor ▸ hsteady.editor)
          (hbrowser ▸ hsteady.browser) fun hopen => ?_
        rw [hbrowser] at hopen
        rw [hmenu, heditor, (hsteady.browsing hopen).1]
        exact ⟨rfl, (hsteady.browsing hopen).2⟩
      have hoffered (hsame : (ChatProjection.session current).SameOffers (.session next)) :
          app.ui.Sound classes G app.projection := by
        rw [hnext]
        exact ⟨hsteady, hsound.lists.congr hsame.1 hsame.2⟩
      simp only [consumeUpdate]
      cases hevent : envelope.event with
      | deleted id => simp [hevent, SessionEvent.isDeleted] at hdeleted
      | settingsChanged settings time =>
        exact hredrawn (f := fun ui => refreshMenu classes app.projection ui.clearLocalError)
          (hrefreshed rfl rfl rfl) (SessionBrowserState.asks_refl _)
      | catalogChanged catalog =>
        exact hredrawn (f := fun ui => refreshMenu classes app.projection ui.clearLocalError)
          (hrefreshed rfl rfl rfl) (SessionBrowserState.asks_refl _)
      | _ =>
        have hsame := hoffered (by simpa [hevent] using hoffers)
        simp only [consumeEvent]
        first
          | exact hredrawn (f := UiState.clearLocalError) (hsame.congr rfl rfl rfl)
              (SessionBrowserState.asks_refl _)
          | exact hredrawn (f := fun ui => ui) hsame (SessionBrowserState.asks_refl _)
          | (split_ifs
             · exact hredrawn (f := refreshMenu classes app.projection) (hrefreshed rfl rfl rfl)
                 (SessionBrowserState.asks_refl _)
             · exact hredrawn (f := fun ui => ui) hsame (SessionBrowserState.asks_refl _))

omit [WorkspaceSession S] in
/-- **A list of the sessions arrives.** -/
theorem exists_finishRefresh (hsound : app.ui.Sound classes G app.projection) (hin : app.InOrder)
    (hrunning : app.status = .running) (pending : PendingSessionBrowserRefresh)
    (result : Except ClientSessionError (List SessionSummary)) :
    ∃ app', app.finishRefresh classes pending result = some app' ∧ app'.Good classes G ∧
      app'.status = .running ∧ app'.calls = app.calls := by
  have hshown {b : SessionBrowserState} (hb : b.Sound) (hasks : app.ui.sessionBrowser.Asks b)
      (hopen : b.isOpen = true → app.ui.sessionBrowser.isOpen = true) :
      Good classes G { app with
        pendingBrowserRefresh := none
        ui := { app.ui with sessionBrowser := b, needsRedraw := true } } := by
    refine ⟨⟨⟨hsound.editor, hb, hsound.menu, fun h => hsound.browsing (hopen h)⟩, hsound.lists⟩,
      fun _ => ⟨hin.idle, hin.returned, fun _ hclean => by simp at hclean, ?_⟩⟩
    exact hin.listed.move rfl rfl (fun pending hp => by simp at hp) hasks
  unfold finishRefresh
  dsimp only
  by_cases hclosed : app.ui.sessionBrowser.isOpen = false
  · rw [if_pos hclosed]
    refine ⟨_, rfl, ⟨hsound, fun _ => ⟨hin.idle, hin.returned, hin.shown, ?_⟩⟩, hrunning, rfl⟩
    exact hin.listed.move rfl rfl (fun pending hp => by simp at hp)
      (SessionBrowserState.asks_refl _)
  rw [if_neg hclosed]
  have hopen : app.ui.sessionBrowser.isOpen = true := by simpa using hclosed
  cases result with
  | ok sessions =>
    obtain ⟨b, hb, hbsound, -⟩ := @SessionBrowserState.does_step classes _ hsound.browser
      (.setSessions pending.cwd sessions)
    have hset : app.ui.sessionBrowser.setSessions classes pending.cwd sessions = some b := hb
    have hasks : app.ui.sessionBrowser.Asks b := by
      rcases SessionBrowserState.asks_of_rebuildVisible hset with hc | hr | ⟨hsame, hmode, hr⟩
      · exact .inl hc
      · exact .inr (.inl hr)
      · exact .inr (.inr ⟨hsame, hmode, hr⟩)
    exact ⟨_, by simp only [onBrowser, hset]; rfl, hshown hbsound hasks fun _ => hopen, hrunning,
      rfl⟩
  | error error =>
    have hview : app.ui.sessionBrowser.SameView
        (app.ui.sessionBrowser.setRefreshWarning (errorLine error.message)) :=
      ⟨rfl, rfl, rfl, rfl, rfl⟩
    exact ⟨_, rfl, hshown (hview.sound hsound.browser) (.inr (.inr ⟨rfl, rfl, rfl⟩)) fun _ => hopen,
      hrunning, rfl⟩

/-- A call that brought nothing is dropped, and a deletion behind which it waits is lost. -/
theorem inOrder_drop (hsound : app.ui.Sound classes G app.projection) (hin : app.InOrder)
    {m : Machine S} (hpolled : app.machine.Polled m) (hresults : m.results = app.machine.results) :
    app.ui.Sound classes G m.controller.projection ∧
      ({ app with machine := m.step .drop } : App S).InOrder := by
  have hreturned : (m.step .drop).returnedDeletions = app.machine.returnedDeletions :=
    congrArg (List.filterMap Machine.reportedDeletion) hresults
  have hlisted : ({ app with machine := m.step .drop } : App S).Listed :=
    hin.listed.move rfl rfl (fun pending hp => hp) (SessionBrowserState.asks_refl _)
  cases hpolled with
  | waits _ _ consumed projection =>
    have hconsumed : (m.step .drop).consumed = app.machine.consumed := consumed
    have hprojection : m.controller.projection = app.projection := projection
    refine ⟨hprojection.symm ▸ hsound, rfl, ?_, fun hlost hclean => ?_, hlisted⟩
    · rw [hreturned, hconsumed]
      exact hin.returned
    · rw [NoneLost, hreturned, hconsumed] at hlost
      rw [hin.shown hlost hclean]
      exact congrArg (fun p => some (app.ui.seen, p)) hprojection.symm
  | falls id cwd _ _ consumed offers =>
    have hconsumed : (m.step .drop).consumed = app.machine.consumed ++ [(id, cwd)] := consumed
    refine ⟨⟨hsound.toSteady, hsound.lists.congr offers.1 offers.2⟩, rfl, ?_, fun hlost _ => ?_,
      hlisted⟩
    · rw [hreturned, hconsumed]
      exact hin.returned.trans (List.sublist_append_left _ _)
    · -- one more was taken than was returned
      rw [NoneLost, hreturned, hconsumed] at hlost
      have hle := hin.returned.length_le
      rw [← hlost, List.length_append] at hle
      exact absurd hle (by simp)
  | returns result _ results _ =>
    rw [results] at hresults
    exact absurd hresults (by simp)

/-- **The `select!` and what follows it.** -/
theorem exists_wake (hsound : app.ui.Sound classes G app.projection) (hin : app.InOrder)
    (hrunning : app.status = .running) (turn : Turn S) :
    ∃ app', app.wake classes turn = some app' ∧ app'.Good classes G ∧ app'.calls = app.calls ∧
      app'.status ≠ .left := by
  have hnot : app.status ≠ .left := by simp [hrunning]
  have hpolled := Machine.polled_pollUpdate hin.idle turn
  unfold wake
  dsimp only
  generalize pollUpdate app.machine turn = m at *
  by_cases hresults : m.results = app.machine.results
  · obtain ⟨hsound', hin'⟩ := inOrder_drop hsound hin hpolled hresults
    rw [hresults, List.drop_length]
    simp only
    split
    next pending result _ _ =>
      obtain ⟨app', happ, hgood, hstatus, hcalls⟩ := exists_finishRefresh hsound' hin' hrunning
        pending result
      exact ⟨app', happ, hgood, hcalls, by simp [hstatus]⟩
    · exact ⟨_, rfl, ⟨hsound', fun _ => hin'⟩, rfl, hnot⟩
  · cases hpolled with
    | waits _ results => exact absurd results hresults
    | falls _ _ _ results => exact absurd results hresults
    | returns result location results tells =>
      rw [results, List.drop_left]
      cases result with
      | error error =>
        refine ⟨_, rfl, ⟨?_, fun hr => by simp [fail] at hr⟩, rfl, by simp [fail]⟩
        have hprojection : m.controller.projection = app.projection := tells.2
        exact (hprojection.symm ▸ hsound : app.ui.Sound classes G m.controller.projection)
      | ok update =>
        obtain ⟨ui, hconsume, hui, hneeds, hasks⟩ :=
          exists_consumeUpdate { app with machine := m } hsound tells
        simp only [hconsume]
        refine ⟨_, rfl, ⟨hui, fun _ => ⟨location, ?_, fun _ hclean => ?_, ?_⟩⟩, rfl, hnot⟩
        · exact tells.returnedDeletions hin.returned results
        · exact absurd (hneeds.symm.trans hclean) Bool.noConfusion
        · exact hin.listed.move rfl rfl (fun pending hp => hp) hasks

/-! ### Runs -/

theorem turn_of_running (h : app.status = .running) (turn : Turn S) :
    app.turn classes G width widget turn =
      proceed (app.waiting classes G width widget turn) fun app => app.wake classes turn :=
  if_neg fun hne => hne h

/-- **One turn** is defined, and keeps the invariant. -/
theorem exists_turn (hwidget : Settled widget) (h : app.Good classes G) (turn : Turn S) :
    ∃ app', app.turn classes G width widget turn = some app' ∧ app'.Good classes G := by
  by_cases hrunning : app.status = .running
  · rw [turn_of_running hrunning]
    obtain ⟨app₁, hwaiting, hsound, hin, -⟩ := exists_waiting width hwidget h hrunning turn
    rw [hwaiting]
    by_cases hended : app₁.status = .running
    · rw [proceed_of_running hended]
      obtain ⟨app', hwake, hgood, -⟩ := exists_wake hsound (hin hended).1 hended turn
      exact ⟨app', hwake, hgood⟩
    · rw [proceed_of_ended hended]
      exact ⟨app₁, rfl, hsound, fun hr => absurd hr hended⟩
  · exact ⟨app, if_pos hrunning, h⟩

omit [WorkspaceSession S] in
/-- The loop begins in order. -/
theorem good_start (classes : CharClasses) (G : Segmentation Char) (c : WorkspaceController S) :
    (start c).Good classes G := by
  refine ⟨⟨⟨PromptText.inv_new, SessionBrowserState.sound_initial, MenuState.inRange_cleared,
    fun hopen => ?_⟩, MenuState.lists_cleared _ _⟩, fun _ => ⟨rfl, List.Sublist.refl _,
    fun _ hclean => ?_, fun hopen => ?_⟩⟩
  · simp [start, UiState.new, SessionBrowserState.initial] at hopen
  · simp [start, UiState.new] at hclean
  · simp [start, UiState.new, SessionBrowserState.initial] at hopen

variable (classes G width widget) in
/-- The loop after these turns. -/
def Ran (c : WorkspaceController S) (turns : List (Turn S)) (app : App S) : Prop :=
  Run.acceptAll (fun app turn => app.turn classes G width widget turn) (start c) turns = some app

/-- **Every run is defined,** and keeps the invariant. -/
theorem exists_ran (hwidget : Settled widget) (c : WorkspaceController S) (turns : List (Turn S)) :
    ∃ app, Ran classes G width widget c turns app ∧ app.Good classes G :=
  Run.exists_acceptAll (fun _ turn h => exists_turn hwidget h turn) (good_start classes G c) turns

theorem Ran.good (hwidget : Settled widget) {c : WorkspaceController S} {turns : List (Turn S)}
    (h : Ran classes G width widget c turns app) : app.Good classes G := by
  obtain ⟨app', hran, hgood⟩ := exists_ran hwidget c turns
  obtain rfl := Option.some.inj (h.symm.trans hran)
  exact hgood

/-- **No run of the event loop panics,** and after it the interface is sound: the selected item of
the menu is one of its items, a selector lists what fits the prompt and the catalog and the
command menu what completes the prompt, if there is one, the highlighted row of the browser is the
selected session, and nothing is typed behind the browser. -/
theorem interface_of_run (hwidget : Settled widget) (c : WorkspaceController S)
    (turns : List (Turn S)) : ∃ app, Ran classes G width widget c turns app ∧
      app.ui.Sound classes G app.projection := by
  obtain ⟨app, hran, hgood⟩ := exists_ran hwidget c turns
  exact ⟨app, hran, hgood.sound⟩

/-- **The list of the browser is never stale.**  Whenever the loop waits, a closed browser has no
list on its way; for an open one the sessions were listed last in its present mode, and either
that list is on its way or it was asked for less than a second ago. -/
theorem refreshes_of_run (hwidget : Settled widget) {c : WorkspaceController S}
    {turns : List (Turn S)} (hran : Ran classes G width widget c turns app)
    (hrunning : app.status = .running) (turn : Turn S) :
    ∃ app', app.waiting classes G width widget turn = some app' ∧
      (app'.status = .running → app'.Refreshes turn.now) := by
  obtain ⟨app', hwaiting, -, hin, -⟩ :=
    exists_waiting width hwidget (hran.good hwidget) hrunning turn
  exact ⟨app', hwaiting, fun hr => (hin hr).2.2⟩

/-- **What is seen is what is there.**  Whenever the loop waits, there is nothing left to draw,
and unless a deletion was lost the screen shows the interface and the workspace as they are. -/
theorem shown_of_run (hwidget : Settled widget) {c : WorkspaceController S}
    {turns : List (Turn S)} (hran : Ran classes G width widget c turns app)
    (hrunning : app.status = .running) (turn : Turn S) :
    ∃ app', app.waiting classes G width widget turn = some app' ∧
      (app'.status = .running → app'.ui.needsRedraw = false ∧
        (app'.NoneLost → app'.screen = some app'.view)) := by
  obtain ⟨app', hwaiting, -, hin, -⟩ :=
    exists_waiting width hwidget (hran.good hwidget) hrunning turn
  refine ⟨app', hwaiting, fun hr => ?_⟩
  obtain ⟨hin, hclean, -⟩ := hin hr
  exact ⟨hclean, fun hlost => hin.shown hlost hclean⟩

/-- **The user commands.**  In every turn of every run the workspace is asked for at most one
thing besides a list of the sessions, and that one the user asked for with the event of the turn,
in the state that the screen showed him, unless a deletion was lost; and the loop is left by him
only. -/
theorem ordered_of_run (hwidget : Settled widget) {c : WorkspaceController S}
    {turns : List (Turn S)} (hran : Ran classes G width widget c turns app)
    (hrunning : app.status = .running) (turn : Turn S) :
    ∃ app', app.turn classes G width widget turn = some app' ∧
      app.Serves classes G width widget turn app'.calls ∧
      (app'.status = .left → app.Ordered G width widget turn Quits) := by
  have hgood := hran.good hwidget
  obtain ⟨app₁, hwaiting, hsound, hin, hserves, hleft⟩ :=
    exists_waiting width hwidget hgood hrunning turn
  rw [turn_of_running hrunning, hwaiting]
  by_cases hended : app₁.status = .running
  · rw [proceed_of_running hended]
    obtain ⟨app', hwake, -, hcalls, hnot⟩ := exists_wake hsound (hin hended).1 hended turn
    exact ⟨app', hwake, hcalls ▸ hserves, fun hl => absurd hl hnot⟩
  · rw [proceed_of_ended hended]
    exact ⟨app₁, rfl, hserves, hleft⟩

end

/-! ### A run -/

/-- A list widget that keeps its offset. -/
def keepOffset (_ : ℕ) (_ : Option ℕ) (offset _ : ℕ) : ℕ := offset

theorem settled_keepOffset : Settled keepOffset := fun _ _ _ _ _ _ => rfl

/-- A workspace that answers with errors. -/
def unanswered : Answers Rpc.RpcSessionClient :=
  let error : ClientSessionError := { message := "unavailable" }
  ⟨.error error, .error error, .error error, .error error, .error error, .error error, .error error,
    .error error, .error error, .error error, .error error, ⟨"", false⟩⟩

/-- A turn with one event, and nothing else that happens. -/
def turnWith (event : TerminalEvent) : Turn Rpc.RpcSessionClient where
  first := .ok ⟨80, none, none, none⟩
  event := .ok (some event)
  answers := unanswered
  second := .ok ⟨80, none, none, none⟩
  now := 0
  polled := false
  polls := []
  refreshed := none

/-- A text that is pasted. -/
def pasted (text : String) : Turn Rpc.RpcSessionClient := turnWith (.paste text.toList)

/-- `Enter`. -/
def entered : Turn Rpc.RpcSessionClient := turnWith (.key .press .empty .enter)

/-- A run of the client that is attached to an empty session. -/
def ranAttached (turns : List (Turn Rpc.RpcSessionClient)) : Option (App Rpc.RpcSessionClient) :=
  Run.acceptAll (fun app turn =>
    app.turn asciiClasses PromptText.accents (fun _ => 1) keepOffset turn)
    (start attachedController) turns

theorem exists_ranAttached {α : Type} (turns : List (Turn Rpc.RpcSessionClient))
    (f : App Rpc.RpcSessionClient → α) (value : α) (h : (ranAttached turns).map f = some value) :
    ∃ app, Ran asciiClasses PromptText.accents (fun _ => 1) keepOffset attachedController turns
      app ∧ f app = value := by
  obtain ⟨app, hran, hvalue⟩ := Option.map_eq_some_iff.1 h
  exact ⟨app, hran, hvalue⟩

/-- `interface_of_run` where the browser was opened. -/
theorem interface_of_run_opened : ∃ app, Ran asciiClasses PromptText.accents (fun _ => 1) keepOffset
    attachedController [pasted "/sessions", entered] app ∧
      app.ui.Sound asciiClasses PromptText.accents app.projection :=
  interface_of_run settled_keepOffset attachedController [pasted "/sessions", entered]

/-- `refreshes_of_run` where the browser was opened, and its list asked for. -/
theorem refreshes_of_run_opened : ∃ app app' : App Rpc.RpcSessionClient,
    app.ui.sessionBrowser.isOpen = true ∧ app.nextBrowserRefresh = some 1000 ∧
      app.waiting asciiClasses PromptText.accents (fun _ => 1) keepOffset (pasted "title") =
        some app' ∧ (app'.status = .running → app'.Refreshes 0) := by
  obtain ⟨app, hran, hvalue⟩ := exists_ranAttached [pasted "/sessions", entered]
    (fun app => (app.status, app.ui.sessionBrowser.isOpen, app.nextBrowserRefresh))
    (.running, true, some 1000) (by decide +kernel)
  obtain ⟨app', hwaiting, hfresh⟩ := refreshes_of_run settled_keepOffset hran
    (congrArg Prod.fst hvalue) (pasted "title")
  exact ⟨app, app', congrArg (fun v => v.2.1) hvalue, congrArg (fun v => v.2.2) hvalue, hwaiting,
    hfresh⟩

/-- `shown_of_run` behind a pasted text. -/
theorem shown_of_run_pasted : ∃ app app' : App Rpc.RpcSessionClient,
    app.ui.editor.value = "hello".toList ∧
      app.waiting asciiClasses PromptText.accents (fun _ => 1) keepOffset entered = some app' ∧
      (app'.status = .running → app'.ui.needsRedraw = false ∧
        (app'.NoneLost → app'.screen = some app'.view)) := by
  obtain ⟨app, hran, hvalue⟩ := exists_ranAttached [pasted "hello"]
    (fun app => (app.status, app.ui.editor.value)) (.running, "hello".toList)
    (by decide +kernel)
  obtain ⟨app', hwaiting, hshown⟩ := shown_of_run settled_keepOffset hran
    (congrArg Prod.fst hvalue) entered
  exact ⟨app, app', congrArg Prod.snd hvalue, hwaiting, hshown⟩

/-- `ordered_of_run` where a prompt is submitted. -/
theorem ordered_of_run_submitted : ∃ app app' : App Rpc.RpcSessionClient,
    app.turn asciiClasses PromptText.accents (fun _ => 1) keepOffset entered = some app' ∧
      app'.calls = [.submit "hello".toList] ∧
      app.Serves asciiClasses PromptText.accents (fun _ => 1) keepOffset entered app'.calls ∧
      (app'.status = .left →
        app.Ordered PromptText.accents (fun _ => 1) keepOffset entered Quits) := by
  obtain ⟨app, hran, hvalue⟩ := exists_ranAttached [pasted "hello"]
    (fun app => (app.status, (app.turn asciiClasses PromptText.accents (fun _ => 1) keepOffset
      entered).map App.calls)) (.running, some [.submit "hello".toList])
    (by decide +kernel)
  obtain ⟨app', hturn, hserves, hleft⟩ := ordered_of_run settled_keepOffset hran
    (congrArg Prod.fst hvalue) entered
  have hcalls := congrArg Prod.snd hvalue
  simp only [hturn, Option.map_some, Option.some.injEq] at hcalls
  exact ⟨app, app', hturn, hcalls, hserves, hleft⟩

end App

end Client
end Moh
