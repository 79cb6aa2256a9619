/-
# What handling an event may do

One relation says what every handler of `client/app.rs` does to the application (`App.Moves`): its
interface stays sound, whatever can be seen of it is asked to be drawn, its browser asks for the
list that it needs, and the loop's own fields stay.  One lemma for each handler, and `handleEvent`
is made of them; none of them panics.

Sound is an interface whose parts agree (`UiState.Sound`): the menu lists what fits what was
typed, and while the browser is open nothing is typed and no menu is shown.
-/

import Moh.Client.App
import Moh.Client.EditorReport

namespace Moh
namespace Client

open SessionBrowserState (Does)

variable {classes : CharClasses} {G : Segmentation Char} {width : String → ℕ}
  {widget : ℕ → Option ℕ → ℕ → ℕ → ℕ}

/-! ### A sound interface -/

variable (classes) in
/-- **The menu agrees with the prompt:** a selector lists what the projection has and the prompt
matches, and the command menu the completions of the prompt.  A prompt that was sent away with
the command menu open left it behind. -/
structure MenuState.Lists (m : MenuState) (value : List Char) (p : ChatProjection) : Prop where
  closed : m.kind = none → m.items = []
  models : m.kind = some .models → m.items = modelItems classes value p
  efforts : m.kind = some .efforts → m.items = effortItems classes value p
  commands : m.kind = some .commands → m.items ≠ [] ∧ (value = [] ∨ m.items = commandItems value)

variable (G) in
/-- The parts of the interface are in order, each for itself. -/
structure UiState.Steady (ui : UiState) : Prop where
  editor : ui.editor.Inv G
  browser : ui.sessionBrowser.Sound
  menu : ui.menu.InRange
  browsing : ui.sessionBrowser.isOpen = true → ui.menu = .cleared ∧ ui.editor.value = []

variable (classes G) in
/-- **The interface is sound:** its parts are in order, and the menu agrees with the prompt and
the projection. -/
structure UiState.Sound (ui : UiState) (p : ChatProjection) : Prop extends ui.Steady G where
  lists : ui.menu.Lists classes ui.editor.value p

theorem MenuState.lists_cleared (value : List Char) (p : ChatProjection) :
    MenuState.cleared.Lists classes value p :=
  ⟨fun _ => rfl, fun h => by simp [MenuState.cleared] at h,
    fun h => by simp [MenuState.cleared] at h, fun h => by simp [MenuState.cleared] at h⟩

variable (classes) in
/-- **A refreshed menu agrees.** -/
theorem lists_refreshedMenu (value : List Char) (kind : Option MenuKind) (p : ChatProjection) :
    (refreshedMenu classes value kind p).Lists classes value p ∧
      (refreshedMenu classes value kind p).InRange := by
  have hset {kind : MenuKind} {items : List MenuItem} (hkind : kind ≠ .commands)
      (hmodels : kind = .models → items = modelItems classes value p)
      (hefforts : kind = .efforts → items = effortItems classes value p) :
      (MenuState.set kind items).Lists classes value p ∧ (MenuState.set kind items).InRange :=
    ⟨⟨fun h => by simp [MenuState.set] at h, fun h => hmodels (Option.some.inj h),
      fun h => hefforts (Option.some.inj h), fun h => absurd (Option.some.inj h) hkind⟩,
      MenuState.inRange_set _ _⟩
  have hcleared : MenuState.cleared.Lists classes value p ∧ MenuState.cleared.InRange :=
    ⟨MenuState.lists_cleared _ _, MenuState.inRange_cleared⟩
  have hcommands : (refreshedMenu classes value none p).Lists classes value p ∧
      (refreshedMenu classes value none p).InRange := by
    simp only [refreshedMenu]
    split_ifs with hslash hempty
    · exact hcleared
    · refine ⟨⟨fun h => by simp [MenuState.set] at h, fun h => by simp [MenuState.set] at h,
        fun h => by simp [MenuState.set] at h, fun _ => ⟨?_, .inr rfl⟩⟩, MenuState.inRange_set _ _⟩
      simpa [MenuState.set] using hempty
    · exact hcleared
  cases kind with
  | none => exact hcommands
  | some kind =>
    cases kind with
    | commands => exact hcommands
    | models => exact hset (by decide) (fun _ => rfl) fun h => by simp at h
    | efforts => exact hset (by decide) (fun h => by simp at h) fun _ => rfl
    | processes => exact hset (by decide) (fun h => by simp at h) fun h => by simp at h

/-- An empty prompt has no completions. -/
theorem refreshedMenu_nil {kind : Option MenuKind} (h : isSelector kind = false)
    (p : ChatProjection) : refreshedMenu classes [] kind p = .cleared := by
  cases kind with
  | none => rfl
  | some kind =>
    cases kind with
    | commands => rfl
    | _ => simp [isSelector] at h

/-- The menu depends on the models and the efforts only. -/
theorem MenuState.Lists.congr {m : MenuState} {value : List Char} {p p' : ChatProjection}
    (h : m.Lists classes value p) (hmodels : p'.availableModels = p.availableModels)
    (hefforts : p'.availableEfforts = p.availableEfforts) : m.Lists classes value p' := by
  refine ⟨h.closed, fun hk => ?_, fun hk => ?_, h.commands⟩
  · rw [h.models hk, modelItems, modelItems, hmodels]
  · rw [h.efforts hk, effortItems, effortItems, hefforts]

/-- Another item of the same menu. -/
theorem MenuState.Lists.select {m m' : MenuState} {value : List Char} {p : ChatProjection}
    (h : m.Lists classes value p) (hkind : m'.kind = m.kind) (hitems : m'.items = m.items) :
    m'.Lists classes value p := by
  refine ⟨fun hk => ?_, fun hk => ?_, fun hk => ?_, fun hk => ?_⟩ <;> rw [hkind] at hk <;>
    rw [hitems]
  · exact h.closed hk
  · exact h.models hk
  · exact h.efforts hk
  · exact h.commands hk

namespace UiState

variable {ui ui' : UiState} {p p' : ChatProjection}

/-- What concerns the prompt, the menu and the browser only. -/
theorem Sound.congr (h : ui.Sound classes G p) (heditor : ui'.editor = ui.editor)
    (hmenu : ui'.menu = ui.menu) (hbrowser : ui'.sessionBrowser = ui.sessionBrowser) :
    ui'.Sound classes G p := by
  obtain ⟨⟨he, hb, hm, hbrowsing⟩, hlists⟩ := h
  rw [← heditor] at he hbrowsing hlists
  rw [← hbrowser] at hb hbrowsing
  rw [← hmenu] at hm hbrowsing hlists
  exact ⟨⟨he, hb, hm, hbrowsing⟩, hlists⟩

/-- **The menu is refreshed.** -/
theorem sound_refreshMenu (p : ChatProjection) (heditor : ui.editor.Inv G)
    (hbrowser : ui.sessionBrowser.Sound)
    (hbrowsing : ui.sessionBrowser.isOpen = true →
      isSelector ui.menu.kind = false ∧ ui.editor.value = []) :
    (refreshMenu classes p ui).Sound classes G p := by
  obtain ⟨hlists, hrange⟩ := lists_refreshedMenu classes ui.editor.value ui.menu.kind p
  refine ⟨⟨heditor, hbrowser, hrange, fun hopen => ⟨?_, (hbrowsing hopen).2⟩⟩, hlists⟩
  obtain ⟨hselector, hnil⟩ := hbrowsing hopen
  simp only [refreshMenu, requestRedraw, hnil]
  exact refreshedMenu_nil hselector p

/-- **The selector is closed.** -/
theorem sound_closeSelector (p p' : ChatProjection) (hbrowser : ui.sessionBrowser.Sound) :
    (closeSelector classes p ui).Sound classes G p' := by
  refine ⟨⟨PromptText.inv_clear _, hbrowser, ?_, fun _ => ⟨?_, rfl⟩⟩, ?_⟩
  · exact (lists_refreshedMenu classes [] none p).2
  · exact @refreshedMenu_nil classes none rfl p
  · exact MenuState.lists_cleared _ _

/-- A selector opens where no browser is. -/
theorem sound_openSelector (p : ChatProjection) (kind : MenuKind)
    (hbrowser : ui.sessionBrowser.Sound) (hclosed : ui.sessionBrowser.isOpen = false) :
    (openSelector classes p kind ui).Sound classes G p :=
  sound_refreshMenu p (PromptText.inv_clear _) hbrowser fun hopen => by simp [hclosed] at hopen

/-- Without a menu nothing has to agree. -/
theorem Steady.sound (h : ui.Steady G) (hmenu : ui.menu = .cleared) : ui.Sound classes G p :=
  ⟨h, by rw [hmenu]; exact MenuState.lists_cleared _ _⟩

/-- **The chat changes:** the interface is reset for it. -/
theorem sound_chatTransitionReset (hbrowser : ui.sessionBrowser.Sound) (p : ChatProjection) :
    ui.chatTransitionReset.Sound classes G p := by
  refine Steady.sound ⟨PromptText.inv_clear _, ?_, MenuState.inRange_cleared, fun hopen => ?_⟩ rfl
  · exact (SessionBrowserState.sameView_close _).sound hbrowser
  · simp [chatTransitionReset, authoritativeReset, SessionBrowserState.close] at hopen

theorem Sound.setPopup (h : ui.Sound classes G p) (popup : Option PopupKind) :
    (ui.setPopup popup).Sound classes G p := by
  cases popup with
  | none => exact h.congr rfl rfl rfl
  | some popup =>
    exact Steady.sound ⟨h.editor, h.browser, MenuState.inRange_cleared,
      fun hopen => ⟨rfl, (h.browsing hopen).2⟩⟩ rfl

end UiState

/-! ### Moves -/

/-- What a browser may do: it is closed, or asks for a list, or goes on in its mode. -/
def SessionBrowserState.Asks (b b' : SessionBrowserState) : Prop :=
  b'.isOpen = false ∨ b'.refreshRequested = true ∨
    b'.isOpen = b.isOpen ∧ b'.mode = b.mode ∧ b'.refreshRequested = b.refreshRequested

namespace SessionBrowserState

variable {b b' b'' : SessionBrowserState}

theorem asks_refl (b : SessionBrowserState) : b.Asks b := .inr (.inr ⟨rfl, rfl, rfl⟩)

theorem Asks.trans (h : b.Asks b') (h' : b'.Asks b'') : b.Asks b'' := by
  rcases h' with hclosed | hasked | ⟨hopen, hmode, hrequested⟩
  · exact .inl hclosed
  · exact .inr (.inl hasked)
  · rcases h with hclosed | hasked | ⟨hopen', hmode', hrequested'⟩
    · exact .inl (hopen.trans hclosed)
    · exact .inr (.inl (hrequested.trans hasked))
    · exact .inr (.inr ⟨hopen.trans hopen', hmode.trans hmode', hrequested.trans hrequested'⟩)

/-- New rows. -/
theorem asks_of_rebuildVisible (h : b.rebuildVisible classes = some b') : b.Asks b' := by
  unfold rebuildVisible at h
  obtain ⟨visible, -, h⟩ := Option.bind_eq_some_iff.1 h
  unfold selectAgain at h
  dsimp only at h
  split at h
  · obtain ⟨row, -, h⟩ := Option.bind_eq_some_iff.1 h
    obtain rfl := Option.some.inj h
    exact .inr (.inr ⟨rfl, rfl, rfl⟩)
  · obtain rfl := Option.some.inj h
    exact .inr (.inr ⟨rfl, rfl, rfl⟩)

theorem asks_select (b : SessionBrowserState) (index : ℕ) : b.Asks (b.select index) := by
  unfold select
  split
  · exact .inr (.inr ⟨rfl, rfl, rfl⟩)
  · exact asks_refl b

/-- A search for a row to select, of which none may be found. -/
theorem asks_of_found {found : Option ℕ} {f : ℕ → ℕ}
    (h : (match found with
      | none => some b
      | some index => some (b.select (f index))) = some b') : b.Asks b' := by
  cases found with
  | none =>
    obtain rfl := Option.some.inj h
    exact asks_refl b
  | some index =>
    obtain rfl := Option.some.inj h
    exact asks_select b _

theorem asks_of_selectNext (h : b.selectNext = some b') : b.Asks b' := by
  unfold selectNext at h
  split_ifs at h
  · obtain rfl := Option.some.inj h
    exact asks_refl b
  · obtain ⟨rows, -, h⟩ := Option.bind_eq_some_iff.1 h
    exact asks_of_found (f := fun relative => b.selected + relative + 1) h

theorem asks_of_selectPrevious (h : b.selectPrevious = some b') : b.Asks b' := by
  unfold selectPrevious at h
  obtain ⟨rows, -, h⟩ := Option.bind_eq_some_iff.1 h
  exact asks_of_found (f := fun previous => previous) h

theorem asks_of_pageDown (h : b.pageDown = some b') : b.Asks b' := by
  unfold pageDown at h
  split_ifs at h
  · obtain rfl := Option.some.inj h
    exact asks_refl b
  · dsimp only at h
    obtain ⟨rows, -, h⟩ := Option.bind_eq_some_iff.1 h
    split at h
    · obtain rfl := Option.some.inj h
      exact asks_select b _
    · obtain ⟨rows, -, h⟩ := Option.bind_eq_some_iff.1 h
      split at h
      · obtain rfl := Option.some.inj h
        exact asks_select b _
      · obtain rfl := Option.some.inj h
        exact asks_refl b

theorem asks_of_pageUp (h : b.pageUp = some b') : b.Asks b' := by
  unfold pageUp at h
  split_ifs at h
  · obtain rfl := Option.some.inj h
    exact asks_refl b
  · dsimp only at h
    obtain ⟨rows, -, h⟩ := Option.bind_eq_some_iff.1 h
    split at h
    · obtain rfl := Option.some.inj h
      exact asks_select b _
    · obtain ⟨rows, -, h⟩ := Option.bind_eq_some_iff.1 h
      split at h
      · obtain rfl := Option.some.inj h
        exact asks_select b _
      · obtain rfl := Option.some.inj h
        exact asks_refl b

theorem asks_of_moveSelectable {count : ℕ} {forward : Bool}
    (h : b.moveSelectable count forward = some b') : b.Asks b' := by
  unfold moveSelectable at h
  dsimp only at h
  split at h
  · obtain rfl := Option.some.inj h
    exact asks_refl b
  · obtain ⟨index, -, h⟩ := Option.bind_eq_some_iff.1 h
    obtain rfl := Option.some.inj h
    exact asks_select b _

/-- Another layer, or none. -/
theorem asks_escape (b : SessionBrowserState) : b.Asks b.escape := by
  unfold escape
  split
  · exact .inl rfl
  · exact .inr (.inr ⟨rfl, rfl, rfl⟩)

theorem asks_startRename (b : SessionBrowserState) : b.Asks b.startRename := by
  unfold startRename
  split
  · exact .inr (.inr ⟨rfl, rfl, rfl⟩)
  · exact asks_refl b

theorem asks_startDeleteConfirmation (b : SessionBrowserState) :
    b.Asks b.startDeleteConfirmation := by
  unfold startDeleteConfirmation
  split
  · exact .inr (.inr ⟨rfl, rfl, rfl⟩)
  · exact asks_refl b

theorem asks_of_toggleMode (h : b.toggleMode classes = some b') : b.Asks b' := by
  unfold toggleMode at h
  rcases asks_of_rebuildVisible h with hclosed | hasked | ⟨-, -, hasked⟩
  · exact .inl hclosed
  · exact .inr (.inl hasked)
  · exact .inr (.inl hasked)

theorem asks_of_editQuery {query : String} {changed : Bool}
    (h : b.editQuery classes query changed = some b') : b.Asks b' := by
  have hedited : b.Asks { b with query } := .inr (.inr ⟨rfl, rfl, rfl⟩)
  unfold editQuery at h
  split_ifs at h
  · exact hedited.trans (asks_of_rebuildVisible h)
  · obtain rfl := Option.some.inj h
    exact hedited

/-- A result with an action. -/
theorem asks_of_map {action action' : BrowserAction} {result : Option SessionBrowserState}
    (h : result.map (action, ·) = some (action', b')) (hasks : result = some b' → b.Asks b') :
    b.Asks b' := by
  obtain ⟨b'', hresult, heq⟩ := Option.map_eq_some_iff.1 h
  obtain rfl := (Prod.mk.inj heq).2
  exact hasks hresult

theorem asks_of_handleListEvent {event : BrowserEvent} {edit : Edit} {action : BrowserAction}
    (h : b.handleListEvent classes event edit = some (action, b')) : b.Asks b' := by
  unfold handleListEvent at h
  split at h
  all_goals first
    | exact asks_of_map h asks_of_toggleMode
    | exact asks_of_map h asks_of_selectPrevious
    | exact asks_of_map h asks_of_selectNext
    | exact asks_of_map h asks_of_pageUp
    | exact asks_of_map h asks_of_pageDown
    | exact asks_of_map h asks_of_editQuery
    | exact asks_of_map h asks_of_moveSelectable
    | (obtain rfl := (Prod.mk.inj (Option.some.inj h)).2
       first
        | exact asks_escape b
        | exact asks_startRename b
        | exact asks_startDeleteConfirmation b
        | exact asks_refl b)

/-- **Every event of the browser.** -/
theorem asks_of_handleEvent {event : BrowserEvent} {edit : Edit} {action : BrowserAction}
    (h : b.handleEvent classes event edit = some (action, b')) : b.Asks b' := by
  unfold handleEvent at h
  have hcleared : b.Asks (if event = .other then b else { b with actionError := none }) := by
    split_ifs
    · exact asks_refl b
    · exact .inr (.inr ⟨rfl, rfl, rfl⟩)
  refine hcleared.trans ?_
  revert h
  generalize (if event = .other then b else { b with actionError := none }) = b₁
  intro h
  dsimp only at h
  split at h
  · exact asks_of_handleListEvent h
  · obtain heq := Option.some.inj h
    unfold handleRenameEvent at heq
    split at heq
    · obtain rfl := (Prod.mk.inj heq).2
      exact asks_escape b₁
    · obtain rfl := (Prod.mk.inj heq).2
      exact asks_refl b₁
    · obtain rfl := (Prod.mk.inj heq).2
      exact .inr (.inr ⟨rfl, rfl, rfl⟩)
  · obtain heq := Option.some.inj h
    unfold handleConfirmationEvent at heq
    split at heq
    all_goals
      obtain rfl := (Prod.mk.inj heq).2
      first
        | exact asks_escape b₁
        | exact asks_refl b₁

end SessionBrowserState

namespace App

variable {S : Type}

variable {app app' app'' : App S}

/-- **Every change asks to be drawn.** -/
def Redraws (app app' : App S) : Prop :=
  app'.ui.needsRedraw = false → app.ui.needsRedraw = false ∧ app'.view = app.view

theorem redraws_of_requested (h : app'.ui.needsRedraw = true) : app.Redraws app' :=
  fun hnot => by simp [h] at hnot

theorem Redraws.trans (h : app.Redraws app') (h' : app'.Redraws app'') : app.Redraws app'' :=
  fun hnot => ⟨(h (h' hnot).1).1, (h' hnot).2.trans (h (h' hnot).1).2⟩

/-- The fields of the loop that a handler leaves alone. -/
structure SameLoop (app app' : App S) : Prop where
  location : app'.machine.location = app.machine.location
  consumed : app'.machine.consumed = app.machine.consumed
  results : app'.machine.results = app.machine.results
  next : app'.nextBrowserRefresh = app.nextBrowserRefresh
  pending : app'.pendingBrowserRefresh = app.pendingBrowserRefresh
  screen : app'.screen = app.screen
  status : app'.status = app.status
  calls : app.calls <+: app'.calls

theorem sameLoop_refl (app : App S) : app.SameLoop app :=
  ⟨rfl, rfl, rfl, rfl, rfl, rfl, rfl, List.prefix_rfl⟩

theorem SameLoop.trans (h : app.SameLoop app') (h' : app'.SameLoop app'') : app.SameLoop app'' :=
  ⟨h'.location.trans h.location, h'.consumed.trans h.consumed, h'.results.trans h.results,
    h'.next.trans h.next, h'.pending.trans h.pending, h'.screen.trans h.screen,
    h'.status.trans h.status, h.calls.trans h'.calls⟩

theorem sameLoop_onUi (app : App S) (f : UiState → UiState) : app.SameLoop (app.onUi f) :=
  ⟨rfl, rfl, rfl, rfl, rfl, rfl, rfl, List.prefix_rfl⟩

theorem sameLoop_asked (app : App S) (call : Call) (c : WorkspaceController S) :
    app.SameLoop (app.asked call c) :=
  ⟨rfl, rfl, rfl, rfl, rfl, rfl, rfl, List.prefix_append _ _⟩

variable (classes G) in
/-- **What a handler does.** -/
structure Moves (app app' : App S) : Prop where
  sound : app'.ui.Sound classes G app'.projection
  redraws : app.Redraws app'
  asks : app.ui.sessionBrowser.Asks app'.ui.sessionBrowser
  loop : app.SameLoop app'

theorem Moves.trans (h : app.Moves classes G app') (h' : app'.Moves classes G app'') :
    app.Moves classes G app'' :=
  ⟨h'.sound, h.redraws.trans h'.redraws, h.asks.trans h'.asks, h.loop.trans h'.loop⟩

theorem moves_refl (h : app.ui.Sound classes G app.projection) : app.Moves classes G app :=
  ⟨h, fun hnot => ⟨hnot, rfl⟩, SessionBrowserState.asks_refl _, sameLoop_refl _⟩

/-- A change of the interface that asks to be drawn. -/
theorem moves_onUi {f : UiState → UiState} (hsound : (f app.ui).Sound classes G app.projection)
    (hrequested : (f app.ui).needsRedraw = true)
    (hasks : app.ui.sessionBrowser.Asks (f app.ui).sessionBrowser) :
    app.Moves classes G (app.onUi f) :=
  ⟨hsound, redraws_of_requested hrequested, hasks, sameLoop_onUi _ _⟩

/-- A change beside the prompt, the menu and the browser, that asks to be drawn. -/
theorem moves_beside (h : app.ui.Sound classes G app.projection) {f : UiState → UiState}
    (heditor : (f app.ui).editor = app.ui.editor) (hmenu : (f app.ui).menu = app.ui.menu)
    (hbrowser : (f app.ui).sessionBrowser = app.ui.sessionBrowser)
    (hrequested : (f app.ui).needsRedraw = true) : app.Moves classes G (app.onUi f) :=
  moves_onUi (h.congr heditor hmenu hbrowser) hrequested
    (by rw [hbrowser]; exact .inr (.inr ⟨rfl, rfl, rfl⟩))

/-- The workspace is asked, and nothing of it changes that is seen. -/
theorem moves_asked (h : app.ui.Sound classes G app.projection) (call : Call)
    {c : WorkspaceController S} (hc : c.projection = app.projection) :
    app.Moves classes G (app.asked call c) :=
  ⟨show app.ui.Sound classes G c.projection from hc ▸ h,
    fun hnot => ⟨hnot, show (app.ui.seen, c.projection) = _ by rw [hc]; rfl⟩,
    SessionBrowserState.asks_refl _, sameLoop_asked _ _ _⟩

/-- The chat changes, and the interface is reset for it. -/
theorem moves_reset (hsteady : app.ui.Steady G) (hloop : app.SameLoop app')
    (hui : app'.ui = app.ui) : app.Moves classes G (app'.onUi UiState.chatTransitionReset) := by
  refine ⟨?_, redraws_of_requested rfl, .inl rfl, hloop.trans (sameLoop_onUi _ _)⟩
  exact UiState.sound_chatTransitionReset (hui ▸ hsteady.browser) _

/-- An error is shown. -/
theorem moves_pushError (h : app.ui.Sound classes G app.projection) (notice : List Char) :
    app.Moves classes G (app.onUi (UiState.pushError notice)) := moves_beside h rfl rfl rfl rfl

/-- A notice is shown. -/
theorem moves_pushNotice (h : app.ui.Sound classes G app.projection) (notice : List Char) :
    app.Moves classes G (app.onUi (UiState.pushNotice notice)) := moves_beside h rfl rfl rfl rfl

/-- A menu or a prompt that is made anew, where no browser is open. -/
theorem moves_refreshMenu (app : App S) (hbrowser : app.ui.sessionBrowser.Sound)
    (hclosed : app.ui.sessionBrowser.isOpen = false) {f : UiState → UiState}
    (heditor : (f app.ui).editor.Inv G)
    (hsame : (f app.ui).sessionBrowser = app.ui.sessionBrowser) :
    app.Moves classes G (app.onUi fun ui => refreshMenu classes app.projection (f ui)) := by
  refine moves_onUi (UiState.sound_refreshMenu _ heditor (hsame ▸ hbrowser) fun hopen => ?_) rfl ?_
  · rw [hsame, hclosed] at hopen
    exact absurd hopen Bool.false_ne_true
  · show app.ui.sessionBrowser.Asks (f app.ui).sessionBrowser
    rw [hsame]
    exact SessionBrowserState.asks_refl _

/-- The selector is closed. -/
theorem moves_closeSelector (hbrowser : app.ui.sessionBrowser.Sound) :
    app.Moves classes G (app.onUi (closeSelector classes app.projection)) :=
  moves_onUi (UiState.sound_closeSelector _ _ hbrowser) rfl (SessionBrowserState.asks_refl _)

/-! ### The commands -/

/-- **The processes.** -/
theorem moves_openProcessSelector (h : app.ui.Sound classes G app.projection)
    (hclosed : app.ui.sessionBrowser.isOpen = false) (answers : Answers S) :
    app.Moves classes G (app.openProcessSelector classes answers) := by
  unfold App.openProcessSelector
  split_ifs with hdraft
  · have hentry : app.Moves classes G _ := moves_closeSelector h.browser
    exact hentry.trans (moves_pushNotice hentry.sound _)
  · have hasked := moves_asked h .listJobs (c := app.client) rfl
    dsimp only
    cases app.client.listJobs answers.jobs with
    | error error => exact hasked.trans (moves_pushError hasked.sound _)
    | ok jobs =>
      refine hasked.trans (moves_onUi ?_ ?_ ?_)
      · split_ifs with hempty
        · exact UiState.Steady.sound ⟨PromptText.inv_clear _, h.browser, MenuState.inRange_cleared,
            fun _ => ⟨rfl, rfl⟩⟩ rfl
        · refine ⟨⟨PromptText.inv_clear _, h.browser, MenuState.inRange_set _ _, fun hopen => ?_⟩,
            ⟨fun hk => by simp [UiState.requestRedraw, MenuState.set] at hk,
              fun hk => by simp [UiState.requestRedraw, MenuState.set] at hk,
              fun hk => by simp [UiState.requestRedraw, MenuState.set] at hk,
              fun hk => by simp [UiState.requestRedraw, MenuState.set] at hk⟩⟩
          exact absurd (hclosed.symm.trans hopen) Bool.false_ne_true
      · split_ifs <;> rfl
      · split_ifs <;> exact SessionBrowserState.asks_refl _

/-- **The end of a process.** -/
theorem moves_kill (h : app.ui.Sound classes G app.projection) (answers : Answers S)
    (job : List Char) : app.Moves classes G (app.kill answers job) := by
  unfold App.kill
  split_ifs with hdraft
  · exact moves_pushNotice h _
  · have hasked := moves_asked h (.cancelJob job) (c := app.client) rfl
    dsimp only
    cases app.client.attached answers.job with
    | error error => exact hasked.trans (moves_pushError hasked.sound _)
    | ok snapshot => exact hasked.trans (moves_pushNotice hasked.sound _)

/-- What is offered does not depend on the effort that is selected. -/
theorem offered_selectReasoning (c : WorkspaceController S) (reasoning : ReasoningLevel)
    (selected : Except ClientSessionError Unit) :
    (c.selectReasoning reasoning selected).2.projection.availableModels =
        c.projection.availableModels ∧
      (c.selectReasoning reasoning selected).2.projection.availableEfforts =
        c.projection.availableEfforts ∧
      (c.projection.isDraft = false → (c.selectReasoning reasoning selected).2.projection =
        c.projection) := by
  unfold WorkspaceController.selectReasoning
  cases hp : c.projection with
  | session snapshot =>
    simp only
    split_ifs <;> exact ⟨by rw [hp], by rw [hp], fun _ => hp⟩
  | draft draft =>
    refine ⟨?_, ?_, fun hd => by simp [ChatProjection.isDraft] at hd⟩
    · simp only
      cases hcatalog : draft.catalog <;> simp only [hp]
      split_ifs
      · simp only [ChatProjection.availableModels, ChatProjection.catalog, hcatalog]
      · rw [hp]
    · simp only
      cases hcatalog : draft.catalog <;> simp only [hp]
      split_ifs
      · simp only [ChatProjection.availableEfforts, ChatProjection.availableModels,
          ChatProjection.catalog, ChatProjection.settings, hcatalog]
      · rw [hp]

/-- A model that a session selects is not selected here. -/
theorem client_selectModel (c : WorkspaceController S) (model : String)
    (selected : Except ClientSessionError Unit) (hd : c.projection.isDraft = false) :
    (c.selectModel model selected).2.projection = c.projection := by
  unfold WorkspaceController.selectModel
  cases hp : c.projection with
  | draft draft => simp [hp, ChatProjection.isDraft] at hd
  | session snapshot =>
    simp only
    split_ifs <;> exact hp

/-- **A setting changes,** and that of a draft is shown. -/
theorem moves_settled (h : app.ui.Sound classes G app.projection) (call : Call)
    {c : WorkspaceController S} (result : Except ClientSessionError Unit)
    (hlists : app.ui.menu.Lists classes app.ui.editor.value c.projection)
    (hsession : app.projection.isDraft = false → c.projection = app.projection) :
    app.Moves classes G ((app.asked call c).settled app.projection.isDraft result) := by
  have hsound : app.ui.Sound classes G c.projection := ⟨h.toSteady, hlists⟩
  unfold App.settled
  cases result with
  | ok u =>
    simp only
    split_ifs with hdraft
    · exact ⟨hsound.congr rfl rfl rfl, redraws_of_requested rfl, SessionBrowserState.asks_refl _,
        (sameLoop_asked _ _ _).trans (sameLoop_onUi _ _)⟩
    · exact moves_asked h call (hsession (Bool.eq_false_iff.2 hdraft))
  | error error =>
    exact ⟨hsound.congr rfl rfl rfl, redraws_of_requested rfl, SessionBrowserState.asks_refl _,
      (sameLoop_asked _ _ _).trans (sameLoop_onUi _ _)⟩

/-- **The next effort.** -/
theorem moves_cycleEffort (h : app.ui.Sound classes G app.projection) (answers : Answers S) :
    app.Moves classes G (app.cycleEffort answers) := by
  unfold App.cycleEffort
  dsimp only
  split
  · exact moves_refl h
  · split
    · exact moves_refl h
    next next _ =>
      obtain ⟨hmodels, hefforts, hsession⟩ :=
        offered_selectReasoning app.client next answers.selected
      exact moves_settled h _ _ (h.lists.congr hmodels hefforts) hsession

/-- **A selection closes its selector,** whatever the menu was. -/
theorem moves_select (hbrowser : app.ui.sessionBrowser.Sound) (call : Call)
    {c : WorkspaceController S} (result : Except ClientSessionError Unit)
    (hsession : app.projection.isDraft = false → c.projection = app.projection) :
    app.Moves classes G (((app.onUi (closeSelector classes app.projection)).asked call c).settled
      app.projection.isDraft result) := by
  have hclosed : app.Moves classes G _ := moves_closeSelector hbrowser
  refine hclosed.trans (moves_settled hclosed.sound call result ?_ hsession)
  exact (UiState.sound_closeSelector (G := G) app.projection c.projection hbrowser).lists

/-- An unknown name closes its selector, and is reported. -/
theorem moves_notFound (hbrowser : app.ui.sessionBrowser.Sound) (notice : List Char) :
    app.Moves classes G
      (app.onUi fun ui => (closeSelector classes app.projection ui).pushError notice) := by
  have hclosed : app.Moves classes G _ := moves_closeSelector hbrowser
  exact hclosed.trans (moves_pushError hclosed.sound notice)

section

variable [WorkspaceSession S]

/-- A prompt that fails leaves the workspace as it is, and so does one that a session takes. -/
theorem client_submit {c c' : WorkspaceController S} {submitted : Except ClientSessionError ℕ}
    {materialized : Except ClientSessionError (S × ℕ)} {result : Except ClientSessionError ℕ}
    (h : c.submit submitted materialized = (result, c')) :
    (c.projection.isDraft = false → c' = c) ∧ ∀ error, result = .error error → c' = c := by
  unfold WorkspaceController.submit at h
  cases hp : c.projection with
  | session snapshot =>
    have hc : c' = c := by
      simp only [hp] at h
      split_ifs at h <;> exact (Prod.mk.inj h).2.symm
    exact ⟨fun _ => hc, fun _ _ => hc⟩
  | draft draft =>
    refine ⟨fun hd => by simp [ChatProjection.isDraft] at hd, fun error herror => ?_⟩
    simp only [hp] at h
    cases materialized with
    | error error' => exact (Prod.mk.inj h).2.symm
    | ok made =>
      obtain ⟨session, runId⟩ := made
      simp [herror] at h

/-- **A prompt.** -/
theorem moves_submit (h : app.ui.Sound classes G app.projection)
    (hclosed : app.ui.sessionBrowser.isOpen = false) (answers : Answers S) (text : List Char) :
    app.Moves classes G (app.submit classes G answers text) := by
  unfold App.submit
  dsimp only
  by_cases hblank : app.projection.isDraft = true ∧ Unicode.isBlank text = true
  · rw [if_pos hblank]
    exact moves_refl h
  rw [if_neg hblank]
  have hrestored : app.Moves classes G (app.onUi fun ui =>
      refreshMenu classes app.projection { ui with editor := ui.editor.setValue G text }) :=
    moves_refreshMenu app (f := fun ui => { ui with editor := ui.editor.setValue G text }) h.browser
      hclosed (PromptText.inv_setValue _ _) rfl
  by_cases hbusy : app.projection.isBusy = true
  · rw [if_pos hbusy]
    exact hrestored
  rw [if_neg hbusy]
  cases hsubmit : app.client.submit answers.submitted answers.materialized with
  | mk result c =>
    obtain ⟨hsession, hfailed⟩ := client_submit hsubmit
    cases result with
    | ok runId =>
      simp only
      split_ifs with hdraft
      · exact moves_reset h.toSteady (sameLoop_asked _ _ _) rfl
      · obtain rfl := hsession (Bool.eq_false_iff.2 hdraft)
        exact moves_asked h _ rfl
    | error error =>
      obtain rfl := hfailed error rfl
      have hasked := moves_asked h (.submit text) (c := app.client) rfl
      simp only
      split_ifs with hdraft
      · have hagain : (app.asked (.submit text) app.client).Moves classes G _ :=
          moves_refreshMenu (app.asked (.submit text) app.client)
            (f := fun ui => { ui with editor := ui.editor.setValue G text })
            h.browser hclosed (PromptText.inv_setValue _ _) rfl
        exact (hasked.trans hagain).trans (moves_pushError hagain.sound _)
      · exact hasked.trans (moves_pushError hasked.sound _)

end

variable (classes) in
/-- **The browser changes** where no menu is shown, after the workspace was asked. -/
theorem exists_moves_browser (hsteady : app.ui.Steady G) (hrequested : app.ui.needsRedraw = true)
    (hmenu : app.ui.menu = .cleared) (hnil : app.ui.editor.value = [])
    (hloop : app.SameLoop app') (hui : app'.ui = app.ui)
    {f : SessionBrowserState → Option SessionBrowserState} {b : SessionBrowserState}
    (hf : f app.ui.sessionBrowser = some b) (hsound : b.Sound)
    (hasks : app.ui.sessionBrowser.Asks b) :
    ∃ app'', app'.onBrowser f = some app'' ∧ app.Moves classes G app'' := by
  rw [← hui] at hf
  refine ⟨_, by rw [onBrowser, hf]; rfl, ?_, ?_, ?_, ?_⟩
  · refine UiState.Steady.sound ⟨?_, hsound, ?_, fun _ => ⟨?_, ?_⟩⟩ ?_
    · exact hui ▸ hsteady.editor
    · exact hui ▸ hsteady.menu
    · exact hui ▸ hmenu
    · exact hui ▸ hnil
    · exact hui ▸ hmenu
  · exact redraws_of_requested (hui ▸ hrequested)
  · exact hasks
  · exact hloop.trans ⟨rfl, rfl, rfl, rfl, rfl, rfl, rfl, List.prefix_rfl⟩

variable (classes) in
/-- An error is shown in the browser. -/
theorem exists_moves_browserError (hsteady : app.ui.Steady G)
    (hrequested : app.ui.needsRedraw = true) (hmenu : app.ui.menu = .cleared)
    (hnil : app.ui.editor.value = []) (hloop : app.SameLoop app') (hui : app'.ui = app.ui)
    (error : String) :
    ∃ app'', (app'.onBrowser fun browser => some (browser.setActionError error)) = some app'' ∧
      app.Moves classes G app'' :=
  exists_moves_browser classes hsteady hrequested hmenu hnil hloop hui rfl
    ((show app.ui.sessionBrowser.SameView (app.ui.sessionBrowser.setActionError error) from
      ⟨rfl, rfl, rfl, rfl, rfl⟩).sound hsteady.browser) (.inr (.inr ⟨rfl, rfl, rfl⟩))

variable (classes) in
/-- An error is shown at the new title. -/
theorem exists_moves_renameError (hsteady : app.ui.Steady G)
    (hrequested : app.ui.needsRedraw = true) (hmenu : app.ui.menu = .cleared)
    (hnil : app.ui.editor.value = []) (hloop : app.SameLoop app') (hui : app'.ui = app.ui)
    (error : String) :
    ∃ app'', (app'.onBrowser fun browser => some (browser.setRenameError error)) = some app'' ∧
      app.Moves classes G app'' := by
  refine exists_moves_browser classes hsteady hrequested hmenu hnil hloop hui rfl
    ((SessionBrowserState.sameView_setRenameError _ _).sound hsteady.browser) ?_
  unfold SessionBrowserState.setRenameError
  split
  · exact .inr (.inr ⟨rfl, rfl, rfl⟩)
  · exact SessionBrowserState.asks_refl _

variable (classes) in
/-- **A session is renamed.** -/
theorem exists_moves_renameSession (hsteady : app.ui.Steady G)
    (hrequested : app.ui.needsRedraw = true) (hmenu : app.ui.menu = .cleared)
    (hnil : app.ui.editor.value = []) (answers : Answers S) (id : SessionId) (title : String) :
    ∃ app', app.renameSession answers id title = some app' ∧ app.Moves classes G app' := by
  unfold App.renameSession
  cases SessionTitle.parse title with
  | none =>
    exact exists_moves_renameError classes hsteady hrequested hmenu hnil (sameLoop_refl _) rfl _
  | some title =>
    have hloop := sameLoop_asked app (.renameSession id title) app.client
    cases answers.renamed with
    | error error =>
      exact exists_moves_renameError classes hsteady hrequested hmenu hnil hloop rfl _
    | ok u =>
      refine exists_moves_browser classes hsteady hrequested hmenu hnil hloop rfl rfl
        ((SessionBrowserState.sameView_finishRename _).sound hsteady.browser) ?_
      unfold SessionBrowserState.finishRename
      split
      · exact .inr (.inl rfl)
      · exact SessionBrowserState.asks_refl _

section

variable [WorkspaceSession S]

variable (classes) in
/-- **A session is deleted.** -/
theorem exists_moves_deleteSession (hsteady : app.ui.Steady G)
    (hrequested : app.ui.needsRedraw = true) (hmenu : app.ui.menu = .cleared)
    (hnil : app.ui.editor.value = []) (answers : Answers S) (id : SessionId) :
    ∃ app', app.deleteSession classes answers id = some app' ∧ app.Moves classes G app' := by
  unfold App.deleteSession
  cases app.client.deleteSession id answers.deleted answers.opened answers.detached
    answers.startup with
  | mk result c =>
    have hloop := sameLoop_asked app (.deleteSession id) c
    cases result with
    | error error =>
      exact exists_moves_browserError classes hsteady hrequested hmenu hnil hloop rfl _
    | ok u =>
      simp only
      split_ifs with hcurrent
      · exact ⟨_, rfl, moves_reset hsteady hloop rfl⟩
      · obtain ⟨b, hb, hsound, -⟩ := @SessionBrowserState.does_step classes _ hsteady.browser
          (.finishDelete id)
        refine exists_moves_browser classes hsteady hrequested hmenu hnil hloop rfl hb hsound ?_
        rcases SessionBrowserState.asks_of_rebuildVisible hb with hclosed | hasked | ⟨-, -, hasked⟩
        · exact .inl hclosed
        · exact .inr (.inl hasked)
        · exact .inr (.inl hasked)

/-! ### The handlers -/

/-- The actions that close the selector before anything else. -/
def closes : AppAction → Bool
  | .selectModel _ => true
  | .modelNotFound _ => true
  | .selectEffort _ => true
  | .effortNotFound _ => true
  | _ => false

/-- The actions of the browser. -/
def browses : AppAction → Bool
  | .switchSession _ => true
  | .renameSession _ _ => true
  | .deleteSession _ => true
  | _ => false

variable (classes) in
/-- **Every action** is carried out without a panic. -/
theorem exists_moves_applyAction (app : App S) (hsteady : app.ui.Steady G) (answers : Answers S)
    (action : AppAction)
    (hlists : closes action = false → app.ui.menu.Lists classes app.ui.editor.value app.projection)
    (hclosed : browses action = false → app.ui.sessionBrowser.isOpen = false)
    (hbrowsing : browses action = true → app.ui.needsRedraw = true ∧ app.ui.menu = .cleared ∧
      app.ui.editor.value = []) :
    ∃ running app', app.applyAction classes G answers action = some (running, app') ∧
      app.Moves classes G app' := by
  have hsound (ha : closes action = false) : app.ui.Sound classes G app.projection :=
    ⟨hsteady, hlists ha⟩
  have hentry : app.Moves classes G _ := moves_closeSelector hsteady.browser
  have hsettings (hd : app.projection.isDraft = false) (effort : ReasoningLevel) :
      (app.client.selectReasoning effort answers.selected).2.projection = app.projection :=
    (offered_selectReasoning _ _ _).2.2 hd
  cases action with
  | none => exact ⟨true, _, rfl, moves_refl (hsound rfl)⟩
  | submit text => exact ⟨true, _, rfl, moves_submit (hsound rfl) (hclosed rfl) answers text⟩
  | cancel =>
    have h := hsound rfl
    simp only [App.applyAction]
    split_ifs with hdraft
    · exact ⟨true, _, rfl, hentry.trans (moves_pushNotice hentry.sound _)⟩
    · have hasked := moves_asked h .cancel (c := app.client) rfl
      cases app.client.attached answers.cancelled with
      | ok u => exact ⟨true, _, rfl, hasked⟩
      | error error => exact ⟨true, _, rfl, hasked.trans (moves_pushError hasked.sound _)⟩
  | openHelp =>
    exact ⟨true, _, rfl, moves_onUi ((hsound rfl).setPopup _) rfl (SessionBrowserState.asks_refl _)⟩
  | toggleSidebar => exact ⟨true, _, rfl, moves_beside (hsound rfl) rfl rfl rfl rfl⟩
  | openModelSelector =>
    exact ⟨true, _, rfl, moves_onUi (UiState.sound_openSelector _ _ hsteady.browser (hclosed rfl))
      rfl (SessionBrowserState.asks_refl _)⟩
  | openProcessSelector =>
    exact ⟨true, _, rfl, moves_openProcessSelector (hsound rfl) (hclosed rfl) answers⟩
  | prepareKill job =>
    exact ⟨true, _, rfl, moves_refreshMenu app (f := fun ui =>
      { ui with menu := .cleared, editor := ui.editor.setValue G ("/kill ".toList ++ job) })
      hsteady.browser (hclosed rfl) (PromptText.inv_setValue _ _) rfl⟩
  | selectModel model =>
    exact ⟨true, _, rfl, moves_select hsteady.browser _ _ fun hd => client_selectModel _ _ _ hd⟩
  | modelNotFound query => exact ⟨true, _, rfl, moves_notFound hsteady.browser _⟩
  | openEffortSelector =>
    exact ⟨true, _, rfl, moves_onUi (UiState.sound_openSelector _ _ hsteady.browser (hclosed rfl))
      rfl (SessionBrowserState.asks_refl _)⟩
  | selectEffort effort =>
    exact ⟨true, _, rfl, moves_select hsteady.browser _ _ fun hd => hsettings hd effort⟩
  | effortNotFound query => exact ⟨true, _, rfl, moves_notFound hsteady.browser _⟩
  | cycleEffort => exact ⟨true, _, rfl, moves_cycleEffort (hsound rfl) answers⟩
  | kill job => exact ⟨true, _, rfl, moves_kill (hsound rfl) answers job⟩
  | killUsage =>
    simp only [App.applyAction]
    split_ifs with hdraft
    · exact ⟨true, _, rfl, hentry.trans (moves_pushNotice hentry.sound _)⟩
    · exact ⟨true, _, rfl, moves_pushError (hsound rfl) _⟩
  | newDraft => exact ⟨true, _, rfl, moves_reset hsteady (sameLoop_asked _ _ _) rfl⟩
  | newUsage => exact ⟨true, _, rfl, moves_pushError (hsound rfl) _⟩
  | openSessionBrowser =>
    obtain ⟨b, hb, hbsound, -⟩ :=
      @SessionBrowserState.does_openBrowser classes _ hsteady.browser
    have hasks : app.ui.sessionBrowser.Asks b := by
      rcases SessionBrowserState.asks_of_rebuildVisible hb with hleft | hasked | ⟨-, -, hasked⟩
      · exact .inl hleft
      · exact .inr (.inl hasked)
      · exact .inr (.inl hasked)
    obtain ⟨app', happ, hmoves⟩ := exists_moves_browser classes
      hentry.sound.toSteady rfl (@refreshedMenu_nil classes none rfl app.projection) rfl
      (sameLoop_refl _) rfl hb hbsound hasks
    exact ⟨true, app', by rw [App.applyAction, happ]; rfl, hentry.trans hmoves⟩
  | switchSession id =>
    obtain ⟨hrequested, hmenu, hnil⟩ := hbrowsing rfl
    simp only [App.applyAction]
    cases hswitch : app.client.switchSession id answers.opened answers.detached with
    | mk result c =>
      have hloop := sameLoop_asked app (.switchSession id) c
      cases result with
      | ok u => exact ⟨true, _, rfl, moves_reset hsteady hloop rfl⟩
      | error error =>
        obtain ⟨app', happ, hmoves⟩ := exists_moves_browserError classes hsteady
          hrequested hmenu hnil hloop rfl (errorLine error.message)
        exact ⟨true, app', by simp only [happ, Option.map_some], hmoves⟩
  | renameSession id title =>
    obtain ⟨hrequested, hmenu, hnil⟩ := hbrowsing rfl
    obtain ⟨app', happ, hmoves⟩ := exists_moves_renameSession classes hsteady
      hrequested hmenu hnil answers id title
    exact ⟨true, app', by rw [App.applyAction, happ]; rfl, hmoves⟩
  | deleteSession id =>
    obtain ⟨hrequested, hmenu, hnil⟩ := hbrowsing rfl
    obtain ⟨app', happ, hmoves⟩ := exists_moves_deleteSession classes hsteady
      hrequested hmenu hnil answers id
    exact ⟨true, app', by rw [App.applyAction, happ]; rfl, hmoves⟩
  | exit => exact ⟨false, _, rfl, moves_refl (hsound rfl)⟩

variable (classes G) in
/-- A handler that does not panic, and what it did. -/
def Handles (app : App S) (result : Option (Bool × App S)) : Prop :=
  ∃ running app', result = some (running, app') ∧ app.Moves classes G app'

/-- An action that is not the browser's, where no browser is open. -/
theorem handles_applyAction (h : app.ui.Sound classes G app.projection)
    (hclosed : app.ui.sessionBrowser.isOpen = false) (answers : Answers S) {action : AppAction}
    (ha : browses action = false) :
    app.Handles classes G (app.applyAction classes G answers action) :=
  exists_moves_applyAction classes app h.toSteady answers action (fun _ => h.lists)
    (fun _ => hclosed) fun hb => absurd (ha.symm.trans hb) Bool.false_ne_true

/-- The item of a menu is not the browser's. -/
theorem browses_menuAction (kind : Option MenuKind) (value : List Char) :
    browses (menuAction kind value) = false := by
  unfold menuAction
  split
  · unfold commandAction
    split_ifs
    · rfl
    · split
      · rfl
      · split <;> rfl
  · rfl
  · split <;> rfl
  · rfl
  · rfl

/-- Nor is what is submitted. -/
theorem browses_resolveSubmission (ui : UiState) (p : ChatProjection) (text : List Char) :
    browses (resolveSubmission classes ui p text) = false := by
  have hmodel (query : List Char) : browses (resolveModel classes p query) = false := by
    unfold resolveModel
    split <;> rfl
  have heffort (query text : List Char) : browses (resolveEffort p query text) = false := by
    unfold resolveEffort
    split <;> rfl
  have hcommand : browses (resolveCommand classes p text) = false := by
    unfold resolveCommand
    dsimp only
    split_ifs
    all_goals first
      | rfl
      | (split
         · exact hmodel _
         · first
           | rfl
           | (split
              · exact heffort _ _
              · first
                | rfl
                | split <;> rfl))
  unfold resolveSubmission
  split
  · exact hmodel _
  · exact heffort _ _
  · rfl
  · exact hcommand

/-- **The menu.** -/
theorem handles_menuEvent (h : app.ui.Sound classes G app.projection)
    (hclosed : app.ui.sessionBrowser.isOpen = false) (answers : Answers S)
    (modifiers : EditorModifiers) (code : TerminalKey) :
    app.handleMenuEvent classes G answers modifiers code = some none ∨
      ∃ result, app.handleMenuEvent classes G answers modifiers code = some (some result) ∧
        app.Handles classes G (some result) := by
  have hsame : app.Handles classes G (some (true, app)) := ⟨true, app, rfl, moves_refl h⟩
  have hselect {m : MenuState} (hkind : m.kind = app.ui.menu.kind)
      (hitems : m.items = app.ui.menu.items) (hrange : m.InRange) :
      app.Moves classes G (app.onUi fun ui => { ui with menu := m }.requestRedraw) := by
    refine moves_onUi ⟨⟨h.editor, h.browser, hrange, fun hopen => ?_⟩, h.lists.select hkind hitems⟩
      rfl (SessionBrowserState.asks_refl _)
    exact absurd (hclosed.symm.trans hopen) Bool.false_ne_true
  unfold App.handleMenuEvent
  by_cases hopen : app.ui.menu.isOpen = false
  · rw [if_pos hopen]
    exact .inl rfl
  · rw [if_neg hopen]
    cases code with
    | up =>
      simp only
      split_ifs
      · refine .inr ⟨_, rfl, true, _, rfl, hselect ?_ ?_ h.menu.selectPrevious⟩ <;>
          unfold MenuState.selectPrevious <;> split_ifs <;> rfl
      · exact .inr ⟨_, rfl, hsame⟩
    | down =>
      simp only
      split_ifs
      · refine .inr ⟨_, rfl, true, _, rfl, hselect ?_ ?_ h.menu.selectNext⟩ <;>
          unfold MenuState.selectNext <;> split_ifs <;> rfl
      · exact .inr ⟨_, rfl, hsame⟩
    | tab =>
      simp only
      split_ifs
      · exact .inl rfl
      · cases app.ui.menu.selectedValue with
        | none => exact .inr ⟨_, rfl, hsame⟩
        | some value =>
          exact .inr ⟨_, rfl, true, _, rfl, moves_refreshMenu app
            (f := fun ui => { ui with editor := ui.editor.setValue G value })
            h.browser hclosed (PromptText.inv_setValue _ _) rfl⟩
    | enter =>
      simp only
      split_ifs
      · exact .inl rfl
      · cases app.ui.menu.selectedValue with
        | none => exact .inr ⟨_, rfl, hsame⟩
        | some value =>
          obtain ⟨running, app', happ, hmoves⟩ := handles_applyAction h hclosed answers
            (browses_menuAction app.ui.menu.kind value)
          exact .inr ⟨_, by simp only [happ, Option.map_some], running, app', rfl, hmoves⟩
    | _ => exact .inl rfl

/-- **The browser.** -/
theorem handles_browser (h : app.ui.Sound classes G app.projection)
    (hopen : app.ui.sessionBrowser.isOpen = true) (answers : Answers S) (event : TerminalEvent) :
    app.Handles classes G (app.handleBrowser classes G answers event) := by
  obtain ⟨hmenu, hnil⟩ := h.browsing hopen
  obtain ⟨b, hb, hsound, -⟩ := @SessionBrowserState.does_handleEvent classes _ h.browser
    event.browserEvent answers.edit
  obtain ⟨⟨action, b'⟩, hevent, rfl⟩ := Option.map_eq_some_iff.1 hb
  have hsteady : ({ app.ui with sessionBrowser := b' } : UiState).requestRedraw.Steady G :=
    ⟨h.editor, hsound, h.menu, fun _ => ⟨hmenu, hnil⟩⟩
  have hmoves : app.Moves classes G
      (app.onUi fun ui => { ui with sessionBrowser := b' }.requestRedraw) :=
    moves_onUi (hsteady.sound hmenu) rfl (SessionBrowserState.asks_of_handleEvent hevent)
  have happly {action : AppAction} (ha : browses action = true) (hc : closes action = false) :
      app.Handles classes G
        ((app.onUi fun ui => { ui with sessionBrowser := b' }.requestRedraw).applyAction classes G
          answers action) := by
    obtain ⟨running, app', happ, hmoves'⟩ := exists_moves_applyAction classes
      (app.onUi fun ui => ({ ui with sessionBrowser := b' } : UiState).requestRedraw) hsteady
      answers action (fun _ => hmoves.sound.lists) (fun hb => absurd (ha.symm.trans hb) (by decide))
      fun _ => ⟨rfl, hmenu, hnil⟩
    exact ⟨running, app', happ, hmoves.trans hmoves'⟩
  simp only [App.handleBrowser, hevent, Option.bind_eq_bind, Option.bind_some]
  cases action with
  | none => exact ⟨true, _, rfl, hmoves⟩
  | refresh => exact ⟨true, _, rfl, hmoves⟩
  | switch id => exact happly rfl rfl
  | rename id title => exact happly rfl rfl
  | delete id => exact happly rfl rfl

/-- **The editor,** where no browser is open. -/
theorem handles_editor (h : app.ui.Sound classes G app.projection)
    (hclosed : app.ui.sessionBrowser.isOpen = false) (answers : Answers S)
    (event : TerminalEvent) :
    app.Handles classes G (app.handleEditor classes G width answers event) := by
  obtain ⟨outcome, editor, hevent, hinv⟩ :=
    @PromptText.keeps_handleEvent G width _ h.editor event.editorEvent
  have hreports := PromptText.reports_of_handleEvent h.editor hevent
  have hunchanged (heq : editor = app.ui.editor) :
      app.Handles classes G (some (true, app.onUi fun ui => { ui with editor })) := by
    subst heq
    exact ⟨true, _, rfl, moves_refl h⟩
  unfold App.handleEditor
  cases outcome with
  | ignored =>
    simp only [hevent]
    exact hunchanged hreports
  | consumed =>
    simp only [hevent]
    exact hunchanged hreports
  | changed =>
    simp only [hevent]
    exact ⟨true, _, rfl, moves_refreshMenu app (f := fun ui => { ui with editor }) h.browser hclosed
      hinv rfl⟩
  | submitted text =>
    simp only [hevent]
    obtain ⟨-, rfl⟩ := hreports
    -- the prompt is gone, and with it what a selector listed for it
    have hsteady :
        ({ app.ui with editor := app.ui.editor.clear } : UiState).requestRedraw.Steady G :=
      ⟨PromptText.inv_clear _, h.browser, h.menu,
        fun hopen => absurd (hclosed.symm.trans hopen) Bool.false_ne_true⟩
    have happlied := exists_moves_applyAction classes
      (app.onUi fun ui => ({ ui with editor := ui.editor.clear } : UiState).requestRedraw)
      hsteady answers (resolveSubmission classes
        ({ app.ui with editor := app.ui.editor.clear }.requestRedraw) app.projection text)
      (fun hc => ?_) (fun _ => hclosed)
      fun hb => absurd ((browses_resolveSubmission _ _ _).symm.trans hb) Bool.false_ne_true
    · obtain ⟨running, app', happ, hmoves⟩ := happlied
      refine ⟨running, app', happ, hmoves.sound, ?_, hmoves.asks,
        (sameLoop_onUi _ _).trans hmoves.loop⟩
      exact fun hnot => absurd (hmoves.redraws hnot).1 (by simp [onUi, UiState.requestRedraw])
    · have hkind : app.ui.menu.kind ≠ some .models ∧ app.ui.menu.kind ≠ some .efforts := by
        constructor <;> intro hkind <;>
          simp only [resolveSubmission, UiState.requestRedraw, hkind] at hc
        · unfold resolveModel at hc
          split at hc <;> simp [closes] at hc
        · unfold resolveEffort at hc
          split at hc <;> simp [closes] at hc
      exact ⟨h.lists.closed, fun hk => absurd hk hkind.1, fun hk => absurd hk hkind.2,
        fun hk => ⟨(h.lists.commands hk).1, .inl rfl⟩⟩

/-- **The prompt,** under a popup or not. -/
theorem handles_prompt (h : app.ui.Sound classes G app.projection)
    (hclosed : app.ui.sessionBrowser.isOpen = false) (answers : Answers S)
    (event : TerminalEvent) :
    app.Handles classes G (app.handlePrompt classes G width answers event) := by
  unfold App.handlePrompt
  split_ifs
  · exact ⟨true, app, rfl, moves_refl h⟩
  · cases event with
    | key kind modifiers code =>
      rcases handles_menuEvent h hclosed answers modifiers code with
        hnone | ⟨result, hsome, hhandles⟩
      · simp only [hnone]
        exact handles_editor h hclosed answers _
      · simp only [hsome]
        exact hhandles
    | _ => exact handles_editor h hclosed answers _

/-- **The keys of the selectors.** -/
theorem handles_selectors (h : app.ui.Sound classes G app.projection)
    (hclosed : app.ui.sessionBrowser.isOpen = false) (answers : Answers S)
    (event : TerminalEvent) :
    app.Handles classes G (app.handleSelectors classes G width answers event) := by
  have hsame : app.Handles classes G (some (true, app)) := ⟨true, app, rfl, moves_refl h⟩
  unfold App.handleSelectors
  dsimp only
  split_ifs
  · exact hsame
  · exact handles_applyAction h hclosed answers rfl
  · exact hsame
  · exact handles_applyAction h hclosed answers rfl
  · exact hsame
  · exact handles_applyAction h hclosed answers rfl
  · exact handles_prompt h hclosed answers event

/-- **The keys of the transcript.** -/
theorem handles_chat (h : app.ui.Sound classes G app.projection)
    (hclosed : app.ui.sessionBrowser.isOpen = false) (answers : Answers S)
    (event : TerminalEvent) :
    app.Handles classes G (app.handleChat classes G width answers event) := by
  have hscrolled (f : TranscriptScroll → TranscriptScroll) :
      app.Handles classes G (some (true, app.scrolled f)) :=
    ⟨true, _, rfl, moves_beside h rfl rfl rfl rfl⟩
  unfold App.handleChat
  split_ifs
  · exact hscrolled _
  · exact hscrolled _
  · exact hscrolled _
  · exact hscrolled _
  · exact hscrolled _
  · exact ⟨true, _, rfl, moves_closeSelector h.browser⟩
  · exact handles_applyAction h hclosed answers rfl
  · exact handles_selectors h hclosed answers event

variable (width) in
/-- **Every event of the terminal** is handled without a panic. -/
theorem handles_event (h : app.ui.Sound classes G app.projection) (answers : Answers S)
    (event : TerminalEvent) :
    app.Handles classes G (app.handleEvent classes G width answers event) := by
  unfold App.handleEvent
  split_ifs with hrelease hquit hresize hopen
  · exact ⟨true, app, rfl, moves_refl h⟩
  · exact ⟨false, app, rfl, moves_refl h⟩
  · exact ⟨true, _, rfl, moves_beside h rfl rfl rfl rfl⟩
  · exact handles_browser h hopen answers event
  · exact handles_applyAction h (by simpa using hopen) answers rfl
  · exact handles_applyAction h (by simpa using hopen) answers rfl
  · exact ⟨true, _, rfl, moves_onUi (h.setPopup none) rfl (SessionBrowserState.asks_refl _)⟩
  · exact handles_chat h (by simpa using hopen) answers event

end

end App
end Client
end Moh
