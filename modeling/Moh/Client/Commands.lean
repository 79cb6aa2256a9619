/-
# What the user asks for

The workspace is asked by the actions of `apply_action` only, each at most once (`callsOf`), and
an action is the answer to an event.  So whatever the loop asks of the workspace, but for the
lists of the browser, the user asked for with the event at hand (`App.Commands`): a prompt is
what stood in the editor when Enter was pressed, a session is deleted where its deletion was to
be confirmed, a model is one of the catalog, by its identifier or by the line that the menu
shows of it, and while the help is shown or the browser is open the chat is asked for nothing.
-/

import Moh.Client.Handled

namespace Moh
namespace Client

variable {classes : CharClasses} {G : Segmentation Char} {width : String → ℕ}

namespace App

variable {S : Type} {app app' : App S}

/-- A command is entered: picked from its menu, or typed where no selector is open. -/
def Enters (app : App S) (text : String) : Prop :=
  app.ui.menu.kind = some .commands ∧ app.ui.menu.selectedValue = some text.toList ∨
    isSelector app.ui.menu.kind = false ∧ Unicode.trim app.ui.editor.value = text.toList

variable (classes) in
/-- What the chat asks for with an event. -/
def ChatCommands (app : App S) (event : TerminalEvent) : Call → Prop
  | .submit text => event.isKey .enter = true ∧ text = app.ui.editor.value ∧
      isSelector app.ui.menu.kind = false ∧ app.projection.isBusy = false ∧
      (app.projection.isDraft = true → Unicode.isBlank text = false) ∧
      resolveCommand classes app.projection text = .submit text
  | .cancel => app.projection.isDraft = false ∧
      (event.isKey .esc = true ∧ app.projection.isBusy = true ∨
        event.isKey .enter = true ∧ app.Enters "/cancel")
  | .selectModel model => event.isKey .enter = true ∧ ∃ info ∈ app.projection.availableModels,
      model = info.id ∨ model = String.ofList (sanitizeLine info.id.toList)
  | .selectReasoning reasoning => (event.isKey .enter = true ∨ event.isShiftTab = true) ∧
      reasoning ∈ app.projection.availableEfforts
  | .listJobs => app.projection.isDraft = false ∧ event.isKey .enter = true ∧ app.Enters "/ps"
  | .cancelJob id => app.projection.isDraft = false ∧ event.isKey .enter = true ∧
      isSelector app.ui.menu.kind = false ∧ ∃ query, id = Unicode.trim query ∧
        stripPrefix "/kill ".toList (Unicode.trim app.ui.editor.value) = some query
  | .newDraft => event.isKey .enter = true ∧ app.Enters "/new"
  | _ => False

/-- What the browser asks for with an event. -/
def BrowserCommands (b : SessionBrowserState) (event : BrowserEvent) : Call → Prop
  | .switchSession id => b.layer = .list ∧ event = .key .none .enter ∧ b.highlighted = some id
  | .renameSession id title => event = .key .none .enter ∧ ∃ text error,
      b.layer = .rename id text error ∧ SessionTitle.parse text = some title
  | .deleteSession id => (∃ title, b.layer = .confirmDelete id title) ∧
      (event = .key .none .enter ∨ event = .key .none (.char 'y') ∨ event = .key .none (.char 'Y'))
  | _ => False

variable (classes) in
/-- **What an event asks for,** in the state that it meets: nothing is asked of the chat behind
the browser or the help. -/
def Commands (app : App S) (event : TerminalEvent) (call : Call) : Prop :=
  if app.ui.sessionBrowser.isOpen = true then
    BrowserCommands app.ui.sessionBrowser event.browserEvent call
  else app.ui.popup = none ∧ app.ChatCommands classes event call

/-- **What ends the loop.** -/
def Quits (app : App S) (event : TerminalEvent) : Prop :=
  event.controlShortcut 'c' = true ∨
    event.isKey .enter = true ∧ (app.Enters "/quit" ∨ app.Enters "/exit")

/-! ### The calls of an action -/

/-- The effort behind the present one. -/
def nextEffort (p : ChatProjection) : Option ReasoningLevel :=
  (p.availableEfforts.findIdx? fun effort => effort = p.settings.reasoning).bind fun position =>
    p.availableEfforts[(position + 1) % p.availableEfforts.length]?

/-- What an action asks of the workspace. -/
def callsOf (p : ChatProjection) : AppAction → List Call
  | .submit text =>
    if p.isDraft ∧ Unicode.isBlank text then [] else if p.isBusy then [] else [.submit text]
  | .cancel => if p.isDraft then [] else [.cancel]
  | .openProcessSelector => if p.isDraft then [] else [.listJobs]
  | .selectModel model => [.selectModel model]
  | .selectEffort effort => [.selectReasoning effort]
  | .cycleEffort => (nextEffort p).toList.map Call.selectReasoning
  | .kill job => if p.isDraft then [] else [.cancelJob job]
  | .newDraft => [.newDraft]
  | .switchSession id => [.switchSession id]
  | .renameSession id title => (SessionTitle.parse title).toList.map (Call.renameSession id)
  | .deleteSession id => [.deleteSession id]
  | _ => []

/-- At most one. -/
theorem length_callsOf_le (p : ChatProjection) (action : AppAction) :
    (callsOf p action).length ≤ 1 := by
  have htoList {α β : Type} (o : Option α) (f : α → β) : (o.toList.map f).length ≤ 1 := by
    cases o <;> simp
  have hif {P : Prop} [Decidable P] {calls : List Call} (h : calls.length ≤ 1) :
      (if P then [] else calls).length ≤ 1 := by
    split_ifs
    · exact Nat.zero_le _
    · exact h
  cases action with
  | submit text => exact hif (hif le_rfl)
  | cancel => exact hif le_rfl
  | openProcessSelector => exact hif le_rfl
  | kill job => exact hif le_rfl
  | cycleEffort => exact htoList _ _
  | renameSession id title => exact htoList _ _
  | _ => first | exact Nat.zero_le _ | exact le_rfl

/-- The browser is changed beside what was asked. -/
theorem calls_onBrowser {f : SessionBrowserState → Option SessionBrowserState}
    (h : app.onBrowser f = some app') : app'.calls = app.calls := by
  obtain ⟨b, -, rfl⟩ := Option.map_eq_some_iff.1 h
  rfl

theorem calls_settled (app : App S) (draft : Bool) (result : Except ClientSessionError Unit) :
    (app.settled draft result).calls = app.calls := by
  unfold settled
  cases result with
  | ok u =>
    simp only
    split_ifs <;> rfl
  | error error => rfl

theorem calls_cycleEffort (app : App S) (answers : Answers S) :
    (app.cycleEffort answers).calls = app.calls ++ callsOf app.projection .cycleEffort := by
  unfold App.cycleEffort callsOf nextEffort
  dsimp only
  split
  next hnone => simp [hnone]
  next position hposition =>
    simp only [hposition, Option.bind_some]
    split
    next hnone => simp [hnone]
    next next hnext =>
      simp only [hnext, Option.toList_some, List.map_cons, List.map_nil]
      exact calls_settled _ _ _

section

variable [WorkspaceSession S]

theorem calls_submit (app : App S) (answers : Answers S) (text : List Char) :
    (app.submit classes G answers text).calls =
      app.calls ++ callsOf app.projection (.submit text) := by
  unfold App.submit callsOf
  dsimp only
  by_cases hblank : app.projection.isDraft = true ∧ Unicode.isBlank text = true
  · rw [if_pos hblank, if_pos hblank, List.append_nil]
  rw [if_neg hblank, if_neg hblank]
  by_cases hbusy : app.projection.isBusy = true
  · rw [if_pos hbusy, if_pos hbusy, List.append_nil]
    rfl
  rw [if_neg hbusy, if_neg hbusy]
  cases app.client.submit answers.submitted answers.materialized with
  | mk result c =>
    cases result with
    | ok runId =>
      simp only
      split_ifs <;> rfl
    | error error =>
      simp only
      split_ifs <;> rfl

/-- **The calls that an action makes.** -/
theorem calls_applyAction {answers : Answers S} {action : AppAction} {running : Bool}
    (h : app.applyAction classes G answers action = some (running, app')) :
    app'.calls = app.calls ++ callsOf app.projection action := by
  have hsame {app₁ : App S} (hcalls : app₁.calls = app.calls ++ callsOf app.projection action)
      (h : some (true, app₁) = some (running, app')) :
      app'.calls = app.calls ++ callsOf app.projection action := by
    obtain rfl := (Prod.mk.inj (Option.some.inj h)).2
    exact hcalls
  have hbrowser {app₁ : App S} {f : SessionBrowserState → Option SessionBrowserState}
      (hcalls : app₁.calls = app.calls ++ callsOf app.projection action)
      (h : (app₁.onBrowser f).map (true, ·) = some (running, app')) :
      app'.calls = app.calls ++ callsOf app.projection action := by
    obtain ⟨app₂, happ, heq⟩ := Option.map_eq_some_iff.1 h
    obtain rfl := (Prod.mk.inj heq).2
    exact (calls_onBrowser happ).trans hcalls
  have hnil : app.calls = app.calls ++ [] := (List.append_nil _).symm
  cases action with
  | submit text => exact hsame (calls_submit app answers text) h
  | cycleEffort => exact hsame (calls_cycleEffort app answers) h
  | selectModel model => exact hsame (calls_settled _ _ _) h
  | selectEffort effort => exact hsame (calls_settled _ _ _) h
  | cancel =>
    simp only [App.applyAction] at h
    split_ifs at h with hdraft
    · exact hsame (by simp [onUi, callsOf, hdraft]) h
    · cases hresult : app.client.attached answers.cancelled with
      | ok u =>
        simp only [hresult] at h
        exact hsame (by simp [asked, callsOf, hdraft]) h
      | error error =>
        simp only [hresult] at h
        exact hsame (by simp [asked, onUi, callsOf, hdraft]) h
  | openProcessSelector =>
    refine hsame ?_ h
    unfold App.openProcessSelector
    dsimp only [callsOf]
    by_cases hdraft : app.projection.isDraft = true
    · rw [if_pos hdraft, if_pos hdraft]
      exact hnil
    · rw [if_neg hdraft, if_neg hdraft]
      cases app.client.listJobs answers.jobs with
      | ok jobs => rfl
      | error error => rfl
  | kill job =>
    refine hsame ?_ h
    unfold App.kill
    dsimp only [callsOf]
    by_cases hdraft : app.projection.isDraft = true
    · rw [if_pos hdraft, if_pos hdraft]
      exact hnil
    · rw [if_neg hdraft, if_neg hdraft]
      cases app.client.attached answers.job with
      | ok snapshot => rfl
      | error error => rfl
  | newDraft =>
    simp only [App.applyAction] at h
    split at h
    · exact hsame rfl h
    · exact hsame rfl h
  | switchSession id =>
    simp only [App.applyAction] at h
    split at h
    · exact hsame rfl h
    · exact hbrowser rfl h
  | renameSession id title =>
    simp only [App.applyAction] at h
    unfold App.renameSession at h
    cases hparse : SessionTitle.parse title with
    | none =>
      simp only [hparse] at h
      exact hbrowser (by simp [callsOf, hparse]) h
    | some title =>
      simp only [hparse] at h
      cases hrenamed : answers.renamed with
      | ok u =>
        simp only [hrenamed] at h
        exact hbrowser (by simp [asked, callsOf, hparse]) h
      | error error =>
        simp only [hrenamed] at h
        exact hbrowser (by simp [asked, callsOf, hparse]) h
  | deleteSession id =>
    simp only [App.applyAction] at h
    unfold App.deleteSession at h
    dsimp only at h
    split at h
    · split_ifs at h
      · exact hsame rfl h
      · exact hbrowser rfl h
    · exact hbrowser rfl h
  | openSessionBrowser =>
    refine hbrowser ?_ h
    exact hnil
  | killUsage =>
    simp only [App.applyAction] at h
    split_ifs at h
    · refine hsame ?_ h
      exact hnil
    · refine hsame ?_ h
      exact hnil
  | exit =>
    obtain rfl := (Prod.mk.inj (Option.some.inj h)).2
    exact hnil
  | _ =>
    refine hsame ?_ h
    exact hnil

/-- **Only one action ends the loop.** -/
theorem eq_exit_of_applyAction {answers : Answers S} {action : AppAction}
    (h : app.applyAction classes G answers action = some (false, app')) : action = .exit := by
  have hmap {result : Option (App S)} : result.map (true, ·) ≠ some (false, app') := by
    cases result <;> simp
  cases action with
  | exit => rfl
  | cancel =>
    simp only [App.applyAction] at h
    split_ifs at h
    · simp at h
    · split at h <;> simp at h
  | newDraft =>
    simp only [App.applyAction] at h
    split at h <;> simp at h
  | switchSession id =>
    simp only [App.applyAction] at h
    split at h
    · simp at h
    · exact absurd h hmap
  | renameSession id title => exact absurd h hmap
  | deleteSession id => exact absurd h hmap
  | openSessionBrowser => exact absurd h hmap
  | killUsage =>
    simp only [App.applyAction] at h
    split_ifs at h <;> simp at h
  | _ => simp [App.applyAction] at h

end

/-! ### What an event chooses -/

/-- The commands of the menu. -/
theorem commands_commandAction {event : TerminalEvent} {value : List Char} {call : Call}
    (hkey : event.isKey .enter = true) (hkind : app.ui.menu.kind = some .commands)
    (hvalue : app.ui.menu.selectedValue = some value)
    (hcall : call ∈ callsOf app.projection (commandAction value)) :
    app.ChatCommands classes event call := by
  have henters {text : String} (htext : text.toList = value) : app.Enters text :=
    .inl ⟨hkind, by rw [htext, hvalue]⟩
  have hdrafted {only : Call} (h : call ∈ if app.projection.isDraft then [] else [only]) :
      app.projection.isDraft = false ∧ call = only := by
    split_ifs at h with hdraft
    · simp at h
    · exact ⟨Bool.eq_false_iff.2 hdraft, List.mem_singleton.1 h⟩
  unfold commandAction at hcall
  split_ifs at hcall
  · simp [callsOf] at hcall
  · cases hfind : commands.find? fun command => command.name.toList = value with
    | none => simp [hfind, callsOf] at hcall
    | some command =>
      have hname : command.name.toList = value := by simpa using List.find?_some hfind
      have hmem := List.mem_of_find?_eq_some hfind
      simp only [hfind] at hcall
      simp only [commands, List.mem_cons, List.not_mem_nil, or_false] at hmem
      rcases hmem with rfl | rfl | rfl | rfl | rfl | rfl | rfl | rfl
      · simp [callsOf] at hcall
      · obtain ⟨hdraft, rfl⟩ := hdrafted hcall
        exact ⟨hdraft, .inr ⟨hkey, henters hname⟩⟩
      · simp [callsOf] at hcall
      · simp [callsOf] at hcall
      · obtain ⟨hdraft, rfl⟩ := hdrafted hcall
        exact ⟨hdraft, hkey, henters hname⟩
      · simp [callsOf] at hcall
      · obtain rfl := List.mem_singleton.1 hcall
        exact ⟨hkey, henters hname⟩
      · simp [callsOf] at hcall

/-- The command that ends the loop, from the menu. -/
theorem enters_of_menuAction {value : List Char}
    (hvalue : app.ui.menu.selectedValue = some value)
    (h : menuAction app.ui.menu.kind value = .exit) : app.Enters "/quit" ∨ app.Enters "/exit" := by
  cases hkind : app.ui.menu.kind with
  | none => simp [hkind, menuAction] at h
  | some kind =>
    have henters {text : String} (hcommands : kind = .commands) (htext : text.toList = value) :
        app.Enters text := .inl ⟨by rw [hkind, hcommands], by rw [htext, hvalue]⟩
    rw [hkind] at h
    cases kind with
    | commands =>
      simp only [menuAction, commandAction] at h
      split_ifs at h with hexit
      · exact .inr (henters rfl hexit.symm)
      · cases hfind : commands.find? fun command => command.name.toList = value with
        | none => simp [hfind] at h
        | some command =>
          have hname : command.name.toList = value := by simpa using List.find?_some hfind
          have hmem := List.mem_of_find?_eq_some hfind
          simp only [hfind] at h
          simp only [commands, List.mem_cons, List.not_mem_nil, or_false] at hmem
          rcases hmem with rfl | rfl | rfl | rfl | rfl | rfl | rfl | rfl
          · exact .inl (henters rfl hname)
          all_goals simp at h
    | models => simp [menuAction] at h
    | efforts =>
      simp only [menuAction] at h
      split at h <;> simp at h
    | processes => simp [menuAction] at h

/-- A model that the selector lists is one of the catalog. -/
theorem exists_of_mem_modelItems {value : List Char} {p : ChatProjection} {item : MenuItem}
    (h : item ∈ modelItems classes value p) :
    ∃ info ∈ p.availableModels, item.value = sanitizeLine info.id.toList := by
  obtain ⟨info, hinfo, rfl⟩ := List.mem_map.1 h
  refine ⟨info, ?_, rfl⟩
  unfold matchingModels at hinfo
  dsimp only at hinfo
  split_ifs at hinfo
  · exact hinfo
  · obtain ⟨entry, hentry, rfl⟩ := List.mem_map.1 hinfo
    rw [Ranking.sortByKeyDesc, List.mem_mergeSort] at hentry
    obtain ⟨info, hmem, hscore⟩ := List.mem_filterMap.1 hentry
    obtain ⟨score, -, rfl⟩ := Option.map_eq_some_iff.1 hscore
    exact hmem

/-- An effort is read back from its name. -/
theorem mem_of_mem_effortItems {value : List Char} {p : ChatProjection} {item : MenuItem}
    (h : item ∈ effortItems classes value p) {effort : ReasoningLevel}
    (hparse : ReasoningLevel.parse (String.ofList item.value) = some effort) :
    effort ∈ p.availableEfforts := by
  obtain ⟨listed, hlisted, rfl⟩ := List.mem_map.1 h
  have hround : ReasoningLevel.parse
      (String.ofList (sanitizeLine listed.asStr.toList)) = some listed := by
    cases listed <;> decide
  obtain rfl := Option.some.inj (hround.symm.trans hparse)
  exact (List.mem_filter.1 hlisted).1

/-- **The item of a menu.** -/
theorem commands_menuAction {event : TerminalEvent} {value : List Char} {call : Call}
    (h : app.ui.Sound classes G app.projection) (hkey : event.isKey .enter = true)
    (hvalue : app.ui.menu.selectedValue = some value)
    (hcall : call ∈ callsOf app.projection (menuAction app.ui.menu.kind value)) :
    app.ChatCommands classes event call := by
  obtain ⟨item, hitem, rfl⟩ := Option.map_eq_some_iff.1 hvalue
  have hmem := List.mem_of_getElem? hitem
  cases hkind : app.ui.menu.kind with
  | none => simp [hkind, menuAction, callsOf] at hcall
  | some kind =>
    rw [hkind] at hcall
    cases kind with
    | commands => exact commands_commandAction hkey hkind hvalue hcall
    | models =>
      obtain rfl := List.mem_singleton.1 hcall
      rw [h.lists.models hkind] at hmem
      obtain ⟨info, hinfo, hvalue⟩ := exists_of_mem_modelItems hmem
      exact ⟨hkey, info, hinfo, .inr (by rw [hvalue])⟩
    | efforts =>
      simp only [menuAction] at hcall
      cases hparse : ReasoningLevel.parse (String.ofList item.value) with
      | none => simp [hparse, callsOf] at hcall
      | some effort =>
        simp only [hparse] at hcall
        obtain rfl := List.mem_singleton.1 hcall
        rw [h.lists.efforts hkind] at hmem
        exact ⟨.inl hkey, mem_of_mem_effortItems hmem hparse⟩
    | processes => simp [menuAction, callsOf] at hcall

/-- A model that is named is one of the catalog. -/
theorem mem_of_bestModelMatch {query : String} {models : List ModelInfoDto} {model : ModelInfoDto}
    (h : bestModelMatch classes query models = some model) : model ∈ models := by
  unfold bestModelMatch at h
  dsimp only at h
  split_ifs at h
  obtain ⟨entry, hentry, rfl⟩ := Option.map_eq_some_iff.1 h
  rw [Ranking.maxByKey_eq] at hentry
  have hleader := List.mem_of_getLast? hentry
  have hscored : entry ∈ scored classes (normalizeModelQuery classes query) models :=
    (List.mem_filter.1 hleader).1
  obtain ⟨info, hmem, hscore⟩ := List.mem_filterMap.1 hscored
  obtain ⟨score, -, rfl⟩ := Option.map_eq_some_iff.1 hscore
  exact hmem

theorem commands_resolveModel {event : TerminalEvent} {query : List Char} {call : Call}
    (hkey : event.isKey .enter = true)
    (hcall : call ∈ callsOf app.projection (resolveModel classes app.projection query)) :
    app.ChatCommands classes event call := by
  unfold resolveModel at hcall
  split at hcall
  · simp [callsOf] at hcall
  next model hbest =>
    obtain rfl := List.mem_singleton.1 hcall
    exact ⟨hkey, model, mem_of_bestModelMatch hbest, .inl rfl⟩

theorem commands_resolveEffort {event : TerminalEvent} {query text : List Char} {call : Call}
    (hkey : event.isKey .enter = true)
    (hcall : call ∈ callsOf app.projection (resolveEffort app.projection query text)) :
    app.ChatCommands classes event call := by
  unfold resolveEffort at hcall
  split at hcall
  · simp [callsOf] at hcall
  next effort hsupported =>
    obtain rfl := List.mem_singleton.1 hcall
    obtain ⟨-, hcontains⟩ := Option.filter_eq_some_iff.1 hsupported
    exact ⟨.inl hkey, List.contains_iff_mem.1 hcontains⟩

/-- **A line that was typed.** -/
theorem commands_resolveCommand {event : TerminalEvent} {call : Call}
    (hkey : event.isKey .enter = true) (hkind : isSelector app.ui.menu.kind = false)
    (hcall : call ∈ callsOf app.projection
      (resolveCommand classes app.projection app.ui.editor.value)) :
    app.ChatCommands classes event call := by
  have hnot {action : AppAction} (hempty : callsOf app.projection action = [])
      (h : call ∈ callsOf app.projection action) : app.ChatCommands classes event call := by
    rw [hempty] at h
    exact absurd h List.not_mem_nil
  have hdrafted {only : Call} (h : call ∈ if app.projection.isDraft then [] else [only]) :
      app.projection.isDraft = false ∧ call = only := by
    split_ifs at h with hdraft
    · simp at h
    · exact ⟨Bool.eq_false_iff.2 hdraft, List.mem_singleton.1 h⟩
  generalize haction : resolveCommand classes app.projection app.ui.editor.value = action at hcall
  have hresolved := haction
  unfold resolveCommand at haction
  dsimp only at haction
  split at haction
  · exact hnot rfl (haction ▸ hcall)
  split at haction
  next hcancel =>
    subst haction
    obtain ⟨hdraft, rfl⟩ := hdrafted hcall
    exact ⟨hdraft, .inr ⟨hkey, .inr ⟨hkind, hcancel⟩⟩⟩
  split at haction
  next hnew =>
    subst haction
    obtain rfl := List.mem_singleton.1 hcall
    exact ⟨hkey, .inr ⟨hkind, hnew⟩⟩
  split at haction
  · exact hnot rfl (haction ▸ hcall)
  split at haction
  · exact hnot rfl (haction ▸ hcall)
  split at haction
  · exact hnot rfl (haction ▸ hcall)
  split at haction
  · exact commands_resolveModel hkey (haction ▸ hcall)
  split at haction
  · exact hnot rfl (haction ▸ hcall)
  split at haction
  · exact commands_resolveEffort hkey (haction ▸ hcall)
  split at haction
  next hprocesses =>
    subst haction
    obtain ⟨hdraft, rfl⟩ := hdrafted hcall
    exact ⟨hdraft, hkey, .inr ⟨hkind, hprocesses⟩⟩
  split at haction
  · exact hnot rfl (haction ▸ hcall)
  split at haction
  next job hjob =>
    subst haction
    obtain ⟨hdraft, rfl⟩ := hdrafted hcall
    exact ⟨hdraft, hkey, hkind, job, rfl, hjob⟩
  -- none of the commands: a prompt
  subst haction
  simp only [callsOf] at hcall
  split_ifs at hcall with hblank hbusy
  · simp at hcall
  · simp at hcall
  · obtain rfl := List.mem_singleton.1 hcall
    refine ⟨hkey, rfl, hkind, Bool.eq_false_iff.2 hbusy, fun hdraft => ?_, hresolved⟩
    exact Bool.eq_false_iff.2 fun h => hblank ⟨hdraft, h⟩

/-- **What was submitted.** -/
theorem commands_resolveSubmission {event : TerminalEvent} {ui : UiState} {call : Call}
    (hkey : event.isKey .enter = true) (hmenu : ui.menu = app.ui.menu)
    (hcall : call ∈ callsOf app.projection
      (resolveSubmission classes ui app.projection app.ui.editor.value)) :
    app.ChatCommands classes event call := by
  unfold resolveSubmission at hcall
  rw [hmenu] at hcall
  split at hcall
  · exact commands_resolveModel hkey hcall
  · exact commands_resolveEffort hkey hcall
  · simp [callsOf] at hcall
  next hmodels hefforts hprocesses =>
    refine commands_resolveCommand hkey ?_ hcall
    simpa [isSelector] using ⟨⟨hmodels, hefforts⟩, hprocesses⟩

/-- The command that ends the loop, from the prompt. -/
theorem enters_of_resolveSubmission {ui : UiState} (hmenu : ui.menu = app.ui.menu)
    (h : resolveSubmission classes ui app.projection app.ui.editor.value = .exit) :
    app.Enters "/quit" ∨ app.Enters "/exit" := by
  have hmodel (query : List Char) : resolveModel classes app.projection query ≠ .exit := by
    unfold resolveModel
    split <;> simp
  have heffort (query text : List Char) : resolveEffort app.projection query text ≠ .exit := by
    unfold resolveEffort
    split <;> simp
  unfold resolveSubmission at h
  rw [hmenu] at h
  split at h
  · exact absurd h (hmodel _)
  · exact absurd h (heffort _ _)
  · simp at h
  next hmodels hefforts hprocesses =>
    have hkind : isSelector app.ui.menu.kind = false := by
      simpa [isSelector] using ⟨⟨hmodels, hefforts⟩, hprocesses⟩
    unfold resolveCommand at h
    dsimp only at h
    split at h
    next hexit =>
      exact hexit.imp (fun htext => .inr ⟨hkind, htext⟩) fun htext => .inr ⟨hkind, htext⟩
    · repeat' split at h
      all_goals first
        | exact absurd h (hmodel _)
        | exact absurd h (heffort _ _)
        | simp at h

/-! ### The handlers -/

section

variable [WorkspaceSession S]

variable (classes) in
/-- What a handler asks of the workspace is what the event asks for, and it ends the loop if the
event does. -/
def Obeys (app : App S) (event : TerminalEvent) (result : Option (Bool × App S)) : Prop :=
  ∀ running app', result = some (running, app') →
    (∃ added, app'.calls = app.calls ++ added ∧ added.length ≤ 1 ∧
      ∀ call ∈ added, app.Commands classes event call) ∧
    (running = false → app.Quits event)

omit [WorkspaceSession S] in
/-- Where nothing is asked. -/
theorem obeys_of_calls {event : TerminalEvent} (h : app'.calls = app.calls) :
    app.Obeys classes event (some (true, app')) := by
  intro running' app'' heq
  obtain ⟨rfl, rfl⟩ := Prod.mk.inj (Option.some.inj heq)
  exact ⟨⟨[], by rw [h, List.append_nil], Nat.zero_le _, by simp⟩, fun h => by simp at h⟩

/-- An action that the event chose. -/
theorem obeys_applyAction {event : TerminalEvent} (hcalls : app'.calls = app.calls)
    (hprojection : app'.projection = app.projection) (answers : Answers S) {action : AppAction}
    (hchosen : ∀ call ∈ callsOf app.projection action, app.Commands classes event call)
    (hexit : action = .exit → app.Quits event) :
    app.Obeys classes event (app'.applyAction classes G answers action) := by
  intro running app'' h
  refine ⟨⟨callsOf app.projection action, ?_, length_callsOf_le _ _, hchosen⟩, fun hended => ?_⟩
  · rw [calls_applyAction h, hcalls, hprojection]
  · subst hended
    exact hexit (eq_exit_of_applyAction h)

/-- One of the chat, where neither the browser nor the help is in front of it. -/
theorem obeys_chatAction {event : TerminalEvent}
    (hclosed : app.ui.sessionBrowser.isOpen = false) (hpopup : app.ui.popup = none)
    (hcalls : app'.calls = app.calls) (hprojection : app'.projection = app.projection)
    (answers : Answers S) {action : AppAction}
    (hchosen : ∀ call ∈ callsOf app.projection action, app.ChatCommands classes event call)
    (hexit : action = .exit → app.Quits event) :
    app.Obeys classes event (app'.applyAction classes G answers action) := by
  refine obeys_applyAction hcalls hprojection answers (fun call hcall => ?_) hexit
  rw [Commands, if_neg (by rw [hclosed]; exact Bool.false_ne_true)]
  exact ⟨hpopup, hchosen call hcall⟩

/-- **The menu.** -/
theorem obeys_menuEvent (h : app.ui.Sound classes G app.projection)
    (hclosed : app.ui.sessionBrowser.isOpen = false) (hpopup : app.ui.popup = none)
    (answers : Answers S) {kind : KeyEventKind} {modifiers : EditorModifiers} {code : TerminalKey}
    {result : Bool × App S}
    (hresult : app.handleMenuEvent classes G answers modifiers code = some (some result)) :
    app.Obeys classes (.key kind modifiers code) (some result) := by
  have hsame {app₁ : App S} (hcalls : app₁.calls = app.calls)
      (heq : some (some (true, app₁)) = some (some result)) :
      app.Obeys classes (.key kind modifiers code) (some result) := by
    rw [← Option.some.inj heq]
    exact obeys_of_calls hcalls
  unfold handleMenuEvent at hresult
  by_cases hopen : app.ui.menu.isOpen = false
  · rw [if_pos hopen] at hresult
    simp at hresult
  rw [if_neg hopen] at hresult
  cases code with
  | up =>
    simp only at hresult
    split_ifs at hresult
    · refine hsame ?_ hresult
      rfl
    · exact hsame rfl hresult
  | down =>
    simp only at hresult
    split_ifs at hresult
    · refine hsame ?_ hresult
      rfl
    · exact hsame rfl hresult
  | tab =>
    simp only at hresult
    split_ifs at hresult
    · simp at hresult
    split at hresult
    · exact hsame rfl hresult
    · refine hsame ?_ hresult
      rfl
  | enter =>
    simp only at hresult
    split_ifs at hresult
    · simp at hresult
    split at hresult
    · exact hsame rfl hresult
    next value hvalue =>
      obtain ⟨result', happ, heq⟩ := Option.map_eq_some_iff.1 hresult
      obtain rfl := Option.some.inj heq
      rw [← happ]
      exact obeys_chatAction hclosed hpopup rfl rfl answers
        (fun call hcall => commands_menuAction h rfl hvalue hcall)
        fun hexit => .inr ⟨rfl, enters_of_menuAction hvalue hexit⟩
  | _ => simp at hresult

/-- **The editor.** -/
theorem obeys_editor (h : app.ui.Sound classes G app.projection)
    (hclosed : app.ui.sessionBrowser.isOpen = false) (hpopup : app.ui.popup = none)
    (answers : Answers S) (event : TerminalEvent) :
    app.Obeys classes event (app.handleEditor classes G width answers event) := by
  unfold handleEditor
  split
  · intro running app' hnone
    simp at hnone
  · exact obeys_of_calls rfl
  next text editor hevent =>
    obtain ⟨rfl, -⟩ := PromptText.reports_of_handleEvent h.editor hevent
    have hkey : event.isKey .enter = true := by
      obtain ⟨kind, modifiers, heq⟩ := PromptText.enter_of_submitted hevent
      cases event with
      | key kind' modifiers' code =>
        cases code with
        | enter => rfl
        | _ => cases heq
      | _ => cases heq
    dsimp only
    refine obeys_chatAction hclosed hpopup ?_ ?_ answers (fun call hcall => ?_) fun hexit => ?_
    · rfl
    · rfl
    · refine commands_resolveSubmission hkey ?_ hcall
      rfl
    · refine .inr ⟨hkey, enters_of_resolveSubmission ?_ hexit⟩
      rfl
  · exact obeys_of_calls rfl

/-- **The prompt,** under a popup or not. -/
theorem obeys_prompt (h : app.ui.Sound classes G app.projection)
    (hclosed : app.ui.sessionBrowser.isOpen = false) (answers : Answers S)
    (event : TerminalEvent) :
    app.Obeys classes event (app.handlePrompt classes G width answers event) := by
  unfold handlePrompt
  split_ifs with hpopup
  · exact obeys_of_calls rfl
  have hnone : app.ui.popup = none := by simpa using hpopup
  cases event with
  | key kind modifiers code =>
    simp only
    split
    · intro running app' hnone
      simp at hnone
    next result hresult => exact obeys_menuEvent h hclosed hnone answers hresult
    · exact obeys_editor h hclosed hnone answers _
  | _ => exact obeys_editor h hclosed hnone answers _

/-- **The keys of the selectors.** -/
theorem obeys_selectors (h : app.ui.Sound classes G app.projection)
    (hclosed : app.ui.sessionBrowser.isOpen = false) (answers : Answers S)
    (event : TerminalEvent) :
    app.Obeys classes event (app.handleSelectors classes G width answers event) := by
  unfold handleSelectors
  dsimp only
  -- the guard keeps the keys from the chat behind the help
  have hpopup (hguard : ¬(app.projection.isBusy || app.ui.popup = some .help ||
      app.ui.menu.kind = some .processes) = true) : app.ui.popup = none := by
    cases hp : app.ui.popup with
    | none => rfl
    | some popup =>
      cases popup
      simp [hp] at hguard
  split_ifs with hmodels hguard hefforts hguard hshift hguard
  · exact obeys_of_calls rfl
  · exact obeys_chatAction hclosed (hpopup hguard) rfl rfl answers (by simp [callsOf]) (by simp)
  · exact obeys_of_calls rfl
  · exact obeys_chatAction hclosed (hpopup hguard) rfl rfl answers (by simp [callsOf]) (by simp)
  · exact obeys_of_calls rfl
  · refine obeys_chatAction hclosed (hpopup hguard) rfl rfl answers (fun call hcall => ?_) (by simp)
    obtain ⟨next, hnext, rfl⟩ := List.mem_map.1 hcall
    obtain ⟨position, -, hnext⟩ := Option.bind_eq_some_iff.1 (Option.mem_toList.1 hnext)
    exact ⟨.inr hshift, List.mem_of_getElem? hnext⟩
  · exact obeys_prompt h hclosed answers event

/-- **The keys of the transcript.** -/
theorem obeys_chat (h : app.ui.Sound classes G app.projection)
    (hclosed : app.ui.sessionBrowser.isOpen = false) (answers : Answers S)
    (event : TerminalEvent) (hpopup : event.isKey .esc = true → app.ui.popup = none) :
    app.Obeys classes event (app.handleChat classes G width answers event) := by
  unfold handleChat
  split_ifs with _ _ _ _ _ _ hcancel
  · exact obeys_of_calls rfl
  · exact obeys_of_calls rfl
  · exact obeys_of_calls rfl
  · exact obeys_of_calls rfl
  · exact obeys_of_calls rfl
  · exact obeys_of_calls rfl
  · obtain ⟨hesc, hbusy⟩ := hcancel
    refine obeys_chatAction hclosed (hpopup hesc) rfl rfl answers (fun call hcall => ?_) (by simp)
    simp only [callsOf] at hcall
    split_ifs at hcall with hdraft
    · simp at hcall
    · obtain rfl := List.mem_singleton.1 hcall
      exact ⟨Bool.eq_false_iff.2 hdraft, .inl ⟨hesc, hbusy⟩⟩
  · exact obeys_selectors h hclosed answers event

/-- The actions of the list open the highlighted session only. -/
theorem browserCommands_of_handleListEvent {b b' : SessionBrowserState} (h : b.Sound)
    (hlayer : b.layer = .list) {event : BrowserEvent} {edit : Edit} {action : BrowserAction}
    (hevent : b.handleListEvent classes event edit = some (action, b')) :
    action = .none ∨ action = .refresh ∨ ∃ id, action = .switch id ∧
      BrowserCommands b event (.switchSession id) := by
  have hmap {action' : BrowserAction} {result : Option SessionBrowserState}
      (ha : action' = .none ∨ action' = .refresh)
      (h : result.map (action', ·) = some (action, b')) : action = .none ∨ action = .refresh := by
    obtain ⟨b'', -, heq⟩ := Option.map_eq_some_iff.1 h
    rwa [← (Prod.mk.inj heq).1]
  have hquiet (h : action = .none ∨ action = .refresh) : action = .none ∨ action = .refresh ∨
      ∃ id, action = .switch id ∧ BrowserCommands b event (.switchSession id) :=
    h.imp_right .inl
  have hfixed {b₁ : SessionBrowserState} (h : some (BrowserAction.none, b₁) = some (action, b')) :
      action = .none ∨ action = .refresh := .inl (Prod.mk.inj (Option.some.inj h)).1.symm
  unfold SessionBrowserState.handleListEvent at hevent
  split at hevent
  · exact hquiet (hfixed hevent)
  · exact hquiet (hmap (.inr rfl) hevent)
  · exact hquiet (hmap (.inl rfl) hevent)
  · exact hquiet (hmap (.inl rfl) hevent)
  · exact hquiet (hmap (.inl rfl) hevent)
  · exact hquiet (hmap (.inl rfl) hevent)
  · have haction := (Prod.mk.inj (Option.some.inj hevent)).1
    rcases h.synchronized with ⟨-, hnone⟩ | ⟨id, hid, hrow, -⟩
    · rw [hnone] at haction
      exact .inl haction.symm
    · rw [hid] at haction
      exact .inr (.inr ⟨id, haction.symm, hlayer, rfl, hrow⟩)
  · exact hquiet (hfixed hevent)
  · exact hquiet (hfixed hevent)
  · exact hquiet (hfixed hevent)
  · exact hquiet (hmap (.inl rfl) hevent)
  · exact hquiet (hmap (.inl rfl) hevent)
  · exact hquiet (hmap (.inl rfl) hevent)
  · exact hquiet (hmap (.inl rfl) hevent)
  · exact hquiet (hfixed hevent)

/-- What the browser is to do, as an action of the application. -/
def browserAction : BrowserAction → AppAction
  | .switch id => .switchSession id
  | .rename id title => .renameSession id title
  | .delete id => .deleteSession id
  | _ => .none

/-- **The actions of the browser.** -/
theorem browserCommands_of_handleEvent {b b' : SessionBrowserState} (h : b.Sound)
    {event : BrowserEvent} {edit : Edit} {action : BrowserAction}
    (hevent : b.handleEvent classes event edit = some (action, b')) {p : ChatProjection}
    {call : Call} (hcall : call ∈ callsOf p (browserAction action)) :
    BrowserCommands b event call := by
  obtain ⟨b₁, hb₁, hview, hlayer⟩ : ∃ b₁, (if event = .other then b else
      { b with actionError := none }) = b₁ ∧ b.SameView b₁ ∧ b₁.layer = b.layer := by
    refine ⟨_, rfl, ?_, ?_⟩ <;> split_ifs
    · exact b.sameView_refl
    · exact ⟨rfl, rfl, rfl, rfl, rfl⟩
    · rfl
    · rfl
  have hsound := hview.sound h
  rw [SessionBrowserState.handleEvent, hb₁] at hevent
  cases hl : b₁.layer with
  | list =>
    simp only [hl] at hevent
    rcases browserCommands_of_handleListEvent hsound hl hevent with
      rfl | rfl | ⟨id, rfl, -, he, hrow⟩
    · simp [browserAction, callsOf] at hcall
    · simp [browserAction, callsOf] at hcall
    · obtain rfl := List.mem_singleton.1 hcall
      refine ⟨hlayer.symm.trans hl, he, ?_⟩
      rwa [SessionBrowserState.highlighted, hview.visible, hview.selected] at hrow
  | rename id text error =>
    simp only [hl, Option.some.injEq] at hevent
    unfold SessionBrowserState.handleRenameEvent at hevent
    split at hevent
    · obtain rfl := (Prod.mk.inj hevent).1
      simp [browserAction, callsOf] at hcall
    · obtain rfl := (Prod.mk.inj hevent).1
      obtain ⟨title, htitle, rfl⟩ := List.mem_map.1 hcall
      exact ⟨rfl, text, error, hlayer.symm.trans hl, Option.mem_toList.1 htitle⟩
    · obtain rfl := (Prod.mk.inj hevent).1
      simp [browserAction, callsOf] at hcall
  | confirmDelete id title =>
    simp only [hl, Option.some.injEq] at hevent
    have hconfirmed : ∃ title, b.layer = .confirmDelete id title := ⟨title, hlayer.symm.trans hl⟩
    unfold SessionBrowserState.handleConfirmationEvent at hevent
    split at hevent
    all_goals obtain rfl := (Prod.mk.inj hevent).1
    · simp [browserAction, callsOf] at hcall
    · simp [browserAction, callsOf] at hcall
    · simp [browserAction, callsOf] at hcall
    · obtain rfl := List.mem_singleton.1 hcall
      exact ⟨hconfirmed, .inl rfl⟩
    · obtain rfl := List.mem_singleton.1 hcall
      exact ⟨hconfirmed, .inr (.inl rfl)⟩
    · obtain rfl := List.mem_singleton.1 hcall
      exact ⟨hconfirmed, .inr (.inr rfl)⟩
    · simp [browserAction, callsOf] at hcall

/-- **The browser.** -/
theorem obeys_browser (h : app.ui.Sound classes G app.projection)
    (hopen : app.ui.sessionBrowser.isOpen = true) (answers : Answers S) (event : TerminalEvent) :
    app.Obeys classes event (app.handleBrowser classes G answers event) := by
  unfold handleBrowser
  cases hevent : app.ui.sessionBrowser.handleEvent classes event.browserEvent answers.edit with
  | none =>
    intro running app' hnone
    simp at hnone
  | some result =>
    obtain ⟨action, b'⟩ := result
    have hchosen : ∀ call ∈ callsOf app.projection (browserAction action),
        app.Commands classes event call := fun call hcall => by
      rw [Commands, if_pos hopen]
      exact browserCommands_of_handleEvent h.browser hevent hcall
    simp only [Option.bind_eq_bind, Option.bind_some]
    cases action with
    | none => exact obeys_of_calls rfl
    | refresh => exact obeys_of_calls rfl
    | switch id =>
      refine obeys_applyAction ?_ ?_ answers hchosen (by simp)
      · rfl
      · rfl
    | rename id title =>
      refine obeys_applyAction ?_ ?_ answers hchosen (by simp)
      · rfl
      · rfl
    | delete id =>
      refine obeys_applyAction ?_ ?_ answers hchosen (by simp)
      · rfl
      · rfl

variable (width) in
/-- **Every event** makes at most one call, and one that it asks for. -/
theorem obeys_event (h : app.ui.Sound classes G app.projection) (answers : Answers S)
    (event : TerminalEvent) :
    app.Obeys classes event (app.handleEvent classes G width answers event) := by
  unfold handleEvent
  split_ifs with hrelease hquit hresize hopen hhelp hsidebar hpopup
  · exact obeys_of_calls rfl
  · intro running app' heq
    obtain ⟨rfl, rfl⟩ := Prod.mk.inj (Option.some.inj heq)
    exact ⟨⟨[], (List.append_nil _).symm, Nat.zero_le _, by simp⟩, fun _ => .inl hquit⟩
  · exact obeys_of_calls rfl
  · exact obeys_browser h hopen answers event
  · exact obeys_applyAction rfl rfl answers (by simp [callsOf]) (by simp)
  · exact obeys_applyAction rfl rfl answers (by simp [callsOf]) (by simp)
  · exact obeys_of_calls rfl
  · refine obeys_chat h (by simpa using hopen) answers event fun hesc => ?_
    by_contra hsome
    exact hpopup ⟨hesc, Option.isSome_iff_ne_none.2 hsome⟩

end

end App
end Client
end Moh
