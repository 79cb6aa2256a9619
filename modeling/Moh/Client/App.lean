/-
# The event loop of the terminal client

`client/app.rs`.  A turn of `run_event_loop` draws if something changed, handles an event of the
terminal, draws again, decides whether the sessions are to be listed, and waits: for the
list, for an update of the workspace, or for the next frame.  A command of the user is awaited
to its end; `next_update` is started anew in every turn, and dropped when something else is
first.

The workspace is the controller of `Moh.Client.Controller`, with a log of what was asked of
it.  A run of turns may end: by the user, or by an error.  `none` is a panic.  What the terminal
makes of a frame and what an edit makes of the text in a field of the browser are inputs.
-/

import Moh.Client.Controller
import Moh.Client.Ui
import Moh.Session.Schema

namespace Moh
namespace Client

/-! ### Commands -/

/-- `CommandAction`. -/
inductive CommandAction where
  | quit
  | cancel
  | model
  | effort
  | processes
  | kill
  | new
  | sessions
deriving DecidableEq, Repr

/-- `CommandSpec`. -/
structure CommandSpec where
  name : String
  description : String
  action : CommandAction
deriving DecidableEq, Repr

/-- `COMMANDS`. -/
def commands : List CommandSpec :=
  [⟨"/quit", "Exit moh", .quit⟩,
    ⟨"/cancel", "Cancel the active request", .cancel⟩,
    ⟨"/model", "Change the active model", .model⟩,
    ⟨"/effort", "Change the reasoning effort", .effort⟩,
    ⟨"/ps", "Show running background processes", .processes⟩,
    ⟨"/kill", "Terminate a background process", .kill⟩,
    ⟨"/new", "Open a new ephemeral chat", .new⟩,
    ⟨"/sessions", "Browse saved sessions", .sessions⟩]

/-- `AppAction`. -/
inductive AppAction where
  | none
  | submit (text : List Char)
  | cancel
  | openHelp
  | toggleSidebar
  | openModelSelector
  | openProcessSelector
  | prepareKill (job : List Char)
  | selectModel (model : String)
  | modelNotFound (query : List Char)
  | openEffortSelector
  | selectEffort (effort : ReasoningLevel)
  | effortNotFound (query : List Char)
  | cycleEffort
  | kill (job : List Char)
  | killUsage
  | newDraft
  | newUsage
  | openSessionBrowser
  | switchSession (sessionId : SessionId)
  | renameSession (sessionId : SessionId) (title : String)
  | deleteSession (sessionId : SessionId)
  | exit
deriving DecidableEq

/-- The name under which a command is completed: `/exit` is another one for `/quit`. -/
def completionName (value : List Char) (command : CommandSpec) : String :=
  if command.action = .quit ∧ "/e".toList <+: value then "/exit" else command.name

/-- The completions of a command, as the menu lists them. -/
def commandItems (value : List Char) : List MenuItem :=
  commands.filterMap fun command =>
    if value <+: (completionName value command).toList then
      some (.new (completionName value command) command.description)
    else none

/-- `command_action`. -/
def commandAction (value : List Char) : AppAction :=
  if value = "/exit".toList then .exit
  else
    match commands.find? fun command => command.name.toList = value with
    | none => .none
    | some command =>
      match command.action with
      | .quit => .exit
      | .cancel => .cancel
      | .model => .openModelSelector
      | .effort => .openEffortSelector
      | .processes => .openProcessSelector
      | .kill => .killUsage
      | .new => .newDraft
      | .sessions => .openSessionBrowser

/-- `str::strip_prefix`. -/
def stripPrefix (pre text : List Char) : Option (List Char) :=
  if pre <+: text then some (text.drop pre.length) else none

/-! ### What is read of the projection -/

namespace ChatProjection

/-- `catalog`. -/
def catalog : ChatProjection → ModelCatalogState
  | .draft state => state.catalog
  | .session snapshot => snapshot.catalog

/-- `settings`. -/
def settings : ChatProjection → SessionSettings
  | .draft state => state.settings
  | .session snapshot => snapshot.settings

/-- `is_draft`. -/
def isDraft : ChatProjection → Bool
  | .draft _ => true
  | .session _ => false

/-- `is_busy`. -/
def isBusy : ChatProjection → Bool
  | .draft _ => false
  | .session snapshot => snapshot.busy

/-- `current_cwd`. -/
def currentCwd : ChatProjection → List UInt8
  | .draft state => state.cwd
  | .session snapshot => snapshot.summary.cwd

/-- `current_session_id`. -/
def currentSessionId : ChatProjection → Option SessionId
  | .draft _ => none
  | .session snapshot => some snapshot.summary.id

/-- `available_models`. -/
def availableModels (p : ChatProjection) : List ModelInfoDto :=
  match p.catalog with
  | .ready models => models
  | _ => []

/-- `available_efforts`. -/
def availableEfforts (p : ChatProjection) : List ReasoningLevel :=
  match p.availableModels.find? fun model => model.id == p.settings.model with
  | none => []
  | some model => model.reasoningEfforts

/-- `running_jobs`. -/
def runningJobs : ChatProjection → List JobSnapshotDto
  | .draft _ => []
  | .session snapshot => snapshot.jobs.filter fun job => job.state = .running

end ChatProjection

/-! ### What was typed -/

section Submission

variable (classes : CharClasses)

/-- The effort that a text names, if the active model has it. -/
def supportedEffort (p : ChatProjection) (query : List Char) : Option ReasoningLevel :=
  (ReasoningLevel.parse (String.ofList query)).filter p.availableEfforts.contains

/-- `resolve_submission` for the model selector, and for `/model` with a name. -/
def resolveModel (p : ChatProjection) (query : List Char) : AppAction :=
  match bestModelMatch classes (String.ofList query) p.availableModels with
  | none => .modelNotFound query
  | some model => .selectModel model.id

/-- `resolve_submission` for the effort selector, and for `/effort` with a name; `text` is what
an error shows. -/
def resolveEffort (p : ChatProjection) (query text : List Char) : AppAction :=
  match supportedEffort p query with
  | none => .effortNotFound text
  | some effort => .selectEffort effort

/-- `resolve_submission` after the selectors: a command, or a prompt. -/
def resolveCommand (p : ChatProjection) (text : List Char) : AppAction :=
  let trimmed := Unicode.trim text
  if trimmed = "/quit".toList ∨ trimmed = "/exit".toList then .exit
  else if trimmed = "/cancel".toList then .cancel
  else if trimmed = "/new".toList then .newDraft
  else if (Unicode.splitWhitespace trimmed).head? = some "/new".toList then .newUsage
  else if trimmed = "/sessions".toList then .openSessionBrowser
  else if trimmed = "/model".toList then .openModelSelector
  else
    match stripPrefix "/model ".toList trimmed with
    | some query => resolveModel classes p (Unicode.trim query)
    | none =>
      if trimmed = "/effort".toList then .openEffortSelector
      else
        match stripPrefix "/effort ".toList trimmed with
        | some query => resolveEffort p (Unicode.trim query) (Unicode.trim query)
        | none =>
          if trimmed = "/ps".toList then .openProcessSelector
          else if trimmed = "/kill".toList then .killUsage
          else
            match stripPrefix "/kill ".toList trimmed with
            | some job => .kill (Unicode.trim job)
            | none => .submit text

/-- `resolve_submission`. -/
def resolveSubmission (ui : UiState) (p : ChatProjection) (text : List Char) : AppAction :=
  match ui.menu.kind with
  | some .models => resolveModel classes p text
  | some .efforts => resolveEffort p (Unicode.trim text) text
  | some .processes => .none
  | _ => resolveCommand classes p text

/-! ### The menu -/

/-- The models that the selector lists. -/
def modelItems (value : List Char) (p : ChatProjection) : List MenuItem :=
  (matchingModels classes (String.ofList value) p.availableModels).map fun model =>
    .new model.id model.description

/-- The efforts that the selector lists. -/
def effortItems (value : List Char) (p : ChatProjection) : List MenuItem :=
  let query := normalizeModelQuery classes (String.ofList value)
  (p.availableEfforts.filter fun effort =>
    query.isEmpty || (fuzzySubsequenceScore query effort.asStr.toList).isSome).map fun effort =>
      .new effort.asStr "Supported by the active model"

/-- The processes that the selector lists. -/
def processItems (jobs : List JobSnapshotDto) : List MenuItem :=
  jobs.map fun job => .new job.id job.title

/-- The menu that `refresh_menu` sets. -/
def refreshedMenu (value : List Char) (kind : Option MenuKind) (p : ChatProjection) : MenuState :=
  match kind with
  | some .models => .set .models (modelItems classes value p)
  | some .efforts => .set .efforts (effortItems classes value p)
  | some .processes => .set .processes (processItems p.runningJobs)
  | _ =>
    if ['/'] <+: value ∧ value.any Unicode.isWhitespace = false then
      if (commandItems value).isEmpty then .cleared else .set .commands (commandItems value)
    else .cleared

/-- `refresh_menu`. -/
def refreshMenu (p : ChatProjection) (ui : UiState) : UiState :=
  { ui with menu := refreshedMenu classes ui.editor.value ui.menu.kind p }.requestRedraw

/-- `is_selector`. -/
def isSelector (kind : Option MenuKind) : Bool :=
  kind = some .models || kind = some .efforts || kind = some .processes

/-- `open_selector`. -/
def openSelector (p : ChatProjection) (kind : MenuKind) (ui : UiState) : UiState :=
  refreshMenu classes p { ui with editor := ui.editor.clear, menu := .set kind [] }

/-- `close_selector`, which is also `clear_command_entry`. -/
def closeSelector (p : ChatProjection) (ui : UiState) : UiState :=
  refreshMenu classes p { ui with menu := .cleared, editor := ui.editor.clear }

end Submission

/-! ### Events of the terminal -/

/-- `KeyCode`, as far as they are told apart by the loop, its editor or its browser. -/
inductive TerminalKey where
  | char (character : Char)
  | enter
  | esc
  | tab
  | backTab
  | left
  | right
  | home
  | end_
  | up
  | down
  | pageUp
  | pageDown
  | backspace
  | delete
  | f (number : ℕ)
  | other
deriving DecidableEq, Repr

/-- `Event`. -/
inductive TerminalEvent where
  | key (kind : KeyEventKind) (modifiers : EditorModifiers) (code : TerminalKey)
  | scrollUp
  | scrollDown
  | resize
  | paste (text : List Char)
  | other
deriving DecidableEq, Repr

/-- `KeyModifiers::NONE`. -/
def EditorModifiers.empty : EditorModifiers := ⟨false, false, false, false, false, false⟩

/-- `KeyModifiers::CONTROL`. -/
def EditorModifiers.onlyControl : EditorModifiers := ⟨false, true, false, false, false, false⟩

namespace TerminalEvent

/-- The key code as the editor reads it. -/
def editorKey : TerminalKey → EditorKey
  | .char character => .char character
  | .enter => .enter
  | .esc => .esc
  | .left => .left
  | .right => .right
  | .home => .home
  | .end_ => .end_
  | .up => .up
  | .down => .down
  | .backspace => .backspace
  | .delete => .delete
  | _ => .other

/-- The event as the editor reads it. -/
def editorEvent : TerminalEvent → EditorEvent
  | .key kind modifiers code => .key kind modifiers (editorKey code)
  | .paste text => .paste text
  | _ => .other

/-- The key code as the browser reads it. -/
def browserKey : TerminalKey → KeyCode
  | .char character => .char character
  | .enter => .enter
  | .esc => .esc
  | .tab => .tab
  | .up => .up
  | .down => .down
  | .pageUp => .pageUp
  | .pageDown => .pageDown
  | .f number => .f number
  | _ => .other

/-- The modifiers as the browser reads them. -/
def browserModifiers (modifiers : EditorModifiers) : KeyModifiers :=
  if modifiers = .empty then .none else if modifiers = .onlyControl then .control else .other

/-- The event as the browser reads it. -/
def browserEvent : TerminalEvent → BrowserEvent
  | .key _ modifiers code => .key (browserModifiers modifiers) (browserKey code)
  | .scrollUp => .scrollUp
  | .scrollDown => .scrollDown
  | .paste text => .paste (String.ofList text)
  | _ => .other

/-- `control_shortcut`. -/
def controlShortcut (character : Char) : TerminalEvent → Bool
  | .key _ modifiers (.char value) =>
    modifiers.control && value.toLower == character.toLower
  | _ => false

/-- The event is a key with this code. -/
def isKey (code : TerminalKey) : TerminalEvent → Bool
  | .key _ _ code' => code' = code
  | _ => false

/-- A key is let go. -/
def isRelease : TerminalEvent → Bool
  | .key .release _ _ => true
  | _ => false

/-- `Shift` and one of the two tabulator keys. -/
def isShiftTab : TerminalEvent → Bool
  | .key _ modifiers .tab => modifiers = .onlyShift
  | .key _ modifiers .backTab => modifiers = .onlyShift
  | _ => false

end TerminalEvent

/-! ### The application -/

/-- `AppError`, of a release build and before the terminal is restored. -/
inductive AppError where
  | io (message : String)
  | session (error : ClientSessionError)
  | projection (text : String)
deriving DecidableEq

/-- What the application asks of its workspace; a list of the sessions, and when. -/
inductive Call where
  | submit (prompt : List Char)
  | cancel
  | selectModel (model : String)
  | selectReasoning (reasoning : ReasoningLevel)
  | listJobs
  | cancelJob (id : List Char)
  | newDraft
  | listSessions (scope : SessionListScope) (now : ℕ)
  | switchSession (id : SessionId)
  | renameSession (id : SessionId) (title : SessionTitle)
  | deleteSession (id : SessionId)
deriving DecidableEq

/-- What the workspace answers to the call that an event leads to, and what the text field of
the browser makes of the event. -/
structure Answers (S : Type) where
  submitted : Except ClientSessionError ℕ
  materialized : Except ClientSessionError (S × ℕ)
  cancelled : Except ClientSessionError Unit
  selected : Except ClientSessionError Unit
  jobs : Except ClientSessionError (List JobSnapshotDto)
  job : Except ClientSessionError JobSnapshotDto
  detached : Except ClientSessionError Unit
  opened : Except ClientSessionError S
  renamed : Except ClientSessionError Unit
  deleted : Except ClientSessionError Unit
  startup : Except ClientSessionError (WorkspaceStartup S)
  edit : Edit

/-- `PendingSessionBrowserRefresh`; of the future, the list it will bring. -/
structure PendingSessionBrowserRefresh where
  cwd : List UInt8
  scope : SessionListScope
deriving DecidableEq

/-- Whether the loop goes on, was left by the user, or ended with an error. -/
inductive Status where
  | running
  | left
  | failed (error : AppError)
deriving DecidableEq

/-- The state of `run_event_loop`: the interface, the workspace with the call of `next_update`,
what was asked of it, when the sessions are to be listed next and the list on its way, and what
was drawn last. -/
structure App (S : Type) where
  ui : UiState
  machine : Machine S
  calls : List Call
  nextBrowserRefresh : Option ℕ
  pendingBrowserRefresh : Option PendingSessionBrowserRefresh
  screen : Option (UiState × ChatProjection)
  status : Status

/-- The text of an error. -/
def errorText (error : ClientSessionError) : List Char := error.message.toList

/-- A line of an error for the browser. -/
def errorLine (message : String) : String := String.ofList (sanitizeLine message.toList)

/-- The text of `SessionTitleParseError`. -/
def titleParseError : String :=
  "session titles must contain 1-64 scalars without surrounding whitespace or controls"

/-- `Display for JobState`. -/
def JobState.display : JobState → String
  | .running => "running"
  | .completed => "completed"
  | .failed => "failed"
  | .cancelled => "cancelled"

/-- What is said of a job that was to be terminated. -/
def killNotice (job : JobSnapshotDto) : String :=
  if job.state = .cancelled then "Terminated " ++ job.id ++ "."
  else job.id ++ " is already " ++ JobState.display job.state ++ "."

section

variable {S : Type} [WorkspaceSession S]

namespace WorkspaceController

/-- What `attached` lets through. -/
def attached {α : Type} (c : WorkspaceController S) (answer : Except ClientSessionError α) :
    Except ClientSessionError α :=
  if c.session.isNone then .error notDurable else answer

/-- `list_jobs`. -/
def listJobs (c : WorkspaceController S)
    (answer : Except ClientSessionError (List JobSnapshotDto)) :
    Except ClientSessionError (List JobSnapshotDto) :=
  match c.projection with
  | .draft _ => .ok []
  | .session _ => c.attached answer

end WorkspaceController

namespace App

/-- The loop before its first turn. -/
def start (c : WorkspaceController S) : App S where
  ui := .new
  machine := .start c
  calls := []
  nextBrowserRefresh := none
  pendingBrowserRefresh := none
  screen := none
  status := .running

/-- `client`. -/
def client (app : App S) : WorkspaceController S := app.machine.controller

/-- `current_projection`. -/
def projection (app : App S) : ChatProjection := app.client.projection

/-- The interface changes. -/
def onUi (f : UiState → UiState) (app : App S) : App S := { app with ui := f app.ui }

/-- The browser changes, or panics. -/
def onBrowser (f : SessionBrowserState → Option SessionBrowserState) (app : App S) :
    Option (App S) :=
  (f app.ui.sessionBrowser).map fun sessionBrowser =>
    { app with ui := { app.ui with sessionBrowser } }

/-- The workspace is asked, and is `c` afterwards. -/
def asked (call : Call) (c : WorkspaceController S) (app : App S) : App S :=
  { app with calls := app.calls ++ [call], machine := { app.machine with controller := c } }

variable (classes : CharClasses) (G : Segmentation Char) (width : String → ℕ)
  (widget : ℕ → Option ℕ → ℕ → ℕ → ℕ)

/-- What follows the change of a setting: a draft shows that the last error is gone. -/
def settled (draft : Bool) (result : Except ClientSessionError Unit) (app : App S) : App S :=
  match result with
  | .ok () => if draft then app.onUi UiState.clearLocalError else app
  | .error error => app.onUi (UiState.pushError (errorText error))

/-- `apply_action` for a prompt. -/
def submit (app : App S) (answers : Answers S) (text : List Char) : App S :=
  let draft := app.projection.isDraft
  if draft ∧ Unicode.isBlank text then app
  else if app.projection.isBusy then
    app.onUi fun ui =>
      refreshMenu classes app.projection { ui with editor := ui.editor.setValue G text }
  else
    match app.client.submit answers.submitted answers.materialized with
    | (.ok _, c) =>
      let app := app.asked (.submit text) c
      if draft then app.onUi UiState.chatTransitionReset else app
    | (.error error, c) =>
      let app := app.asked (.submit text) c
      let app :=
        if draft then
          app.onUi fun ui =>
            refreshMenu classes app.projection { ui with editor := ui.editor.setValue G text }
        else app
      app.onUi (UiState.pushError (errorText error))

/-- `apply_action` for `/ps`. -/
def openProcessSelector (app : App S) (answers : Answers S) : App S :=
  if app.projection.isDraft then
    app.onUi fun ui =>
      (closeSelector classes app.projection ui).pushNotice "No running background processes.".toList
  else
    let result := app.client.listJobs answers.jobs
    let app := app.asked .listJobs app.client
    match result with
    | .error error => app.onUi (UiState.pushError (errorText error))
    | .ok jobs =>
      let items := processItems (jobs.filter fun job => job.state = .running)
      app.onUi fun ui =>
        if items.isEmpty then
          { ui with editor := ui.editor.clear, menu := .cleared }.pushNotice
            "No running background processes.".toList
        else
          { ui with editor := ui.editor.clear, menu := .set .processes items }.requestRedraw

/-- `apply_action` for `/kill` with a name. -/
def kill (app : App S) (answers : Answers S) (job : List Char) : App S :=
  if app.projection.isDraft then
    app.onUi (UiState.pushNotice "No running background processes.".toList)
  else
    let result := app.client.attached answers.job
    let app := app.asked (.cancelJob job) app.client
    match result with
    | .error error => app.onUi (UiState.pushError (errorText error))
    | .ok snapshot => app.onUi (UiState.pushNotice (killNotice snapshot).toList)

/-- `apply_action` for the next effort of the active model. -/
def cycleEffort (app : App S) (answers : Answers S) : App S :=
  let efforts := app.projection.availableEfforts
  match efforts.findIdx? fun effort => effort = app.projection.settings.reasoning with
  | none => app
  | some position =>
    match efforts[(position + 1) % efforts.length]? with
    | none => app
    | some next =>
      let (result, c) := app.client.selectReasoning next answers.selected
      (app.asked (.selectReasoning next) c).settled app.projection.isDraft result

/-- `apply_action` for the deletion of a session. -/
def deleteSession (app : App S) (answers : Answers S) (id : SessionId) : Option (App S) :=
  let deletingCurrent := app.projection.currentSessionId = some id
  let (result, c) :=
    app.client.deleteSession id answers.deleted answers.opened answers.detached answers.startup
  let app := app.asked (.deleteSession id) c
  match result with
  | .ok () =>
    if deletingCurrent then some (app.onUi UiState.chatTransitionReset)
    else app.onBrowser (SessionBrowserState.finishDelete classes id)
  | .error error =>
    app.onBrowser fun browser => some (browser.setActionError (errorLine error.message))

/-- `apply_action` for a new title of a session. -/
def renameSession (app : App S) (answers : Answers S) (id : SessionId) (title : String) :
    Option (App S) :=
  match SessionTitle.parse title with
  | none => app.onBrowser fun browser => some (browser.setRenameError (errorLine titleParseError))
  | some title =>
    let app := app.asked (.renameSession id title) app.client
    match answers.renamed with
    | .ok () => app.onBrowser fun browser => some browser.finishRename
    | .error error =>
      app.onBrowser fun browser => some (browser.setRenameError (errorLine error.message))

/-- `apply_action`: whether the loop goes on. -/
def applyAction (app : App S) (answers : Answers S) : AppAction → Option (Bool × App S)
  | .none => some (true, app)
  | .submit text => some (true, app.submit classes G answers text)
  | .cancel =>
    if app.projection.isDraft then
      some (true, app.onUi fun ui =>
        (closeSelector classes app.projection ui).pushNotice "No running request.".toList)
    else
      let result := app.client.attached answers.cancelled
      let app := app.asked .cancel app.client
      match result with
      | .ok () => some (true, app)
      | .error error => some (true, app.onUi (UiState.pushError (errorText error)))
  | .newDraft =>
    let (result, c) := app.client.newDraft answers.detached
    let app := app.asked .newDraft c
    match result with
    | .ok () => some (true, app.onUi UiState.chatTransitionReset)
    | .error error => some (true, app.onUi (UiState.pushError (errorText error)))
  | .newUsage => some (true, app.onUi (UiState.pushError "Usage: /new".toList))
  | .openSessionBrowser =>
    ((app.onUi (closeSelector classes app.projection)).onBrowser
      (SessionBrowserState.openBrowser classes)).map (true, ·)
  | .switchSession id =>
    let (result, c) := app.client.switchSession id answers.opened answers.detached
    let app := app.asked (.switchSession id) c
    match result with
    | .ok () => some (true, app.onUi UiState.chatTransitionReset)
    | .error error =>
      (app.onBrowser fun browser => some (browser.setActionError (errorLine error.message))).map
        (true, ·)
  | .renameSession id title => (app.renameSession answers id title).map (true, ·)
  | .deleteSession id => (app.deleteSession classes answers id).map (true, ·)
  | .openModelSelector => some (true, app.onUi (openSelector classes app.projection .models))
  | .openEffortSelector => some (true, app.onUi (openSelector classes app.projection .efforts))
  | .openHelp => some (true, app.onUi (UiState.setPopup (some .help)))
  | .toggleSidebar => some (true, app.onUi UiState.toggleSidebar)
  | .selectModel model =>
    let app := app.onUi (closeSelector classes app.projection)
    let (result, c) := app.client.selectModel model answers.selected
    some (true, (app.asked (.selectModel model) c).settled app.projection.isDraft result)
  | .modelNotFound query =>
    some (true, app.onUi fun ui => (closeSelector classes app.projection ui).pushError
      ("No available model matches `".toList ++ sanitizeLine query ++ "`.".toList))
  | .selectEffort effort =>
    let app := app.onUi (closeSelector classes app.projection)
    let (result, c) := app.client.selectReasoning effort answers.selected
    some (true, (app.asked (.selectReasoning effort) c).settled app.projection.isDraft result)
  | .effortNotFound query =>
    some (true, app.onUi fun ui => (closeSelector classes app.projection ui).pushError
      ("Reasoning effort `".toList ++ sanitizeLine query ++
        "` is not supported by the active model.".toList))
  | .cycleEffort => some (true, app.cycleEffort answers)
  | .openProcessSelector => some (true, app.openProcessSelector classes answers)
  | .prepareKill job =>
    some (true, app.onUi fun ui => refreshMenu classes app.projection
      { ui with menu := .cleared, editor := ui.editor.setValue G ("/kill ".toList ++ job) })
  | .kill job => some (true, app.kill answers job)
  | .killUsage =>
    if app.projection.isDraft then
      some (true, app.onUi fun ui => (closeSelector classes app.projection ui).pushNotice
        "No running background processes.".toList)
    else some (true, app.onUi (UiState.pushError "Usage: /kill job-N".toList))
  | .exit => some (false, app)

/-- What `Enter` does with the selected item of a menu. -/
def menuAction (kind : Option MenuKind) (value : List Char) : AppAction :=
  match kind with
  | some .commands => commandAction value
  | some .models => .selectModel (String.ofList value)
  | some .efforts =>
    match ReasoningLevel.parse (String.ofList value) with
    | none => .none
    | some effort => .selectEffort effort
  | some .processes => .prepareKill value
  | none => .none

/-- `handle_menu_event`; the inner `none` is an event that is not the menu's. -/
def handleMenuEvent (app : App S) (answers : Answers S) (modifiers : EditorModifiers)
    (code : TerminalKey) : Option (Option (Bool × App S)) :=
  if app.ui.menu.isOpen = false then some none
  else
    match code with
    | .up =>
      if modifiers = .empty then
        some (some (true, app.onUi fun ui =>
          { ui with menu := ui.menu.selectPrevious }.requestRedraw))
      else some (some (true, app))
    | .down =>
      if modifiers = .empty then
        some (some (true, app.onUi fun ui =>
          { ui with menu := ui.menu.selectNext }.requestRedraw))
      else some (some (true, app))
    | .tab =>
      if modifiers ≠ .empty then some none
      else
        match app.ui.menu.selectedValue with
        | none => some (some (true, app))
        | some value => some (some (true, app.onUi fun ui =>
            refreshMenu classes app.projection { ui with editor := ui.editor.setValue G value }))
    | .enter =>
      if modifiers ≠ .empty then some none
      else
        match app.ui.menu.selectedValue with
        | none => some (some (true, app))
        | some value =>
          (app.applyAction classes G answers (menuAction app.ui.menu.kind value)).map some
    | _ => some none

/-- `handle_event` while the browser is open. -/
def handleBrowser (app : App S) (answers : Answers S) (event : TerminalEvent) :
    Option (Bool × App S) := do
  let (action, sessionBrowser) ←
    app.ui.sessionBrowser.handleEvent classes event.browserEvent answers.edit
  let app := app.onUi fun ui => { ui with sessionBrowser }.requestRedraw
  match action with
  | .none => some (true, app)
  | .refresh => some (true, app)
  | .switch id => app.applyAction classes G answers (.switchSession id)
  | .rename id title => app.applyAction classes G answers (.renameSession id title)
  | .delete id => app.applyAction classes G answers (.deleteSession id)

/-- `handle_event`, from the editor on. -/
def handleEditor (app : App S) (answers : Answers S) (event : TerminalEvent) :
    Option (Bool × App S) :=
  match app.ui.editor.handleEvent G width event.editorEvent with
  | none => none
  | some (.changed, editor) =>
    some (true, app.onUi fun ui => refreshMenu classes app.projection { ui with editor })
  | some (.submitted text, editor) =>
    let app := app.onUi fun ui => { ui with editor }.requestRedraw
    app.applyAction classes G answers (resolveSubmission classes app.ui app.projection text)
  | some (_, editor) => some (true, app.onUi fun ui => { ui with editor })

/-- `handle_event`, from the popup that covers the prompt on. -/
def handlePrompt (app : App S) (answers : Answers S) (event : TerminalEvent) :
    Option (Bool × App S) :=
  if app.ui.popup.isSome then some (true, app)
  else
    match event with
    | .key _ modifiers code =>
      match app.handleMenuEvent classes G answers modifiers code with
      | none => none
      | some (some result) => some result
      | some none => app.handleEditor classes G width answers event
    | _ => app.handleEditor classes G width answers event

/-- `handle_event`, from the keys of the selectors on. -/
def handleSelectors (app : App S) (answers : Answers S) (event : TerminalEvent) :
    Option (Bool × App S) :=
  let guard := app.projection.isBusy || app.ui.popup = some .help ||
    app.ui.menu.kind = some .processes
  if event.controlShortcut 'l' then
    if guard then some (true, app) else app.applyAction classes G answers .openModelSelector
  else if event.controlShortcut 'r' then
    if guard then some (true, app) else app.applyAction classes G answers .openEffortSelector
  else if event.isShiftTab then
    if guard then some (true, app) else app.applyAction classes G answers .cycleEffort
  else app.handlePrompt classes G width answers event

/-- The transcript is scrolled. -/
def scrolled (f : TranscriptScroll → TranscriptScroll) (app : App S) : App S :=
  app.onUi fun ui => { ui with scroll := f ui.scroll }.requestRedraw

/-- `at_final_line_end`. -/
def atFinalLineEnd (editor : PromptText) : Bool :=
  editor.cursorGrapheme = editor.graphemeCount G

/-- `handle_event`, from the keys of the transcript on. -/
def handleChat (app : App S) (answers : Answers S) (event : TerminalEvent) :
    Option (Bool × App S) :=
  if event.isKey .pageUp then some (true, app.scrolled TranscriptScroll.pageUp)
  else if event.isKey .pageDown then some (true, app.scrolled TranscriptScroll.pageDown)
  else if event = .scrollUp then some (true, app.scrolled TranscriptScroll.wheelUp)
  else if event = .scrollDown then some (true, app.scrolled TranscriptScroll.wheelDown)
  else if event.isKey .end_ ∧ atFinalLineEnd G app.ui.editor ∧ app.ui.popup.isNone ∧
      app.ui.menu.isOpen = false then
    some (true, app.scrolled TranscriptScroll.followLatest)
  else if event.isKey .esc ∧ isSelector app.ui.menu.kind then
    some (true, app.onUi (closeSelector classes app.projection))
  else if event.isKey .esc ∧ app.projection.isBusy then app.applyAction classes G answers .cancel
  else app.handleSelectors classes G width answers event

/-- `handle_event`: whether the loop goes on. -/
def handleEvent (app : App S) (answers : Answers S) (event : TerminalEvent) :
    Option (Bool × App S) :=
  if event.isRelease then some (true, app)
  else if event.controlShortcut 'c' then some (false, app)
  else if event = .resize then some (true, app.onUi UiState.requestRedraw)
  else if app.ui.sessionBrowser.isOpen then app.handleBrowser classes G answers event
  else if event.controlShortcut 'o' then app.applyAction classes G answers .openHelp
  else if event.controlShortcut 't' then app.applyAction classes G answers .toggleSidebar
  else if event.isKey .esc ∧ app.ui.popup.isSome then
    some (true, app.onUi (UiState.setPopup none))
  else app.handleChat classes G width answers event

/-! ### A turn of the loop -/

/-- What one turn meets: the frames that are drawn, an event, the time, the answers to a poll of
`next_update`, and a list of sessions that arrives. -/
structure Turn (S : Type) where
  first : Except String UiState.Frame
  event : Except String (Option TerminalEvent)
  answers : Answers S
  second : Except String UiState.Frame
  now : ℕ
  polled : Bool
  polls : List (Input S)
  refreshed : Option (Except ClientSessionError (List SessionSummary))

/-- An error ends the loop. -/
def fail (error : AppError) (app : App S) : App S := { app with status := .failed error }

/-- The rest of the loop, unless it ended. -/
def proceed (result : Option (App S)) (f : App S → Option (App S)) : Option (App S) :=
  result.bind fun app => if app.status = .running then f app else some app

/-- What is to be seen. -/
def view (app : App S) : UiState × ChatProjection := (app.ui.seen, app.projection)

/-- `draw_if_needed`. -/
def drawIfNeeded (app : App S) (frame : Except String UiState.Frame) : Option (App S) :=
  if app.ui.needsRedraw = false then some app
  else
    let app := app.onUi fun ui => { ui with needsRedraw := false }
    match frame with
    | .error message => some (app.fail (.io message))
    | .ok frame =>
      (app.ui.render G width widget frame).map fun ui =>
        { app with ui, screen := some (ui.seen, app.projection) }

/-- The poll of the terminal; the loop that is left draws once more. -/
def poll (app : App S) (turn : Turn S) : Option (App S) :=
  match turn.event with
  | .error message => some (app.fail (.io message))
  | .ok none => some app
  | .ok (some event) =>
    match app.handleEvent classes G width turn.answers event with
    | none => none
    | some (true, app) => some app
    | some (false, app) =>
      proceed (app.drawIfNeeded G width widget turn.second) fun app =>
        some { app with status := .left }

/-- The list that a browser in this mode shows, for the directory. -/
def listScope (cwd : List UInt8) : BrowserMode → SessionListScope
  | .project => .project cwd
  | .global => .all

/-- `start_session_browser_refresh`. -/
def startRefresh (app : App S) (now : ℕ) : App S :=
  let cwd := app.projection.currentCwd
  let scope := listScope cwd app.ui.sessionBrowser.mode
  { app with
    pendingBrowserRefresh := some ⟨cwd, scope⟩
    calls := app.calls ++ [.listSessions scope now] }

/-- Whether the sessions are to be listed, at the time `now`. -/
def scheduleRefresh (app : App S) (now : ℕ) : App S :=
  if app.ui.sessionBrowser.isOpen = false then
    { app with nextBrowserRefresh := none, pendingBrowserRefresh := none }
  else
    let due := app.nextBrowserRefresh.getD (now + 1000)
    let immediate := app.ui.sessionBrowser.refreshRequested
    let app :=
      { app with
        ui := { app.ui with sessionBrowser := app.ui.sessionBrowser.takeRefreshRequest }
        pendingBrowserRefresh := if immediate then none else app.pendingBrowserRefresh
        nextBrowserRefresh := some due }
    if app.pendingBrowserRefresh.isNone ∧ (immediate ∨ due ≤ now) then
      { app.startRefresh now with nextBrowserRefresh := some (now + 1000) }
    else app

/-- A turn up to the `select!`. -/
def waiting (app : App S) (turn : Turn S) : Option (App S) :=
  proceed (app.drawIfNeeded G width widget turn.first) fun app =>
    proceed (app.poll classes G width widget turn) fun app =>
      proceed (app.drawIfNeeded G width widget turn.second) fun app =>
        some (app.scheduleRefresh turn.now)

/-- `finish_session_browser_refresh`, if the browser is still open. -/
def finishRefresh (app : App S) (pending : PendingSessionBrowserRefresh)
    (result : Except ClientSessionError (List SessionSummary)) : Option (App S) :=
  let app := { app with pendingBrowserRefresh := none }
  if app.ui.sessionBrowser.isOpen = false then some app
  else
    (match result with
      | .ok sessions =>
        app.onBrowser (SessionBrowserState.setSessions classes pending.cwd sessions)
      | .error error =>
        app.onBrowser fun browser => some (browser.setRefreshWarning (errorLine error.message))).map
      (onUi UiState.requestRedraw)

/-- `consume_workspace_update` for an event of the session. -/
def consumeEvent (event : SessionEvent) (app : App S) : Except AppError (App S) :=
  match event with
  | .deleted _ => .error (.projection "deleted event bypassed workspace fallback")
  | .started _ _ => .ok (app.onUi UiState.clearLocalError)
  | .completed _ _ _ => .ok (app.onUi UiState.clearLocalError)
  | .failed _ _ => .ok (app.onUi UiState.clearLocalError)
  | .cancelled _ => .ok (app.onUi UiState.clearLocalError)
  | .persistenceWarning _ => .ok (app.onUi UiState.clearLocalError)
  | .settingsChanged _ _ =>
    .ok (app.onUi fun ui => refreshMenu classes app.projection ui.clearLocalError)
  | .catalogChanged _ =>
    .ok (app.onUi fun ui => refreshMenu classes app.projection ui.clearLocalError)
  | .jobsChanged _ =>
    if app.ui.menu.kind = some .processes then
      .ok (app.onUi (refreshMenu classes app.projection))
    else .ok app
  | _ => .ok app

/-- `consume_workspace_update`. -/
def consumeUpdate (update : WorkspaceUpdate) (app : App S) : Except AppError (App S) :=
  let result : Except AppError (App S) := match update with
    | .warning warning => .ok (app.onUi (UiState.pushNotice warning.toList))
    | .deleted _ _ => .ok (app.onUi UiState.chatTransitionReset)
    | .session (.snapshotReplaced _) =>
      .ok (app.onUi fun ui => refreshMenu classes app.projection ui.authoritativeReset)
    | .session (.warning warning) => .ok (app.onUi (UiState.pushNotice warning.toList))
    | .session (.event envelope) => app.consumeEvent classes envelope.event
    | .session (.deleted _ _) =>
      .error (.projection "deleted update bypassed workspace fallback")
  result.map (onUi UiState.requestRedraw)

/-- What a poll of `next_update` may find. -/
def isPoll : Input S → Bool
  | .sessionPending _ => true
  | .sessionAnswers _ _ => true
  | .startupAnswers _ => true
  | _ => false

/-- The call of `next_update`, as far as it gets in this turn. -/
def pollUpdate (m : Machine S) (turn : Turn S) : Machine S :=
  if turn.polled then Run.run Machine.step m (.call :: turn.polls.filter isPoll) else m

/-- The `select!` and what follows it.  The call that brought no update is dropped. -/
def wake (app : App S) (turn : Turn S) : Option (App S) :=
  let machine := pollUpdate app.machine turn
  match machine.results.drop app.machine.results.length with
  | .error error :: _ => some ({ app with machine }.fail (.session error))
  | .ok update :: _ =>
    match ({ app with machine } : App S).consumeUpdate classes update with
    | .error error => some ({ app with machine }.fail error)
    | .ok app => some app
  | [] =>
    let app := { app with machine := machine.step .drop }
    match app.pendingBrowserRefresh, turn.refreshed with
    | some pending, some result => app.finishRefresh classes pending result
    | _, _ => some app

/-- One turn of `run_event_loop`; nothing happens when it ended. -/
def turn (app : App S) (turn : Turn S) : Option (App S) :=
  if app.status ≠ .running then some app
  else proceed (app.waiting classes G width widget turn) fun app => app.wake classes turn

end App
end
end Client
end Moh
