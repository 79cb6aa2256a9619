/-
# The session browser

`client/ui/session_browser.rs`: the sessions that match the filter, as rows, and one of them
selected.  The row, the session, the scroll offset, the rows and the height of the window are
fields of their own, which every operation brings together again (`rebuildVisible`,
`select`, `ensureSelectionVisible`).  An operation that would slice or index out of range is
undefined.

From the default state on no run of operations is undefined, and after each of them the
highlighted row is the selected session, in the window (`synchronized_of_run`).
-/

import Moh.Client.ModelMatch
import Moh.Library.Cursor
import Moh.Library.Run

namespace Moh
namespace Client

open Cursor

/-- `BrowserMode`. -/
inductive BrowserMode where
  | project
  | global
deriving DecidableEq, Repr

/-- `BrowserLayer`; of the editor of a new title, its text. -/
inductive BrowserLayer where
  | list
  | rename (sessionId : SessionId) (editor : String) (error : Option String)
  | confirmDelete (sessionId : SessionId) (title : SessionTitle)
deriving DecidableEq

/-- `BrowserRow`. -/
inductive BrowserRow where
  | group (cwd : List UInt8) (cwdDisplay : List Char)
  | session (summary : SessionSummary)
deriving DecidableEq

namespace BrowserRow

/-- `BrowserRow::session_id`. -/
def sessionId : BrowserRow → Option SessionId
  | .group _ _ => none
  | .session summary => some summary.id

/-- `BrowserRow::summary`. -/
def summary : BrowserRow → Option SessionSummary
  | .group _ _ => none
  | .session summary => some summary

/-- `row.session_id().is_some()`. -/
def selectable (row : BrowserRow) : Bool := row.sessionId.isSome

end BrowserRow

/-- `WHEEL_SELECTABLE_ROWS`. -/
def wheelSelectableRows : ℕ := 3

/-- `SessionBrowserState`; of the editor of the filter, its text. -/
structure SessionBrowserState where
  isOpen : Bool
  mode : BrowserMode
  query : String
  sessions : List SessionSummary
  visible : List BrowserRow
  selected : ℕ
  selectedId : Option SessionId
  offset : ℕ
  layer : BrowserLayer
  refreshWarning : Option String
  actionError : Option String
  currentCwd : List UInt8
  viewportRows : ℕ
  refreshRequested : Bool
deriving DecidableEq

/-- `SessionBrowserState::default`. -/
def SessionBrowserState.initial : SessionBrowserState where
  isOpen := false
  mode := .project
  query := ""
  sessions := []
  visible := []
  selected := 0
  selectedId := none
  offset := 0
  layer := .list
  refreshWarning := none
  actionError := none
  currentCwd := []
  viewportRows := 1
  refreshRequested := false

/-! ### Rows -/

/-- `compare_sessions`: the latest activity first, then the greatest identifier. -/
def compareSessions (left right : SessionSummary) : Ordering :=
  (compare right.lastActivity left.lastActivity).then (compare right.id.value left.id.value)

/-- `sessions.sort_by(compare_sessions)`. -/
def sortSessions (sessions : List SessionSummary) : List SessionSummary :=
  sessions.mergeSort fun left right => (compareSessions left right).isLE

/-- One entry of the groups: a directory, how it is displayed, and its sessions. -/
structure SessionGroup where
  cwd : List UInt8
  cwdDisplay : List Char
  sessions : List SessionSummary
deriving DecidableEq

/-- The entries of the `BTreeMap`, in the order of the directories, with their sessions
sorted. -/
def groupSessions (sessions : List SessionSummary) : List SessionGroup :=
  let cwds := (sessions.map (·.cwd)).eraseDups.mergeSort fun a b => decide (a ≤ b)
  cwds.map fun cwd =>
    let sessions := sortSessions (sessions.filter fun summary => summary.cwd = cwd)
    ⟨cwd, (sessions.head?.map (·.cwdDisplay)).getD [], sessions⟩

/-- The comparison of two groups by their first sessions, the current directory first. -/
def compareGroups (currentCwd : List UInt8) (left right : SessionGroup × SessionSummary) :
    Ordering :=
  match decide (left.1.cwd = currentCwd), decide (right.1.cwd = currentCwd) with
  | true, false => .lt
  | false, true => .gt
  | _, _ => compareSessions left.2 right.2

/-- `global_rows`; a group without a first session, `left.2[0]`, cannot be compared. -/
def globalRows (currentCwd : List UInt8) (sessions : List SessionSummary) :
    Option (List BrowserRow) := do
  let groups ← (groupSessions sessions).mapM fun group =>
    group.sessions[0]?.map fun first => (group, first)
  let groups := groups.mergeSort fun left right => (compareGroups currentCwd left right).isLE
  some (groups.flatMap fun (group, _) =>
    .group group.cwd group.cwdDisplay :: group.sessions.map .session)

variable (classes : CharClasses)

/-- `normalize_fuzzy_text`. -/
def normalizeFuzzyText (value : List Char) : List Char :=
  (value.filter classes.isAlphanumeric).flatMap classes.toLowercase

/-- `summary_matches`. -/
def summaryMatches (summary : SessionSummary) (query : List Char) : Bool :=
  query.isEmpty ||
    [summary.title.text.toList, summary.id.display.toList, summary.cwdDisplay].any fun candidate =>
      (fuzzySubsequenceScore query (normalizeFuzzyText classes candidate)).isSome

namespace SessionBrowserState

/-- `ensure_selection_visible`. -/
def ensureSelectionVisible (s : SessionBrowserState) : SessionBrowserState :=
  { s with offset := scroll s.visible.length s.viewportRows s.selected s.offset }

/-- The rows that `rebuild_visible` makes. -/
def filteredRows (s : SessionBrowserState) : Option (List BrowserRow) :=
  let query := normalizeFuzzyText classes s.query.toList
  let sessions := s.sessions.filter fun summary =>
    (s.mode = .global || summary.cwd = s.currentCwd) && summaryMatches classes summary query
  match s.mode with
  | .project => some ((sortSessions sessions).map .session)
  | .global => globalRows s.currentCwd sessions

/-- The rest of `rebuild_visible`: the row of the selected session, or the first one. -/
def selectAgain (s : SessionBrowserState) : Option SessionBrowserState :=
  let same := s.selectedId.bind fun selectedId =>
    s.visible.findIdx? fun row => row.sessionId = some selectedId
  match same.or (s.visible.findIdx? BrowserRow.selectable) with
  | some selected => do
    let row ← s.visible[selected]?
    some { s with selected, selectedId := row.sessionId }.ensureSelectionVisible
  | none => some { s with selected := 0, selectedId := none }.ensureSelectionVisible

/-- `rebuild_visible`. -/
def rebuildVisible (s : SessionBrowserState) : Option SessionBrowserState := do
  let visible ← s.filteredRows classes
  { s with visible }.selectAgain

/-- `select`. -/
def select (s : SessionBrowserState) (index : ℕ) : SessionBrowserState :=
  match s.visible[index]?.bind BrowserRow.sessionId with
  | some sessionId =>
    { s with selected := index, selectedId := some sessionId }.ensureSelectionVisible
  | none => s

/-! ### Operations -/

/-- `open`. -/
def openBrowser (s : SessionBrowserState) : Option SessionBrowserState :=
  rebuildVisible classes
    { s with
      isOpen := true
      mode := .project
      query := ""
      selected := 0
      selectedId := none
      offset := 0
      layer := .list
      refreshWarning := none
      actionError := none
      refreshRequested := true }

/-- `close`. -/
def close (s : SessionBrowserState) : SessionBrowserState :=
  { s with isOpen := false, refreshRequested := false, actionError := none }

/-- `set_sessions`. -/
def setSessions (currentCwd : List UInt8) (sessions : List SessionSummary)
    (s : SessionBrowserState) : Option SessionBrowserState :=
  rebuildVisible classes { s with currentCwd, sessions, refreshWarning := none }

/-- `toggle_mode`. -/
def toggleMode (s : SessionBrowserState) : Option SessionBrowserState :=
  rebuildVisible classes
    { s with
      mode := match s.mode with
        | .project => .global
        | .global => .project
      refreshRequested := true }

/-- `edit_query`, with the text that the editor of the filter has after the event, and
whether it reports a change. -/
def editQuery (query : String) (changed : Bool) (s : SessionBrowserState) :
    Option SessionBrowserState :=
  if changed then rebuildVisible classes { s with query } else some { s with query }

/-- `set_viewport_rows`. -/
def setViewportRows (viewportRows : ℕ) (s : SessionBrowserState) : SessionBrowserState :=
  { s with viewportRows := max viewportRows 1 }.ensureSelectionVisible

/-- `render_session_list`: the list widget of the terminal library, a parameter, is given the
number of items, the selected one, the offset and the height of its area, and returns the
offset from which it shows them. -/
def renderSessionList (widget : ℕ → Option ℕ → ℕ → ℕ → ℕ) (height : ℕ)
    (s : SessionBrowserState) : SessionBrowserState :=
  let s := s.setViewportRows height
  let items := if s.visible.isEmpty then 1 else s.visible.length
  { s with offset := widget items (s.selectedId.map fun _ => s.selected) s.offset height }

/-- `select_next`. -/
def selectNext (s : SessionBrowserState) : Option SessionBrowserState :=
  if s.selectedId.isNone then some s
  else do
    let rows ← sliceFrom s.visible (s.selected + 1)
    match rows.findIdx? BrowserRow.selectable with
    | none => some s
    | some relative => some (s.select (s.selected + relative + 1))

/-- `select_previous`. -/
def selectPrevious (s : SessionBrowserState) : Option SessionBrowserState := do
  let rows ← sliceTo s.visible s.selected
  match rposition BrowserRow.selectable rows with
  | none => some s
  | some previous => some (s.select previous)

/-- `page_down`. -/
def pageDown (s : SessionBrowserState) : Option SessionBrowserState :=
  if s.selectedId.isNone then some s
  else do
    let target := min (s.selected + s.viewportRows) (s.visible.length - 1)
    let rows ← sliceFrom s.visible target
    match rows.findIdx? BrowserRow.selectable with
    | some relative => some (s.select (target + relative))
    | none => do
      let rows ← sliceTo s.visible target
      match rposition BrowserRow.selectable rows with
      | some next => some (s.select next)
      | none => some s

/-- `page_up`. -/
def pageUp (s : SessionBrowserState) : Option SessionBrowserState :=
  if s.selectedId.isNone then some s
  else do
    let target := s.selected - s.viewportRows
    let rows ← sliceThrough s.visible target
    match rposition BrowserRow.selectable rows with
    | some previous => some (s.select previous)
    | none => do
      let rows ← sliceFrom s.visible target
      match rows.findIdx? BrowserRow.selectable with
      | some relative => some (s.select (target + relative))
      | none => some s

/-- `move_selectable`. -/
def moveSelectable (count : ℕ) (forward : Bool) (s : SessionBrowserState) :
    Option SessionBrowserState :=
  let selectable := s.visible.findIdxs BrowserRow.selectable
  match selectable.findIdx? fun index => index = s.selected with
  | none => some s
  | some position => do
    let target :=
      if forward then min (position + count) (selectable.length - 1) else position - count
    let index ← selectable[target]?
    some (s.select index)

/-- `wheel_down`. -/
def wheelDown (s : SessionBrowserState) : Option SessionBrowserState :=
  s.moveSelectable wheelSelectableRows true

/-- `wheel_up`. -/
def wheelUp (s : SessionBrowserState) : Option SessionBrowserState :=
  s.moveSelectable wheelSelectableRows false

/-- `selected_summary`. -/
def selectedSummary (s : SessionBrowserState) : Option SessionSummary :=
  s.visible[s.selected]?.bind BrowserRow.summary

/-- `start_rename`. -/
def startRename (s : SessionBrowserState) : SessionBrowserState :=
  match s.layer, s.selectedSummary with
  | .list, some summary => { s with layer := .rename summary.id summary.title.text none }
  | _, _ => s

/-- `start_delete_confirmation`. -/
def startDeleteConfirmation (s : SessionBrowserState) : SessionBrowserState :=
  match s.layer, s.selectedSummary with
  | .list, some summary => { s with layer := .confirmDelete summary.id summary.title }
  | _, _ => s

/-- `escape`. -/
def escape (s : SessionBrowserState) : SessionBrowserState :=
  match s.layer with
  | .list => s.close
  | _ => { s with layer := .list }

/-- `finish_rename`. -/
def finishRename (s : SessionBrowserState) : SessionBrowserState :=
  match s.layer with
  | .rename _ _ _ => { s with layer := .list, refreshRequested := true }
  | _ => s

/-- `finish_delete`. -/
def finishDelete (sessionId : SessionId) (s : SessionBrowserState) :
    Option SessionBrowserState :=
  rebuildVisible classes
    { s with
      sessions := s.sessions.filter fun summary => summary.id ≠ sessionId
      layer := .list
      refreshRequested := true }

/-- `set_refresh_warning`. -/
def setRefreshWarning (warning : String) (s : SessionBrowserState) : SessionBrowserState :=
  { s with refreshWarning := some warning }

/-- `set_action_error`. -/
def setActionError (error : String) (s : SessionBrowserState) : SessionBrowserState :=
  { s with actionError := some error }

/-- `set_rename_error`. -/
def setRenameError (message : String) (s : SessionBrowserState) : SessionBrowserState :=
  match s.layer with
  | .rename sessionId editor _ => { s with layer := .rename sessionId editor (some message) }
  | _ => s

/-- `take_refresh_request`, of which the request is returned. -/
def takeRefreshRequest (s : SessionBrowserState) : SessionBrowserState :=
  { s with refreshRequested := false }

end SessionBrowserState

/-! ### Events -/

/-- The modifiers of a key, as far as they are told apart. -/
inductive KeyModifiers where
  | none
  | control
  | other
deriving DecidableEq, Repr

/-- `KeyCode`, as far as they are told apart. -/
inductive KeyCode where
  | esc
  | tab
  | up
  | down
  | pageUp
  | pageDown
  | enter
  | f (number : ℕ)
  | char (value : Char)
  | other
deriving DecidableEq, Repr

/-- `Event`. -/
inductive BrowserEvent where
  | key (modifiers : KeyModifiers) (code : KeyCode)
  | scrollUp
  | scrollDown
  | paste (text : String)
  | other
deriving DecidableEq, Repr

/-- What the editor that an event is passed to makes of it: its text, and whether it reports
a change. -/
structure Edit where
  text : String
  changed : Bool
deriving DecidableEq, Repr

/-- `BrowserAction`. -/
inductive BrowserAction where
  | none
  | refresh
  | switch (sessionId : SessionId)
  | rename (sessionId : SessionId) (title : String)
  | delete (sessionId : SessionId)
deriving DecidableEq, Repr

namespace SessionBrowserState

/-- `handle_list_event`. -/
def handleListEvent (event : BrowserEvent) (edit : Edit) (s : SessionBrowserState) :
    Option (BrowserAction × SessionBrowserState) :=
  match event with
  | .key .none .esc => some (.none, s.escape)
  | .key .none .tab => (s.toggleMode classes).map (BrowserAction.refresh, ·)
  | .key .none .up => s.selectPrevious.map (BrowserAction.none, ·)
  | .key .none .down => s.selectNext.map (BrowserAction.none, ·)
  | .key .none .pageUp => s.pageUp.map (BrowserAction.none, ·)
  | .key .none .pageDown => s.pageDown.map (BrowserAction.none, ·)
  | .key .none .enter => some ((s.selectedId.map BrowserAction.switch).getD .none, s)
  | .key .none (.f 2) => some (.none, s.startRename)
  | .key .control (.char 'd') => some (.none, s.startDeleteConfirmation)
  | .key .control (.char 'D') => some (.none, s.startDeleteConfirmation)
  | .key _ _ => (s.editQuery classes edit.text edit.changed).map (BrowserAction.none, ·)
  | .scrollUp => s.wheelUp.map (BrowserAction.none, ·)
  | .scrollDown => s.wheelDown.map (BrowserAction.none, ·)
  | .paste _ => (s.editQuery classes edit.text edit.changed).map (BrowserAction.none, ·)
  | .other => some (.none, s)

/-- `handle_rename_event`. -/
def handleRenameEvent (sessionId : SessionId) (editor : String) (error : Option String)
    (event : BrowserEvent) (edit : Edit) (s : SessionBrowserState) :
    BrowserAction × SessionBrowserState :=
  match event with
  | .key .none .esc => (.none, s.escape)
  | .key .none .enter => (.rename sessionId editor, s)
  | _ => (.none, { s with layer := .rename sessionId edit.text error })

/-- `handle_confirmation_event`. -/
def handleConfirmationEvent (sessionId : SessionId) (event : BrowserEvent)
    (s : SessionBrowserState) : BrowserAction × SessionBrowserState :=
  match event with
  | .key .none .esc => (.none, s.escape)
  | .key .none (.char 'n') => (.none, s.escape)
  | .key .none (.char 'N') => (.none, s.escape)
  | .key .none .enter => (.delete sessionId, s)
  | .key .none (.char 'y') => (.delete sessionId, s)
  | .key .none (.char 'Y') => (.delete sessionId, s)
  | _ => (.none, s)

/-- `handle_event`. -/
def handleEvent (event : BrowserEvent) (edit : Edit) (s : SessionBrowserState) :
    Option (BrowserAction × SessionBrowserState) :=
  let s := if event = .other then s else { s with actionError := none }
  match s.layer with
  | .list => s.handleListEvent classes event edit
  | .rename sessionId editor error =>
    some (s.handleRenameEvent sessionId editor error event edit)
  | .confirmDelete sessionId _ => some (s.handleConfirmationEvent sessionId event)

end SessionBrowserState

/-! ### Runs -/

/-- What changes the session browser. -/
inductive BrowserOperation where
  | openBrowser
  | close
  | setSessions (currentCwd : List UInt8) (sessions : List SessionSummary)
  | toggleMode
  | editQuery (query : String) (changed : Bool)
  | selectNext
  | selectPrevious
  | pageDown
  | pageUp
  | wheelDown
  | wheelUp
  | setViewportRows (viewportRows : ℕ)
  | startRename
  | startDeleteConfirmation
  | escape
  | finishRename
  | finishDelete (sessionId : SessionId)
  | setRefreshWarning (warning : String)
  | setActionError (error : String)
  | setRenameError (message : String)
  | takeRefreshRequest
  | handleEvent (event : BrowserEvent) (edit : Edit)

/-- One operation; undefined where it panics. -/
def SessionBrowserState.step (s : SessionBrowserState) :
    BrowserOperation → Option SessionBrowserState
  | .openBrowser => s.openBrowser classes
  | .close => some s.close
  | .setSessions currentCwd sessions => s.setSessions classes currentCwd sessions
  | .toggleMode => s.toggleMode classes
  | .editQuery query changed => s.editQuery classes query changed
  | .selectNext => s.selectNext
  | .selectPrevious => s.selectPrevious
  | .pageDown => s.pageDown
  | .pageUp => s.pageUp
  | .wheelDown => s.wheelDown
  | .wheelUp => s.wheelUp
  | .setViewportRows viewportRows => some (s.setViewportRows viewportRows)
  | .startRename => some s.startRename
  | .startDeleteConfirmation => some s.startDeleteConfirmation
  | .escape => some s.escape
  | .finishRename => some s.finishRename
  | .finishDelete sessionId => s.finishDelete classes sessionId
  | .setRefreshWarning warning => some (s.setRefreshWarning warning)
  | .setActionError error => some (s.setActionError error)
  | .setRenameError message => some (s.setRenameError message)
  | .takeRefreshRequest => some s.takeRefreshRequest
  | .handleEvent event edit => (s.handleEvent classes event edit).map Prod.snd

end Client
end Moh
