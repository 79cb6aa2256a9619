/-
# What the terminal presents

`client/ui/mod.rs`: the state of the interface that is not the chat's.  A prompt, where the
transcript is scrolled to, a completion menu, the session browser, a help text and notices; and
whether any of it has changed since it was drawn.  Drawing writes back what only the frame
knows: its width, the height of the transcript and of the prompt, and how far the list of the
browser is scrolled.  What can be seen of a state is all of it but the two requests that it
holds: to be drawn, and to list the sessions (`UiState.seen`).
-/

import Moh.Client.EditorCursor
import Moh.Client.BrowserSelection
import Moh.Client.Transcript

namespace Moh
namespace Client

/-- `sanitize_line`, with what its loop carries: whether a separator was just written. -/
def sanitizeFrom : Bool → List Char → List Char
  | _, [] => []
  | separator, character :: rest =>
    if character = '\n' ∨ character = '\r' ∨ character = '\t' then
      if separator then sanitizeFrom true rest else ' ' :: sanitizeFrom true rest
    else if Unicode.isControl character then sanitizeFrom separator rest
    else character :: sanitizeFrom false rest

/-- `sanitize_line`. -/
def sanitizeLine (text : List Char) : List Char := sanitizeFrom false text

/-! ### The menu -/

/-- `MenuKind`. -/
inductive MenuKind where
  | commands
  | models
  | efforts
  | processes
deriving DecidableEq, Repr

/-- `PopupKind`. -/
inductive PopupKind where
  | help
deriving DecidableEq, Repr

/-- `SidebarPreference`. -/
inductive SidebarPreference where
  | auto
  | hide
deriving DecidableEq, Repr

/-- `MenuItem`. -/
structure MenuItem where
  value : List Char
  description : List Char
deriving DecidableEq, Repr

/-- `MenuItem::new`. -/
def MenuItem.new (value description : String) : MenuItem :=
  ⟨sanitizeLine value.toList, sanitizeLine description.toList⟩

/-- `MenuState`. -/
structure MenuState where
  kind : Option MenuKind
  items : List MenuItem
  selected : ℕ
deriving DecidableEq, Repr

namespace MenuState

/-- `set`. -/
def set (kind : MenuKind) (items : List MenuItem) : MenuState := ⟨some kind, items, 0⟩

/-- `clear`, and `MenuState::default`. -/
def cleared : MenuState := ⟨none, [], 0⟩

/-- `select_next`. -/
def selectNext (m : MenuState) : MenuState :=
  if m.items.isEmpty then m else { m with selected := (m.selected + 1) % m.items.length }

/-- `select_previous`. -/
def selectPrevious (m : MenuState) : MenuState :=
  if m.items.isEmpty then m
  else { m with selected := if m.selected = 0 then m.items.length - 1 else m.selected - 1 }

/-- `selected_value`. -/
def selectedValue (m : MenuState) : Option (List Char) :=
  m.items[m.selected]?.map MenuItem.value

/-- `is_open`. -/
def isOpen (m : MenuState) : Bool := m.kind.isSome && !m.items.isEmpty

/-- **An item is selected,** unless there is none. -/
def InRange (m : MenuState) : Prop := m.items = [] ∧ m.selected = 0 ∨ m.selected < m.items.length

theorem inRange_cleared : cleared.InRange := .inl ⟨rfl, rfl⟩

theorem inRange_set (kind : MenuKind) (items : List MenuItem) : (set kind items).InRange := by
  cases items with
  | nil => exact .inl ⟨rfl, rfl⟩
  | cons item items => exact .inr (Nat.succ_pos _)

theorem InRange.selectNext {m : MenuState} (h : m.InRange) : m.selectNext.InRange := by
  unfold MenuState.selectNext
  split_ifs with hempty
  · exact h
  · have hpos : 0 < m.items.length := List.length_pos_iff.2 (by simpa using hempty)
    exact .inr (Nat.mod_lt _ hpos)

theorem InRange.selectPrevious {m : MenuState} (h : m.InRange) : m.selectPrevious.InRange := by
  unfold MenuState.selectPrevious
  split_ifs with hempty hzero
  · exact h
  · have hpos : 0 < m.items.length := List.length_pos_iff.2 (by simpa using hempty)
    exact .inr (by simp only; omega)
  · rcases h with ⟨hnil, -⟩ | hlt
    · exact absurd (List.isEmpty_iff.2 hnil) hempty
    · exact .inr (by simp only; omega)

end MenuState

/-! ### The interface -/

/-- `UiState`. -/
structure UiState where
  editor : PromptText
  scroll : TranscriptScroll
  menu : MenuState
  sessionBrowser : SessionBrowserState
  popup : Option PopupKind
  sidebarPreference : SidebarPreference
  sidebarOpen : Bool
  frameWidth : ℕ
  notices : List (List Char)
  localError : Bool
  welcomeDismissed : Bool
  needsRedraw : Bool
deriving DecidableEq

namespace UiState

/-- `UiState::new`. -/
def new : UiState where
  editor := .new
  scroll := .new
  menu := .cleared
  sessionBrowser := .initial
  popup := none
  sidebarPreference := .auto
  sidebarOpen := false
  frameWidth := 0
  notices := []
  localError := false
  welcomeDismissed := false
  needsRedraw := true

/-- `request_redraw`. -/
def requestRedraw (ui : UiState) : UiState := { ui with needsRedraw := true }

/-- `set_popup`. -/
def setPopup (popup : Option PopupKind) (ui : UiState) : UiState :=
  { ui with
    menu := if popup.isSome then .cleared else ui.menu
    popup := popup
    needsRedraw := true }

/-- `sidebar_visible`. -/
def sidebarVisible (ui : UiState) (width : ℕ) : Bool :=
  ui.sidebarOpen || (ui.sidebarPreference = .auto && 120 < width)

/-- `toggle_sidebar`. -/
def toggleSidebar (ui : UiState) : UiState :=
  let visible := ui.sidebarVisible ui.frameWidth
  { ui with
    sidebarPreference := if visible then .hide else .auto
    sidebarOpen := !visible
    needsRedraw := true }

/-- `push_notice`. -/
def pushNotice (notice : List Char) (ui : UiState) : UiState :=
  { ui with notices := ui.notices ++ [sanitizeLine notice], needsRedraw := true }

/-- `push_error`. -/
def pushError (notice : List Char) (ui : UiState) : UiState :=
  { ui with localError := true }.pushNotice notice

/-- `clear_local_error`. -/
def clearLocalError (ui : UiState) : UiState :=
  { ui with localError := false, needsRedraw := true }

/-- `authoritative_reset`. -/
def authoritativeReset (ui : UiState) : UiState :=
  { ui with
    notices := []
    localError := false
    menu := .cleared
    popup := none
    welcomeDismissed := false
    needsRedraw := true }

/-- `chat_transition_reset`. -/
def chatTransitionReset (ui : UiState) : UiState :=
  { ui with
    editor := ui.editor.clear
    scroll := .new
    sessionBrowser := ui.sessionBrowser.close }.authoritativeReset

/-! ### Drawing -/

/-- What the frame determines of a drawing: its width, and, as far as they are drawn, the
height of the transcript and of the area for it, the width and the height for the prompt, and
the height for the list of the browser. -/
structure Frame where
  width : ℕ
  transcript : Option (ℕ × ℕ)
  prompt : Option (ℕ × ℕ)
  browser : Option ℕ
deriving DecidableEq, Repr

variable (S : Segmentation Char) (width : String → ℕ) (widget : ℕ → Option ℕ → ℕ → ℕ → ℕ)

/-- `render`, as far as it changes the state. -/
def render (frame : Frame) (ui : UiState) : Option UiState := do
  let editor ← match frame.prompt with
    | none => some ui.editor
    | some (limit, visibleHeight) =>
      (ui.editor.displayRows S width limit visibleHeight).map Prod.snd
  some { ui with
    frameWidth := frame.width
    scroll := match frame.transcript with
      | none => ui.scroll
      | some (contentHeight, viewportHeight) => ui.scroll.updateMetrics contentHeight viewportHeight
    editor
    sessionBrowser := match frame.browser with
      | none => ui.sessionBrowser
      | some height => ui.sessionBrowser.renderSessionList widget height }

/-- The state without its requests: what can be seen of it. -/
def seen (ui : UiState) : UiState :=
  { ui with
    sessionBrowser := { ui.sessionBrowser with refreshRequested := false }
    needsRedraw := false }

end UiState
end Client
end Moh
