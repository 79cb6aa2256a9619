/-
# The text of the prompt editor

`client/ui/editor.rs`: the prompt as the string that it is, with the cursor as a number of
grapheme clusters in it, and what the keys do to the two.  A string is edited and sliced at
byte offsets, which panics where an offset is no boundary of a character or out of range; a
list is indexed and sliced by positions, which panics out of range.  `none` is a panic.

How a text is segmented into grapheme clusters, and how wide a text is, are parameters.
`PromptText.prompt` is the prompt as a list of its clusters, of which the rows are computed.
-/

import Moh.Client.EditorWindow
import Moh.Library.ByteOffset
import Moh.Library.Segmentation
import Moh.Library.Unicode

namespace Moh
namespace Client

open Spans

/-- `sanitize_editor_text`. -/
def sanitizeEditorText : List Char → List Char
  | '\r' :: '\n' :: rest => '\n' :: sanitizeEditorText rest
  | '\r' :: rest => '\n' :: sanitizeEditorText rest
  | '\n' :: rest => '\n' :: sanitizeEditorText rest
  | '\t' :: rest => ' ' :: sanitizeEditorText rest
  | character :: rest =>
    if Unicode.isControl character then sanitizeEditorText rest
    else character :: sanitizeEditorText rest
  | [] => []

/-- `PromptEditor`. -/
structure PromptText where
  value : List Char
  cursorGrapheme : ℕ
  viewportTop : ℕ
  preferredColumn : Option ℕ
  lastWidth : Option ℕ
deriving DecidableEq, Repr

/-- `EditorOutcome`. -/
inductive EditorOutcome where
  | ignored
  | consumed
  | changed
  | submitted (value : List Char)
deriving DecidableEq, Repr

/-- `EditorRows`. -/
structure EditorRows where
  lines : List (List Char)
  cursorRow : ℕ
  cursorColumn : ℕ
deriving DecidableEq, Repr

/-- `GraphemeSpan`, of which the end is never read. -/
structure GraphemeSpan where
  start : ℕ
  isWhitespace : Bool
deriving DecidableEq, Repr

/-- `grapheme_indices`, from a byte offset on. -/
def indicesFrom : ℕ → List (List Char) → List (ℕ × List Char)
  | _, [] => []
  | start, grapheme :: graphemes =>
    (start, grapheme) :: indicesFrom (start + Utf8.byteLength grapheme) graphemes

/-- `&list[i..j]`. -/
def sliceList {α : Type*} (list : List α) (i j : ℕ) : Option (List α) :=
  if i ≤ j ∧ j ≤ list.length then some (list.extract i j) else none

/-- `while at > 0 && spans[at - 1].is_whitespace == class { at -= 1 }`. -/
def scanLeft (spans : List GraphemeSpan) (isWhitespace : Bool) : ℕ → Option ℕ
  | 0 => some 0
  | at_ + 1 =>
    match spans[at_]? with
    | none => none
    | some span =>
      if span.isWhitespace = isWhitespace then scanLeft spans isWhitespace at_
      else some (at_ + 1)

/-- `while at < spans.len() && spans[at].is_whitespace == class { at += 1 }`. -/
def scanRight (spans : List GraphemeSpan) (isWhitespace : Bool) (at_ : ℕ) : ℕ :=
  at_ + ((spans.drop at_).takeWhile fun span => span.isWhitespace == isWhitespace).length

/-- The loop of `move_vertical`, over the next `count` graphemes. -/
def advanceIn (width : String → ℕ) (desired : ℕ) (graphemes : List (List Char)) :
    ℕ → ℕ → ℕ → Option ℕ
  | 0, index, _ => some index
  | count + 1, index, column =>
    match graphemes[index]? with
    | none => none
    | some grapheme =>
      if desired < column + width (String.ofList grapheme) then some index
      else advanceIn width desired graphemes count (index + 1)
        (column + width (String.ofList grapheme))

namespace PromptText

/-- `PromptEditor::new`. -/
def new : PromptText := ⟨[], 0, 0, none, none⟩

/-- `reset_vertical_state`. -/
def resetVerticalState (e : PromptText) : PromptText :=
  { e with viewportTop := 0, preferredColumn := none }

/-- `clear`. -/
def clear (e : PromptText) : PromptText :=
  resetVerticalState { e with value := [], cursorGrapheme := 0 }

/-- The `Enter` branch of `handle_event`. -/
def submit (e : PromptText) : EditorOutcome × PromptText := (.submitted e.value, e.clear)

variable (S : Segmentation Char) (width : String → ℕ)

/-- `grapheme_count`. -/
def graphemeCount (e : PromptText) : ℕ := (S.segment e.value).length

/-- `UnicodeSegmentation::grapheme_indices`. -/
def graphemeIndices (value : List Char) : List (ℕ × List Char) :=
  indicesFrom 0 (S.segment value)

/-- `grapheme_spans`. -/
def graphemeSpans (e : PromptText) : List GraphemeSpan :=
  (graphemeIndices S e.value).map fun entry => ⟨entry.1, entry.2.all Unicode.isWhitespace⟩

/-- `cursor_byte_index`. -/
def cursorByteIndex (e : PromptText) : ℕ :=
  match (graphemeIndices S e.value)[e.cursorGrapheme]? with
  | some entry => entry.1
  | none => Utf8.byteLength e.value

/-- The offset at which a span begins, or the end of the text. -/
def spanStart (e : PromptText) (index : ℕ) : ℕ :=
  match (e.graphemeSpans S)[index]? with
  | some span => span.start
  | none => Utf8.byteLength e.value

/-- The prompt as the list of its graphemes. -/
def prompt (e : PromptText) : PromptEditor where
  graphemes := (S.segment e.value).map String.ofList
  cursorGrapheme := e.cursorGrapheme
  viewportTop := e.viewportTop
  preferredColumn := e.preferredColumn
  lastWidth := e.lastWidth

/-- `rows`. -/
def rows (e : PromptText) (limit : ℕ) : List VisualRow := (e.prompt S).rows width limit

/-! ### Edits -/

/-- `set_value`. -/
def setValue (e : PromptText) (value : List Char) : PromptText :=
  resetVerticalState
    { e with
      value := sanitizeEditorText value
      cursorGrapheme := (S.segment (sanitizeEditorText value)).length }

/-- `insert`. -/
def insert (e : PromptText) (text : List Char) : Option PromptText :=
  if sanitizeEditorText text = [] then some e
  else
    (Utf8.insertStr e.value (e.cursorByteIndex S) (sanitizeEditorText text)).map fun value =>
      let insertionEnd := e.cursorByteIndex S + Utf8.byteLength (sanitizeEditorText text)
      resetVerticalState
        { e with
          value
          cursorGrapheme :=
            ((graphemeIndices S value).takeWhile fun entry => entry.1 < insertionEnd).length }

/-- `delete_at_cursor`. -/
def deleteAtCursor (e : PromptText) : Option (Bool × PromptText) :=
  match (graphemeIndices S e.value)[e.cursorGrapheme]? with
  | none => some (false, e)
  | some (start, grapheme) =>
    (Utf8.removeRange e.value start (start + Utf8.byteLength grapheme)).map fun value =>
      (true, resetVerticalState { e with value })

/-- `delete_before_cursor`. -/
def deleteBeforeCursor (e : PromptText) : Option (Bool × PromptText) :=
  if e.cursorGrapheme = 0 then some (false, e)
  else deleteAtCursor S { e with cursorGrapheme := e.cursorGrapheme - 1 }

/-- The end of the two functions that delete words: the graphemes from `start` to `stop` are
removed, and the cursor is before them. -/
def removeGraphemes (e : PromptText) (start stop : ℕ) : Option (Bool × PromptText) :=
  match (e.graphemeSpans S)[start]? with
  | none => none
  | some span =>
    (Utf8.removeRange e.value span.start (e.spanStart S stop)).map fun value =>
      (true, resetVerticalState { e with value, cursorGrapheme := start })

/-- The two loops of `move_word_left` and `delete_word_before_cursor`. -/
def wordStart (e : PromptText) : Option ℕ :=
  (scanLeft (e.graphemeSpans S) true e.cursorGrapheme).bind (scanLeft (e.graphemeSpans S) false)

/-- `delete_word_before_cursor`. -/
def deleteWordBeforeCursor (e : PromptText) : Option (Bool × PromptText) :=
  (e.wordStart S).bind fun start =>
    if start = e.cursorGrapheme then some (false, e)
    else e.removeGraphemes S start e.cursorGrapheme

/-- `delete_word_at_cursor`. -/
def deleteWordAtCursor (e : PromptText) : Option (Bool × PromptText) :=
  let spans := e.graphemeSpans S
  let stop := scanRight spans true (scanRight spans false (scanRight spans true e.cursorGrapheme))
  if e.cursorGrapheme = spans.length ∨ e.cursorGrapheme = stop then some (false, e)
  else e.removeGraphemes S e.cursorGrapheme stop

/-! ### Motions -/

/-- A motion to a grapheme in the same text: `Changed` if it is one. -/
def moveTo (e : PromptText) (cursor : ℕ) : Bool × PromptText :=
  (decide (cursor ≠ e.cursorGrapheme), { e with cursorGrapheme := cursor })

/-- `move_word_left`. -/
def moveWordLeft (e : PromptText) : Option (Bool × PromptText) :=
  (e.wordStart S).map e.moveTo

/-- `move_word_right`. -/
def moveWordRight (e : PromptText) : Bool × PromptText :=
  let spans := e.graphemeSpans S
  match spans[e.cursorGrapheme]? with
  | none => (false, e)
  | some span =>
    if span.isWhitespace then e.moveTo (scanRight spans true e.cursorGrapheme)
    else e.moveTo (scanRight spans true (scanRight spans false e.cursorGrapheme))

/-- `line_start`. -/
def lineStart (e : PromptText) : ℕ :=
  (((S.segment e.value).take e.cursorGrapheme).zipIdx.filterMap fun entry =>
    if entry.1 = ['\n'] then some (entry.2 + 1) else none).getLast?.getD 0

/-- `line_end`. -/
def lineEnd (e : PromptText) : ℕ :=
  (((S.segment e.value).zipIdx.drop e.cursorGrapheme).findSome? fun entry =>
    if entry.1 = ['\n'] then some entry.2 else none).getD (e.graphemeCount S)

/-- A motion that forgets the column and the viewport, when it is one. -/
def moveAndReset (e : PromptText) (cursor : ℕ) : Bool × PromptText :=
  if e.cursorGrapheme = cursor then (false, e)
  else (true, resetVerticalState { e with cursorGrapheme := cursor })

/-- `cursor_row_and_column`. -/
def cursorRowAndColumn (e : PromptText) (rows : List VisualRow) : Option (ℕ × ℕ) :=
  let row := (rows.findIdx? (·.contains e.cursorGrapheme)).getD (rows.length - 1)
  match rows[row]? with
  | none => none
  | some entry =>
    (Utf8.slice e.value (e.spanStart S entry.start) (e.cursorByteIndex S)).map fun text =>
      (row, width (String.ofList text))

/-- The rest of `move_vertical`, when there is a target. -/
def enter (e : PromptText) (desired : ℕ) (row : VisualRow) : Option (Bool × PromptText) :=
  (advanceIn width desired (S.segment e.value) (row.stop - row.start) row.start 0).map
    fun index => (true, { e with cursorGrapheme := index, preferredColumn := some desired })

/-- `move_vertical`. -/
def moveVertical (e : PromptText) (direction : Direction) : Option (Bool × PromptText) := do
  let rows := e.rows S width (e.lastWidth.getD u16Max)
  let (current, column) ← e.cursorRowAndColumn S width rows
  let target :=
    match direction with
    | .up => if 0 < current then some (current - 1) else none
    | .down => if current + 1 < rows.length then some (current + 1) else none
  match target with
  | none => some (false, e)
  | some target => e.enter S width (e.preferredColumn.getD column) (← rows[target]?)

/-! ### The views -/

/-- `display_rows`. -/
def displayRows (e : PromptText) (limit visibleHeight : ℕ) : Option (EditorRows × PromptText) :=
  if limit = 0 ∨ visibleHeight = 0 then some (⟨[], 0, 0⟩, e)
  else do
    let e := { e with lastWidth := some limit }
    let rows := e.rows S width limit
    let (cursor, cursorColumn) ← e.cursorRowAndColumn S width rows
    let viewportTop :=
      if cursor < e.viewportTop then cursor
      else if e.viewportTop + visibleHeight ≤ cursor then cursor + 1 - visibleHeight
      else e.viewportTop
    let lines ← ((rows.drop viewportTop).take visibleHeight).mapM fun row =>
      (sliceList (S.segment e.value) row.start row.stop).map List.flatten
    some (⟨lines, cursor - viewportTop, min cursorColumn (limit - 1)⟩, { e with viewportTop })

/-- `display_window`, which leaves the editor as it is. -/
def displayWindow (e : PromptText) (limit : ℕ) : Option (EditorWindow × PromptText) :=
  ((e.prompt S).displayWindow width limit).map fun window => (window, e)

end PromptText

/-! ### Events -/

/-- `KeyModifiers`. -/
structure EditorModifiers where
  shift : Bool
  control : Bool
  alt : Bool
  super : Bool
  hyper : Bool
  meta_ : Bool
deriving DecidableEq, Repr

namespace EditorModifiers

/-- `KeyModifiers::SHIFT`. -/
def onlyShift : EditorModifiers := ⟨true, false, false, false, false, false⟩

/-- `exact_control`. -/
def exactControl (m : EditorModifiers) : Bool := m.control && !(m.alt || m.shift)

/-- `has_disallowed_modifiers`. -/
def hasDisallowed (m : EditorModifiers) : Bool := m.control || m.alt

end EditorModifiers

/-- `KeyCode`, as far as the editor tells them apart. -/
inductive EditorKey where
  | char (character : Char)
  | enter
  | esc
  | left
  | right
  | home
  | end_
  | up
  | down
  | backspace
  | delete
  | other
deriving DecidableEq, Repr

/-- `KeyEventKind`. -/
inductive KeyEventKind where
  | press
  | repeat_
  | release
deriving DecidableEq, Repr

/-- `Event`. -/
inductive EditorEvent where
  | key (kind : KeyEventKind) (modifiers : EditorModifiers) (code : EditorKey)
  | paste (text : List Char)
  | other
deriving DecidableEq, Repr

/-- `Changed` if something changed. -/
def changedIf (result : Bool × PromptText) : EditorOutcome × PromptText :=
  (if result.1 then .changed else .consumed, result.2)

namespace PromptText

variable (S : Segmentation Char) (width : String → ℕ)

/-- The insertions of `handle_event`. -/
def insertEvent (e : PromptText) (text : List Char) : Option (EditorOutcome × PromptText) :=
  if sanitizeEditorText text = [] then some (.consumed, e)
  else (e.insert S (sanitizeEditorText text)).map fun e => (.changed, e)

/-- The keys with `Control` alone; the inner `none` is another key. -/
def handleWordKey (e : PromptText) : EditorKey → Option (Option (Bool × PromptText))
  | .left => (e.moveWordLeft S).map some
  | .right => some (some (e.moveWordRight S))
  | .backspace => (e.deleteWordBeforeCursor S).map some
  | .char 'h' => (e.deleteWordBeforeCursor S).map some
  | .delete => (e.deleteWordAtCursor S).map some
  | _ => some none

/-- The `match` of `handle_event`. -/
def handlePlainKey (e : PromptText) (modifiers : EditorModifiers) :
    EditorKey → Option (EditorOutcome × PromptText)
  | .char character => e.insertEvent S [character]
  | .enter =>
    if modifiers = .onlyShift then (e.insert S ['\n']).map fun e => (.changed, e)
    else some e.submit
  | .esc => some (.consumed, e)
  | .left =>
    if e.cursorGrapheme = 0 then some (.consumed, e)
    else some (changedIf (e.moveAndReset (e.cursorGrapheme - 1)))
  | .right =>
    if e.cursorGrapheme = e.graphemeCount S then some (.consumed, e)
    else some (changedIf (e.moveAndReset (e.cursorGrapheme + 1)))
  | .home => some (changedIf (e.moveAndReset (e.lineStart S)))
  | .end_ => some (changedIf (e.moveAndReset (e.lineEnd S)))
  | .up => (e.moveVertical S width .up).map changedIf
  | .down => (e.moveVertical S width .down).map changedIf
  | .backspace => (e.deleteBeforeCursor S).map changedIf
  | .delete => (e.deleteAtCursor S).map changedIf
  | .other => some (.ignored, e)

/-- `handle_event`, from the test of the modifiers on. -/
def handleAllowedKey (e : PromptText) (modifiers : EditorModifiers) (code : EditorKey) :
    Option (EditorOutcome × PromptText) :=
  if modifiers.hasDisallowed then some (.ignored, e) else e.handlePlainKey S width modifiers code

/-- `handle_event`. -/
def handleEvent (e : PromptText) : EditorEvent → Option (EditorOutcome × PromptText)
  | .paste text => e.insertEvent S text
  | .other => some (.ignored, e)
  | .key .release _ _ => some (.ignored, e)
  | .key _ modifiers code =>
    if modifiers.exactControl then
      match e.handleWordKey S code with
      | none => none
      | some (some result) => some (changedIf result)
      | some none => e.handleAllowedKey S width modifiers code
    else e.handleAllowedKey S width modifiers code

/-- What is done to an editor: an event, or a call of the interface that owns it. -/
inductive Action where
  | event (event : EditorEvent)
  | setValue (value : List Char)
  | clear
  | displayRows (limit visibleHeight : ℕ)
  | displayWindow (limit : ℕ)
deriving DecidableEq, Repr

/-- The editor behind an action. -/
def act (e : PromptText) : Action → Option PromptText
  | .event event => (e.handleEvent S width event).map Prod.snd
  | .setValue value => some (e.setValue S value)
  | .clear => some e.clear
  | .displayRows limit visibleHeight => (e.displayRows S width limit visibleHeight).map Prod.snd
  | .displayWindow limit => (e.displayWindow S width limit).map Prod.snd

end PromptText
end Client
end Moh
