/-
# What the prompt editor reports

`client/ui/editor.rs`: the owner of an editor learns from an event only whether the text may
have changed, or that it was submitted.  An editor that reports neither is the same as before
(`PromptText.Reports`), and one that reports a submission gave its whole text away and is empty.
-/

import Moh.Client.EditorCursor

namespace Moh
namespace Client
namespace PromptText

variable {G : Segmentation Char} {width : String → ℕ} {e e' : PromptText}

/-- **What an outcome says** of the editor before and after the event. -/
def Reports (e : PromptText) (outcome : EditorOutcome) (e' : PromptText) : Prop :=
  match outcome with
  | .changed => True
  | .submitted text => text = e.value ∧ e' = e.clear
  | _ => e' = e

/-- Where nothing changed, the editor is the same. -/
def Idle (e : PromptText) (result : Option (Bool × PromptText)) : Prop :=
  ∀ e', result = some (false, e') → e' = e

theorem Idle.reports {result : Option (Bool × PromptText)} (h : e.Idle result)
    {outcome : EditorOutcome} (hresult : result.map changedIf = some (outcome, e')) :
    e.Reports outcome e' := by
  obtain ⟨⟨changed, e''⟩, hsome, heq⟩ := Option.map_eq_some_iff.1 hresult
  obtain ⟨houtcome, rfl⟩ := Prod.mk.inj heq
  cases changed with
  | true =>
    obtain rfl : EditorOutcome.changed = outcome := houtcome
    trivial
  | false =>
    obtain rfl : EditorOutcome.consumed = outcome := houtcome
    exact h _ hsome

/-- A step that always changes something is never idle. -/
theorem idle_of_map {α : Type} {result : Option α} {f : α → PromptText} :
    e.Idle (result.map fun value => (true, f value)) := by
  intro e' h
  obtain ⟨value, -, heq⟩ := Option.map_eq_some_iff.1 h
  simp at heq

theorem idle_self : e.Idle (some (false, e)) := by
  intro e' h
  exact (Prod.mk.inj (Option.some.inj h)).2.symm

theorem idle_moveTo (e : PromptText) (cursor : ℕ) : e.Idle (some (e.moveTo cursor)) := by
  intro e' h
  obtain ⟨hsame, rfl⟩ := Prod.mk.inj (Option.some.inj h)
  obtain rfl : cursor = e.cursorGrapheme := by simpa using hsame
  rfl

theorem idle_moveAndReset (e : PromptText) (cursor : ℕ) :
    e.Idle (some (e.moveAndReset cursor)) := by
  unfold moveAndReset
  split_ifs with hsame
  · exact idle_self
  · intro e' h
    simp at h

theorem idle_deleteAtCursor (e : PromptText) : e.Idle (e.deleteAtCursor G) := by
  unfold deleteAtCursor
  split
  · exact idle_self
  · exact idle_of_map

theorem idle_deleteBeforeCursor (h : e.Inv G) : e.Idle (e.deleteBeforeCursor G) := by
  unfold deleteBeforeCursor
  split_ifs with hstart
  · exact idle_self
  · -- the grapheme before the cursor is there, so it is deleted
    have hcursor := h.cursor
    have hlt : e.cursorGrapheme - 1 < (graphemeIndices G e.value).length := by
      rw [graphemeIndices, length_indicesFrom]
      change _ < e.graphemeCount G
      omega
    simp only [deleteAtCursor, List.getElem?_eq_getElem hlt]
    exact idle_of_map

theorem idle_removeGraphemes (e : PromptText) (start stop : ℕ) :
    e.Idle (e.removeGraphemes G start stop) := by
  unfold removeGraphemes
  split
  · intro e' h
    simp at h
  · exact idle_of_map

theorem idle_deleteWordBeforeCursor (e : PromptText) : e.Idle (e.deleteWordBeforeCursor G) := by
  intro e' h
  obtain ⟨start, -, h⟩ := Option.bind_eq_some_iff.1 h
  split_ifs at h
  · exact idle_self e' h
  · exact idle_removeGraphemes e _ _ e' h

theorem idle_deleteWordAtCursor (e : PromptText) : e.Idle (e.deleteWordAtCursor G) := by
  unfold deleteWordAtCursor
  dsimp only
  split_ifs
  · exact idle_self
  · exact idle_removeGraphemes e _ _

theorem idle_moveWordLeft (e : PromptText) : e.Idle (e.moveWordLeft G) := by
  intro e' h
  obtain ⟨start, -, heq⟩ := Option.map_eq_some_iff.1 h
  exact idle_moveTo e start e' (congrArg some heq)

theorem idle_moveWordRight (e : PromptText) : e.Idle (some (e.moveWordRight G)) := by
  unfold moveWordRight
  dsimp only
  split
  · exact idle_self
  · split_ifs
    · exact idle_moveTo e _
    · exact idle_moveTo e _

theorem idle_moveVertical (e : PromptText) (direction : Direction) :
    e.Idle (e.moveVertical G width direction) := by
  intro e' h
  unfold moveVertical at h
  obtain ⟨⟨current, column⟩, -, h⟩ := Option.bind_eq_some_iff.1 h
  dsimp only at h
  split at h
  · exact idle_self e' h
  · obtain ⟨row, -, h⟩ := Option.bind_eq_some_iff.1 h
    exact idle_of_map e' h

/-- Text that is put in. -/
theorem reports_of_insertEvent {text : List Char} {outcome : EditorOutcome}
    (h : e.insertEvent G text = some (outcome, e')) : e.Reports outcome e' := by
  unfold insertEvent at h
  split_ifs at h
  · obtain ⟨rfl, rfl⟩ := Prod.mk.inj (Option.some.inj h)
    rfl
  · obtain ⟨e'', -, heq⟩ := Option.map_eq_some_iff.1 h
    obtain ⟨rfl, -⟩ := Prod.mk.inj heq
    trivial

/-- A motion that is possible or not. -/
theorem reports_of_idle {result : Bool × PromptText} (hidle : e.Idle (some result))
    {outcome : EditorOutcome} (h : some (changedIf result) = some (outcome, e')) :
    e.Reports outcome e' :=
  hidle.reports (by rw [← h]; rfl)

theorem reports_of_handlePlainKey (hinv : e.Inv G) {modifiers : EditorModifiers} {code : EditorKey}
    {outcome : EditorOutcome}
    (h : e.handlePlainKey G width modifiers code = some (outcome, e')) :
    e.Reports outcome e' := by
  have hconsumed (h : some (EditorOutcome.consumed, e) = some (outcome, e')) :
      e.Reports outcome e' := by
    obtain ⟨rfl, rfl⟩ := Prod.mk.inj (Option.some.inj h)
    rfl
  cases code with
  | char character => exact reports_of_insertEvent h
  | enter =>
    simp only [handlePlainKey] at h
    split_ifs at h
    · obtain ⟨e'', -, heq⟩ := Option.map_eq_some_iff.1 h
      obtain ⟨rfl, -⟩ := Prod.mk.inj heq
      trivial
    · obtain ⟨rfl, rfl⟩ := Prod.mk.inj (Option.some.inj h)
      exact ⟨rfl, rfl⟩
  | esc => exact hconsumed h
  | left =>
    simp only [handlePlainKey] at h
    split_ifs at h
    · exact hconsumed h
    · exact reports_of_idle (idle_moveAndReset e _) h
  | right =>
    simp only [handlePlainKey] at h
    split_ifs at h
    · exact hconsumed h
    · exact reports_of_idle (idle_moveAndReset e _) h
  | home => exact reports_of_idle (idle_moveAndReset e _) h
  | end_ => exact reports_of_idle (idle_moveAndReset e _) h
  | up => exact (idle_moveVertical e _).reports h
  | down => exact (idle_moveVertical e _).reports h
  | backspace => exact (idle_deleteBeforeCursor hinv).reports h
  | delete => exact (idle_deleteAtCursor e).reports h
  | other =>
    obtain ⟨rfl, rfl⟩ := Prod.mk.inj (Option.some.inj h)
    rfl

theorem reports_of_handleAllowedKey (hinv : e.Inv G) {modifiers : EditorModifiers}
    {code : EditorKey} {outcome : EditorOutcome}
    (h : e.handleAllowedKey G width modifiers code = some (outcome, e')) :
    e.Reports outcome e' := by
  unfold handleAllowedKey at h
  split_ifs at h
  · obtain ⟨rfl, rfl⟩ := Prod.mk.inj (Option.some.inj h)
    rfl
  · exact reports_of_handlePlainKey hinv h

theorem idle_of_handleWordKey {code : EditorKey} {result : Bool × PromptText}
    (h : e.handleWordKey G code = some (some result)) : e.Idle (some result) := by
  have hmap {r : Option (Bool × PromptText)} (hidle : e.Idle r)
      (h : r.map some = some (some result)) : e.Idle (some result) := by
    obtain ⟨result', hr, heq⟩ := Option.map_eq_some_iff.1 h
    obtain rfl := Option.some.inj heq
    exact hr ▸ hidle
  unfold handleWordKey at h
  split at h
  · exact hmap (idle_moveWordLeft e) h
  · obtain rfl := Option.some.inj (Option.some.inj h)
    exact idle_moveWordRight e
  · exact hmap (idle_deleteWordBeforeCursor e) h
  · exact hmap (idle_deleteWordBeforeCursor e) h
  · exact hmap (idle_deleteWordAtCursor e) h
  · simp at h

/-- **Every event of the editor.** -/
theorem reports_of_handleEvent (hinv : e.Inv G) {event : EditorEvent} {outcome : EditorOutcome}
    (h : e.handleEvent G width event = some (outcome, e')) : e.Reports outcome e' := by
  unfold handleEvent at h
  split at h
  · exact reports_of_insertEvent h
  · obtain ⟨rfl, rfl⟩ := Prod.mk.inj (Option.some.inj h)
    rfl
  · obtain ⟨rfl, rfl⟩ := Prod.mk.inj (Option.some.inj h)
    rfl
  · split_ifs at h
    · split at h
      · simp at h
      next result hword => exact reports_of_idle (idle_of_handleWordKey hword) h
      · exact reports_of_handleAllowedKey hinv h
    · exact reports_of_handleAllowedKey hinv h

/-! ### Submissions -/

theorem changedIf_ne_submitted (result : Bool × PromptText) (text : List Char)
    (e : PromptText) : changedIf result ≠ (.submitted text, e) := by
  unfold changedIf
  split_ifs <;> simp

theorem map_changedIf_ne_submitted (result : Option (Bool × PromptText)) (text : List Char)
    (e : PromptText) : result.map changedIf ≠ some (.submitted text, e) := by
  intro h
  obtain ⟨result, -, heq⟩ := Option.map_eq_some_iff.1 h
  exact changedIf_ne_submitted result text e heq

theorem insertEvent_ne_submitted (inserted text : List Char) (e e' : PromptText) :
    e.insertEvent G inserted ≠ some (.submitted text, e') := by
  unfold insertEvent
  split_ifs
  · simp
  · intro h
    obtain ⟨e'', -, heq⟩ := Option.map_eq_some_iff.1 h
    simp at heq

/-- **Only Enter submits.** -/
theorem enter_of_submitted {event : EditorEvent} {text : List Char}
    (h : e.handleEvent G width event = some (.submitted text, e')) :
    ∃ kind modifiers, event = .key kind modifiers .enter := by
  have hallowed {kind : KeyEventKind} {modifiers : EditorModifiers} {code : EditorKey}
      (h : e.handleAllowedKey G width modifiers code = some (.submitted text, e')) :
      ∃ kind' modifiers', EditorEvent.key kind modifiers code = .key kind' modifiers' .enter := by
    unfold handleAllowedKey at h
    split_ifs at h
    · simp at h
    · cases code with
      | enter => exact ⟨kind, modifiers, rfl⟩
      | char character => exact absurd h (insertEvent_ne_submitted _ _ _ _)
      | esc => simp [handlePlainKey] at h
      | left =>
        simp only [handlePlainKey] at h
        split_ifs at h
        · simp at h
        · exact absurd (Option.some.inj h) (changedIf_ne_submitted _ _ _)
      | right =>
        simp only [handlePlainKey] at h
        split_ifs at h
        · simp at h
        · exact absurd (Option.some.inj h) (changedIf_ne_submitted _ _ _)
      | home => exact absurd (Option.some.inj h) (changedIf_ne_submitted _ _ _)
      | end_ => exact absurd (Option.some.inj h) (changedIf_ne_submitted _ _ _)
      | up => exact absurd h (map_changedIf_ne_submitted _ _ _)
      | down => exact absurd h (map_changedIf_ne_submitted _ _ _)
      | backspace => exact absurd h (map_changedIf_ne_submitted _ _ _)
      | delete => exact absurd h (map_changedIf_ne_submitted _ _ _)
      | other => simp [handlePlainKey] at h
  unfold handleEvent at h
  split at h
  · exact absurd h (insertEvent_ne_submitted _ _ _ _)
  · simp at h
  · simp at h
  · split_ifs at h
    · split at h
      · simp at h
      · exact absurd (Option.some.inj h) (changedIf_ne_submitted _ _ _)
      · exact hallowed h
    · exact hallowed h

end PromptText
end Client
end Moh
