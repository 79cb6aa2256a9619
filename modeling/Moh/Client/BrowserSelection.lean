/-
# The selection of the session browser

Every operation of the session browser is defined and keeps the selection in order: the
selected row is the selected session, and the window shows it (`Sound`).  A list or a filter
that changes keeps the selection on its session while that is visible, and a move goes in its
own direction or nowhere (`Follows`).  One lemma for each kind of operation: those that
rebuild the rows (`exists_rebuildVisible`), those that move (`MovesTo`), and those that leave
the selection alone (`SameView`).
-/

import Moh.Client.SessionBrowser
import Moh.Library.Fallible

namespace Moh
namespace Client

open Cursor

namespace SessionBrowserState

/-- The session of the highlighted row. -/
def highlighted (s : SessionBrowserState) : Option SessionId :=
  s.visible[s.selected]?.bind BrowserRow.sessionId

/-- Whether a session has a row. -/
def Shows (s : SessionBrowserState) (sessionId : SessionId) : Prop :=
  ∃ row ∈ s.visible, row.sessionId = some sessionId

/-- **The fields agree:** no session is visible and none is selected, or the highlighted row
is the selected session and in the window. -/
def Synchronized (s : SessionBrowserState) : Prop :=
  ((∀ sessionId, ¬s.Shows sessionId) ∧ s.selectedId = none) ∨
    ∃ sessionId, s.selectedId = some sessionId ∧ s.highlighted = some sessionId ∧
      s.offset ≤ s.selected ∧ s.selected < s.offset + s.viewportRows

/-- The invariant: besides, the window is not empty, and without a selection the first row is
the selected one. -/
structure Sound (s : SessionBrowserState) : Prop where
  viewport : 0 < s.viewportRows
  parked : s.selectedId = none → s.selected = 0
  synchronized : s.Synchronized

/-- What an operation may do to the selection. -/
inductive Motion where
  | stay
  | forward
  | backward
  | reset
deriving DecidableEq, Repr

/-- **The selection follows:** it stays with its session while that is visible, or moves among
the same rows in one direction, or is made anew. -/
def Follows (s s' : SessionBrowserState) : Motion → Prop
  | .stay => ∀ sessionId, s.selectedId = some sessionId → s'.Shows sessionId →
      s'.selectedId = some sessionId
  | .forward => s'.visible = s.visible ∧ s.selected ≤ s'.selected
  | .backward => s'.visible = s.visible ∧ s'.selected ≤ s.selected
  | .reset => True

/-- A sound result of an operation. -/
def Does (s : SessionBrowserState) (motion : Motion) (result : Option SessionBrowserState) :
    Prop :=
  ∃ s', result = some s' ∧ s'.Sound ∧ s.Follows s' motion

variable {classes : CharClasses} {s s' : SessionBrowserState}

/-! ### The window -/

/-- The selection is in order once the window has followed it. -/
theorem sound_ensureSelectionVisible (hviewport : 0 < s.viewportRows)
    (hnone : s.selectedId = none → s.selected = 0 ∧ ∀ sessionId, ¬s.Shows sessionId)
    (hsome : ∀ sessionId, s.selectedId = some sessionId → s.highlighted = some sessionId) :
    s.ensureSelectionVisible.Sound := by
  refine ⟨hviewport, fun h => (hnone h).1, ?_⟩
  cases hid : s.selectedId with
  | none => exact .inl ⟨(hnone hid).2, hid⟩
  | some sessionId =>
    obtain ⟨row, hrow, -⟩ := Option.bind_eq_some_iff.1 (hsome sessionId hid)
    obtain ⟨hselected, -⟩ := List.getElem?_eq_some_iff.1 hrow
    have hbounds := scroll_bounds hviewport hselected s.offset
    exact .inr ⟨sessionId, hid, hsome sessionId hid, hbounds.1, hbounds.2⟩

/-- Selecting a row that can be selected. -/
theorem sound_select (hviewport : 0 < s.viewportRows) {index : ℕ} {row : BrowserRow}
    (hrow : s.visible[index]? = some row) (hselectable : row.selectable = true) :
    (s.select index).Sound ∧ (s.select index).selected = index ∧
      (s.select index).visible = s.visible := by
  obtain ⟨sessionId, hid⟩ := Option.isSome_iff_exists.1 hselectable
  have hbind : s.visible[index]?.bind BrowserRow.sessionId = some sessionId := by
    rw [hrow, Option.bind_some, hid]
  rw [select, hbind]
  refine ⟨sound_ensureSelectionVisible hviewport nofun fun sessionId' hid' => ?_, rfl, rfl⟩
  rw [← hid']
  exact hbind

/-! ### Rebuilding the rows -/

/-- Every group has a first session. -/
theorem exists_globalRows (currentCwd : List UInt8) (sessions : List SessionSummary) :
    ∃ rows, globalRows currentCwd sessions = some rows := by
  have hfirst : ∀ group ∈ groupSessions sessions, ∃ entry,
      (group.sessions[0]?.map fun first => (group, first)) = some entry := by
    intro group hgroup
    obtain ⟨cwd, hcwd, rfl⟩ := List.mem_map.1 hgroup
    rw [List.mem_mergeSort, List.mem_eraseDups] at hcwd
    obtain ⟨summary, hsummary, rfl⟩ := List.mem_map.1 hcwd
    have hmem : summary ∈ sortSessions (sessions.filter fun other =>
        decide (other.cwd = summary.cwd)) := by
      rw [sortSessions, List.mem_mergeSort, List.mem_filter]
      exact ⟨hsummary, decide_eq_true rfl⟩
    obtain ⟨first, rest, hsorted⟩ := List.exists_cons_of_ne_nil (List.ne_nil_of_mem hmem)
    dsimp only
    rw [hsorted]
    exact ⟨_, rfl⟩
  obtain ⟨groups, hgroups⟩ := Fallible.exists_mapM_option hfirst
  exact ⟨_, by rw [globalRows, hgroups]; rfl⟩

/-- There are always rows to show. -/
theorem exists_filteredRows (classes : CharClasses) (s : SessionBrowserState) :
    ∃ rows, s.filteredRows classes = some rows := by
  unfold filteredRows
  cases s.mode with
  | project => exact ⟨_, rfl⟩
  | global => exact exists_globalRows _ _

/-- The row that is found for a session, or else the first one, is the selected one. -/
theorem exists_selectAgain (hviewport : 0 < s.viewportRows) :
    ∃ s', s.selectAgain = some s' ∧ s'.Sound ∧ s'.visible = s.visible ∧
      ∀ sessionId, s.selectedId = some sessionId → s.Shows sessionId →
        s'.selectedId = some sessionId := by
  have hfirst := @List.findIdx?_eq_none_iff _ s.visible BrowserRow.selectable
  have hsame : ∀ sessionId, (s.visible.findIdx? fun row => row.sessionId = some sessionId) = none ↔
      ¬s.Shows sessionId := by
    intro sessionId
    rw [List.findIdx?_eq_none_iff]
    simp [Shows]
  rw [selectAgain]
  split
  next selected hselected =>
    -- the row has a session, and it is that of the selection if this is visible
    obtain ⟨row, hrow, hselectable, hkept⟩ : ∃ row, s.visible[selected]? = some row ∧
        row.selectable = true ∧ ∀ sessionId, s.selectedId = some sessionId →
          s.Shows sessionId → row.sessionId = some sessionId := by
      rcases Option.or_eq_some_iff.1 hselected with hfound | ⟨hnot, hfound⟩
      · obtain ⟨sessionId, hid, hfound⟩ := Option.bind_eq_some_iff.1 hfound
        obtain ⟨hlt, hrow, -⟩ := List.findIdx?_eq_some_iff_getElem.1 hfound
        have hrow := of_decide_eq_true hrow
        refine ⟨_, List.getElem?_eq_getElem hlt, ?_, fun sessionId' hid' _ => ?_⟩
        · rw [BrowserRow.selectable, hrow]
          rfl
        · rw [hrow, ← hid, hid']
      · obtain ⟨hlt, hrow, -⟩ := List.findIdx?_eq_some_iff_getElem.1 hfound
        refine ⟨_, List.getElem?_eq_getElem hlt, hrow, fun sessionId hid hshows => ?_⟩
        rw [hid, Option.bind_some, hsame] at hnot
        exact absurd hshows hnot
    obtain ⟨sessionId, hid⟩ := Option.isSome_iff_exists.1 hselectable
    refine ⟨({ s with selected, selectedId := row.sessionId } : SessionBrowserState)
      |>.ensureSelectionVisible, by rw [hrow]; rfl, ?_, rfl, hkept⟩
    refine sound_ensureSelectionVisible hviewport (fun hnone => ?_) fun sessionId' hid' => ?_
    · exact absurd (hid.symm.trans hnone) (Option.some_ne_none _)
    · exact (congrArg (·.bind BrowserRow.sessionId) hrow).trans hid'
  next hnone =>
    obtain ⟨hnot, hnone⟩ := Option.or_eq_none_iff.1 hnone
    have hshows : ∀ sessionId, ¬s.Shows sessionId := by
      rintro sessionId ⟨row, hrow, hid⟩
      have hselectable := hfirst.1 hnone row hrow
      simp [BrowserRow.selectable, hid] at hselectable
    exact ⟨_, rfl, sound_ensureSelectionVisible hviewport (fun _ => ⟨rfl, hshows⟩) nofun, rfl,
      fun sessionId _ h => absurd h (hshows sessionId)⟩

/-- **Rebuilding the rows** keeps the selection on its session while that is visible. -/
theorem exists_rebuildVisible (classes : CharClasses) (hviewport : 0 < s.viewportRows) :
    ∃ s', s.rebuildVisible classes = some s' ∧ s'.Sound ∧
      ∀ sessionId, s.selectedId = some sessionId → s'.Shows sessionId →
        s'.selectedId = some sessionId := by
  obtain ⟨visible, hvisible⟩ := exists_filteredRows classes s
  obtain ⟨s', hs', hsound, hrows, hkept⟩ := @exists_selectAgain { s with visible } hviewport
  refine ⟨s', by rw [rebuildVisible, hvisible]; exact hs', hsound, fun sessionId hid hshows => ?_⟩
  refine hkept sessionId hid ?_
  rwa [Shows, hrows] at hshows

/-! ### Moves -/

/-- Nothing is done, or a row that can be selected and meets the condition is. -/
def MovesTo (s : SessionBrowserState) (P : ℕ → Prop) (s' : SessionBrowserState) : Prop :=
  s' = s ∨ ∃ index row, P index ∧ s.visible[index]? = some row ∧ row.selectable = true ∧
    s' = s.select index

theorem MovesTo.sound {P : ℕ → Prop} (h : s.MovesTo P s') (hs : s.Sound) : s'.Sound := by
  rcases h with rfl | ⟨index, row, -, hrow, hselectable, rfl⟩
  · exact hs
  · exact (sound_select hs.viewport hrow hselectable).1

/-- A move leaves the rows alone and ends where the condition holds. -/
theorem MovesTo.lands {P : ℕ → Prop} (h : s.MovesTo P s') (hs : s.Sound) (hstays : P s.selected) :
    s'.visible = s.visible ∧ P s'.selected := by
  rcases h with rfl | ⟨index, row, hindex, hrow, hselectable, rfl⟩
  · exact ⟨rfl, hstays⟩
  · obtain ⟨-, hselected, hvisible⟩ := sound_select hs.viewport hrow hselectable
    exact ⟨hvisible, by rwa [hselected]⟩

/-- A move to a row that is not before the selected one. -/
theorem MovesTo.does_forward {result : Option SessionBrowserState} (hs : s.Sound)
    (h : ∃ s', result = some s' ∧ s.MovesTo (s.selected ≤ ·) s') : s.Does .forward result := by
  obtain ⟨s', hresult, hmoves⟩ := h
  exact ⟨s', hresult, hmoves.sound hs, hmoves.lands hs le_rfl⟩

/-- A move to a row that is not behind the selected one. -/
theorem MovesTo.does_backward {result : Option SessionBrowserState} (hs : s.Sound)
    (h : ∃ s', result = some s' ∧ s.MovesTo (· ≤ s.selected) s') : s.Does .backward result := by
  obtain ⟨s', hresult, hmoves⟩ := h
  exact ⟨s', hresult, hmoves.sound hs, hmoves.lands hs le_rfl⟩

/-- The selected row is one that can be selected. -/
theorem Sound.selectedRow (hs : s.Sound) (hid : ¬s.selectedId.isNone = true) :
    ∃ row, s.visible[s.selected]? = some row ∧ row.selectable = true := by
  rcases hs.synchronized with ⟨-, hnone⟩ | ⟨sessionId, -, hrow, -⟩
  · exact absurd (by rw [hnone]; rfl) hid
  · obtain ⟨row, hrow, hid⟩ := Option.bind_eq_some_iff.1 hrow
    exact ⟨row, hrow, by rw [BrowserRow.selectable, hid]; rfl⟩

/-- It is one of the rows, if there are any. -/
theorem Sound.selected_le (hs : s.Sound) : s.selected ≤ s.visible.length := by
  by_cases hid : s.selectedId.isNone = true
  · rw [hs.parked (Option.isNone_iff_eq_none.1 hid)]
    exact Nat.zero_le _
  · obtain ⟨row, hrow, -⟩ := hs.selectedRow hid
    exact (List.getElem?_eq_some_iff.1 hrow).1.le

theorem does_selectNext (hs : s.Sound) : s.Does .forward s.selectNext := by
  refine MovesTo.does_forward hs ?_
  rw [selectNext]
  split_ifs with hid
  · exact ⟨s, rfl, .inl rfl⟩
  · obtain ⟨row, hrow, -⟩ := hs.selectedRow hid
    obtain ⟨hlt, -⟩ := List.getElem?_eq_some_iff.1 hrow
    rw [sliceFrom, if_pos (by omega), Option.bind_eq_bind, Option.bind_some]
    split
    · exact ⟨s, rfl, .inl rfl⟩
    next relative hfound =>
      obtain ⟨⟨next, hnext, hselectable⟩, -⟩ := findIdx?_drop_eq_some hfound
      rw [show s.selected + 1 + relative = s.selected + relative + 1 by omega] at hnext
      exact ⟨_, rfl, .inr ⟨_, next, by omega, hnext, hselectable, rfl⟩⟩

theorem does_selectPrevious (hs : s.Sound) : s.Does .backward s.selectPrevious := by
  refine MovesTo.does_backward hs ?_
  rw [selectPrevious, sliceTo, if_pos hs.selected_le, Option.bind_eq_bind, Option.bind_some]
  split
  · exact ⟨s, rfl, .inl rfl⟩
  next previous hfound =>
    obtain ⟨hlt, ⟨row, hrow, hselectable⟩, -⟩ := rposition_take_eq_some hfound
    exact ⟨_, rfl, .inr ⟨_, row, hlt.le, hrow, hselectable, rfl⟩⟩

/-- A page down ends at or behind the row a page away, or else at the last row before that; the
selected row is none behind that one. -/
theorem does_pageDown (hs : s.Sound) : s.Does .forward s.pageDown := by
  refine MovesTo.does_forward hs ?_
  rw [pageDown]
  split_ifs with hid
  · exact ⟨s, rfl, .inl rfl⟩
  · obtain ⟨selectedRow, hselected, hcurrent⟩ := hs.selectedRow hid
    obtain ⟨hlt, -⟩ := List.getElem?_eq_some_iff.1 hselected
    have htarget : s.selected ≤ min (s.selected + s.viewportRows) (s.visible.length - 1) := by omega
    have hlength : min (s.selected + s.viewportRows) (s.visible.length - 1) ≤
      s.visible.length := by omega
    generalize min (s.selected + s.viewportRows) (s.visible.length - 1) = target at *
    dsimp only
    rw [sliceFrom, if_pos hlength, sliceTo, if_pos hlength, Option.bind_eq_bind, Option.bind_some]
    split
    next relative hfound =>
      obtain ⟨⟨row, hrow, hselectable⟩, -⟩ := findIdx?_drop_eq_some hfound
      exact ⟨_, rfl, .inr ⟨_, row, by omega, hrow, hselectable, rfl⟩⟩
    next hnone =>
      -- the selected row is before the target, where there is none
      have hbefore : s.selected < target := by
        by_contra hle
        have hnot := findIdx?_drop_eq_none hnone s.selected (by omega) _ hselected
        exact absurd (hcurrent.symm.trans hnot) nofun
      rw [Option.bind_some]
      split
      next previous hfound =>
        obtain ⟨-, ⟨row, hrow, hselectable⟩, hlast⟩ := rposition_take_eq_some hfound
        refine ⟨_, rfl, .inr ⟨_, row, ?_, hrow, hselectable, rfl⟩⟩
        by_contra hle
        have hnot := hlast s.selected (by omega) hbefore _ hselected
        exact absurd (hcurrent.symm.trans hnot) nofun
      · exact ⟨s, rfl, .inl rfl⟩

/-- A page up ends at or before the row a page away, or else at the first row behind that; the
selected row is none before that one. -/
theorem does_pageUp (hs : s.Sound) : s.Does .backward s.pageUp := by
  refine MovesTo.does_backward hs ?_
  rw [pageUp]
  split_ifs with hid
  · exact ⟨s, rfl, .inl rfl⟩
  · obtain ⟨selectedRow, hselected, hcurrent⟩ := hs.selectedRow hid
    obtain ⟨hlt, -⟩ := List.getElem?_eq_some_iff.1 hselected
    have htarget : s.selected - s.viewportRows ≤ s.selected := Nat.sub_le _ _
    generalize s.selected - s.viewportRows = target at *
    dsimp only
    rw [sliceThrough, sliceTo, if_pos (by omega), sliceFrom, if_pos (by omega),
      Option.bind_eq_bind, Option.bind_some]
    split
    next previous hfound =>
      obtain ⟨hprevious, ⟨row, hrow, hselectable⟩, -⟩ := rposition_take_eq_some hfound
      exact ⟨_, rfl, .inr ⟨_, row, by omega, hrow, hselectable, rfl⟩⟩
    · rw [Option.bind_some]
      split
      next relative hfound =>
        obtain ⟨⟨row, hrow, hselectable⟩, hfirst⟩ := findIdx?_drop_eq_some hfound
        refine ⟨_, rfl, .inr ⟨_, row, ?_, hrow, hselectable, rfl⟩⟩
        by_contra hle
        have hnot := hfirst s.selected htarget (by omega) _ hselected
        exact absurd (hcurrent.symm.trans hnot) nofun
      · exact ⟨s, rfl, .inl rfl⟩

/-- The wheel moves among the rows that can be selected, which are numbered in order. -/
theorem exists_moveSelectable (s : SessionBrowserState) (count : ℕ) (forward : Bool) :
    ∃ s', s.moveSelectable count forward = some s' ∧
      s.MovesTo (fun index => if forward then s.selected ≤ index else index ≤ s.selected) s' := by
  rw [moveSelectable]
  have hordered : (s.visible.findIdxs BrowserRow.selectable).Pairwise (· < ·) :=
    List.pairwise_findIdxs
  have hmem : ∀ i, i ∈ s.visible.findIdxs BrowserRow.selectable ↔
      ∃ hi : i < s.visible.length, s.visible[i].selectable = true :=
    fun i => List.mem_findIdxs_iff_exists_getElem_pos
  generalize s.visible.findIdxs BrowserRow.selectable = numbers at *
  dsimp only
  split
  · exact ⟨s, rfl, .inl rfl⟩
  next position hfound =>
    obtain ⟨hposition, hselected, -⟩ := List.findIdx?_eq_some_iff_getElem.1 hfound
    have hselected := of_decide_eq_true hselected
    have hle : ∀ i j (hi : i < numbers.length) (hj : j < numbers.length), i ≤ j →
        numbers[i] ≤ numbers[j] := by
      intro i j hi hj hij
      rcases Nat.eq_or_lt_of_le hij with rfl | hij
      · exact le_rfl
      · exact (List.pairwise_iff_getElem.1 hordered i j hi hj hij).le
    have htarget : (if forward then min (position + count) (numbers.length - 1)
        else position - count) < numbers.length := by
      split_ifs <;> omega
    obtain ⟨hlt, hselectable⟩ := (hmem _).1 (List.getElem_mem htarget)
    rw [List.getElem?_eq_getElem htarget, Option.bind_eq_bind, Option.bind_some]
    refine ⟨_, rfl, .inr ⟨_, _, ?_, List.getElem?_eq_getElem hlt, hselectable, rfl⟩⟩
    rw [← hselected]
    cases forward with
    | true => exact hle _ _ hposition htarget (by rw [if_pos rfl]; omega)
    | false => exact hle _ _ htarget hposition (Nat.sub_le _ _)

theorem does_wheelDown (hs : s.Sound) : s.Does .forward s.wheelDown :=
  MovesTo.does_forward hs (s.exists_moveSelectable wheelSelectableRows true)

theorem does_wheelUp (hs : s.Sound) : s.Does .backward s.wheelUp := by
  obtain ⟨s', hs', hmoves⟩ := s.exists_moveSelectable wheelSelectableRows false
  exact MovesTo.does_backward hs ⟨s', hs', by simpa using hmoves⟩

/-! ### Operations that leave the selection alone -/

/-- The fields that the selection consists of are the same. -/
structure SameView (s s' : SessionBrowserState) : Prop where
  visible : s'.visible = s.visible
  selected : s'.selected = s.selected
  selectedId : s'.selectedId = s.selectedId
  offset : s'.offset = s.offset
  viewportRows : s'.viewportRows = s.viewportRows

theorem SameView.sound (h : s.SameView s') (hs : s.Sound) : s'.Sound := by
  refine ⟨h.viewportRows ▸ hs.viewport, fun hnone => ?_, ?_⟩
  · rw [h.selected]
    exact hs.parked (h.selectedId ▸ hnone)
  · simp only [Synchronized, Shows, highlighted, h.visible, h.selected, h.selectedId, h.offset,
      h.viewportRows]
    exact hs.synchronized

theorem SameView.does (h : s.SameView s') (hs : s.Sound) : s.Does .stay (some s') :=
  ⟨s', rfl, h.sound hs, fun _ hid _ => h.selectedId ▸ hid⟩

/-- What is done after such an operation. -/
theorem SameView.does_of_does {motion : Motion} {result : Option SessionBrowserState}
    (h : s.SameView s') (hdoes : s'.Does motion result) : s.Does motion result := by
  obtain ⟨s'', hresult, hsound, hfollows⟩ := hdoes
  refine ⟨s'', hresult, hsound, ?_⟩
  cases motion with
  | stay => exact fun sessionId hid => hfollows sessionId (h.selectedId ▸ hid)
  | forward => exact ⟨hfollows.1.trans h.visible, h.selected ▸ hfollows.2⟩
  | backward => exact ⟨hfollows.1.trans h.visible, h.selected ▸ hfollows.2⟩
  | reset => trivial

theorem sameView_refl (s : SessionBrowserState) : s.SameView s := ⟨rfl, rfl, rfl, rfl, rfl⟩

theorem sameView_close (s : SessionBrowserState) : s.SameView s.close := ⟨rfl, rfl, rfl, rfl, rfl⟩

theorem sameView_startRename (s : SessionBrowserState) : s.SameView s.startRename := by
  unfold startRename
  split
  · exact ⟨rfl, rfl, rfl, rfl, rfl⟩
  · exact s.sameView_refl

theorem sameView_startDeleteConfirmation (s : SessionBrowserState) :
    s.SameView s.startDeleteConfirmation := by
  unfold startDeleteConfirmation
  split
  · exact ⟨rfl, rfl, rfl, rfl, rfl⟩
  · exact s.sameView_refl

theorem sameView_escape (s : SessionBrowserState) : s.SameView s.escape := by
  unfold escape
  split
  · exact s.sameView_close
  · exact ⟨rfl, rfl, rfl, rfl, rfl⟩

theorem sameView_finishRename (s : SessionBrowserState) : s.SameView s.finishRename := by
  unfold finishRename
  split
  · exact ⟨rfl, rfl, rfl, rfl, rfl⟩
  · exact s.sameView_refl

theorem sameView_setRenameError (message : String) (s : SessionBrowserState) :
    s.SameView (s.setRenameError message) := by
  unfold setRenameError
  split
  · exact ⟨rfl, rfl, rfl, rfl, rfl⟩
  · exact s.sameView_refl

/-! ### Operations that rebuild the rows -/

/-- Rebuilding the rows of a state with the same selection and window. -/
theorem does_rebuildVisible (hs : s.Sound) (hid : s'.selectedId = s.selectedId)
    (hviewport : s'.viewportRows = s.viewportRows) :
    s.Does .stay (s'.rebuildVisible classes) := by
  obtain ⟨s'', hs'', hsound, hkept⟩ :=
    exists_rebuildVisible classes (hviewport.symm ▸ hs.viewport)
  exact ⟨s'', hs'', hsound, fun sessionId h => hkept sessionId (hid.trans h)⟩

theorem does_openBrowser (hs : s.Sound) : s.Does .reset (s.openBrowser classes) := by
  obtain ⟨s', hs', hsound, -⟩ := exists_rebuildVisible classes
    (s := { s with
      isOpen := true, mode := .project, query := "", selected := 0, selectedId := none,
      offset := 0, layer := .list, refreshWarning := none, actionError := none,
      refreshRequested := true }) hs.viewport
  exact ⟨s', hs', hsound, trivial⟩

theorem does_editQuery (hs : s.Sound) (query : String) (changed : Bool) :
    s.Does .stay (s.editQuery classes query changed) := by
  rw [editQuery]
  split_ifs
  · exact does_rebuildVisible hs rfl rfl
  · exact SameView.does ⟨rfl, rfl, rfl, rfl, rfl⟩ hs

/-- Another height of the window: the selection stays, and the window is not empty. -/
theorem does_setViewportRows (hs : s.Sound) (viewportRows : ℕ) :
    s.Does .stay (some (s.setViewportRows viewportRows)) := by
  refine ⟨_, rfl, sound_ensureSelectionVisible (Nat.lt_of_lt_of_le Nat.one_pos (le_max_right _ _))
    (fun hnone => ⟨hs.parked hnone, ?_⟩) fun sessionId hid => ?_, fun _ hid _ => hid⟩
  · rcases hs.synchronized with ⟨hshows, -⟩ | ⟨sessionId, hid, -⟩
    · exact hshows
    · exact absurd (hid.symm.trans hnone) (Option.some_ne_none _)
  · rcases hs.synchronized with ⟨-, hnone⟩ | ⟨sessionId', hid', hrow, -⟩
    · exact absurd (hid.symm.trans hnone) (Option.some_ne_none _)
    · rw [show sessionId = sessionId' from Option.some.inj (hid.symm.trans hid')]
      exact hrow

/-- The list widget keeps an offset from which it shows the selected item, and any offset
where it has no room or nothing is selected. -/
def Settled (widget : ℕ → Option ℕ → ℕ → ℕ → ℕ) : Prop :=
  ∀ items selected offset height, offset < items →
    (height = 0 ∨ ∀ index ∈ selected, offset ≤ index ∧ index < offset + height) →
    widget items selected offset height = offset

/-- **Drawing the list** resizes the window, and the widget has nothing to correct. -/
theorem does_renderSessionList {widget : ℕ → Option ℕ → ℕ → ℕ → ℕ} (hwidget : Settled widget)
    (hs : s.Sound) (height : ℕ) : s.Does .stay (some (s.renderSessionList widget height)) := by
  obtain ⟨s', hs', hsound, hstay⟩ := does_setViewportRows hs height
  obtain rfl := Option.some.inj hs'
  have hkept : widget (if (s.setViewportRows height).visible.isEmpty then 1
      else (s.setViewportRows height).visible.length)
      ((s.setViewportRows height).selectedId.map fun _ => (s.setViewportRows height).selected)
      (s.setViewportRows height).offset height = (s.setViewportRows height).offset := by
    refine hwidget _ _ _ _ ?_ ?_
    · rcases hsound.synchronized with ⟨-, hnone⟩ | ⟨sessionId, -, hrow, hle, -⟩
      · have hzero : (s.setViewportRows height).offset = 0 := by
          show scroll s.visible.length (max height 1) s.selected s.offset = 0
          rw [hs.parked hnone]
          exact scroll_zero (by omega) _ _
        rw [hzero]
        split_ifs with hempty
        · exact Nat.one_pos
        · exact List.length_pos_iff.2 (by simpa using hempty)
      · obtain ⟨row, hrow, -⟩ := Option.bind_eq_some_iff.1 hrow
        obtain ⟨hlt, -⟩ := List.getElem?_eq_some_iff.1 hrow
        split_ifs with hempty
        · rw [List.isEmpty_iff.1 hempty] at hlt
          exact absurd hlt (Nat.not_lt_zero _)
        · exact Nat.lt_of_le_of_lt hle hlt
    · rcases Nat.eq_zero_or_pos height with hzero | hpos
      · exact .inl hzero
      · refine .inr fun index hindex => ?_
        obtain ⟨sessionId, hid, rfl⟩ := Option.map_eq_some_iff.1 hindex
        rcases hsound.synchronized with ⟨-, hnone⟩ | ⟨_, -, -, hle, hlt⟩
        · exact absurd (hid.symm.trans hnone) (Option.some_ne_none _)
        · have hrows : (s.setViewportRows height).viewportRows = height := Nat.max_eq_left hpos
          rw [hrows] at hlt
          exact ⟨hle, hlt⟩
  refine ⟨_, rfl, ?_⟩
  rw [renderSessionList, hkept]
  exact ⟨hsound, hstay⟩

/-! ### Events -/

/-- What an event of the list does to the selection. -/
def eventMotion : BrowserEvent → Motion
  | .key .none .down => .forward
  | .key .none .pageDown => .forward
  | .scrollDown => .forward
  | .key .none .up => .backward
  | .key .none .pageUp => .backward
  | .scrollUp => .backward
  | _ => .stay

theorem map_map_snd (action : BrowserAction) (result : Option SessionBrowserState) :
    (result.map (action, ·)).map Prod.snd = result := by
  rw [Option.map_map]
  exact Option.map_id'

theorem does_handleListEvent (hs : s.Sound) (event : BrowserEvent) (edit : Edit) :
    s.Does (eventMotion event) ((s.handleListEvent classes event edit).map Prod.snd) := by
  unfold handleListEvent
  split <;> try rw [map_map_snd]
  · exact (s.sameView_escape).does hs
  · exact does_rebuildVisible hs rfl rfl
  · exact does_selectPrevious hs
  · exact does_selectNext hs
  · exact does_pageUp hs
  · exact does_pageDown hs
  · exact (s.sameView_refl).does hs
  · exact (s.sameView_startRename).does hs
  · exact (s.sameView_startDeleteConfirmation).does hs
  · exact (s.sameView_startDeleteConfirmation).does hs
  next modifiers code _ _ _ _ _ _ _ _ _ _ =>
    have hstay : eventMotion (.key modifiers code) = .stay := by
      unfold eventMotion
      split <;> simp_all
    rw [hstay]
    exact does_editQuery hs edit.text edit.changed
  · exact does_wheelUp hs
  · exact does_wheelDown hs
  · exact does_editQuery hs edit.text edit.changed
  · exact (s.sameView_refl).does hs

/-- What an event does to the selection: nothing, where a layer is above the list. -/
def layeredMotion (s : SessionBrowserState) (event : BrowserEvent) : Motion :=
  if s.layer = .list then eventMotion event else .stay

theorem does_handleEvent (hs : s.Sound) (event : BrowserEvent) (edit : Edit) :
    s.Does (s.layeredMotion event) ((s.handleEvent classes event edit).map Prod.snd) := by
  obtain ⟨s₀, hs₀, hview, hlayer⟩ : ∃ s₀, (if event = .other then s else
      { s with actionError := none }) = s₀ ∧ s.SameView s₀ ∧ s₀.layer = s.layer := by
    refine ⟨_, rfl, ?_, ?_⟩ <;> split_ifs
    · exact s.sameView_refl
    · exact ⟨rfl, rfl, rfl, rfl, rfl⟩
    · rfl
    · rfl
  have hsound := hview.sound hs
  refine hview.does_of_does ?_
  rw [handleEvent, hs₀, layeredMotion, ← hlayer]
  cases s₀.layer with
  | list => exact does_handleListEvent hsound event edit
  | rename sessionId editor error =>
    refine SameView.does ?_ hsound
    unfold handleRenameEvent
    split
    · exact s₀.sameView_escape
    · exact s₀.sameView_refl
    · exact ⟨rfl, rfl, rfl, rfl, rfl⟩
  | confirmDelete sessionId title =>
    refine SameView.does ?_ hsound
    unfold handleConfirmationEvent
    split
    · exact s₀.sameView_escape
    · exact s₀.sameView_escape
    · exact s₀.sameView_escape
    · exact s₀.sameView_refl
    · exact s₀.sameView_refl
    · exact s₀.sameView_refl
    · exact s₀.sameView_refl

/-! ### Runs -/

/-- What an operation may do to the selection. -/
def motion (s : SessionBrowserState) : BrowserOperation → Motion
  | .openBrowser => .reset
  | .selectNext => .forward
  | .pageDown => .forward
  | .wheelDown => .forward
  | .selectPrevious => .backward
  | .pageUp => .backward
  | .wheelUp => .backward
  | .handleEvent event _ => s.layeredMotion event
  | _ => .stay

/-- **Every operation is defined,** keeps the selection in order, and the selection follows. -/
theorem does_step (hs : s.Sound) (operation : BrowserOperation) :
    s.Does (s.motion operation) (s.step classes operation) := by
  match operation with
  | .openBrowser => exact does_openBrowser hs
  | .close => exact s.sameView_close.does hs
  | .setSessions _ _ => exact does_rebuildVisible hs rfl rfl
  | .toggleMode => exact does_rebuildVisible hs rfl rfl
  | .editQuery query changed => exact does_editQuery hs query changed
  | .selectNext => exact does_selectNext hs
  | .selectPrevious => exact does_selectPrevious hs
  | .pageDown => exact does_pageDown hs
  | .pageUp => exact does_pageUp hs
  | .wheelDown => exact does_wheelDown hs
  | .wheelUp => exact does_wheelUp hs
  | .setViewportRows viewportRows => exact does_setViewportRows hs viewportRows
  | .startRename => exact s.sameView_startRename.does hs
  | .startDeleteConfirmation => exact s.sameView_startDeleteConfirmation.does hs
  | .escape => exact s.sameView_escape.does hs
  | .finishRename => exact s.sameView_finishRename.does hs
  | .finishDelete _ => exact does_rebuildVisible hs rfl rfl
  | .setRefreshWarning _ => exact SameView.does ⟨rfl, rfl, rfl, rfl, rfl⟩ hs
  | .setActionError _ => exact SameView.does ⟨rfl, rfl, rfl, rfl, rfl⟩ hs
  | .setRenameError message => exact (s.sameView_setRenameError message).does hs
  | .takeRefreshRequest => exact SameView.does ⟨rfl, rfl, rfl, rfl, rfl⟩ hs
  | .handleEvent event edit => exact does_handleEvent hs event edit

/-- The default state is in order. -/
theorem sound_initial : initial.Sound :=
  ⟨Nat.one_pos, fun _ => rfl, .inl ⟨by rintro _ ⟨_, h, _⟩; exact absurd h List.not_mem_nil, rfl⟩⟩

/-- **The selection of the session browser.**  No sequence of operations slices or indexes out
of range.  After each, no session is visible and none is selected, or the highlighted row is
the selected session and in the window; and whatever comes next, the selection stays with its
session while that is visible, unless the browser is opened again, or moves in the direction
asked for. -/
theorem synchronized_of_run (classes : CharClasses) (operations : List BrowserOperation) :
    ∃ s, Run.acceptAll (step classes) initial operations = some s ∧ s.Synchronized ∧
      ∀ operation, ∃ s', s.step classes operation = some s' ∧ s'.Synchronized ∧
        s.Follows s' (s.motion operation) := by
  obtain ⟨s, hrun, hsound⟩ := Run.exists_acceptAll (I := Sound) (fun s operation hs => by
    obtain ⟨s', hs', hsound, -⟩ := @does_step classes s hs operation
    exact ⟨s', hs', hsound⟩) sound_initial operations
  refine ⟨s, hrun, hsound.synchronized, fun operation => ?_⟩
  obtain ⟨s', hs', hsound', hfollows⟩ := @does_step classes s hsound operation
  exact ⟨s', hs', hsound'.synchronized, hfollows⟩

end SessionBrowserState

end Client
end Moh
