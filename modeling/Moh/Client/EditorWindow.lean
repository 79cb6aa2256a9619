/-
# The one-line window of the prompt editor

`client/ui/editor.rs`: `display_window`, which shows the part of a one-line prompt around
the cursor.  The window is placed in columns, with the cursor in its last one at most, and
then filled with the graphemes that lie in it whole.  A wide grapheme may lie across the
left edge of the window: it is not shown, what follows is shown one column too far to the
left, and the cursor is not moved with it (`showsCursor_iff`).
-/

import Moh.Client.Editor
import Moh.Library.Extents

namespace Moh
namespace Client

open Extents

/-- `EditorWindow`. -/
structure EditorWindow where
  text : String
  cursorColumn : ℕ
deriving DecidableEq, Repr

/-- The loop of `display_window`: the graphemes that it pushes. -/
def windowFrom (width : String → ℕ) (start stop : ℕ) : ℕ → List String → List String
  | _, [] => []
  | column, grapheme :: graphemes =>
    if start ≤ column ∧ column + width grapheme ≤ stop then
      grapheme :: windowFrom width start stop (column + width grapheme) graphemes
    else windowFrom width start stop (column + width grapheme) graphemes

namespace PromptEditor

variable (width : String → ℕ)

/-- The columns before the cursor; `none` is the slice that panics. -/
def cursorOffset (e : PromptEditor) : Option ℕ :=
  if e.cursorGrapheme ≤ e.graphemes.length then
    some ((e.graphemes.take e.cursorGrapheme).map width).sum
  else none

/-- `display_window`. -/
def displayWindow (e : PromptEditor) (limit : ℕ) : Option EditorWindow :=
  if limit = 0 then some ⟨"", 0⟩
  else
    (e.cursorOffset width).map fun cursor =>
      let start := cursor - (limit - 1)
      ⟨String.join (windowFrom width start (start + limit) 0 e.graphemes),
        min (cursor - start) (limit - 1)⟩

/-- The sizes of the graphemes. -/
def widths (e : PromptEditor) : List ℕ := e.graphemes.map width

/-- The column of the left edge of the window. -/
def windowStart (e : PromptEditor) (limit : ℕ) : ℕ :=
  offset (e.widths width) e.cursorGrapheme - (limit - 1)

/-- The loop pushes grapheme `k`: it lies in the window whole. -/
def Pushed (e : PromptEditor) (limit k : ℕ) : Prop :=
  e.windowStart width limit ≤ offset (e.widths width) k ∧
    offset (e.widths width) (k + 1) ≤ e.windowStart width limit + limit

/-- **The window shows the cursor at its text:** what it shows is the run of the graphemes
from `i` to `j`, which fits, and those of the run that are before the cursor fill the columns
before it. -/
structure ShowsCursor (e : PromptEditor) (limit : ℕ) (window : EditorWindow) (i j : ℕ) :
    Prop where
  run : i ≤ j ∧ j ≤ e.graphemes.length
  text : window.text = String.join (e.graphemes.extract i j)
  fits : ((e.graphemes.extract i j).map width).sum ≤ limit
  column : window.cursorColumn < limit
  cursor : ((e.graphemes.extract i (min j e.cursorGrapheme)).map width).sum = window.cursorColumn

end PromptEditor

/-! ### The run that is shown -/

/-- What is pushed is the run from `i` to `j`, when these are the graphemes in the window. -/
theorem windowFrom_eq_extract {width : String → ℕ} {start stop column i j : ℕ}
    {graphemes : List String}
    (h : ∀ k < graphemes.length, (start ≤ column + offset (graphemes.map width) k ∧
      column + offset (graphemes.map width) (k + 1) ≤ stop) ↔ i ≤ k ∧ k < j) :
    windowFrom width start stop column graphemes = graphemes.extract i j := by
  induction graphemes generalizing column i j with
  | nil => simp [windowFrom]
  | cons grapheme graphemes ih =>
    have hhead := h 0 (by simp)
    rw [List.map_cons, offset_cons_succ, offset_zero, offset_zero, Nat.add_zero,
      Nat.add_zero] at hhead
    have hrest := @ih (column + width grapheme) (i - 1) (j - 1) fun k hk => by
      have := h (k + 1) (by simpa using hk)
      rw [List.map_cons, offset_cons_succ, offset_cons_succ] at this
      omega
    rw [windowFrom, hrest]
    simp only [List.extract_eq_take_drop]
    split_ifs with hpushed
    · obtain ⟨hi, hj⟩ := hhead.1 hpushed
      obtain rfl := Nat.le_zero.1 hi
      obtain ⟨j, rfl⟩ := Nat.exists_eq_add_of_lt hj
      simp
    · rcases i with _ | i
      · have hj : j = 0 := by omega
        simp [hj]
      · rw [List.drop_succ_cons, Nat.add_sub_cancel, Nat.sub_sub, Nat.add_comm 1 i]

namespace PromptEditor

variable {width : String → ℕ} {e : PromptEditor} {limit : ℕ}

theorem length_widths (width : String → ℕ) (e : PromptEditor) :
    (e.widths width).length = e.graphemes.length := by simp [widths]

/-- The width of a run. -/
theorem sum_run (width : String → ℕ) (e : PromptEditor) {i j : ℕ} (h : i ≤ j) :
    offset (e.widths width) i + ((e.graphemes.extract i j).map width).sum =
      offset (e.widths width) j := by
  rw [← sum_extract h, widths, List.extract_eq_take_drop, List.extract_eq_take_drop,
    List.map_take, List.map_drop]

/-- The run that the loop pushes. -/
theorem pushed_iff {k : ℕ} (hk : k < e.graphemes.length) : e.Pushed width limit k ↔
    first (e.widths width) (e.windowStart width limit) ≤ k ∧
      k < last (e.widths width) (e.windowStart width limit + limit) := by
  rw [← length_widths width] at hk
  exact and_congr (start_le_iff hk) (le_stop_iff hk)

/-- What `display_window` returns while the cursor is in the text. -/
theorem displayWindow_eq (hcursor : e.cursorGrapheme ≤ e.graphemes.length) (hlimit : 0 < limit) :
    e.displayWindow width limit = some
      ⟨String.join (windowFrom width (e.windowStart width limit)
          (e.windowStart width limit + limit) 0 e.graphemes),
        min (offset (e.widths width) e.cursorGrapheme - e.windowStart width limit)
          (limit - 1)⟩ := by
  rw [displayWindow, if_neg (by omega), cursorOffset, if_pos hcursor, List.map_take]
  rfl

/-- A run of at least one grapheme is determined by what is in it. -/
theorem run_unique {i j i' j' n : ℕ} (hlt : i < j) (hj : j ≤ n) (hj' : j' ≤ n)
    (h : ∀ k < n, i ≤ k ∧ k < j ↔ i' ≤ k ∧ k < j') : i = i' ∧ j = j' := by
  have hi := (h i (by omega)).1 ⟨le_rfl, hlt⟩
  have hi' := (h i' (by omega)).2 ⟨le_rfl, by omega⟩
  have hlast := (h (j - 1) (by omega)).1 ⟨by omega, by omega⟩
  have hlast' := (h (j' - 1) (by omega)).2 ⟨by omega, by omega⟩
  omega

/-- **When the window shows the cursor at its text:** exactly if no grapheme lies across its
left edge. -/
theorem showsCursor_iff (width : String → ℕ) (e : PromptEditor) (limit : ℕ)
    (hlimit : 0 < limit) (hcursor : e.cursorGrapheme ≤ e.graphemes.length) :
    ∃ window, e.displayWindow width limit = some window ∧
      ((∃ i j, (∀ k < e.graphemes.length, e.Pushed width limit k ↔ i ≤ k ∧ k < j) ∧
          e.ShowsCursor width limit window i j) ↔
        ¬Straddled (e.widths width) (e.windowStart width limit)) := by
  have hk : e.cursorGrapheme ≤ (e.widths width).length := by rwa [length_widths]
  have hedge : e.windowStart width limit ≤ offset (e.widths width) e.cursorGrapheme :=
    Nat.sub_le ..
  have hfirst := first_le_of_le hk hedge
  have hlast : e.cursorGrapheme ≤ last (e.widths width) (e.windowStart width limit + limit) := by
    refine le_last_of_le hk ?_
    unfold windowStart
    omega
  have hlastLe : last (e.widths width) (e.windowStart width limit + limit) ≤
      e.graphemes.length := length_widths width e ▸ last_le
  have hcolumn : min (offset (e.widths width) e.cursorGrapheme - e.windowStart width limit)
      (limit - 1) = offset (e.widths width) e.cursorGrapheme - e.windowStart width limit := by
    unfold windowStart
    omega
  have hbefore := sum_run width e hfirst
  have hedgeFirst := le_offset_first hk hedge
  refine ⟨_, displayWindow_eq hcursor hlimit, ?_⟩
  rw [← offset_first_eq_iff hk hedge]
  constructor
  · rintro ⟨i, j, hpushed, hshows⟩
    have hsum := hshows.cursor.trans hcolumn
    rcases Nat.lt_or_eq_of_le hshows.run.1 with hlt | rfl
    · obtain ⟨rfl, rfl⟩ := run_unique hlt hshows.run.2 hlastLe fun k hk =>
        (hpushed k hk).symm.trans (pushed_iff hk)
      rw [Nat.min_eq_right hlast] at hsum
      omega
    · have hempty : e.graphemes.extract i (min i e.cursorGrapheme) = [] := by
        rw [List.extract_eq_take_drop, Nat.sub_eq_zero_of_le (Nat.min_le_left ..), List.take_zero]
      rw [hempty, List.map_nil, List.sum_nil] at hsum
      have : offset (e.widths width) (first (e.widths width) (e.windowStart width limit)) ≤
          offset (e.widths width) e.cursorGrapheme := offset_mono hfirst
      omega
  · intro heq
    have hrun := sum_run width e (hfirst.trans hlast)
    have hend : offset (e.widths width)
        (last (e.widths width) (e.windowStart width limit + limit)) ≤
          e.windowStart width limit + limit := offset_last_le
    refine ⟨_, _, fun k hk => pushed_iff hk, ⟨hfirst.trans hlast, hlastLe⟩, ?_, ?_, ?_, ?_⟩
    · exact congrArg String.join (windowFrom_eq_extract fun k hk => by
        rw [Nat.zero_add, Nat.zero_add]
        exact pushed_iff hk)
    · omega
    · exact Nat.lt_of_le_of_lt (Nat.min_le_right ..) (by omega)
    · refine Eq.trans ?_ hcolumn.symm
      rw [Nat.min_eq_right hlast]
      omega

/-- A wide character and a narrow one, and the cursor behind them. -/
def wideAndNarrow : PromptEditor := ⟨["界", "a"], 2, 0, none, none⟩

/-- The width of a grapheme of these. -/
def oneOrTwo (grapheme : String) : ℕ := if grapheme = "界" then 2 else 1

/-- In four columns both are shown, and the cursor behind them. -/
theorem showsCursor_wide : ∃ window, wideAndNarrow.displayWindow oneOrTwo 4 = some window ∧
    ((∃ i j, (∀ k < 2, wideAndNarrow.Pushed oneOrTwo 4 k ↔ i ≤ k ∧ k < j) ∧
        wideAndNarrow.ShowsCursor oneOrTwo 4 window i j) ↔
      ¬Straddled (wideAndNarrow.widths oneOrTwo) (wideAndNarrow.windowStart oneOrTwo 4)) :=
  showsCursor_iff oneOrTwo wideAndNarrow 4 (by decide) (by decide)

/-- **In three columns the wide one lies across the edge:** the narrow one is shown in the
first column, and the cursor two columns behind it. -/
theorem cursor_off_its_text : ¬∀ (width : String → ℕ) (e : PromptEditor) (limit : ℕ), 0 < limit →
    e.cursorGrapheme ≤ e.graphemes.length → "\n" ∉ e.graphemes →
    ∃ window, e.displayWindow width limit = some window ∧
      ∃ i j, e.ShowsCursor width limit window i j := by
  intro hall
  obtain ⟨window, hwindow, i, j, hshows⟩ :=
    hall oneOrTwo wideAndNarrow 3 (by decide) (by decide) (by decide)
  obtain rfl : ⟨"a", 2⟩ = window := by
    refine Option.some.inj (Eq.trans ?_ hwindow)
    decide +kernel
  have hruns : ∀ j ≤ 2, ∀ i ≤ j, "a" = String.join (wideAndNarrow.graphemes.extract i j) →
      ((wideAndNarrow.graphemes.extract i (min j 2)).map oneOrTwo).sum ≠ 2 := by
    decide +kernel
  exact hruns j hshows.run.2 i hshows.run.1 hshows.text hshows.cursor

end PromptEditor
end Client
end Moh
