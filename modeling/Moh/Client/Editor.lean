/-
# Vertical motion in the prompt editor

`client/ui/editor.rs`: `rows` breaks the graphemes of the prompt into visual rows,
`cursor_row_and_column` says in which of them the cursor is, and `move_vertical` moves it
to the row below or above, as near to the preferred column as its graphemes allow.  The
width of a text, which the terminal libraries know, is a parameter.

The offset of a soft break is the end of one row and the begin of the next, and the cursor
is reported in the first of the two (`cursorRow_moved`).  So a row that begins at a soft
break, and whose first grapheme is wider than the preferred column, cannot be entered:
`movesVertically_iff` says that there is no other reason.
-/

import Mathlib.Logic.Function.Iterate
import Moh.Library.Spans

namespace Moh
namespace Client

open Spans

/-- `VisualRow`. -/
abbrev VisualRow := Span

/-- `PromptEditor`; its value is the list of its grapheme clusters. -/
structure PromptEditor where
  graphemes : List String
  cursorGrapheme : ℕ
  viewportTop : ℕ
  preferredColumn : Option ℕ
  lastWidth : Option ℕ
deriving DecidableEq, Repr

/-- `u16::MAX`. -/
def u16Max : ℕ := 65535

/-- The loop of `rows`, before grapheme number `index`. -/
def rowsFrom (width : String → ℕ) (limit : ℕ) : ℕ → ℕ → ℕ → List String → List VisualRow
  | index, start, _, [] => [⟨start, index⟩]
  | index, start, column, grapheme :: graphemes =>
    if grapheme = "\n" then
      ⟨start, index⟩ :: rowsFrom width limit (index + 1) (index + 1) 0 graphemes
    else if 0 < column ∧ limit < column + width grapheme then
      ⟨start, index⟩ :: rowsFrom width limit (index + 1) index (width grapheme) graphemes
    else rowsFrom width limit (index + 1) start (column + width grapheme) graphemes

/-- The loop of `move_vertical` over the graphemes of the row it enters. -/
def advance (width : String → ℕ) (desired : ℕ) : ℕ → ℕ → List String → ℕ
  | index, _, [] => index
  | index, column, grapheme :: graphemes =>
    if desired < column + width grapheme then index
    else advance width desired (index + 1) (column + width grapheme) graphemes

/-- The direction of a vertical motion. -/
inductive Direction where
  | up
  | down
deriving DecidableEq, Repr

namespace PromptEditor

variable (width : String → ℕ)

/-- `rows`. -/
def rows (e : PromptEditor) (limit : ℕ) : List VisualRow :=
  rowsFrom width (max limit 1) 0 0 0 e.graphemes

/-- The row of `cursor_row_and_column`. -/
def cursorRow (e : PromptEditor) (rows : List VisualRow) : ℕ :=
  (rows.findIdx? (·.contains e.cursorGrapheme)).getD (rows.length - 1)

/-- The column of `cursor_row_and_column`: the width of the text before the cursor. -/
def cursorColumn (e : PromptEditor) (rows : List VisualRow) : ℕ :=
  match rows[e.cursorRow rows]? with
  | some row => width (String.join (e.graphemes.extract row.start e.cursorGrapheme))
  | none => 0

/-- The rows that `move_vertical` works with. -/
def visualRows (e : PromptEditor) : List VisualRow := e.rows width (e.lastWidth.getD u16Max)

/-- The column that a vertical motion aims at. -/
def desired (e : PromptEditor) : ℕ :=
  e.preferredColumn.getD (e.cursorColumn width (e.visualRows width))

/-- The rest of `move_vertical`, when there is a target. -/
def enter (e : PromptEditor) (row : VisualRow) : PromptEditor :=
  { e with
    cursorGrapheme := advance width (e.desired width) row.start 0
      (e.graphemes.extract row.start row.stop)
    preferredColumn := some (e.desired width) }

/-- `move_vertical`: whether there is a row to enter, and the editor then. -/
def moveVertical (e : PromptEditor) (direction : Direction) : Bool × PromptEditor :=
  let rows := e.visualRows width
  let current := e.cursorRow rows
  let target :=
    match direction with
    | .up => if 0 < current then some (current - 1) else none
    | .down => if current + 1 < rows.length then some (current + 1) else none
  match target with
  | none => (false, e)
  | some target => (true, e.enter width (rows.getD target ⟨0, 0⟩))

end PromptEditor

/-! ### Rows -/

/-- What the loop makes of the graphemes: rows in order, the first of which begins where the
row was begun, and none of which ends behind the text. -/
theorem rowsFrom_eq (width : String → ℕ) (limit : ℕ) {index start column : ℕ}
    {graphemes : List String} (hstart : start ≤ index) (hcolumn : 0 < column → start < index) :
    ∃ stop rest, rowsFrom width limit index start column graphemes = ⟨start, stop⟩ :: rest ∧
      index ≤ stop ∧ Chained (⟨start, stop⟩ :: rest) ∧
      ∀ row ∈ (⟨start, stop⟩ : Span) :: rest, row.stop ≤ index + graphemes.length := by
  induction graphemes generalizing index start column with
  | nil => exact ⟨index, [], rfl, le_rfl, chained_singleton hstart, by simp⟩
  | cons grapheme graphemes ih =>
    rw [rowsFrom, List.length_cons]
    split_ifs with hnewline hwrap
    · obtain ⟨stop, rest, hrows, hstop, hchained, hbound⟩ :=
        @ih (index + 1) (index + 1) 0 le_rfl nofun
      refine ⟨index, _, by rw [hrows], le_rfl, hchained.cons hstart (.gap rfl), ?_⟩
      rintro row hrow
      rcases List.mem_cons.1 hrow with rfl | hrow
      · show index ≤ _
        omega
      · have := hbound row hrow
        omega
    · have hbegun := hcolumn hwrap.1
      obtain ⟨stop, rest, hrows, hstop, hchained, hbound⟩ :=
        @ih (index + 1) index (width grapheme) (Nat.le_succ _) fun _ => Nat.lt_succ_self _
      refine ⟨index, _, by rw [hrows], le_rfl, hchained.cons hstart (.wrap rfl hbegun ?_), ?_⟩
      · show index < stop
        omega
      · rintro row hrow
        rcases List.mem_cons.1 hrow with rfl | hrow
        · show index ≤ _
          omega
        · have := hbound row hrow
          omega
    · obtain ⟨stop, rest, hrows, hstop, hchained, hbound⟩ :=
        @ih (index + 1) start (column + width grapheme) (by omega) fun _ => by omega
      refine ⟨stop, rest, hrows, by omega, hchained, fun row hrow => ?_⟩
      have := hbound row hrow
      omega

/-! ### The row that is entered -/

/-- The loop stays among the graphemes of the row. -/
theorem advance_bounds (width : String → ℕ) (desired index column : ℕ) (graphemes : List String) :
    index ≤ advance width desired index column graphemes ∧
      advance width desired index column graphemes ≤ index + graphemes.length := by
  induction graphemes generalizing index column with
  | nil => simp [advance]
  | cons grapheme graphemes ih =>
    rw [advance, List.length_cons]
    have := ih (index + 1) (column + width grapheme)
    split_ifs <;> omega

/-- It does not get past the first grapheme exactly if that is too wide. -/
theorem advance_eq_iff (width : String → ℕ) (desired index : ℕ) (grapheme : String)
    (graphemes : List String) :
    advance width desired index 0 (grapheme :: graphemes) = index ↔ desired < width grapheme := by
  rw [advance, Nat.zero_add]
  split_ifs with hwide
  · exact iff_of_true rfl hwide
  · have hle := (advance_bounds width desired (index + 1) (width grapheme) graphemes).1
    refine iff_of_false (fun he => ?_) hwide
    omega

namespace PromptEditor

variable {width : String → ℕ} {e : PromptEditor}

/-- The visual rows are in order and within the text. -/
theorem visualRows_eq (width : String → ℕ) (e : PromptEditor) :
    0 < (e.visualRows width).length ∧ Chained (e.visualRows width) ∧
      ∀ row ∈ e.visualRows width, row.stop ≤ e.graphemes.length := by
  obtain ⟨stop, rest, hrows, -, hchained, hbound⟩ :=
    @rowsFrom_eq width (max (e.lastWidth.getD u16Max) 1) 0 0 0 e.graphemes le_rfl nofun
  rw [visualRows, rows, hrows]
  exact ⟨Nat.succ_pos _, hchained, fun row hrow => by simpa using hbound row hrow⟩

/-- The row of the cursor is one of the rows. -/
theorem cursorRow_lt {rows : List VisualRow} (hrows : 0 < rows.length) :
    e.cursorRow rows < rows.length := by
  unfold cursorRow
  cases hf : rows.findIdx? (·.contains e.cursorGrapheme) with
  | none =>
    show rows.length - 1 < rows.length
    omega
  | some t => exact (List.findIdx?_eq_some_iff_getElem.1 hf).1

variable (width) in
/-- **Row `t` cannot be entered:** it begins at a soft break, and its first grapheme is wider
than the column that the motion aims at. -/
def Blocked (e : PromptEditor) (t : ℕ) : Prop :=
  Broken (e.visualRows width) t ∧ ∃ row grapheme, (e.visualRows width)[t]? = some row ∧
    e.graphemes[row.start]? = some grapheme ∧ e.desired width < width grapheme

/-- The motion stays between the ends of the row. -/
theorem enter_bounds (width : String → ℕ) {row : VisualRow} (hvalid : row.start ≤ row.stop)
    (hbound : row.stop ≤ e.graphemes.length) :
    row.start ≤ (e.enter width row).cursorGrapheme ∧
      (e.enter width row).cursorGrapheme ≤ row.stop := by
  have hb := advance_bounds width (e.desired width) row.start 0
    (e.graphemes.extract row.start row.stop)
  have hlength : (e.graphemes.extract row.start row.stop).length = row.stop - row.start := by
    simp [List.extract_eq_take_drop]
    omega
  exact ⟨hb.1, by
    have := hb.2
    show advance .. ≤ row.stop
    omega⟩

/-- At a soft break the motion stays at the begin of the row exactly if it is blocked. -/
theorem enter_eq_start_iff {t : ℕ} {row : VisualRow}
    (ht : (e.visualRows width)[t]? = some row) (hbroken : Broken (e.visualRows width) t) :
    (e.enter width row).cursorGrapheme = row.start ↔ e.Blocked width t := by
  obtain ⟨-, hchained, hbound⟩ := visualRows_eq width e
  obtain ⟨n, a, b, rfl, ha, hb, hborder⟩ := id hbroken
  obtain rfl : row = b := Option.some.inj (ht.symm.trans hb)
  have hnonempty : row.start < row.stop := by
    cases hchained.next ha hb with
    | wrap _ _ right => exact right
    | gap hgap => omega
  have hstop := hbound row (List.mem_of_getElem? hb)
  have hlt : row.start < e.graphemes.length := by omega
  have hextract : e.graphemes.extract row.start row.stop =
      e.graphemes[row.start] :: e.graphemes.extract (row.start + 1) row.stop := by
    rw [List.extract_eq_take_drop, List.extract_eq_take_drop, List.drop_eq_getElem_cons hlt,
      show row.stop - row.start = row.stop - (row.start + 1) + 1 by omega, List.take_succ_cons]
  show advance .. = _ ↔ _
  rw [hextract, advance_eq_iff]
  constructor
  · exact fun hwide => ⟨hbroken, row, _, hb, List.getElem?_eq_getElem hlt, hwide⟩
  · rintro ⟨-, row', grapheme, hrow', hgrapheme, hwide⟩
    obtain rfl : row = row' := Option.some.inj (hb.symm.trans hrow')
    rw [List.getElem?_eq_getElem hlt] at hgrapheme
    rw [Option.some.inj hgrapheme]
    exact hwide

/-- **Where the cursor is reported after a motion to row `t`:** there, unless the row is
blocked; then in the row before. -/
theorem cursorRow_enter {t : ℕ} {row : VisualRow} (ht : (e.visualRows width)[t]? = some row) :
    (¬e.Blocked width t → (e.enter width row).cursorRow (e.visualRows width) = t) ∧
      (e.Blocked width t → (e.enter width row).cursorRow (e.visualRows width) + 1 = t) := by
  obtain ⟨-, hchained, hbound⟩ := visualRows_eq width e
  have hb := enter_bounds width (hchained.le ht) (hbound row (List.mem_of_getElem? ht))
  constructor
  · intro hfree
    have hf := hchained.findIdx?_span ht hb.1 hb.2 fun hbroken he =>
      hfree ((enter_eq_start_iff ht hbroken).1 he)
    rw [cursorRow, hf, Option.getD_some]
  · intro hblocked
    obtain ⟨n, a, b, rfl, -⟩ := id hblocked.1
    have hstart := (enter_eq_start_iff ht hblocked.1).2 hblocked
    have hf := hchained.findIdx?_border ht hblocked.1
    rw [cursorRow, hstart, hf, Option.getD_some]

/-! ### Motions -/

/-- The row in which the cursor is reported. -/
def row (width : String → ℕ) (e : PromptEditor) : ℕ := e.cursorRow (e.visualRows width)

/-- `Down`. -/
def down (width : String → ℕ) (e : PromptEditor) : PromptEditor := (e.moveVertical width .down).2

/-- `Up`. -/
def up (width : String → ℕ) (e : PromptEditor) : PromptEditor := (e.moveVertical width .up).2

theorem row_lt (width : String → ℕ) (e : PromptEditor) : e.row width < (e.visualRows width).length :=
  cursorRow_lt (visualRows_eq width e).1

/-- What a motion to row `t` leaves: the text, and the column it aims at. -/
theorem enter_eq (width : String → ℕ) (e : PromptEditor) (r : VisualRow) :
    (e.enter width r).visualRows width = e.visualRows width ∧
      (e.enter width r).graphemes = e.graphemes ∧
      (e.enter width r).desired width = e.desired width :=
  ⟨rfl, rfl, rfl⟩

theorem down_eq_enter (hlt : e.row width + 1 < (e.visualRows width).length) :
    ∃ r, (e.visualRows width)[e.row width + 1]? = some r ∧ e.down width = e.enter width r := by
  refine ⟨_, List.getElem?_eq_getElem hlt, ?_⟩
  have hlt' : e.cursorRow (e.visualRows width) + 1 < (e.visualRows width).length := hlt
  simp only [down, moveVertical, if_pos hlt']
  rw [List.getD_eq_getElem?_getD, List.getElem?_eq_getElem hlt', Option.getD_some]
  rfl

theorem down_eq_self (hle : (e.visualRows width).length ≤ e.row width + 1) : e.down width = e := by
  have hle' : ¬e.cursorRow (e.visualRows width) + 1 < (e.visualRows width).length :=
    Nat.not_lt.2 hle
  simp only [down, moveVertical, if_neg hle']

theorem up_eq_enter (hpos : 0 < e.row width) :
    ∃ r, (e.visualRows width)[e.row width - 1]? = some r ∧ e.up width = e.enter width r := by
  have hlt : e.row width - 1 < (e.visualRows width).length := by
    have := row_lt width e
    omega
  refine ⟨_, List.getElem?_eq_getElem hlt, ?_⟩
  have hpos' : 0 < e.cursorRow (e.visualRows width) := hpos
  simp only [up, moveVertical, if_pos hpos']
  rw [List.getD_eq_getElem?_getD]
  show e.enter width (((e.visualRows width)[e.row width - 1]?).getD ⟨0, 0⟩) = _
  rw [List.getElem?_eq_getElem hlt, Option.getD_some]

/-- **What `Down` does:** it enters the next row, or it stays where it is reported; it keeps
the rows and the column it aims at. -/
theorem down_spec (width : String → ℕ) (e : PromptEditor) :
    (e.down width).visualRows width = e.visualRows width ∧
      (e.down width).graphemes = e.graphemes ∧
      (e.down width).desired width = e.desired width ∧
      (e.row width + 1 < (e.visualRows width).length →
        (¬e.Blocked width (e.row width + 1) → (e.down width).row width = e.row width + 1) ∧
        (e.Blocked width (e.row width + 1) → (e.down width).row width = e.row width)) := by
  rcases Nat.lt_or_ge (e.row width + 1) (e.visualRows width).length with hlt | hge
  · obtain ⟨r, hr, hdown⟩ := down_eq_enter hlt
    obtain ⟨hrows, hgraphemes, hdesired⟩ := enter_eq width e r
    rw [hdown]
    refine ⟨hrows, hgraphemes, hdesired, fun _ => ⟨(cursorRow_enter hr).1, fun hb => ?_⟩⟩
    exact Nat.succ_injective ((cursorRow_enter hr).2 hb)
  · rw [down_eq_self hge]
    exact ⟨rfl, rfl, rfl, fun hlt => absurd hlt (Nat.not_lt.2 hge)⟩

/-- A row is as blocked after `Down` as before. -/
theorem blocked_down (width : String → ℕ) (e : PromptEditor) (t : ℕ) :
    (e.down width).Blocked width t ↔ e.Blocked width t := by
  obtain ⟨hrows, hgraphemes, hdesired, -⟩ := down_spec width e
  rw [Blocked, hrows, hgraphemes, hdesired]
  rfl

/-- **Vertical motion as it is meant:** `Down` enters the next row and `Up` the previous one,
as the cursor is reported, and enough `Down`s reach the last row. -/
structure MovesVertically (width : String → ℕ) (e : PromptEditor) : Prop where
  down : e.row width + 1 < (e.visualRows width).length →
    (e.down width).row width = e.row width + 1
  up : 0 < e.row width → (e.up width).row width = e.row width - 1
  reaches : ∃ n, ((PromptEditor.down width)^[n] e).row width + 1 = (e.visualRows width).length

/-- No row below is blocked, nor the one above. -/
def Unobstructed (width : String → ℕ) (e : PromptEditor) : Prop :=
  (∀ t, e.row width < t → ¬e.Blocked width t) ∧
    (0 < e.row width → ¬e.Blocked width (e.row width - 1))

/-- **A blocked row below is never reached.** -/
theorem row_iterate_lt {t : ℕ} (hblocked : e.Blocked width t) (hbelow : e.row width < t) (n : ℕ) :
    ((PromptEditor.down width)^[n] e).row width < t := by
  induction n generalizing e with
  | zero => exact hbelow
  | succ n ih =>
    rw [Function.iterate_succ_apply]
    refine ih ((blocked_down width e t).2 hblocked) ?_
    obtain ⟨-, -, -, hmove⟩ := down_spec width e
    obtain ⟨-, r, -, hr, -⟩ := id hblocked
    have hlt : e.row width + 1 < (e.visualRows width).length := by
      have := (List.getElem?_eq_some_iff.1 hr).1
      omega
    obtain ⟨hfree, hstays⟩ := hmove hlt
    by_cases hnext : e.Blocked width (e.row width + 1)
    · rw [hstays hnext]
      exact hbelow
    · have hne : e.row width + 1 ≠ t := fun he => hnext (he ▸ hblocked)
      rw [hfree hnext]
      omega

/-- **Without blocked rows below the last row is reached.** -/
theorem reaches_last {d : ℕ} (hfree : ∀ t, e.row width < t → ¬e.Blocked width t)
    (hd : e.row width + 1 + d = (e.visualRows width).length) :
    ((PromptEditor.down width)^[d] e).row width + 1 = (e.visualRows width).length := by
  induction d generalizing e with
  | zero => exact hd
  | succ d ih =>
    obtain ⟨hrows, -, -, hmove⟩ := down_spec width e
    have hrow := (hmove (by omega)).1 (hfree _ (Nat.lt_succ_self _))
    rw [Function.iterate_succ_apply, ← hrows]
    refine ih (fun t ht hb => ?_) ?_
    · rw [hrow] at ht
      exact hfree t (by omega) ((blocked_down width e t).1 hb)
    · rw [hrow, hrows]
      omega

/-- **When vertical motion is as it is meant:** exactly if no row below begins at a soft break
with a grapheme that is wider than the column aimed at, nor the row above. -/
theorem movesVertically_iff (width : String → ℕ) (e : PromptEditor) :
    e.MovesVertically width ↔ e.Unobstructed width := by
  constructor
  · intro hmoves
    refine ⟨fun t hbelow hblocked => ?_, fun hpos hblocked => ?_⟩
    · obtain ⟨n, hn⟩ := hmoves.reaches
      have hlt := row_iterate_lt hblocked hbelow n
      obtain ⟨-, r, -, hr, -⟩ := id hblocked
      have := (List.getElem?_eq_some_iff.1 hr).1
      omega
    · obtain ⟨r, hr, hup⟩ := up_eq_enter hpos
      have hrow := hmoves.up hpos
      have hentered := (cursorRow_enter hr).2 hblocked
      rw [hup] at hrow
      have hrow' : (e.enter width r).cursorRow (e.visualRows width) = e.row width - 1 := hrow
      omega
  · rintro ⟨hbelow, habove⟩
    refine ⟨fun hlt => ?_, fun hpos => ?_, ?_⟩
    · obtain ⟨-, -, -, hmove⟩ := down_spec width e
      exact (hmove hlt).1 (hbelow _ (Nat.lt_succ_self _))
    · obtain ⟨r, hr, hup⟩ := up_eq_enter hpos
      rw [hup]
      exact (cursorRow_enter hr).1 (habove hpos)
    · have hlt := row_lt width e
      exact ⟨(e.visualRows width).length - (e.row width + 1), reaches_last hbelow (by omega)⟩

/-- Four letters in two rows of two, and the cursor before the first. -/
def fourLetters : PromptEditor := ⟨["a", "b", "c", "d"], 0, 0, none, some 2⟩

/-- The width of a text of letters. -/
def letters (text : String) : ℕ := text.toList.length

/-- **`Down` does not leave the first row:** the cursor moves to its end, which is where the
second row begins, and stays there however often `Down` is pressed. -/
theorem down_stays_in_row : ¬∀ (width : String → ℕ) (e : PromptEditor), e.MovesVertically width := by
  intro hall
  have hdown := (hall letters fourLetters).down (by decide +kernel)
  exact absurd hdown (by decide +kernel)

end PromptEditor
end Client
end Moh
