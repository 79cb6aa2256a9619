/-
# The scrolled transcript

`client/ui/view.rs`: `render_entries`, which draws the rows of the transcript that are in
view, and `TranscriptScroll` of `client/ui/mod.rs`, which says where the view begins.  The
library that draws a paragraph breaks it into lines, of which only the number is a parameter;
a row is known by its entry, the width at which that was broken, and the number of the line.

Positions are counted in `usize`, but a paragraph is scrolled by a `u16`: in an entry that
begins 65536 rows above the view, or more, the wrong lines are drawn (`drawn_eq`,
`showsRows_iff`).
-/

import Moh.Client.Editor
import Moh.Library.Extents
import Moh.Library.Run

namespace Moh
namespace Client

open Extents

/-! ### Where the view begins -/

/-- `TranscriptScroll`. -/
structure TranscriptScroll where
  top : ℕ
  contentHeight : ℕ
  viewportHeight : ℕ
  autoFollow : Bool
deriving DecidableEq, Repr

/-- `MOUSE_SCROLL_ROWS`. -/
def mouseScrollRows : ℕ := 3

namespace TranscriptScroll

/-- `TranscriptScroll::default`. -/
def new : TranscriptScroll := ⟨0, 0, 0, true⟩

/-- `max_top`. -/
def maxTop (s : TranscriptScroll) : ℕ := s.contentHeight - s.viewportHeight

/-- `update_metrics`. -/
def updateMetrics (s : TranscriptScroll) (contentHeight viewportHeight : ℕ) : TranscriptScroll :=
  { s with
    contentHeight
    viewportHeight
    top :=
      if s.autoFollow then contentHeight - viewportHeight
      else min s.top (contentHeight - viewportHeight) }

/-- The rows of `page_up` and `page_down`. -/
def page (s : TranscriptScroll) : ℕ := max (s.viewportHeight - 1) 1

/-- `page_up`, and `wheel_up` with its own number of rows. -/
def scrollUp (s : TranscriptScroll) (rows : ℕ) : TranscriptScroll :=
  { s with autoFollow := false, top := s.top - rows }

/-- `page_down` and `wheel_down`. -/
def scrollDown (s : TranscriptScroll) (rows : ℕ) : TranscriptScroll :=
  { s with autoFollow := false, top := min (s.top + rows) s.maxTop }

/-- `page_up`. -/
def pageUp (s : TranscriptScroll) : TranscriptScroll := s.scrollUp s.page

/-- `page_down`. -/
def pageDown (s : TranscriptScroll) : TranscriptScroll := s.scrollDown s.page

/-- `wheel_up`. -/
def wheelUp (s : TranscriptScroll) : TranscriptScroll := s.scrollUp mouseScrollRows

/-- `wheel_down`. -/
def wheelDown (s : TranscriptScroll) : TranscriptScroll := s.scrollDown mouseScrollRows

/-- `follow_latest`. -/
def followLatest (s : TranscriptScroll) : TranscriptScroll :=
  { s with autoFollow := true, top := s.maxTop }

/-- What moves the view. -/
inductive Input where
  | metrics (contentHeight viewportHeight : ℕ)
  | pageUp
  | pageDown
  | wheelUp
  | wheelDown
  | followLatest
deriving DecidableEq, Repr

def step (s : TranscriptScroll) : Input → TranscriptScroll
  | .metrics contentHeight viewportHeight => s.updateMetrics contentHeight viewportHeight
  | .pageUp => s.pageUp
  | .pageDown => s.pageDown
  | .wheelUp => s.wheelUp
  | .wheelDown => s.wheelDown
  | .followLatest => s.followLatest

/-- The view does not begin behind the last row that it may begin at, and begins there while
it follows. -/
structure Anchored (s : TranscriptScroll) : Prop where
  le : s.top ≤ s.maxTop
  follow : s.autoFollow = true → s.top = s.maxTop

theorem anchored_step {s : TranscriptScroll} (h : s.Anchored) (input : Input) :
    (s.step input).Anchored := by
  have hle : s.top ≤ s.contentHeight - s.viewportHeight := h.le
  cases input with
  | metrics contentHeight viewportHeight =>
    constructor
    · show (if _ then _ else _) ≤ contentHeight - viewportHeight
      split_ifs
      · exact le_rfl
      · exact Nat.min_le_right ..
    · intro hfollow
      exact if_pos hfollow
  | pageUp => exact ⟨(Nat.sub_le ..).trans hle, nofun⟩
  | pageDown => exact ⟨Nat.min_le_right .., nofun⟩
  | wheelUp => exact ⟨(Nat.sub_le ..).trans hle, nofun⟩
  | wheelDown => exact ⟨Nat.min_le_right .., nofun⟩
  | followLatest => exact ⟨le_rfl, fun _ => rfl⟩

theorem anchored_new : new.Anchored := ⟨le_rfl, fun _ => rfl⟩

/-- **However the view is moved, it stays on the transcript.** -/
theorem anchored_run (inputs : List Input) : (Run.run step new inputs).Anchored := by
  refine Run.run_invariant (I := Anchored) ?_ anchored_new inputs
  exact fun _ input h => anchored_step h input

end TranscriptScroll

/-! ### Entries -/

/-- `TranscriptKind`. -/
inductive TranscriptKind where
  | plain
  | user
  | assistant
  | activity
deriving DecidableEq, Repr

/-- `TranscriptEntry`. -/
structure TranscriptEntry (τ : Type) where
  kind : TranscriptKind
  text : τ
  trailingSpace : Bool

/-- `Paragraph`, as `entry_paragraph` makes it: with a border to its left, or dim. -/
structure Paragraph (τ : Type) where
  text : τ
  bordered : Bool
  dim : Bool

/-- A row of the transcript: the line of an entry that is broken at a width. -/
structure Row where
  entry : ℕ
  width : ℕ
  line : ℕ
deriving DecidableEq, Repr

/-- What is drawn at each row of the terminal. -/
abbrev Canvas := ℕ → Option Row

/-- `Rect`, of which the left edge is of no matter here: it does not reach behind the last
row that a terminal can have. -/
structure Rect where
  y : ℕ
  width : ℕ
  height : ℕ
  bottom_le : y + height ≤ u16Max

/-- `as u16`. -/
def toU16 (n : ℕ) : ℕ := n % 65536

section

variable {τ : Type} (lineCount : τ → ℕ → ℕ)

/-- `entry_paragraph`. -/
def entryParagraph (entry : TranscriptEntry τ) : Paragraph τ where
  text := entry.text
  bordered := entry.kind = .user
  dim := entry.kind = .activity

/-- `entry_line_count`. -/
def entryLineCount (entry : TranscriptEntry τ) (width : ℕ) : ℕ :=
  lineCount (entryParagraph entry).text (if entry.kind = .user then width - 1 else width)

/-- The height of an entry in `entry_heights`. -/
def entryHeight (width : ℕ) (entry : TranscriptEntry τ) : ℕ :=
  entryLineCount lineCount entry width + if entry.trailingSpace then 1 else 0

/-- `entry_heights`. -/
def entryHeights (entries : List (TranscriptEntry τ)) (width : ℕ) : List ℕ :=
  entries.map (entryHeight lineCount width)

/-- The width that a border leaves. -/
def Paragraph.innerWidth (p : Paragraph τ) (width : ℕ) : ℕ :=
  if p.bordered then width - 1 else width

/-- `render_widget` of a paragraph that is scrolled: the lines from `scroll` on, from the first
row of the rectangle. -/
def Paragraph.render (p : Paragraph τ) (index scroll y width height : ℕ) (canvas : Canvas) :
    Canvas := fun row =>
  if y ≤ row ∧ row < y + height ∧ scroll + (row - y) < lineCount p.text (p.innerWidth width) then
    some ⟨index, p.innerWidth width, scroll + (row - y)⟩
  else canvas row

/-- `render_entry_slice`. -/
def renderEntrySlice (area : Rect) (index : ℕ) (entry : TranscriptEntry τ)
    (entryTop clippedTop clippedBottom visibleTop : ℕ) (canvas : Canvas) : Canvas :=
  let contentLines := entryLineCount lineCount entry area.width
  let entryOffset := clippedTop - entryTop
  if contentLines ≤ entryOffset then canvas
  else
    let visibleLines := min (clippedBottom - clippedTop) (contentLines - entryOffset)
    if visibleLines = 0 then canvas
    else
      (entryParagraph entry).render lineCount index (toU16 entryOffset)
        (min (area.y + toU16 (clippedTop - visibleTop)) u16Max) area.width
        (toU16 visibleLines) canvas

/-- The body of the loop of `render_entries`. -/
def renderEntry (area : Rect) (visibleTop index entryTop : ℕ) (entry : TranscriptEntry τ)
    (canvas : Canvas) : Canvas :=
  let entryBottom := entryTop + entryHeight lineCount area.width entry
  let clippedTop := max entryTop visibleTop
  let clippedBottom := min entryBottom (visibleTop + area.height)
  if clippedTop < clippedBottom then
    renderEntrySlice lineCount area index entry entryTop clippedTop clippedBottom visibleTop canvas
  else canvas

/-- The loop, before entry number `index`. -/
def renderFrom (area : Rect) (visibleTop : ℕ) :
    ℕ → ℕ → List (TranscriptEntry τ) → Canvas → Canvas
  | _, _, [], canvas => canvas
  | index, entryTop, entry :: entries, canvas =>
    renderFrom area visibleTop (index + 1) (entryTop + entryHeight lineCount area.width entry)
      entries (renderEntry lineCount area visibleTop index entryTop entry canvas)

/-- `needs_scrollbar`. -/
def needsScrollbar (area : Rect) (entries : List (TranscriptEntry τ)) : Bool :=
  1 < area.width && area.height < (entryHeights lineCount entries area.width).sum

/-- `content_area`: the column of the scrollbar, if there is one, is left to it. -/
def contentArea (area : Rect) (entries : List (TranscriptEntry τ)) : Rect :=
  { area with
    width := if needsScrollbar lineCount area entries then area.width - 1 else area.width }

/-- The metrics that `render_entries` updates before it draws. -/
def scrolled (area : Rect) (entries : List (TranscriptEntry τ)) (scroll : TranscriptScroll) :
    TranscriptScroll :=
  scroll.updateMetrics
    (entryHeights lineCount entries (contentArea lineCount area entries).width).sum area.height

/-- `render_entries`, without the scrollbar, on an empty frame. -/
def renderEntries (area : Rect) (entries : List (TranscriptEntry τ)) (scroll : TranscriptScroll) :
    Canvas × TranscriptScroll :=
  if area.width = 0 ∨ area.height = 0 then (fun _ => none, scroll)
  else
    (renderFrom lineCount (contentArea lineCount area entries)
      (scrolled lineCount area entries scroll).top 0 0 entries fun _ => none,
      scrolled lineCount area entries scroll)

/-! ### The rows of the transcript -/

/-- The rows of an entry, of which line `n` is named by `line n`. -/
def entryRows (line : ℕ → ℕ) (width index : ℕ) (entry : TranscriptEntry τ) : List (Option Row) :=
  (List.range (entryLineCount lineCount entry width)).map (fun n =>
    some ⟨index, (entryParagraph entry).innerWidth width, line n⟩) ++
      if entry.trailingSpace then [none] else []

/-- **The rows of the transcript:** the lines of all entries, each followed by its blank row. -/
def transcriptRows (width : ℕ) : ℕ → List (TranscriptEntry τ) → List (Option Row)
  | _, [] => []
  | index, entry :: entries =>
    entryRows lineCount id width index entry ++ transcriptRows width (index + 1) entries

/-- The rows as they are drawn when the view begins at row `top`: the number of lines that an
entry is scrolled by is narrowed. -/
def drawnRows (width top : ℕ) : ℕ → ℕ → List (TranscriptEntry τ) → List (Option Row)
  | _, _, [] => []
  | index, entryTop, entry :: entries =>
    entryRows lineCount (fun n => toU16 (top - entryTop) + (n - (top - entryTop))) width index
        entry ++
      drawnRows width top (index + 1) (entryTop + entryHeight lineCount width entry) entries

end

/-! ### What is drawn -/

section

variable {τ : Type} {lineCount : τ → ℕ → ℕ} {area : Rect} {entry : TranscriptEntry τ}
  {entries : List (TranscriptEntry τ)} {index entryTop top d : ℕ} {canvas : Canvas}

theorem toU16_eq {n : ℕ} (h : n ≤ u16Max) : toU16 n = n :=
  Nat.mod_eq_of_lt (by unfold u16Max at h; omega)

theorem toU16_le (n : ℕ) : toU16 n ≤ n := Nat.mod_le ..

/-- The width at which an entry is counted is the one at which it is drawn. -/
theorem entryLineCount_eq (entry : TranscriptEntry τ) (width : ℕ) :
    entryLineCount lineCount entry width =
      lineCount (entryParagraph entry).text ((entryParagraph entry).innerWidth width) := by
  by_cases h : entry.kind = .user <;> simp [entryLineCount, Paragraph.innerWidth, entryParagraph, h]

/-- **One entry is drawn where it is in view:** from the row of the view where it begins, or
the first, up to its last line, or the last row. -/
theorem renderEntry_eq (lineCount : τ → ℕ → ℕ) (area : Rect) (top index entryTop : ℕ)
    (entry : TranscriptEntry τ) (canvas : Canvas) (row : ℕ) :
    renderEntry lineCount area top index entryTop entry canvas row =
      if area.y + (entryTop - top) ≤ row ∧ row < area.y + min area.height
          (entryTop + entryLineCount lineCount entry area.width - top) then
        some ⟨index, (entryParagraph entry).innerWidth area.width,
          toU16 (top - entryTop) + (row - (area.y + (entryTop - top)))⟩
      else canvas row := by
  have hbottom : area.y + area.height ≤ u16Max := area.bottom_le
  have hnarrow := toU16_le (top - entryTop)
  have hcount := @entryLineCount_eq τ lineCount entry area.width
  unfold renderEntry renderEntrySlice
  dsimp only
  rw [entryHeight]
  generalize entryLineCount lineCount entry area.width = lines at *
  -- an entry that begins in view is not scrolled, one that begins above it is clipped to it
  have hoffset : max entryTop top - entryTop = top - entryTop := by omega
  have hclipped : max entryTop top - top = entryTop - top := by omega
  have hspace : (if entry.trailingSpace = true then 1 else 0) ≤ 1 := by split_ifs <;> omega
  rw [hoffset, hclipped]
  generalize (if entry.trailingSpace = true then 1 else 0) = space at *
  by_cases hclip : max entryTop top < min (entryTop + (lines + space)) (top + area.height)
  · rw [if_pos hclip]
    by_cases hlines : lines ≤ top - entryTop
    · rw [if_pos hlines, if_neg (by omega)]
    · have hvisible : min (min (entryTop + (lines + space)) (top + area.height) - max entryTop top)
          (lines - (top - entryTop)) =
            min area.height (entryTop + lines - top) - (entryTop - top) := by omega
      have hy : min (area.y + (entryTop - top)) u16Max = area.y + (entryTop - top) := by omega
      have hfirst : toU16 (entryTop - top) = entryTop - top := toU16_eq (by omega)
      have hrows : toU16 (min area.height (entryTop + lines - top) - (entryTop - top)) =
          min area.height (entryTop + lines - top) - (entryTop - top) := toU16_eq (by omega)
      rw [if_neg hlines, hvisible, hfirst, hy, hrows]
      by_cases hnone : min area.height (entryTop + lines - top) - (entryTop - top) = 0
      · rw [if_pos hnone, if_neg (by omega)]
      · rw [if_neg hnone, Paragraph.render, ← hcount]
        refine if_congr ?_ rfl rfl
        omega
  · rw [if_neg hclip, if_neg (by omega)]

/-- The rows of an entry fill its height. -/
theorem length_entryRows {line : ℕ → ℕ} {width : ℕ} :
    (entryRows lineCount line width index entry).length = entryHeight lineCount width entry := by
  rw [entryRows, List.length_append, List.length_map, List.length_range, entryHeight]
  split_ifs <;> rfl

/-- What is in row `n` of an entry. -/
theorem getElem?_entryRows {line : ℕ → ℕ} {width n : ℕ} :
    ((entryRows lineCount line width index entry)[n]?).join =
      if n < entryLineCount lineCount entry width then
        some ⟨index, (entryParagraph entry).innerWidth width, line n⟩
      else none := by
  rw [entryRows]
  have hlength : ((List.range (entryLineCount lineCount entry width)).map fun n =>
      some (Row.mk index ((entryParagraph entry).innerWidth width) (line n))).length =
        entryLineCount lineCount entry width := by simp
  by_cases hn : n < entryLineCount lineCount entry width
  · rw [if_pos hn, List.getElem?_append_left (by rwa [hlength])]
    simp [hn]
  · rw [if_neg hn, List.getElem?_append_right (by omega)]
    generalize n - _ = m
    split_ifs
    · rcases m with _ | m <;> rfl
    · rfl

/-- **The loop draws the rows that are in view,** of the entries from `index` on, and leaves
what is above them. -/
theorem renderFrom_eq (hd : d < area.height) (canvas : Canvas) :
    (top + d < entryTop →
      renderFrom lineCount area top index entryTop entries canvas (area.y + d) =
        canvas (area.y + d)) ∧
    (entryTop ≤ top + d → canvas (area.y + d) = none →
      renderFrom lineCount area top index entryTop entries canvas (area.y + d) =
        ((drawnRows lineCount area.width top index entryTop entries)[top + d - entryTop]?).join) := by
  induction entries generalizing index entryTop canvas with
  | nil => exact ⟨fun _ => rfl, fun _ hnone => by simpa [renderFrom, drawnRows] using hnone⟩
  | cons entry entries ih =>
    obtain ⟨habove, hbelow⟩ := @ih (index + 1)
      (entryTop + entryHeight lineCount area.width entry)
      (renderEntry lineCount area top index entryTop entry canvas)
    have hentry := renderEntry_eq lineCount area top index entryTop entry canvas (area.y + d)
    have hheight : entryLineCount lineCount entry area.width ≤
        entryHeight lineCount area.width entry := Nat.le_add_right ..
    constructor
    · intro hlt
      rw [renderFrom, habove (by omega), hentry, if_neg (by omega)]
    · intro hle hnone
      have hlength := @length_entryRows τ lineCount entry index
        (fun n => toU16 (top - entryTop) + (n - (top - entryTop))) area.width
      rw [renderFrom, drawnRows]
      rcases Nat.lt_or_ge (top + d) (entryTop + entryHeight lineCount area.width entry) with
        hin | hbehind
      · rw [habove hin, hentry, List.getElem?_append_left (by omega), getElem?_entryRows]
        by_cases hline : top + d - entryTop < entryLineCount lineCount entry area.width
        · rw [if_pos hline, if_pos (by omega)]
          congr 2
          omega
        · rw [if_neg hline, if_neg (by omega), hnone]
      · rw [hbelow hbehind (by rw [hentry, if_neg (by omega), hnone]),
          List.getElem?_append_right (by omega), hlength, Nat.sub_add_eq]

/-- Nothing is drawn outside the view. -/
theorem renderFrom_outside {row : ℕ} (hrow : row < area.y ∨ area.y + area.height ≤ row)
    (canvas : Canvas) :
    renderFrom lineCount area top index entryTop entries canvas row = canvas row := by
  induction entries generalizing index entryTop canvas with
  | nil => rfl
  | cons entry entries ih => rw [renderFrom, ih, renderEntry_eq, if_neg (by omega)]

/-! ### Where the right rows are drawn -/

/-- **An entry begins too far above the view,** whose first row is one of its lines. -/
def Overflows (lineCount : τ → ℕ → ℕ) (width top entryTop : ℕ)
    (entries : List (TranscriptEntry τ)) : Prop :=
  ∃ k entry, entries[k]? = some entry ∧
    u16Max < top - (entryTop + offset (entryHeights lineCount entries width) k) ∧
    top < entryTop + offset (entryHeights lineCount entries width) k +
      entryLineCount lineCount entry width

theorem overflows_cons_iff {width : ℕ} :
    Overflows lineCount width top entryTop (entry :: entries) ↔
      (u16Max < top - entryTop ∧ top < entryTop + entryLineCount lineCount entry width) ∨
        Overflows lineCount width top (entryTop + entryHeight lineCount width entry) entries := by
  have hsucc : ∀ k, entryTop + offset (entryHeights lineCount (entry :: entries) width) (k + 1) =
      entryTop + entryHeight lineCount width entry +
        offset (entryHeights lineCount entries width) k := by
    intro k
    rw [entryHeights, List.map_cons, offset_cons_succ, ← Nat.add_assoc, entryHeights]
  constructor
  · rintro ⟨k, other, hk, hbegin, hend⟩
    rcases k with _ | k
    · obtain rfl := Option.some.inj hk
      rw [offset_zero, Nat.add_zero] at hbegin hend
      exact .inl ⟨hbegin, hend⟩
    · rw [hsucc] at hbegin hend
      exact .inr ⟨k, other, hk, hbegin, hend⟩
  · rintro (⟨hbegin, hend⟩ | ⟨k, other, hk, hbegin, hend⟩)
    · exact ⟨0, entry, rfl, by rwa [offset_zero, Nat.add_zero],
        by rwa [offset_zero, Nat.add_zero]⟩
    · exact ⟨k + 1, other, hk, by rwa [hsucc], by rwa [hsucc]⟩

/-- Without such an entry the rows that are drawn are those of the transcript. -/
theorem drawnRows_eq {width : ℕ} (h : ¬Overflows lineCount width top entryTop entries)
    (hd : entryTop ≤ top + d) :
    ((drawnRows lineCount width top index entryTop entries)[top + d - entryTop]?).join =
      ((transcriptRows lineCount width index entries)[top + d - entryTop]?).join := by
  induction entries generalizing index entryTop with
  | nil => rfl
  | cons entry entries ih =>
    rw [overflows_cons_iff, not_or] at h
    obtain ⟨hentry, hentries⟩ := h
    have hheight : entryLineCount lineCount entry width ≤ entryHeight lineCount width entry :=
      Nat.le_add_right ..
    rw [drawnRows, transcriptRows]
    rcases Nat.lt_or_ge (top + d) (entryTop + entryHeight lineCount width entry) with hin | hbehind
    · rw [List.getElem?_append_left (by rw [length_entryRows]; omega),
        List.getElem?_append_left (by rw [length_entryRows]; omega), getElem?_entryRows,
        getElem?_entryRows]
      by_cases hline : top + d - entryTop < entryLineCount lineCount entry width
      · have hnarrow : toU16 (top - entryTop) = top - entryTop := toU16_eq (by omega)
        rw [if_pos hline, if_pos hline, hnarrow]
        congr 2
        show top - entryTop + (top + d - entryTop - (top - entryTop)) = top + d - entryTop
        omega
      · rw [if_neg hline, if_neg hline]
    · rw [List.getElem?_append_right (by rw [length_entryRows]; omega),
        List.getElem?_append_right (by rw [length_entryRows]; omega), length_entryRows,
        length_entryRows, Nat.sub_sub]
      exact ih hentries hbehind

/-- With one, the first row of the view is another line of it. -/
theorem drawnRows_ne {width : ℕ} (h : Overflows lineCount width top entryTop entries) :
    ((drawnRows lineCount width top index entryTop entries)[top - entryTop]?).join ≠
      ((transcriptRows lineCount width index entries)[top - entryTop]?).join := by
  induction entries generalizing index entryTop with
  | nil =>
    obtain ⟨k, entry, hk, -⟩ := h
    cases hk
  | cons entry entries ih =>
    have hheight : entryLineCount lineCount entry width ≤ entryHeight lineCount width entry :=
      Nat.le_add_right ..
    rw [drawnRows, transcriptRows]
    rcases overflows_cons_iff.1 h with ⟨hbegin, hend⟩ | hrest
    · rw [List.getElem?_append_left (by rw [length_entryRows]; omega),
        List.getElem?_append_left (by rw [length_entryRows]; omega), getElem?_entryRows,
        getElem?_entryRows, if_pos (by omega), if_pos (by omega), Nat.sub_self, Nat.add_zero]
      intro heq
      have hline : toU16 (top - entryTop) = top - entryTop :=
        congrArg Row.line (Option.some.inj heq)
      have hlt : toU16 (top - entryTop) < 65536 := Nat.mod_lt _ (by omega)
      unfold u16Max at hbegin
      omega
    · have hbehind : entryTop + entryHeight lineCount width entry ≤ top := by
        obtain ⟨k, other, -, hbegin, -⟩ := hrest
        omega
      rw [List.getElem?_append_right (by rw [length_entryRows]; omega),
        List.getElem?_append_right (by rw [length_entryRows]; omega), length_entryRows,
        length_entryRows, Nat.sub_sub]
      exact ih hrest

/-- **The scrolled transcript:** every row of the area shows its row of the transcript, from the
one at which the view begins, and nothing is drawn elsewhere. -/
structure ShowsRows (lineCount : τ → ℕ → ℕ) (area : Rect) (entries : List (TranscriptEntry τ))
    (drawn : Canvas × TranscriptScroll) : Prop where
  rows : 0 < area.width → ∀ d < area.height, drawn.1 (area.y + d) =
    ((transcriptRows lineCount (contentArea lineCount area entries).width 0
      entries)[drawn.2.top + d]?).join
  outside : ∀ row, row < area.y ∨ area.y + area.height ≤ row → drawn.1 row = none

/-- **What is drawn,** where there is something to draw on. -/
theorem drawn_eq (lineCount : τ → ℕ → ℕ) (area : Rect) (entries : List (TranscriptEntry τ))
    (scroll : TranscriptScroll) (hwidth : area.width ≠ 0) (hd : d < area.height) :
    (renderEntries lineCount area entries scroll).1 (area.y + d) =
      ((drawnRows lineCount (contentArea lineCount area entries).width
        (scrolled lineCount area entries scroll).top 0 0
        entries)[(scrolled lineCount area entries scroll).top + d]?).join := by
  rw [renderEntries, if_neg (by omega)]
  exact (@renderFrom_eq τ lineCount (contentArea lineCount area entries) entries 0 0
    (scrolled lineCount area entries scroll).top d hd fun _ => none).2 (Nat.zero_le _) rfl

/-- The view begins where the metrics say. -/
theorem scroll_eq (lineCount : τ → ℕ → ℕ) (area : Rect) (entries : List (TranscriptEntry τ))
    (scroll : TranscriptScroll) (hwidth : area.width ≠ 0) (hheight : area.height ≠ 0) :
    (renderEntries lineCount area entries scroll).2 = scrolled lineCount area entries scroll := by
  rw [renderEntries, if_neg (by omega)]

theorem outside_eq (lineCount : τ → ℕ → ℕ) (area : Rect) (entries : List (TranscriptEntry τ))
    (scroll : TranscriptScroll) {row : ℕ} (hrow : row < area.y ∨ area.y + area.height ≤ row) :
    (renderEntries lineCount area entries scroll).1 row = none := by
  unfold renderEntries
  split_ifs
  · rfl
  · exact @renderFrom_outside τ lineCount (contentArea lineCount area entries) entries 0 0
      (scrolled lineCount area entries scroll).top row hrow fun _ => none

theorem showsRows_of_not_overflows (scroll : TranscriptScroll)
    (h : ¬Overflows lineCount (contentArea lineCount area entries).width
      (scrolled lineCount area entries scroll).top 0 entries) :
    ShowsRows lineCount area entries (renderEntries lineCount area entries scroll) := by
  refine ⟨fun hwidth d hd => ?_, fun row => outside_eq lineCount area entries scroll⟩
  rw [drawn_eq lineCount area entries scroll (by omega) hd,
    scroll_eq lineCount area entries scroll (by omega) (by omega)]
  exact drawnRows_eq h (Nat.zero_le _)

theorem not_showsRows_of_overflows (scroll : TranscriptScroll) (hwidth : area.width ≠ 0)
    (hheight : area.height ≠ 0)
    (h : Overflows lineCount (contentArea lineCount area entries).width
      (scrolled lineCount area entries scroll).top 0 entries) :
    ¬ShowsRows lineCount area entries (renderEntries lineCount area entries scroll) := by
  rintro ⟨hrows, -⟩
  have hfirst := hrows (by omega) 0 (by omega)
  rw [drawn_eq lineCount area entries scroll hwidth (by omega),
    scroll_eq lineCount area entries scroll hwidth hheight] at hfirst
  exact @drawnRows_ne τ lineCount entries 0 0 _ _ h hfirst

/-- **When the right rows are drawn:** exactly if there is nothing to draw on, or no entry begins
65536 rows above the view, or more, of which the first row of the view is a line. -/
theorem showsRows_iff (lineCount : τ → ℕ → ℕ) (area : Rect) (entries : List (TranscriptEntry τ))
    (scroll : TranscriptScroll) :
    ShowsRows lineCount area entries (renderEntries lineCount area entries scroll) ↔
      area.width = 0 ∨ area.height = 0 ∨
        ¬Overflows lineCount (contentArea lineCount area entries).width
          (scrolled lineCount area entries scroll).top 0 entries := by
  constructor
  · intro hshows
    by_contra hcontra
    obtain ⟨hwidth, hheight, hover⟩ : area.width ≠ 0 ∧ area.height ≠ 0 ∧ _ := by
      simpa only [not_or, not_not] using hcontra
    exact not_showsRows_of_overflows scroll hwidth hheight hover hshows
  · rintro (hwidth | hheight | hfits)
    · refine ⟨fun hpos => ?_, fun row => outside_eq lineCount area entries scroll⟩
      omega
    · refine ⟨fun _ d hd => ?_, fun row => outside_eq lineCount area entries scroll⟩
      omega
    · exact showsRows_of_not_overflows scroll hfits

end

/-- The area of the transcript in a terminal of 80 columns: ten rows. -/
def tenRows : Rect := ⟨0, 80, 10, by decide⟩

/-- **A long answer that is followed shows its first lines again:** of 65546 lines the last ten
are in view, and the first ten are drawn. -/
theorem long_answer_shows_its_begin : ¬∀ (lineCount : String → ℕ → ℕ) (area : Rect)
    (entries : List (TranscriptEntry String)) (scroll : TranscriptScroll),
    ShowsRows lineCount area entries (renderEntries lineCount area entries scroll) := by
  intro hall
  refine @not_showsRows_of_overflows String (fun _ _ => 65546) tenRows
    [⟨.assistant, "a long answer", false⟩] .new (by decide) (by decide) ?_
    (hall (fun _ _ => 65546) tenRows [⟨.assistant, "a long answer", false⟩] .new)
  exact ⟨0, _, rfl, by decide, by decide⟩

end Client
end Moh
