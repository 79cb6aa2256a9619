/-
# The cursor of the prompt editor

Whatever keys are pressed, the cursor is at a grapheme of the text or at its end, the text has
no control character but line feeds, and nothing is indexed or sliced out of range
(`act_keeps`, `run_keeps`).  An edit can join or split the graphemes around it; what the
invariant rests on is that it does not make those before it fewer, where the cursor is left
behind them, and that an insertion counts the graphemes anew.
-/

import Moh.Client.EditorText
import Moh.Library.Fallible
import Moh.Library.Run

namespace Moh
namespace Client

open Spans Utf8

/-! ### Sanitized text -/

/-- The characters that a prompt may have. -/
def Printable (c : Char) : Prop := Unicode.isControl c = true → c = '\n'

theorem printable_of_mem_sanitizeEditorText {text : List Char} {c : Char}
    (h : c ∈ sanitizeEditorText text) : Printable c := by
  fun_induction sanitizeEditorText text with
  | case1 rest ih =>
    rcases List.mem_cons.1 h with rfl | h
    · exact fun _ => rfl
    · exact ih h
  | case2 rest _ ih =>
    rcases List.mem_cons.1 h with rfl | h
    · exact fun _ => rfl
    · exact ih h
  | case3 rest ih =>
    rcases List.mem_cons.1 h with rfl | h
    · exact fun _ => rfl
    · exact ih h
  | case4 rest ih =>
    rcases List.mem_cons.1 h with rfl | h
    · exact fun hspace => absurd hspace (by decide)
    · exact ih h
  | case5 character rest _ _ _ _ _ ih => exact ih h
  | case6 character rest _ _ _ _ hcontrol ih =>
    rcases List.mem_cons.1 h with rfl | h
    · exact fun hc => absurd hc hcontrol
    · exact ih h
  | case7 => simp at h

/-! ### Byte offsets of graphemes -/

theorem getElem?_indicesFrom (start : ℕ) (graphemes : List (List Char)) (k : ℕ) :
    (indicesFrom start graphemes)[k]? =
      graphemes[k]?.map fun g => (start + byteLength (graphemes.take k).flatten, g) := by
  induction graphemes generalizing start k with
  | nil => simp [indicesFrom]
  | cons grapheme graphemes ih =>
    rcases k with _ | k
    · simp [indicesFrom, byteLength]
    · rw [indicesFrom, List.getElem?_cons_succ, ih, List.getElem?_cons_succ, List.take_succ_cons,
        List.flatten_cons, byteLength_append, Nat.add_assoc]

theorem length_indicesFrom (start : ℕ) (graphemes : List (List Char)) :
    (indicesFrom start graphemes).length = graphemes.length := by
  induction graphemes generalizing start with
  | nil => rfl
  | cons grapheme graphemes ih => rw [indicesFrom, List.length_cons, ih, List.length_cons]

/-! ### Rows -/

/-- The rows hold every position from where they begin. -/
theorem exists_row_contains (width : String → ℕ) (limit : ℕ) {index start column i : ℕ}
    {graphemes : List String} (hstart : start ≤ i) (hi : i ≤ index + graphemes.length) :
    ∃ row ∈ rowsFrom width limit index start column graphemes, row.contains i = true := by
  induction graphemes generalizing index start column with
  | nil =>
    refine ⟨_, List.mem_singleton_self _, ?_⟩
    simpa [Span.contains, hstart] using hi
  | cons grapheme graphemes ih =>
    rw [List.length_cons] at hi
    rw [rowsFrom]
    split_ifs
    · rcases Nat.lt_or_ge index i with hlt | hle
      · obtain ⟨row, hrow, hcontains⟩ := @ih (index + 1) (index + 1) 0 hlt (by omega)
        exact ⟨row, List.mem_cons_of_mem _ hrow, hcontains⟩
      · exact ⟨_, List.mem_cons_self, by simpa [Span.contains, hstart] using hle⟩
    · rcases Nat.lt_or_ge index i with hlt | hle
      · obtain ⟨row, hrow, hcontains⟩ :=
          @ih (index + 1) index (width grapheme) (by omega) (by omega)
        exact ⟨row, List.mem_cons_of_mem _ hrow, hcontains⟩
      · exact ⟨_, List.mem_cons_self, by simpa [Span.contains, hstart] using hle⟩
    · exact @ih (index + 1) start (column + width grapheme) hstart (by omega)

/-- The text of some graphemes. -/
theorem join_map_ofList (graphemes : List (List Char)) :
    String.join (graphemes.map String.ofList) = String.ofList graphemes.flatten := by
  rw [← String.toList_inj, String.toList_join]
  simp [List.flatMap_def]

/-- The loop that indexes the graphemes does what the loop over them does. -/
theorem advanceIn_eq (width : String → ℕ) (desired : ℕ) {graphemes : List (List Char)}
    {count index column : ℕ} (h : index + count ≤ graphemes.length) :
    advanceIn width desired graphemes count index column =
      some (advance width desired index column
        ((graphemes.map String.ofList).extract index (index + count))) := by
  induction count generalizing index column with
  | zero => simp [advanceIn, advance]
  | succ count ih =>
    have hlt : index < graphemes.length := by omega
    have hextract : (graphemes.map String.ofList).extract index (index + (count + 1)) =
        String.ofList graphemes[index] ::
          (graphemes.map String.ofList).extract (index + 1) (index + 1 + count) := by
      rw [List.extract_eq_take_drop, List.extract_eq_take_drop,
        List.drop_eq_getElem_cons (by rwa [List.length_map]), List.getElem_map,
        Nat.add_sub_cancel_left, Nat.add_sub_cancel_left, List.take_succ_cons]
    rw [advanceIn, List.getElem?_eq_getElem hlt, hextract, advance]
    dsimp only
    split_ifs
    · rfl
    · exact ih (by omega)

namespace PromptEditor

/-- A vertical motion stays in the text. -/
theorem moveVertical_le (width : String → ℕ) {e : PromptEditor}
    (h : e.cursorGrapheme ≤ e.graphemes.length) (direction : Direction) :
    (e.moveVertical width direction).2.cursorGrapheme ≤ e.graphemes.length := by
  have henter : ∀ row ∈ e.visualRows width,
      (e.enter width row).cursorGrapheme ≤ e.graphemes.length := by
    intro row hrow
    obtain ⟨-, hchained, hbound⟩ := visualRows_eq width e
    exact (enter_bounds width (hchained.valid row hrow) (hbound row hrow)).2.trans (hbound row hrow)
  cases direction with
  | up =>
    rcases Nat.eq_zero_or_pos (e.row width) with hzero | hpos
    · have hzero' : ¬0 < e.cursorRow (e.visualRows width) := by
        show ¬0 < e.row width
        omega
      simpa only [moveVertical, if_neg hzero'] using h
    · obtain ⟨row, hrow, hup⟩ := up_eq_enter hpos
      show (e.up width).cursorGrapheme ≤ _
      rw [hup]
      exact henter row (List.mem_of_getElem? hrow)
  | down =>
    show (e.down width).cursorGrapheme ≤ _
    rcases Nat.lt_or_ge (e.row width + 1) (e.visualRows width).length with hlt | hge
    · obtain ⟨row, hrow, hdown⟩ := down_eq_enter hlt
      rw [hdown]
      exact henter row (List.mem_of_getElem? hrow)
    · rwa [down_eq_self hge]

end PromptEditor

/-! ### The invariant -/

namespace PromptText

variable {S : Segmentation Char} {width : String → ℕ} {e e' : PromptText} {i j k : ℕ}

variable (S) in
/-- **The invariant of the editor:** the cursor is not behind the text, which has no control
character but line feeds. -/
structure Inv (e : PromptText) : Prop where
  cursor : e.cursorGrapheme ≤ e.graphemeCount S
  printable : ∀ c ∈ e.value, Printable c

variable (S) in
/-- The operation does not panic, and keeps the invariant. -/
def Keeps {β : Type} (result : Option (β × PromptText)) : Prop :=
  ∃ b e', result = some (b, e') ∧ e'.Inv S

theorem inv_new : new.Inv S := ⟨Nat.zero_le _, by simp [new]⟩

theorem inv_clear (e : PromptText) : e.clear.Inv S :=
  ⟨Nat.zero_le _, by simp [clear, resetVerticalState]⟩

/-- A motion keeps the invariant, to wherever in the text it goes. -/
theorem Inv.move (h : e.Inv S) (hvalue : e'.value = e.value)
    (hcursor : e'.cursorGrapheme ≤ e.graphemeCount S) : e'.Inv S :=
  ⟨by rwa [graphemeCount, hvalue], hvalue ▸ h.printable⟩

/-! ### Offsets in the text -/

theorem cursorByteIndex_eq (e : PromptText) :
    e.cursorByteIndex S = byteLength (S.before e.value e.cursorGrapheme) := by
  rw [cursorByteIndex, graphemeIndices, getElem?_indicesFrom]
  cases hg : (S.segment e.value)[e.cursorGrapheme]? with
  | some g =>
    show 0 + byteLength _ = _
    rw [Nat.zero_add, Segmentation.before]
  | none =>
    show byteLength e.value = _
    rw [S.before_of_length_le (List.getElem?_eq_none_iff.1 hg)]

theorem length_graphemeSpans (e : PromptText) :
    (e.graphemeSpans S).length = e.graphemeCount S := by
  rw [graphemeSpans, List.length_map, graphemeIndices, length_indicesFrom, graphemeCount]

theorem exists_graphemeSpan (hk : k < e.graphemeCount S) :
    ∃ span, (e.graphemeSpans S)[k]? = some span ∧
      span.start = byteLength (S.before e.value k) := by
  have hg : (S.segment e.value)[k]? = some (S.segment e.value)[k] := List.getElem?_eq_getElem hk
  refine ⟨_, by rw [graphemeSpans, List.getElem?_map, graphemeIndices, getElem?_indicesFrom, hg,
    Option.map_some, Option.map_some], ?_⟩
  show 0 + byteLength _ = _
  rw [Nat.zero_add, Segmentation.before]

theorem spanStart_eq (e : PromptText) (k : ℕ) :
    e.spanStart S k = byteLength (S.before e.value k) := by
  rw [spanStart]
  rcases Nat.lt_or_ge k (e.graphemeCount S) with hk | hk
  · obtain ⟨span, hspan, hstart⟩ := exists_graphemeSpan hk
    rw [hspan]
    exact hstart
  · rw [List.getElem?_eq_none (by rwa [length_graphemeSpans]), S.before_of_length_le hk]

/-- Between two graphemes the text is sliced, and cut, without a panic. -/
theorem slice_removeRange (value : List Char) (hij : i ≤ j) :
    slice value (byteLength (S.before value i)) (byteLength (S.before value j)) =
        some ((S.segment value).extract i j).flatten ∧
      removeRange value (byteLength (S.before value i)) (byteLength (S.before value j)) =
        some (S.before value i ++ S.behind value j) := by
  have h := slice_append (S.before value i) ((S.segment value).extract i j).flatten
    (S.behind value j)
  rwa [S.before_append_extract hij, S.before_append_behind] at h

theorem mem_value_of_mem_before {c : Char} {value : List Char} (h : c ∈ S.before value k) :
    c ∈ value := by
  rw [← S.before_append_behind value k]
  exact List.mem_append_left _ h

theorem mem_value_of_mem_behind {c : Char} {value : List Char} (h : c ∈ S.behind value k) :
    c ∈ value := by
  rw [← S.before_append_behind value k]
  exact List.mem_append_right _ h

/-! ### Edits -/

/-- **The graphemes before a cut stay,** however those around it join. -/
theorem Inv.remove (h : e.Inv S) (hi : i ≤ e.graphemeCount S) (j : ℕ)
    (hvalue : e'.value = S.before e.value i ++ S.behind e.value j)
    (hcursor : e'.cursorGrapheme = i) : e'.Inv S := by
  constructor
  · rw [graphemeCount, hvalue, hcursor]
    exact S.le_length_segment_append hi _
  · intro c hc
    rw [hvalue] at hc
    rcases List.mem_append.1 hc with hc | hc
    · exact h.printable c (mem_value_of_mem_before hc)
    · exact h.printable c (mem_value_of_mem_behind hc)

theorem inv_setValue (e : PromptText) (value : List Char) : (e.setValue S value).Inv S :=
  ⟨le_rfl, fun _ hc => printable_of_mem_sanitizeEditorText hc⟩

/-- **An insertion counts the graphemes anew.** -/
theorem exists_insert (h : e.Inv S) (text : List Char) :
    ∃ e', e.insert S text = some e' ∧ e'.Inv S := by
  unfold insert
  split_ifs
  · exact ⟨e, rfl, h⟩
  · have hinsert := insertStr_append (S.before e.value e.cursorGrapheme)
      (S.behind e.value e.cursorGrapheme) (sanitizeEditorText text)
    rw [S.before_append_behind] at hinsert
    rw [cursorByteIndex_eq, hinsert]
    refine ⟨_, rfl, ?_, ?_⟩
    · refine (List.takeWhile_sublist _).length_le.trans ?_
      rw [graphemeIndices, length_indicesFrom]
      exact le_rfl
    · intro c hc
      rcases List.mem_append.1 hc with hc | hc
      · rcases List.mem_append.1 hc with hc | hc
        · exact h.printable c (mem_value_of_mem_before hc)
        · exact printable_of_mem_sanitizeEditorText hc
      · exact h.printable c (mem_value_of_mem_behind hc)

theorem keeps_deleteAtCursor (h : e.Inv S) : Keeps S (e.deleteAtCursor S) := by
  rw [deleteAtCursor, graphemeIndices, getElem?_indicesFrom]
  cases hg : (S.segment e.value)[e.cursorGrapheme]? with
  | none => exact ⟨_, _, rfl, h⟩
  | some g =>
    have hend : 0 + byteLength ((S.segment e.value).take e.cursorGrapheme).flatten +
        byteLength g = byteLength (S.before e.value (e.cursorGrapheme + 1)) := by
      rw [S.before_succ hg, byteLength_append, Nat.zero_add, Segmentation.before]
    have hstart : 0 + byteLength ((S.segment e.value).take e.cursorGrapheme).flatten =
        byteLength (S.before e.value e.cursorGrapheme) := by
      rw [Nat.zero_add, Segmentation.before]
    simp only [Option.map_some]
    rw [hend, hstart, (slice_removeRange e.value (Nat.le_succ _)).2]
    exact ⟨_, _, rfl, h.remove h.cursor (e.cursorGrapheme + 1) rfl rfl⟩

theorem keeps_deleteBeforeCursor (h : e.Inv S) : Keeps S (e.deleteBeforeCursor S) := by
  unfold deleteBeforeCursor
  split_ifs
  · exact ⟨_, _, rfl, h⟩
  · refine keeps_deleteAtCursor (h.move rfl ?_)
    have := h.cursor
    show e.cursorGrapheme - 1 ≤ _
    omega

theorem keeps_removeGraphemes (h : e.Inv S) (hi : i < e.graphemeCount S) (hij : i ≤ j) :
    Keeps S (e.removeGraphemes S i j) := by
  obtain ⟨span, hspan, hstart⟩ := exists_graphemeSpan hi
  rw [removeGraphemes, hspan]
  dsimp only
  rw [hstart, spanStart_eq, (slice_removeRange e.value hij).2]
  exact ⟨_, _, rfl, h.remove hi.le j rfl rfl⟩

end PromptText

/-! ### Words -/

variable {spans : List GraphemeSpan} {isWhitespace : Bool} {n : ℕ}

theorem exists_scanLeft (spans : List GraphemeSpan) (isWhitespace : Bool) (hn : n ≤ spans.length) :
    ∃ k ≤ n, scanLeft spans isWhitespace n = some k := by
  induction n with
  | zero => exact ⟨0, le_rfl, rfl⟩
  | succ n ih =>
    rw [scanLeft, List.getElem?_eq_getElem hn]
    dsimp only
    split_ifs
    · obtain ⟨k, hk, heq⟩ := ih (by omega)
      exact ⟨k, by omega, heq⟩
    · exact ⟨n + 1, le_rfl, rfl⟩

theorem le_scanRight (spans : List GraphemeSpan) (isWhitespace : Bool) (n : ℕ) :
    n ≤ scanRight spans isWhitespace n := Nat.le_add_right ..

theorem scanRight_le (isWhitespace : Bool) (hn : n ≤ spans.length) :
    scanRight spans isWhitespace n ≤ spans.length := by
  have hle := (List.takeWhile_sublist (l := spans.drop n)
    fun span => span.isWhitespace == isWhitespace).length_le
  rw [List.length_drop] at hle
  unfold scanRight
  omega

namespace PromptText

variable {S : Segmentation Char} {width : String → ℕ} {e e' : PromptText} {i j k : ℕ}

theorem exists_wordStart (h : e.Inv S) : ∃ k ≤ e.cursorGrapheme, e.wordStart S = some k := by
  have hcursor : e.cursorGrapheme ≤ (e.graphemeSpans S).length := by
    rw [length_graphemeSpans]
    exact h.cursor
  obtain ⟨k, hk, hscan⟩ := exists_scanLeft _ true hcursor
  obtain ⟨k', hk', hscan'⟩ := exists_scanLeft _ false (hk.trans hcursor)
  exact ⟨k', hk'.trans hk, by rw [wordStart, hscan, Option.bind_some, hscan']⟩

theorem keeps_moveWordLeft (h : e.Inv S) : Keeps S (e.moveWordLeft S) := by
  obtain ⟨k, hk, hstart⟩ := exists_wordStart h
  rw [moveWordLeft, hstart]
  exact ⟨_, _, rfl, h.move rfl (hk.trans h.cursor)⟩

theorem keeps_deleteWordBeforeCursor (h : e.Inv S) : Keeps S (e.deleteWordBeforeCursor S) := by
  obtain ⟨k, hk, hstart⟩ := exists_wordStart h
  rw [deleteWordBeforeCursor, hstart, Option.bind_some]
  split_ifs with heq
  · exact ⟨_, _, rfl, h⟩
  · have := h.cursor
    exact keeps_removeGraphemes h (by omega) hk

theorem inv_moveWordRight (h : e.Inv S) : (e.moveWordRight S).2.Inv S := by
  have hcursor : e.cursorGrapheme ≤ (e.graphemeSpans S).length := by
    rw [length_graphemeSpans]
    exact h.cursor
  have hmove : ∀ k ≤ (e.graphemeSpans S).length, (e.moveTo k).2.Inv S := fun k hk =>
    h.move rfl (by rwa [length_graphemeSpans] at hk)
  unfold moveWordRight
  dsimp only
  split
  · exact h
  · split_ifs
    · exact hmove _ (scanRight_le _ hcursor)
    · exact hmove _ (scanRight_le _ (scanRight_le _ hcursor))

theorem keeps_deleteWordAtCursor (h : e.Inv S) : Keeps S (e.deleteWordAtCursor S) := by
  unfold deleteWordAtCursor
  dsimp only
  split_ifs with hstays
  · exact ⟨_, _, rfl, h⟩
  · rw [length_graphemeSpans, not_or] at hstays
    have := h.cursor
    exact keeps_removeGraphemes h (by omega)
      ((le_scanRight ..).trans ((le_scanRight ..).trans (le_scanRight ..)))

/-! ### Lines -/

theorem lineStart_le (e : PromptText) : e.lineStart S ≤ e.cursorGrapheme := by
  unfold lineStart
  cases hlast : List.getLast? _ with
  | none => exact Nat.zero_le _
  | some start =>
    obtain ⟨⟨g, i⟩, hentry, heq⟩ := List.mem_filterMap.1 (List.mem_of_getLast? hlast)
    have hi := (List.mem_zipIdx hentry).2.1
    rw [List.length_take] at hi
    split_ifs at heq
    obtain rfl := Option.some.inj heq
    show i + 1 ≤ _
    omega

theorem lineEnd_le (e : PromptText) : e.lineEnd S ≤ e.graphemeCount S := by
  unfold lineEnd
  cases hfind : List.findSome? _ _ with
  | none => exact le_rfl
  | some stop =>
    obtain ⟨⟨g, i⟩, hentry, heq⟩ := List.exists_of_findSome?_eq_some hfind
    have hi := (List.mem_zipIdx (List.mem_of_mem_drop hentry)).2.1
    split_ifs at heq
    obtain rfl := Option.some.inj heq
    show i ≤ (S.segment e.value).length
    omega

theorem inv_moveAndReset (h : e.Inv S) (hk : k ≤ e.graphemeCount S) :
    (e.moveAndReset k).2.Inv S := by
  unfold moveAndReset
  split_ifs
  · exact h
  · exact h.move rfl hk

/-! ### Rows -/

theorem length_prompt (e : PromptText) : (e.prompt S).graphemes.length = e.graphemeCount S :=
  List.length_map ..

/-- **The text is sliced from the begin of a row to the cursor in it,** as the list of its
graphemes would be. -/
theorem cursorRowAndColumn_eq (width : String → ℕ) (h : e.Inv S) (limit : ℕ) :
    e.cursorRowAndColumn S width (e.rows S width limit) =
      some ((e.prompt S).cursorRow (e.rows S width limit),
        (e.prompt S).cursorColumn width (e.rows S width limit)) := by
  obtain ⟨row, hrow, hcontains⟩ : ∃ row ∈ e.rows S width limit,
      row.contains e.cursorGrapheme = true :=
    exists_row_contains width (max limit 1) (Nat.zero_le e.cursorGrapheme)
      (by rw [length_prompt, Nat.zero_add]; exact h.cursor)
  have hfound : ∃ t, (e.rows S width limit).findIdx? (·.contains e.cursorGrapheme) = some t :=
    Option.isSome_iff_exists.1 (List.findIdx?_isSome.trans (List.any_eq_true.2
      ⟨row, hrow, hcontains⟩))
  obtain ⟨t, ht⟩ := hfound
  obtain ⟨hlt, hat, -⟩ := List.findIdx?_eq_some_iff_getElem.1 ht
  have hstart : (e.rows S width limit)[t].start ≤ e.cursorGrapheme := by
    simp only [Span.contains, Bool.and_eq_true, decide_eq_true_eq] at hat
    exact hat.1
  have hrowIndex : (e.prompt S).cursorRow (e.rows S width limit) = t := by
    rw [PromptEditor.cursorRow, show (e.prompt S).cursorGrapheme = e.cursorGrapheme from rfl, ht,
      Option.getD_some]
  rw [cursorRowAndColumn, ht, Option.getD_some, PromptEditor.cursorColumn, hrowIndex]
  simp only [List.getElem?_eq_getElem hlt]
  rw [spanStart_eq, cursorByteIndex_eq, (slice_removeRange e.value hstart).1, Option.map_some]
  show some (t, width (String.ofList _)) = some (t, width (String.join
    (((S.segment e.value).map String.ofList).extract _ e.cursorGrapheme)))
  rw [← join_map_ofList, List.extract_eq_take_drop, List.extract_eq_take_drop, List.map_take,
    List.map_drop]

/-- A row is among the graphemes. -/
theorem row_bounds {limit : ℕ} {row : VisualRow} (hrow : row ∈ e.rows S width limit) :
    row.start ≤ row.stop ∧ row.stop ≤ e.graphemeCount S := by
  obtain ⟨stop, rest, hrows, -, hchained, hbound⟩ :=
    @rowsFrom_eq width (max limit 1) 0 0 0 (e.prompt S).graphemes le_rfl nofun
  rw [rows, PromptEditor.rows, hrows] at hrow
  refine ⟨hchained.valid row hrow, ?_⟩
  have := hbound row hrow
  rwa [length_prompt, Nat.zero_add] at this

/-- What entering a row leaves. -/
theorem enter_eq {limit : ℕ} {row : VisualRow} (hrow : row ∈ e.rows S width limit)
    (desired : ℕ) : e.enter S width desired row = some (true,
      { e with
        cursorGrapheme := advance width desired row.start 0
          ((e.prompt S).graphemes.extract row.start row.stop)
        preferredColumn := some desired }) := by
  obtain ⟨hvalid, hbound⟩ := row_bounds hrow
  have hstop : row.start + (row.stop - row.start) = row.stop := by omega
  have hinside : row.start + (row.stop - row.start) ≤ (S.segment e.value).length := by
    rw [hstop]
    exact hbound
  have hadvance := @advanceIn_eq width desired _ _ _ 0 hinside
  rw [hstop] at hadvance
  rw [enter, hadvance]
  rfl

/-- **A vertical motion is that of the list of graphemes.** -/
theorem moveVertical_eq (width : String → ℕ) (h : e.Inv S) (direction : Direction) :
    ∃ moved e', e.moveVertical S width direction = some (moved, e') ∧
      (e.prompt S).moveVertical width direction = (moved, e'.prompt S) ∧ e'.value = e.value := by
  have hcolumn := cursorRowAndColumn_eq width h (e.lastWidth.getD u16Max)
  have hvisual : (e.prompt S).visualRows width = e.rows S width (e.lastWidth.getD u16Max) := rfl
  have hlt : (e.prompt S).cursorRow (e.rows S width (e.lastWidth.getD u16Max)) <
      (e.rows S width (e.lastWidth.getD u16Max)).length :=
    PromptEditor.cursorRow_lt (PromptEditor.visualRows_eq width (e.prompt S)).1
  -- the target, if there is one, is among the rows
  have henter : ∀ t < (e.rows S width (e.lastWidth.getD u16Max)).length, ∃ row ∈
      e.rows S width (e.lastWidth.getD u16Max),
      (e.rows S width (e.lastWidth.getD u16Max))[t]? = some row ∧
      (e.rows S width (e.lastWidth.getD u16Max)).getD t ⟨0, 0⟩ = row := by
    intro t ht
    exact ⟨_, List.getElem_mem ht, List.getElem?_eq_getElem ht, by
      rw [List.getD_eq_getElem?_getD, List.getElem?_eq_getElem ht, Option.getD_some]⟩
  unfold moveVertical PromptEditor.moveVertical
  simp only [hcolumn, hvisual, Option.bind_eq_bind, Option.bind_some]
  cases direction with
  | up =>
    by_cases hpos : 0 < (e.prompt S).cursorRow (e.rows S width (e.lastWidth.getD u16Max))
    · obtain ⟨row, hrow, hat, hget⟩ := henter
        ((e.prompt S).cursorRow (e.rows S width (e.lastWidth.getD u16Max)) - 1) (by omega)
      simp only [if_pos hpos, hat, hget, Option.bind_some, enter_eq hrow]
      exact ⟨_, _, rfl, rfl, rfl⟩
    · simp only [if_neg hpos]
      exact ⟨_, _, rfl, rfl, rfl⟩
  | down =>
    by_cases hbelow : (e.prompt S).cursorRow (e.rows S width (e.lastWidth.getD u16Max)) + 1 <
        (e.rows S width (e.lastWidth.getD u16Max)).length
    · obtain ⟨row, hrow, hat, hget⟩ := henter _ hbelow
      simp only [if_pos hbelow, hat, hget, Option.bind_some, enter_eq hrow]
      exact ⟨_, _, rfl, rfl, rfl⟩
    · simp only [if_neg hbelow]
      exact ⟨_, _, rfl, rfl, rfl⟩

theorem keeps_moveVertical (h : e.Inv S) (direction : Direction) :
    Keeps S (e.moveVertical S width direction) := by
  obtain ⟨moved, e', hmove, hprompt, hvalue⟩ := moveVertical_eq width h direction
  refine ⟨moved, e', hmove, h.move hvalue ?_⟩
  have hcursor : e'.cursorGrapheme = (e'.prompt S).cursorGrapheme := rfl
  have hinside : (e.prompt S).cursorGrapheme ≤ (e.prompt S).graphemes.length := by
    rw [length_prompt]
    exact h.cursor
  have hbound := PromptEditor.moveVertical_le width hinside direction
  rw [hprompt] at hbound
  rwa [length_prompt] at hbound

/-! ### The views -/

theorem keeps_displayRows (h : e.Inv S) (limit visibleHeight : ℕ) :
    Keeps S (e.displayRows S width limit visibleHeight) := by
  unfold displayRows
  split_ifs
  · exact ⟨_, _, rfl, h⟩
  · have hwidth : ({ e with lastWidth := some limit } : PromptText).Inv S := ⟨h.cursor, h.printable⟩
    have hlines : ∀ top, ∃ lines, (((({ e with lastWidth := some limit } : PromptText).rows S width
        limit).drop top).take visibleHeight).mapM (fun row =>
          (sliceList (S.segment e.value) row.start row.stop).map List.flatten) = some lines := by
      intro top
      refine Fallible.exists_mapM_option fun row hrow => ?_
      have hbounds : row.start ≤ row.stop ∧ row.stop ≤ (S.segment e.value).length :=
        row_bounds (List.mem_of_mem_drop (List.mem_of_mem_take hrow))
      exact ⟨_, by rw [sliceList, if_pos hbounds, Option.map_some]⟩
    dsimp only
    rw [cursorRowAndColumn_eq width hwidth]
    simp only [Option.bind_eq_bind, Option.bind_some]
    obtain ⟨lines, hmap⟩ := hlines _
    rw [hmap]
    exact ⟨_, _, rfl, hwidth.cursor, hwidth.printable⟩

theorem keeps_displayWindow (h : e.Inv S) (limit : ℕ) :
    Keeps S (e.displayWindow S width limit) := by
  have hcursor : (e.prompt S).cursorGrapheme ≤ (e.prompt S).graphemes.length := by
    rw [length_prompt]
    exact h.cursor
  unfold displayWindow PromptEditor.displayWindow
  split_ifs
  · exact ⟨_, _, rfl, h⟩
  · rw [PromptEditor.cursorOffset, if_pos hcursor]
    exact ⟨_, _, rfl, h⟩

/-! ### Events -/

theorem Keeps.map {β γ : Type} {result : Option (β × PromptText)}
    {f : β × PromptText → γ × PromptText} (h : Keeps S result) (hf : ∀ r, (f r).2 = r.2) :
    Keeps S (result.map f) := by
  obtain ⟨b, e', rfl, hinv⟩ := h
  exact ⟨(f (b, e')).1, _, rfl, by rwa [hf]⟩

theorem keeps_insertEvent (h : e.Inv S) (text : List Char) : Keeps S (e.insertEvent S text) := by
  unfold insertEvent
  split_ifs
  · exact ⟨_, _, rfl, h⟩
  · obtain ⟨e', hinsert, hinv⟩ := exists_insert h (sanitizeEditorText text)
    exact ⟨_, e', by rw [hinsert, Option.map_some], hinv⟩

/-- A key with `Control` alone does not panic; it is another key, or it keeps the invariant. -/
theorem exists_handleWordKey (h : e.Inv S) (code : EditorKey) :
    ∃ result, e.handleWordKey S code = some result ∧ ∀ r ∈ result, r.2.Inv S := by
  have hkeeps : ∀ {result : Option (Bool × PromptText)}, Keeps S result →
      ∃ inner, result.map some = some inner ∧ ∀ r ∈ inner, r.2.Inv S := by
    rintro result ⟨b, e', rfl, hinv⟩
    exact ⟨_, rfl, fun r hr => Option.some.inj hr ▸ hinv⟩
  unfold handleWordKey
  split
  · exact hkeeps (keeps_moveWordLeft h)
  · exact ⟨_, rfl, fun r hr => Option.some.inj hr ▸ inv_moveWordRight h⟩
  · exact hkeeps (keeps_deleteWordBeforeCursor h)
  · exact hkeeps (keeps_deleteWordBeforeCursor h)
  · exact hkeeps (keeps_deleteWordAtCursor h)
  · exact ⟨none, rfl, nofun⟩

theorem keeps_handlePlainKey (h : e.Inv S) (modifiers : EditorModifiers) (code : EditorKey) :
    Keeps S (e.handlePlainKey S width modifiers code) := by
  have hmove : ∀ k ≤ e.graphemeCount S, Keeps S (some (changedIf (e.moveAndReset k))) :=
    fun k hk => ⟨_, _, rfl, inv_moveAndReset h hk⟩
  have hcursor := h.cursor
  cases code with
  | char character => exact keeps_insertEvent h [character]
  | enter =>
    rw [handlePlainKey]
    split_ifs
    · obtain ⟨e', hinsert, hinv⟩ := exists_insert h ['\n']
      exact ⟨_, e', by rw [hinsert, Option.map_some], hinv⟩
    · exact ⟨_, _, rfl, inv_clear e⟩
  | esc => exact ⟨_, _, rfl, h⟩
  | left =>
    rw [handlePlainKey]
    split_ifs
    · exact ⟨_, _, rfl, h⟩
    · exact hmove _ (by omega)
  | right =>
    rw [handlePlainKey]
    split_ifs
    · exact ⟨_, _, rfl, h⟩
    · exact hmove _ (by omega)
  | home => exact hmove _ ((lineStart_le e).trans hcursor)
  | end_ => exact hmove _ (lineEnd_le e)
  | up => exact (keeps_moveVertical h .up).map fun _ => rfl
  | down => exact (keeps_moveVertical h .down).map fun _ => rfl
  | backspace => exact (keeps_deleteBeforeCursor h).map fun _ => rfl
  | delete => exact (keeps_deleteAtCursor h).map fun _ => rfl
  | other => exact ⟨_, _, rfl, h⟩

theorem keeps_handleAllowedKey (h : e.Inv S) (modifiers : EditorModifiers) (code : EditorKey) :
    Keeps S (e.handleAllowedKey S width modifiers code) := by
  unfold handleAllowedKey
  split_ifs
  · exact ⟨_, _, rfl, h⟩
  · exact keeps_handlePlainKey h modifiers code

theorem keeps_handleEvent (h : e.Inv S) (event : EditorEvent) :
    Keeps S (e.handleEvent S width event) := by
  unfold handleEvent
  split
  · exact keeps_insertEvent h _
  · exact ⟨_, _, rfl, h⟩
  · exact ⟨_, _, rfl, h⟩
  · split_ifs
    · obtain ⟨result, hresult, hinv⟩ := exists_handleWordKey h ‹EditorKey›
      rw [hresult]
      cases result with
      | none => exact keeps_handleAllowedKey h _ _
      | some r => exact ⟨_, _, rfl, hinv r rfl⟩
    · exact keeps_handleAllowedKey h _ _

/-- **No action panics, and each keeps the invariant.** -/
theorem act_keeps (h : e.Inv S) (action : Action) :
    ∃ e', e.act S width action = some e' ∧ e'.Inv S := by
  have hkeeps : ∀ {β : Type} {result : Option (β × PromptText)}, Keeps S result →
      ∃ e', result.map Prod.snd = some e' ∧ e'.Inv S := by
    rintro β result ⟨b, e', rfl, hinv⟩
    exact ⟨e', rfl, hinv⟩
  cases action with
  | event event => exact hkeeps (keeps_handleEvent h event)
  | setValue value => exact ⟨_, rfl, inv_setValue e value⟩
  | clear => exact ⟨_, rfl, inv_clear e⟩
  | displayRows limit visibleHeight => exact hkeeps (keeps_displayRows h limit visibleHeight)
  | displayWindow limit => exact hkeeps (keeps_displayWindow h limit)

/-- **The cursor is in the text after every run:** nothing panics, the cursor is not behind
the last grapheme, and the text has no control character but line feeds. -/
theorem run_keeps (S : Segmentation Char) (width : String → ℕ) (actions : List Action) :
    ∃ e, Run.acceptAll (act S width) new actions = some e ∧
      e.cursorGrapheme ≤ e.graphemeCount S ∧
      ∀ c ∈ e.value, Unicode.isControl c = true → c = '\n' := by
  obtain ⟨e, hrun, hinv⟩ : ∃ e, Run.acceptAll (act S width) new actions = some e ∧ e.Inv S :=
    Run.exists_acceptAll (fun _ action h => act_keeps h action) inv_new actions
  exact ⟨e, hrun, hinv.cursor, hinv.printable⟩

/-- The combining accents join the letter before them. -/
def accents : Segmentation Char :=
  .joining fun c => 0x300 ≤ c.toNat && c.toNat ≤ 0x36F

/-- `run_keeps` on accents that are pasted behind a letter and then deleted with it. -/
theorem run_keeps_accents :
    ∃ e, Run.acceptAll (act accents fun _ => 1) new
        [.event (.paste ['e', '\u0301', '\u0302']),
          .event (.key .press ⟨false, false, false, false, false, false⟩ .backspace)] = some e ∧
      e.cursorGrapheme ≤ e.graphemeCount accents ∧
      ∀ c ∈ e.value, Unicode.isControl c = true → c = '\n' :=
  run_keeps accents _ _

/-- An accent that is inserted behind a letter joins it, and the cursor is behind both. -/
example : Run.acceptAll (act accents fun _ => 1) new
    [.event (.paste ['a', 'e', 'b']),
      .event (.key .press ⟨false, false, false, false, false, false⟩ .left),
      .event (.paste ['\u0301'])] = some ⟨['a', 'e', '\u0301', 'b'], 2, 0, none, none⟩ := by
  decide +kernel

end PromptText
end Client
end Moh
