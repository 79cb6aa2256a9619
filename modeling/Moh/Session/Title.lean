/-
# Session titles

`session/title.rs`.  A `SessionTitle` is 1 to 64 scalar values without
surrounding whitespace or controls; the structure carries the proof.
`fallbackTitle` shortens the first message, `sanitizeGeneratedTitle` cleans the
text a title generator returned.
-/

import Moh.Library.Unicode

namespace Moh

/-- `MAX_SESSION_TITLE_SCALARS`. -/
def maxSessionTitleScalars : ℕ := 64

/-- The rules `SessionTitle::parse` checks. -/
def isValidTitle (value : List Char) : Bool :=
  !(value.length == 0 || maxSessionTitleScalars < value.length ||
    Unicode.trim value != value || value.any Unicode.isControl)

/-- Validated display metadata for a session. -/
structure SessionTitle where
  text : String
  valid : isValidTitle text.toList = true
deriving DecidableEq

/-- `SessionTitle::parse`. -/
def SessionTitle.parse (value : String) : Option SessionTitle :=
  if h : isValidTitle value.toList = true then some ⟨value, h⟩ else none

/-- The mechanism that last set a session title. -/
inductive TitleSource where
  | fallback
  | generated
  | manual
deriving DecidableEq, Repr

/-- `TitleGenerationError`: a sanitized category of title-generation failure. -/
inductive TitleGenerationError where
  | authentication
  | transport
  | completion
deriving DecidableEq, Repr

/-! ### Terminal control sequences -/

/-- The `for` loop of a control sequence: skips through its final byte in
`@`–`~`. -/
def skipControlSequence : List Char → List Char
  | [] => []
  | c :: cs => if '@' ≤ c && c ≤ '~' then cs else skipControlSequence cs

/-- The `while` loop of an operating-system command: skips through `BEL` or
`ESC \`. -/
def skipSystemCommand : List Char → List Char
  | [] => []
  | c :: cs =>
    if c = '\x07' then cs
    else if c = '\x1b' then
      match cs with
      | '\\' :: rest => rest
      | _ => skipSystemCommand cs
    else skipSystemCommand cs

/-- `consume_escape_sequence`: what follows an introducer. -/
def consumeEscapeSequence : List Char → List Char
  | '[' :: cs => skipControlSequence cs
  | ']' :: cs => skipSystemCommand cs
  | _ :: cs => cs
  | [] => []

theorem skipControlSequence_length_le (cs : List Char) :
    (skipControlSequence cs).length ≤ cs.length := by
  induction cs with
  | nil => simp [skipControlSequence]
  | cons c cs ih =>
    unfold skipControlSequence
    split
    · simp
    · simpa using Nat.le_succ_of_le ih

theorem skipSystemCommand_length_le (cs : List Char) :
    (skipSystemCommand cs).length ≤ cs.length := by
  fun_induction skipSystemCommand cs <;> simp_all <;> omega

theorem consumeEscapeSequence_length_le (cs : List Char) :
    (consumeEscapeSequence cs).length ≤ cs.length := by
  unfold consumeEscapeSequence
  split
  · exact Nat.le_succ_of_le (skipControlSequence_length_le _)
  · exact Nat.le_succ_of_le (skipSystemCommand_length_le _)
  · simp
  · simp

/-- `strip_terminal_controls_with_whitespace`. -/
def stripTerminalControlsWithWhitespace (preserveWhitespace : Bool) : List Char → List Char
  | [] => []
  | c :: cs =>
    if c = '\x1b' || c = '\u009b' then
      have := consumeEscapeSequence_length_le cs
      stripTerminalControlsWithWhitespace preserveWhitespace (consumeEscapeSequence cs)
    else if preserveWhitespace && Unicode.isWhitespace c then
      c :: stripTerminalControlsWithWhitespace preserveWhitespace cs
    else if Unicode.isControl c then stripTerminalControlsWithWhitespace preserveWhitespace cs
    else c :: stripTerminalControlsWithWhitespace preserveWhitespace cs
termination_by cs => cs.length

/-- `strip_terminal_controls`. -/
def stripTerminalControls : List Char → List Char :=
  stripTerminalControlsWithWhitespace false

/-- `strip_terminal_controls_preserving_whitespace`. -/
def stripTerminalControlsPreservingWhitespace : List Char → List Char :=
  stripTerminalControlsWithWhitespace true

/-! ### Normalization -/

/-- `collapse_whitespace`: the words joined by single spaces. -/
def collapseWhitespace (value : List Char) : List Char :=
  [' '].intercalate (Unicode.splitWhitespace value)

/-- `truncate_title`: a title that is too long ends at its last word boundary
within 63 characters, if it has one, and in an ellipsis. -/
def truncateTitle (value : List Char) : List Char :=
  if value.length ≤ maxSessionTitleScalars then value
  else
    let cut := value.take (maxSessionTitleScalars - 1)
    let boundary := (cut.reverse.dropWhile (· != ' ')).length - 1
    (if 0 < boundary then cut.take boundary else cut) ++ ['…']

/-- `strip_prefix(start)?.strip_suffix(end)` for one pair of equal marks. -/
def pairedBy (mark : Char) : List Char → Option (List Char)
  | c :: cs => if c = mark && cs.getLast? = some mark then some cs.dropLast else none
  | [] => none

/-- `paired_inner`: the text within one pair of surrounding marks. -/
def pairedInner (value : List Char) : Option (List Char) :=
  ['"', '\'', '`', '*', '_'].findSome? fun mark => pairedBy mark value

theorem pairedInner_length_lt {value inner : List Char} (h : pairedInner value = some inner) :
    inner.length < value.length := by
  obtain ⟨mark, -, hm⟩ := List.exists_of_findSome?_eq_some h
  cases value with
  | nil => simp [pairedBy] at hm
  | cons c cs =>
    simp only [pairedBy] at hm
    split_ifs at hm
    obtain rfl := Option.some.inj hm
    simp only [List.length_dropLast, List.length_cons]
    omega

theorem trim_length_le (cs : List Char) : (Unicode.trim cs).length ≤ cs.length :=
  (List.rdropWhile_prefix _ _).length_le.trans (List.dropWhile_sublist _).length_le

/-- The `loop` of `trim_paired_surrounding` on a trimmed text. -/
def trimPaired (value : List Char) : List Char :=
  match h : pairedInner value with
  | none => value
  | some inner =>
    have := pairedInner_length_lt h
    have := trim_length_le inner
    trimPaired (Unicode.trim inner)
termination_by value.length

/-- `trim_paired_surrounding`. -/
def trimPairedSurrounding (value : List Char) : List Char :=
  trimPaired (Unicode.trim value)

/-- `FALLBACK_EMPTY_TITLE`. -/
def fallbackEmptyTitle : String := "Untitled session"

/-- `fallback_title`: the deterministic first-message title; `none` is the
panic of its `expect`. -/
def fallbackTitle (firstMessage : String) : Option SessionTitle :=
  let withoutControls := stripTerminalControlsPreservingWhitespace firstMessage.toList
  let normalized := collapseWhitespace withoutControls
  let normalized := if normalized.isEmpty then fallbackEmptyTitle.toList else normalized
  SessionTitle.parse (String.ofList (truncateTitle normalized))

/-- `sanitize_generated_title`: one valid title from raw generated text. -/
def sanitizeGeneratedTitle (generated : String) : Option SessionTitle := do
  let line ← (Unicode.lines generated.toList).find? fun line => !Unicode.isBlank line
  let plain := trimPairedSurrounding (stripTerminalControls line)
  SessionTitle.parse (String.ofList (truncateTitle (collapseWhitespace plain)))

/-! ### Fallback titles are valid -/

/-- A text without controls that neither starts nor ends in whitespace. -/
structure Tidy (cs : List Char) : Prop where
  controls : ∀ c ∈ cs, Unicode.isControl c = false
  head : ∀ c ∈ cs.head?, Unicode.isWhitespace c = false
  last : ∀ c ∈ cs.getLast?, Unicode.isWhitespace c = false

/-- Characters are whitespace or no controls once the controls are stripped. -/
theorem of_mem_stripTerminalControlsPreservingWhitespace {cs : List Char} {c : Char}
    (h : c ∈ stripTerminalControlsPreservingWhitespace cs) :
    Unicode.isWhitespace c = true ∨ Unicode.isControl c = false := by
  unfold stripTerminalControlsPreservingWhitespace at h
  fun_induction stripTerminalControlsWithWhitespace true cs with
  | case1 => simp at h
  | case2 x cs _ _ ih => exact ih h
  | case3 x cs _ hspace ih =>
    rcases List.mem_cons.1 h with rfl | h
    · exact .inl (by simpa using hspace)
    · exact ih h
  | case4 x cs _ _ _ ih => exact ih h
  | case5 x cs _ _ hcontrol ih =>
    rcases List.mem_cons.1 h with rfl | h
    · exact .inr (by simpa using hcontrol)
    · exact ih h

/-- Two tidy texts with a space between them. -/
theorem Tidy.join {a b : List Char} (ha : Tidy a) (hb : Tidy b) (hane : a ≠ []) (hbne : b ≠ []) :
    Tidy (a ++ ' ' :: b) where
  controls := by
    intro c hc
    rcases List.mem_append.1 hc with hc | hc
    · exact ha.controls c hc
    · rcases List.mem_cons.1 hc with rfl | hc
      · rfl
      · exact hb.controls c hc
  head := by
    rw [List.head?_append_of_ne_nil _ hane]
    exact ha.head
  last := by
    rw [List.getLast?_append_of_ne_nil _ (List.cons_ne_nil _ _), List.getLast?_cons_of_ne_nil hbne]
    exact hb.last

/-- Words with single spaces between them. -/
theorem tidy_intercalate {words : List (List Char)} (h : ∀ word ∈ words, word ≠ [] ∧ Tidy word) :
    Tidy ([' '].intercalate words) ∧ (words ≠ [] → [' '].intercalate words ≠ []) := by
  induction words with
  | nil => exact ⟨⟨by simp, by simp, by simp⟩, by simp⟩
  | cons word words ih =>
    obtain ⟨⟨hne, htidy⟩, hwords⟩ := List.forall_mem_cons.1 h
    obtain ⟨hrest, hrestne⟩ := ih hwords
    cases words with
    | nil => simpa [List.intercalate] using ⟨htidy, hne⟩
    | cons next words =>
      have hjoin : [' '].intercalate (word :: next :: words) =
          word ++ ' ' :: [' '].intercalate (next :: words) := by simp [List.intercalate]
      rw [hjoin]
      exact ⟨htidy.join hrest hne (hrestne (by simp)), by simp⟩

/-- What is collapsed is tidy. -/
theorem tidy_collapseWhitespace {cs : List Char}
    (h : ∀ c ∈ cs, Unicode.isWhitespace c = true ∨ Unicode.isControl c = false) :
    Tidy (collapseWhitespace cs) := by
  refine (tidy_intercalate fun word hword => ?_).1
  obtain ⟨hne, hchars⟩ := Unicode.of_mem_splitWhitespace hword
  refine ⟨hne, fun c hc => ?_, fun c hc => ?_, fun c hc => ?_⟩
  · obtain ⟨hmem, hspace⟩ := hchars c hc
    exact (h c hmem).resolve_left (by simp [hspace])
  · exact (hchars c (List.mem_of_head? hc)).2
  · exact (hchars c (List.mem_of_getLast? hc)).2

/-- A text that is too long keeps its first characters, at least one and at most 63. -/
theorem exists_truncateTitle_eq {cs : List Char} (h : ¬cs.length ≤ maxSessionTitleScalars) :
    ∃ n, 0 < n ∧ n < maxSessionTitleScalars ∧ truncateTitle cs = cs.take n ++ ['…'] := by
  have hdrop := (List.dropWhile_sublist (l := (cs.take (maxSessionTitleScalars - 1)).reverse)
    (· != ' ')).length_le
  rw [List.length_reverse, List.length_take] at hdrop
  simp only [truncateTitle, if_neg h]
  split_ifs with hboundary
  · refine ⟨_, hboundary, ?_, ?_⟩
    · unfold maxSessionTitleScalars at *
      omega
    · rw [List.take_take]
      congr 2
      omega
  · exact ⟨maxSessionTitleScalars - 1, by decide, by decide, rfl⟩

/-- **A tidy text makes a title** once it is short enough. -/
theorem isValidTitle_truncateTitle {cs : List Char} (h : Tidy cs) (hne : cs ≠ []) :
    isValidTitle (truncateTitle cs) = true := by
  have hvalid : ∀ {text : List Char}, Tidy text → text ≠ [] →
      text.length ≤ maxSessionTitleScalars → isValidTitle text = true := by
    intro text htext htextne hlen
    have htrim := Unicode.trim_eq_self htext.head htext.last
    have hcontrol : text.any Unicode.isControl = false := by
      simpa [List.any_eq_false] using htext.controls
    simp [isValidTitle, htrim, hcontrol, htextne, Nat.not_lt.2 hlen]
  by_cases hlen : cs.length ≤ maxSessionTitleScalars
  · rw [truncateTitle, if_pos hlen]
    exact hvalid h hne hlen
  · obtain ⟨n, hn, hle, hkept⟩ := exists_truncateTitle_eq hlen
    have htake : cs.take n ≠ [] := by
      rw [Ne, List.take_eq_nil_iff, not_or]
      exact ⟨hn.ne', hne⟩
    rw [hkept]
    refine hvalid ⟨fun c hc => ?_, ?_, ?_⟩ (by simp) ?_
    · rcases List.mem_append.1 hc with hc | hc
      · exact h.controls c (List.mem_of_mem_take hc)
      · rw [List.mem_singleton.1 hc]
        decide
    · rw [List.head?_append_of_ne_nil _ htake, List.head?_take, if_neg (by omega)]
      exact h.head
    · rw [List.getLast?_append_of_ne_nil _ (List.cons_ne_nil _ _)]
      intro c hc
      obtain rfl : '…' = c := by simpa using hc
      decide
    · rw [List.length_append, List.length_take, List.length_singleton]
      omega

/-- **A fallback title always exists:** the `expect` of `fallback_title` holds. -/
theorem exists_fallbackTitle (firstMessage : String) :
    ∃ title, fallbackTitle firstMessage = some title := by
  have htidy := @tidy_collapseWhitespace
    (stripTerminalControlsPreservingWhitespace firstMessage.toList)
    fun _ => of_mem_stripTerminalControlsPreservingWhitespace
  have hvalid : isValidTitle (truncateTitle (if (collapseWhitespace
      (stripTerminalControlsPreservingWhitespace firstMessage.toList)).isEmpty then
      fallbackEmptyTitle.toList else collapseWhitespace
      (stripTerminalControlsPreservingWhitespace firstMessage.toList))) = true := by
    split_ifs with hempty
    · decide +kernel
    · exact isValidTitle_truncateTitle htidy (by simpa using hempty)
  refine ⟨⟨String.ofList _, by rwa [String.toList_ofList]⟩, ?_⟩
  rw [fallbackTitle, SessionTitle.parse, dif_pos]

end Moh
