/-
# Lines written and read again

`tools/edit.rs`: `encode_lines`; `tools/read.rs`: `normalize_text`, `logical_lines`.
The editor writes lines with the newline convention of the original file, and the
reader takes every convention back to line feeds.  The two are inverse in one
direction: a file of one convention is written as it was (`encodeLines_logicalLines`).
In the other an empty last line without a final newline, and a byte order mark at
the start of the first line, are lost (`logicalLines_encodeLines_iff`).
-/

import Moh.Tools.Edit

namespace Moh
namespace Tools

/-! ### Newline conventions -/

/-- The newline conventions of a file. -/
inductive Newline where
  | lf
  | crlf
  | cr
deriving DecidableEq, Repr

/-- The characters that end a line. -/
def Newline.chars : Newline → List Char
  | .lf => ['\n']
  | .crlf => ['\r', '\n']
  | .cr => ['\r']

/-- A text with line feeds, written in a convention. -/
def Newline.write (nl : Newline) (text : List Char) : List Char :=
  text.flatMap fun c => if c = '\n' then nl.chars else [c]

/-- The convention `encode_lines` takes from the original. -/
def newlineOf (original : List UInt8) : Newline :=
  if hasCrLf original then .crlf else if original.contains 0x0D then .cr else .lf

variable {nl : Newline} {text : List Char} {original : List UInt8} {line : Line}
  {lines : List Line}

theorem separator_eq (original : List UInt8) : separator original = (newlineOf original).chars := by
  unfold separator newlineOf
  split_ifs <;> rfl

theorem Newline.write_cons_newline (text : List Char) :
    nl.write ('\n' :: text) = nl.chars ++ nl.write text :=
  rfl

theorem Newline.write_cons {c : Char} (hc : c ≠ '\n') (text : List Char) :
    nl.write (c :: text) = c :: nl.write text := by
  unfold Newline.write
  rw [List.flatMap_cons, if_neg hc]
  rfl

theorem Newline.write_append (text rest : List Char) :
    nl.write (text ++ rest) = nl.write text ++ nl.write rest :=
  List.flatMap_append

/-- A text without newlines is the same in every convention. -/
theorem Newline.write_eq_self (h : '\n' ∉ text) : nl.write text = text := by
  induction text with
  | nil => rfl
  | cons c text ih =>
    rw [List.mem_cons, not_or] at h
    rw [Newline.write_cons (Ne.symm h.1), ih h.2]

theorem replaceCrLf_cons {c : Char} (hc : c ≠ '\r') (text : List Char) :
    replaceCrLf (c :: text) = c :: replaceCrLf text := by
  rw [replaceCrLf]
  rintro rest rfl
  exact absurd rfl hc

/-- **The reader takes every convention back to line feeds.** -/
theorem replaceCr_replaceCrLf_write (h : '\r' ∉ text) :
    replaceCr (replaceCrLf (nl.write text)) = text := by
  induction text with
  | nil => rfl
  | cons c text ih =>
    rw [List.mem_cons, not_or] at h
    have hcr : c ≠ '\r' := Ne.symm h.1
    by_cases hc : c = '\n'
    · subst hc
      rw [Newline.write_cons_newline]
      have htail : nl = .cr → ∀ rest, nl.write text ≠ '\n' :: rest := by
        rintro rfl rest hrest
        cases text with
        | nil => cases hrest
        | cons d text =>
          by_cases hd : d = '\n'
          · subst hd
            cases hrest
          · rw [Newline.write_cons hd] at hrest
            exact hd (List.cons.inj hrest).1
      cases nl with
      | lf =>
        rw [show Newline.lf.chars = ['\n'] from rfl, List.singleton_append,
          replaceCrLf_cons (by decide), replaceCr, List.map_cons, if_neg (by decide)]
        exact congrArg _ (ih h.2)
      | crlf =>
        rw [show Newline.crlf.chars = ['\r', '\n'] from rfl, List.cons_append,
          List.singleton_append, replaceCrLf, replaceCr, List.map_cons, if_neg (by decide)]
        exact congrArg _ (ih h.2)
      | cr =>
        have hcons : replaceCrLf ('\r' :: Newline.cr.write text) =
            '\r' :: replaceCrLf (Newline.cr.write text) := by
          rw [replaceCrLf]
          exact fun rest _ hrest => htail rfl rest hrest
        rw [show Newline.cr.chars = ['\r'] from rfl, List.singleton_append, hcons, replaceCr,
          List.map_cons, if_pos rfl]
        exact congrArg _ (ih h.2)
    · rw [Newline.write_cons hc, replaceCrLf_cons hcr, replaceCr, List.map_cons, if_neg hcr]
      exact congrArg _ (ih h.2)

/-! ### Lines and texts -/

/-- The lines as one text, with or without a final newline. -/
def joinLines (final : Bool) (lines : List Line) : List Char :=
  ['\n'].intercalate lines ++ if final then ['\n'] else []

theorem isOneLine_iff : isOneLine line = true ↔ '\r' ∉ line ∧ '\n' ∉ line := by
  simp only [isOneLine, List.all_eq_true, Bool.and_eq_true, decide_eq_true_eq]
  constructor
  · intro h
    exact ⟨fun hmem => (h _ hmem).1 rfl, fun hmem => (h _ hmem).2 rfl⟩
  · rintro ⟨hcr, hnl⟩ c hc
    exact ⟨fun heq => hcr (heq ▸ hc), fun heq => hnl (heq ▸ hc)⟩

theorem write_intercalate (h : ∀ line ∈ lines, '\n' ∉ line) :
    nl.write (['\n'].intercalate lines) = nl.chars.intercalate lines := by
  induction lines with
  | nil => rfl
  | cons line lines ih =>
    rw [List.forall_mem_cons] at h
    cases lines with
    | nil => rw [List.intercalate_singleton, List.intercalate_singleton, Newline.write_eq_self h.1]
    | cons next lines =>
      rw [List.intercalate_cons_cons, List.intercalate_cons_cons, Newline.write_append,
        Newline.write_append, Newline.write_eq_self h.1, ih h.2,
        show nl.write ['\n'] = nl.chars from List.append_nil _]

/-- **`encode_lines` writes the joined lines in the convention of the original.** -/
theorem encodedText_eq_write (hne : lines ≠ []) (h : ∀ line ∈ lines, '\n' ∉ line) :
    encodedText original lines =
      (newlineOf original).write (joinLines (hadFinalNewline original) lines) := by
  have hempty : lines.isEmpty = false := by simpa using hne
  rw [encodedText, joinLines, Newline.write_append, write_intercalate h, separator_eq, hempty]
  cases hadFinalNewline original <;> simp [Newline.write]

theorem intercalate_eq_nil_iff (hne : lines ≠ []) :
    ['\n'].intercalate lines = [] ↔ lines = [[]] := by
  cases lines with
  | nil => exact absurd rfl hne
  | cons line lines =>
    cases lines with
    | nil => simp
    | cons next lines => simp [List.intercalate_cons_cons]

/-- The joined lines end in a newline iff the last of several is empty. -/
theorem getLast?_intercalate_iff (h : ∀ line ∈ lines, '\n' ∉ line) :
    (['\n'].intercalate lines).getLast? = some '\n' ↔ lines.getLast? = some [] ∧ lines ≠ [[]] := by
  induction lines with
  | nil => simp
  | cons line lines ih =>
    rw [List.forall_mem_cons] at h
    cases lines with
    | nil =>
      have hline : line.getLast? ≠ some '\n' := fun hlast => h.1 (List.mem_of_getLast? hlast)
      simp only [List.intercalate_singleton, List.getLast?_singleton, hline, false_iff]
      rintro ⟨hnil, hne⟩
      exact hne (congrArg (· :: []) (Option.some.inj hnil))
    | cons next lines =>
      have hrest := ih h.2
      rw [List.intercalate_cons_cons, List.getLast?_append, List.getLast?_append,
        List.getLast?_cons_cons]
      have hne : line :: next :: lines ≠ [[]] := by simp
      by_cases hnil : ['\n'].intercalate (next :: lines) = []
      · have hsingle := (intercalate_eq_nil_iff (List.cons_ne_nil next lines)).1 hnil
        rw [hnil, hsingle]
        simp
      · rw [Option.or_of_isSome (List.getLast?_isSome.2 hnil), hrest]
        have hmore : next :: lines ≠ [[]] := fun hsingle => hnil (by rw [hsingle]; rfl)
        simp [hmore]

/-- **The reader finds the lines of a text,** unless the last of several is empty
and no final newline stands behind it. -/
theorem logicalLines_joinLines_iff {final : Bool} (hne : lines ≠ [])
    (h : ∀ line ∈ lines, '\n' ∉ line) : logicalLines (joinLines final lines) = lines ↔
      final = true ∨ lines.getLast? ≠ some [] ∨ lines = [[]] := by
  have hsplit := List.splitOn_intercalate '\n' h hne
  cases final with
  | true =>
    have hstrip : stripFinalNewline (joinLines true lines) = ['\n'].intercalate lines := by
      simp [joinLines, stripFinalNewline]
    have hjoin : joinLines true lines ≠ [] := by simp [joinLines]
    rw [logicalLines, if_neg hjoin, hstrip]
    exact iff_of_true hsplit (.inl rfl)
  | false =>
    have hjoin : joinLines false lines = ['\n'].intercalate lines := List.append_nil _
    rw [hjoin, logicalLines]
    by_cases hnil : ['\n'].intercalate lines = []
    · have hlines := (intercalate_eq_nil_iff hne).1 hnil
      rw [if_pos hnil]
      exact iff_of_true hlines.symm (.inr (.inr hlines))
    · have hsingle : lines ≠ [[]] := fun hlines => hnil ((intercalate_eq_nil_iff hne).2 hlines)
      have hends := getLast?_intercalate_iff h
      rw [if_neg hnil, stripFinalNewline]
      by_cases hlast : lines.getLast? = some []
      · rw [if_pos (hends.2 ⟨hlast, hsingle⟩)]
        refine iff_of_false (fun hsame => ?_) (by simp [hlast, hsingle])
        -- one newline has been taken away, so that the lines cannot be all there
        have hback := congrArg (['\n'].intercalate ·) hsame
        simp only [List.intercalate_splitOn] at hback
        have hlen := congrArg List.length hback
        have hpos := List.length_pos_of_ne_nil hnil
        rw [List.length_dropLast] at hlen
        omega
      · rw [if_neg fun hboth => hlast (hends.1 hboth).1]
        exact iff_of_true hsplit (.inr (.inl hlast))

/-! ### What the reader makes of the written bytes -/

theorem stripBom_write (text : List Char) : stripBom (nl.write text) = nl.write (stripBom text) := by
  cases text with
  | nil => rfl
  | cons c text =>
    by_cases hc : c = '\n'
    · subst hc
      cases nl <;> rfl
    · rw [Newline.write_cons hc, stripBom, stripBom]
      split_ifs
      · rfl
      · rw [Newline.write_cons hc]

theorem notMem_stripBom {c : Char} (h : c ∉ text) : c ∉ stripBom text := by
  cases text with
  | nil => exact h
  | cons d text =>
    rw [stripBom]
    split_ifs
    · exact fun hmem => h (List.mem_cons_of_mem _ hmem)
    · exact h

theorem normalizeText_encode_write (h : '\r' ∉ text) :
    (normalizeText (Utf8.encode (nl.write text))).1 = stripBom text := by
  rw [normalizeText, Utf8.decodeLossy_encode, stripBom_write,
    replaceCr_replaceCrLf_write (notMem_stripBom h)]

theorem notMem_intercalate {c : Char} (hc : c ≠ '\n') (h : ∀ line ∈ lines, c ∉ line) :
    c ∉ ['\n'].intercalate lines := by
  induction lines with
  | nil => simp
  | cons line lines ih =>
    rw [List.forall_mem_cons] at h
    cases lines with
    | nil => simpa using h.1
    | cons next lines =>
      rw [List.intercalate_cons_cons]
      simp [h.1, hc, ih h.2]

theorem notMem_joinLines {final : Bool} (h : ∀ line ∈ lines, isOneLine line = true) :
    '\r' ∉ joinLines final lines := by
  have hjoin := notMem_intercalate (c := '\r') (by decide) fun line hline =>
    (isOneLine_iff.1 (h line hline)).1
  cases final <;> simp [joinLines, hjoin]

/-- **The text the reader has of the written bytes:** the joined lines; without a mark
of the original, one at their start is taken for the mark. -/
theorem normalizeText_encodeLines (hne : lines ≠ []) (h : ∀ line ∈ lines, isOneLine line = true) :
    (normalizeText (encodeLines original lines)).1 =
      if utf8Bom.isPrefixOf original then joinLines (hadFinalNewline original) lines
      else stripBom (joinLines (hadFinalNewline original) lines) := by
  have hcr : '\r' ∉ joinLines (hadFinalNewline original) lines := notMem_joinLines h
  rw [encodeLines, encodedText_eq_write hne fun line hline =>
    (isOneLine_iff.1 (h line hline)).2]
  split_ifs
  · have hmark : utf8Bom ++ Utf8.encode ((newlineOf original).write
        (joinLines (hadFinalNewline original) lines)) = Utf8.encode ((newlineOf original).write
          ('\uFEFF' :: joinLines (hadFinalNewline original) lines)) := by
      rw [Newline.write_cons (by decide), Utf8.encode_cons]
      rfl
    rw [hmark, normalizeText_encode_write (by simpa using hcr)]
    rfl
  · rw [List.nil_append, normalizeText_encode_write hcr]

theorem intercalate_logicalLines (text : List Char) :
    ['\n'].intercalate (logicalLines text) = stripFinalNewline text := by
  unfold logicalLines
  split_ifs with h
  · subst h
    rfl
  · exact List.intercalate_splitOn '\n'

theorem length_stripFinalNewline_joinLines (final : Bool) (lines : List Line) :
    (stripFinalNewline (joinLines final lines)).length ≤ (['\n'].intercalate lines).length := by
  cases final with
  | true => simp [joinLines, stripFinalNewline]
  | false =>
    rw [show joinLines false lines = ['\n'].intercalate lines from List.append_nil _,
      stripFinalNewline]
    split_ifs
    · simp
    · exact le_rfl

/-- A mark that is taken from the first line is missing there. -/
theorem logicalLines_stripBom_ne {final : Bool} {rest : List Line} :
    logicalLines (stripBom (joinLines final (('\uFEFF' :: line) :: rest))) ≠
      ('\uFEFF' :: line) :: rest := by
  have hjoin : ∀ line : Line, joinLines final (('\uFEFF' :: line) :: rest) =
      '\uFEFF' :: joinLines final (line :: rest) := by
    intro line
    cases rest <;> rfl
  have hlength : (['\n'].intercalate (('\uFEFF' :: line) :: rest)).length =
      (['\n'].intercalate (line :: rest)).length + 1 := by
    cases rest <;> simp [List.intercalate_cons_cons]
  intro hsame
  have hback := congrArg (fun lines => (['\n'].intercalate lines).length) hsame
  rw [intercalate_logicalLines, hjoin, stripBom, if_pos rfl, hlength] at hback
  have := length_stripFinalNewline_joinLines final (line :: rest)
  omega

/-- No mark stands at the start of the joined lines, unless the first line has one. -/
theorem stripBom_joinLines {final : Bool} (h : ∀ line ∈ lines.head?, line.head? ≠ some '\uFEFF') :
    stripBom (joinLines final lines) = joinLines final lines := by
  cases lines with
  | nil => cases final <;> rfl
  | cons line rest =>
    cases line with
    | nil => cases rest <;> cases final <;> rfl
    | cons c line =>
      have hc : c ≠ '\uFEFF' := fun heq => h _ rfl (congrArg some heq)
      have hjoin : joinLines final ((c :: line) :: rest) = c :: joinLines final (line :: rest) := by
        cases rest <;> rfl
      rw [hjoin, stripBom, if_neg hc]

/-- The joined lines are read again where no mark is taken for that of the file. -/
theorem normalizeText_encodeLines_of_mark (hne : lines ≠ [])
    (h : ∀ line ∈ lines, isOneLine line = true)
    (hmark : utf8Bom.isPrefixOf original = true ∨
      ∀ line ∈ lines.head?, line.head? ≠ some '\uFEFF') :
    (normalizeText (encodeLines original lines)).1 =
      joinLines (hadFinalNewline original) lines := by
  rw [normalizeText_encodeLines hne h]
  split_ifs with hbom
  · rfl
  · exact stripBom_joinLines (hmark.resolve_left hbom)

/-- **The lines that are written are read again iff** the last of several is not empty
or a final newline stands behind it, and the first starts with no mark or the
original has its own. -/
theorem logicalLines_encodeLines_iff (hne : lines ≠ [])
    (h : ∀ line ∈ lines, isOneLine line = true) :
    logicalLines (normalizeText (encodeLines original lines)).1 = lines ↔
      (hadFinalNewline original = true ∨ lines.getLast? ≠ some [] ∨ lines = [[]]) ∧
      (utf8Bom.isPrefixOf original = true ∨ ∀ line ∈ lines.head?, line.head? ≠ some '\uFEFF') := by
  by_cases hmark : utf8Bom.isPrefixOf original = true ∨
      ∀ line ∈ lines.head?, line.head? ≠ some '\uFEFF'
  · rw [normalizeText_encodeLines_of_mark hne h hmark, and_iff_left hmark]
    exact logicalLines_joinLines_iff hne fun line hline => (isOneLine_iff.1 (h line hline)).2
  · rw [normalizeText_encodeLines hne h, if_neg fun hbom => hmark (.inl hbom)]
    refine iff_of_false ?_ fun hboth => hmark hboth.2
    obtain ⟨line, rest, rfl⟩ := List.exists_cons_of_ne_nil hne
    have hhead : line.head? = some '\uFEFF' := by
      by_contra hno
      refine hmark (.inr fun other hother => ?_)
      obtain rfl := Option.some.inj hother
      exact hno
    obtain ⟨line, rfl⟩ := List.head?_eq_some_iff.1 hhead
    exact logicalLines_stripBom_ne

theorem logicalLines_encodeLines_iff_sample :
    logicalLines (normalizeText (encodeLines [0x61, 0x0D] [['b'], []])).1 = [['b'], []] ↔
      (hadFinalNewline [0x61, 0x0D] = true ∨ [['b'], []].getLast? ≠ some [] ∨
        [['b'], []] = [[]]) ∧
      (utf8Bom.isPrefixOf [0x61, 0x0D] = true ∨
        ∀ line ∈ [['b'], []].head?, line.head? ≠ some '\uFEFF') :=
  logicalLines_encodeLines_iff (by decide) (by decide)

/-- In a file without a final newline an empty last line is lost. -/
theorem empty_last_line_lost :
    isText [0x61] = true ∧ (∀ line ∈ [['a'], []], isOneLine line = true) ∧
      logicalLines (normalizeText (encodeLines [0x61] [['a'], []])).1 = [['a']] ∧
      ¬∀ original lines, isText original = true → lines ≠ [] →
        (∀ line ∈ lines, isOneLine line = true) →
        logicalLines (normalizeText (encodeLines original lines)).1 = lines := by
  have hlost : logicalLines (normalizeText (encodeLines [0x61] [['a'], []])).1 = [['a']] := by
    decide
  refine ⟨by decide, by decide, hlost, fun hall => ?_⟩
  have hkept := hall [0x61] [['a'], []] (by decide) (by decide) (by decide)
  rw [hlost] at hkept
  exact absurd hkept (by decide)

/-- What is written for these lines is read as these lines. -/
def ReadAgain (original : List UInt8) (lines : List Line) : Prop :=
  (hadFinalNewline original = true ∨ lines.getLast? ≠ some [] ∨ lines = [[]]) ∧
    (utf8Bom.isPrefixOf original = true ∨ ∀ line ∈ lines.head?, line.head? ≠ some '\uFEFF')

instance (original : List UInt8) (lines : List Line) : Decidable (ReadAgain original lines) :=
  inferInstanceAs (Decidable (_ ∧ _))

/-- A file without lines has one empty line. -/
theorem ReadAgain.logicalLines (hagain : ReadAgain original lines)
    (h : ∀ line ∈ lines, isOneLine line = true) :
    Tools.logicalLines (normalizeText (encodeLines original lines)).1 =
      if lines = [] then [[]] else lines := by
  split_ifs with hnil
  · subst hnil
    have hbytes : encodeLines original [] =
        Utf8.encode (if utf8Bom.isPrefixOf original then ['\uFEFF'] else []) := by
      have htext : encodedText original [] = [] := by simp [encodedText]
      rw [encodeLines, htext]
      split_ifs <;> rfl
    rw [hbytes, normalizeText, Utf8.decodeLossy_encode]
    split_ifs <;> rfl
  · rw [normalizeText_encodeLines_of_mark hnil h hagain.2]
    exact (logicalLines_joinLines_iff hnil fun line hline =>
      (isOneLine_iff.1 (h line hline)).2).2 hagain.1

/-! ### A file of one convention -/

theorem isPrefixOf_encode_iff (text : List Char) :
    utf8Bom.isPrefixOf (Utf8.encode text) = true ↔ text.head? = some '\uFEFF' := by
  have hmark : utf8Bom = Utf8.encodeChar '\uFEFF' := by decide
  rw [List.isPrefixOf_iff_prefix, hmark]
  constructor
  · rintro ⟨rest, hrest⟩
    have hdecode := Utf8.decode_encode text
    rw [← hrest, Utf8.decode, Utf8.decodeFrom_encodeChar] at hdecode
    cases text with
    | nil => cases hdecode
    | cons c text =>
      obtain rfl := Option.some.inj (List.cons.inj hdecode).1
      rfl
  · intro h
    obtain ⟨text, rfl⟩ := List.head?_eq_some_iff.1 h
    exact List.prefix_append _ _

theorem hasCrLf_append_crlf (pre post : List UInt8) :
    hasCrLf (pre ++ 0x0D :: 0x0A :: post) = true := by
  induction pre with
  | nil => simp [hasCrLf]
  | cons b pre ih =>
    simp only [hasCrLf, List.contains_iff_mem, List.cons_append, List.tail_cons] at ih ⊢
    cases pre with
    | nil => exact List.mem_cons_of_mem _ ih
    | cons c pre => exact List.mem_cons_of_mem _ ih

theorem hasCrLf_imp (h : hasCrLf original = true) : 0x0D ∈ original ∧ 0x0A ∈ original := by
  have hpair := List.of_mem_zip (List.contains_iff_mem.1 h)
  exact ⟨hpair.1, List.mem_of_mem_tail hpair.2⟩

theorem notMem_write_lf (h : '\r' ∉ text) : '\r' ∉ Newline.lf.write text := by
  simp only [Newline.write, List.mem_flatMap, not_exists, not_and]
  intro c hc
  split_ifs
  · decide
  · exact fun hmem => h (List.mem_singleton.1 hmem ▸ hc)

theorem notMem_write_cr : '\n' ∉ Newline.cr.write text := by
  simp only [Newline.write, List.mem_flatMap, not_exists, not_and]
  intro c hc
  split_ifs with heq
  · decide
  · exact fun hmem => heq (List.mem_singleton.1 hmem).symm

/-- **The convention is detected** in a file that has a newline. -/
theorem newlineOf_encode_write (hcr : '\r' ∉ text) (hnl : '\n' ∈ text) :
    newlineOf (Utf8.encode (nl.write text)) = nl := by
  obtain ⟨pre, post, rfl⟩ := List.append_of_mem hnl
  have hwrite : nl.write (pre ++ '\n' :: post) = nl.write pre ++ (nl.chars ++ nl.write post) := by
    rw [Newline.write_append, Newline.write_cons_newline]
  unfold newlineOf
  cases nl with
  | lf =>
    have hno : 0x0D ∉ Utf8.encode (Newline.lf.write (pre ++ '\n' :: post)) := fun hmem =>
      notMem_write_lf hcr ((Utf8.mem_encode_iff (d := '\r') (by decide)).1 hmem)
    rw [if_neg fun hpair => hno (hasCrLf_imp hpair).1, if_neg (by simpa using hno)]
  | crlf =>
    have hbytes : Utf8.encode (Newline.crlf.write (pre ++ '\n' :: post)) =
        Utf8.encode (Newline.crlf.write pre) ++
          0x0D :: 0x0A :: Utf8.encode (Newline.crlf.write post) := by
      rw [hwrite, Utf8.encode_append]
      rfl
    rw [hbytes, if_pos (hasCrLf_append_crlf _ _)]
  | cr =>
    have hno : 0x0A ∉ Utf8.encode (Newline.cr.write (pre ++ '\n' :: post)) := fun hmem =>
      notMem_write_cr ((Utf8.mem_encode_iff (d := '\n') (by decide)).1 hmem)
    have hyes : 0x0D ∈ Utf8.encode (Newline.cr.write (pre ++ '\n' :: post)) := by
      refine (Utf8.mem_encode_iff (d := '\r') (by decide)).2 ?_
      rw [hwrite]
      simp [Newline.chars]
    rw [if_neg fun hpair => hno (hasCrLf_imp hpair).2, if_pos (by simpa using hyes)]

theorem hadFinalNewline_encode_write (hcr : '\r' ∉ text) :
    hadFinalNewline (Utf8.encode (nl.write text)) = true ↔ text.getLast? = some '\n' := by
  have hlast : hadFinalNewline (Utf8.encode (nl.write text)) = true ↔
      (nl.write text).getLast? = some '\n' ∨ (nl.write text).getLast? = some '\r' := by
    rw [hadFinalNewline, Bool.or_eq_true, beq_iff_eq, beq_iff_eq]
    exact or_congr (Utf8.getLast?_encode_iff (d := '\n') (by decide))
      (Utf8.getLast?_encode_iff (d := '\r') (by decide))
  rw [hlast]
  rcases List.eq_nil_or_concat text with rfl | ⟨text, c, rfl⟩
  · simp [Newline.write]
  · rw [List.concat_eq_append] at hcr ⊢
    rw [Newline.write_append, List.getLast?_concat]
    by_cases hc : c = '\n'
    · subst hc
      cases nl <;> simp [Newline.write, Newline.chars]
    · have hc' : c ≠ '\r' := fun heq => hcr (by simp [heq])
      rw [Newline.write_cons hc, show nl.write [] = [] from rfl, List.getLast?_concat]
      simp [hc, hc']

theorem joinLines_logicalLines {final : Bool} (hfinal : final = true ↔ text.getLast? = some '\n') :
    joinLines final (logicalLines text) = text := by
  rw [joinLines, intercalate_logicalLines, stripFinalNewline]
  by_cases hlast : text.getLast? = some '\n'
  · rw [if_pos hlast, if_pos (hfinal.2 hlast)]
    exact List.dropLast_append_getLast? '\n' hlast
  · rw [if_neg hlast, if_neg fun h => hlast (hfinal.1 h), List.append_nil]

theorem notMem_of_mem_logicalLines (h : line ∈ logicalLines text) : '\n' ∉ line := by
  unfold logicalLines at h
  split_ifs at h
  · obtain rfl := List.mem_singleton.1 h
    exact List.not_mem_nil
  · rw [List.splitOn_eq_splitOnP] at h
    exact fun hmem => absurd (Unicode.of_mem_splitOnP h _ hmem).2 (by simp)

/-- A text that was read has neither feeds nor returns inside of its lines. -/
theorem isOneLine_of_mem_logicalLines {bytes : List UInt8}
    (h : line ∈ logicalLines (normalizeText bytes).1) : isOneLine line = true := by
  refine isOneLine_iff.2 ⟨fun hcr => ?_, notMem_of_mem_logicalLines h⟩
  have htext : '\r' ∉ (normalizeText bytes).1 := by
    simp only [normalizeText, replaceCr, List.mem_map, not_exists, not_and]
    intro c _
    split_ifs with hc
    · decide
    · exact hc
  unfold logicalLines at h
  split_ifs at h
  · rw [List.mem_singleton.1 h] at hcr
    cases hcr
  · rw [List.splitOn_eq_splitOnP] at h
    have hmem := (Unicode.of_mem_splitOnP h _ hcr).1
    unfold stripFinalNewline at hmem
    split_ifs at hmem
    · exact htext (List.mem_of_mem_dropLast hmem)
    · exact htext hmem

theorem getLast?_stripBom_iff :
    (stripBom text).getLast? = some '\n' ↔ text.getLast? = some '\n' := by
  cases text with
  | nil => rfl
  | cons c text =>
    rw [stripBom]
    split_ifs with hc
    · subst hc
      cases text with
      | nil => simp
      | cons d text => rw [List.getLast?_cons_cons]
    · rfl

/-- **A file of one convention is written as it was.** -/
theorem encodeLines_logicalLines (hcr : '\r' ∉ text) :
    encodeLines (Utf8.encode (nl.write text)) (logicalLines
      (normalizeText (Utf8.encode (nl.write text))).1) = Utf8.encode (nl.write text) := by
  set original := Utf8.encode (nl.write text) with horiginal
  have htext : encodedText original (logicalLines (stripBom text)) = nl.write (stripBom text) := by
    have hfinal : hadFinalNewline original = true ↔ (stripBom text).getLast? = some '\n' :=
      (hadFinalNewline_encode_write hcr).trans getLast?_stripBom_iff.symm
    rw [encodedText_eq_write (logicalLines_ne_nil _) fun line => notMem_of_mem_logicalLines,
      joinLines_logicalLines hfinal]
    by_cases hnl : '\n' ∈ stripBom text
    · have hmem : '\n' ∈ text := by
        by_contra hno
        exact notMem_stripBom hno hnl
      rw [newlineOf_encode_write hcr hmem]
    · rw [Newline.write_eq_self hnl, Newline.write_eq_self hnl]
  rw [normalizeText_encode_write hcr, encodeLines, htext]
  have hhead : (nl.write text).head? = some '\uFEFF' ↔ text.head? = some '\uFEFF' := by
    cases text with
    | nil => rfl
    | cons c text =>
      by_cases hc : c = '\n'
      · subst hc
        cases nl <;> simp [Newline.write, Newline.chars]
      · rw [Newline.write_cons hc]
        rfl
  by_cases hmark : text.head? = some '\uFEFF'
  · rw [if_pos ((isPrefixOf_encode_iff _).2 (hhead.2 hmark)), horiginal]
    obtain ⟨rest, rfl⟩ := List.head?_eq_some_iff.1 hmark
    rw [Newline.write_cons (by decide), stripBom, if_pos rfl, Utf8.encode_cons]
    rfl
  · rw [if_neg fun hprefix => hmark (hhead.1 ((isPrefixOf_encode_iff _).1 hprefix)), horiginal,
      List.nil_append]
    cases text with
    | nil => rfl
    | cons c text => rw [stripBom, if_neg fun heq => hmark (congrArg some heq)]

/-! ### The bytes around an edit -/

/-- The bytes of lines that each have a terminator. -/
def lineBytes (original : List UInt8) (lines : List Line) : List UInt8 :=
  Utf8.encode (lines.flatMap fun line => line ++ separator original)

/-- The bytes before a line: the mark of the file, and the lines before it. -/
def bytesBefore (original : List UInt8) (lines : List Line) (first : ℕ) : List UInt8 :=
  (if utf8Bom.isPrefixOf original then utf8Bom else []) ++ lineBytes original (lines.take first)

/-- The bytes behind a line and its terminator. -/
def bytesAfter (original : List UInt8) (lines : List Line) (last : ℕ) : List UInt8 :=
  Utf8.encode (encodedText original (lines.drop (last + 1)))

theorem lineBytes_append (original : List UInt8) (lines more : List Line) :
    lineBytes original (lines ++ more) = lineBytes original lines ++ lineBytes original more := by
  rw [lineBytes, List.flatMap_append, Utf8.encode_append]
  rfl

theorem intercalate_append {sep : List Char} {more : List Line} (hmore : more ≠ []) :
    sep.intercalate (lines ++ more) =
      (lines.flatMap fun line => line ++ sep) ++ sep.intercalate more := by
  induction lines with
  | nil => rfl
  | cons line lines ih =>
    rw [List.cons_append, List.intercalate_cons_of_ne_nil (by simp [hmore]), ih,
      List.flatMap_cons, List.append_assoc, List.append_assoc, List.append_assoc]

/-- **Lines before others are written with their terminators.** -/
theorem encodeLines_append {more : List Line} (hmore : more ≠ []) :
    encodeLines original (lines ++ more) =
      (if utf8Bom.isPrefixOf original then utf8Bom else []) ++ lineBytes original lines ++
        Utf8.encode (encodedText original more) := by
  have htext : encodedText original (lines ++ more) =
      (lines.flatMap fun line => line ++ separator original) ++ encodedText original more := by
    have hempty : (lines ++ more).isEmpty = more.isEmpty := by
      rw [List.isEmpty_eq_false_iff.2 hmore, List.isEmpty_eq_false_iff.2 (by simp [hmore])]
    rw [encodedText, intercalate_append hmore, List.append_assoc, hempty]
    rfl
  rw [encodeLines, htext, Utf8.encode_append, List.append_assoc]
  rfl

/-- **What is written around the replaced lines** does not depend on the replacement. -/
theorem encodeLines_splice {first last : ℕ} {replacement edited : List Line}
    (hsplice : spliceLines lines first last replacement = some edited)
    (hlast : last + 1 < lines.length) :
    encodeLines original edited = bytesBefore original lines first ++
      lineBytes original replacement ++ bytesAfter original lines last := by
  unfold spliceLines at hsplice
  split_ifs at hsplice
  obtain rfl := Option.some.inj hsplice
  have hmore : lines.drop (last + 1) ≠ [] := by simpa using hlast
  rw [encodeLines_append hmore, lineBytes_append, bytesBefore, bytesAfter]
  simp only [List.append_assoc]

/-- The lines themselves are a replacement of themselves. -/
theorem spliceLines_self {first last : ℕ} (hfirst : first ≤ last) (hlast : last < lines.length) :
    spliceLines lines first last ((lines.take (last + 1)).drop first) = some lines := by
  have hjoin : lines.take first ++ (lines.take (last + 1)).drop first = lines.take (last + 1) := by
    have htake := List.take_append_drop first (lines.take (last + 1))
    rwa [List.take_take, min_eq_left (by omega)] at htake
  rw [spliceLines, if_pos ⟨hfirst, hlast⟩, hjoin, List.take_append_drop]

/-- **An edit leaves the rest of the file byte for byte.**  The bytes of a text in one
convention, with or without a mark, are what their lines are written as; and when
lines before the last are replaced, the bytes before and behind them stay. -/
theorem edit_keeps_rest {bytes : List UInt8} {lines : List Line} (hcr : '\r' ∉ text)
    (hbytes : bytes = Utf8.encode (nl.write text))
    (hlines : lines = logicalLines (normalizeText bytes).1) :
    encodeLines bytes lines = bytes ∧
      ∀ first last replacement edited,
        spliceLines lines first last replacement = some edited → last + 1 < lines.length →
        bytes = bytesBefore bytes lines first ++
            lineBytes bytes ((lines.take (last + 1)).drop first) ++ bytesAfter bytes lines last ∧
          encodeLines bytes edited = bytesBefore bytes lines first ++
            lineBytes bytes replacement ++ bytesAfter bytes lines last := by
  have hsame : encodeLines bytes lines = bytes := by
    rw [hlines, hbytes]
    exact encodeLines_logicalLines hcr
  refine ⟨hsame, fun first last replacement edited hsplice hlast => ?_⟩
  have hrange : first ≤ last ∧ last < lines.length := by
    unfold spliceLines at hsplice
    split_ifs at hsplice with hrange
    exact hrange
  have hself : encodeLines bytes lines = bytesBefore bytes lines first ++
      lineBytes bytes ((lines.take (last + 1)).drop first) ++ bytesAfter bytes lines last :=
    encodeLines_splice (spliceLines_self hrange.1 hrange.2) hlast
  rw [hsame] at hself
  exact ⟨hself, encodeLines_splice hsplice hlast⟩

theorem edit_keeps_rest_sample :
    let bytes := Utf8.encode (Newline.crlf.write ['\uFEFF', 'a', '\n', '\n', 'b', '\n', 'c'])
    let lines := logicalLines (normalizeText bytes).1
    encodeLines bytes lines = bytes ∧
      ∀ first last replacement edited,
        spliceLines lines first last replacement = some edited → last + 1 < lines.length →
        bytes = bytesBefore bytes lines first ++
            lineBytes bytes ((lines.take (last + 1)).drop first) ++ bytesAfter bytes lines last ∧
          encodeLines bytes edited = bytesBefore bytes lines first ++
            lineBytes bytes replacement ++ bytesAfter bytes lines last :=
  edit_keeps_rest (by decide) rfl rfl

/-- **A planned edit keeps the rest of the file,** whatever its convention, if the last
line is not replaced and the file is what its lines are written as. -/
theorem Planned.keeps_rest {payload : EditPayload} {row : AnchorSnapshot} {args : EditArgs}
    {first last : ℕ} {replacement : List UInt8} (h : Planned payload row args first last replacement)
    (hlast : last + 1 < payload.lines.length)
    (hsame : encodeLines payload.bytes payload.lines = payload.bytes) :
    payload.bytes = bytesBefore payload.bytes payload.lines first ++ lineBytes payload.bytes
          ((payload.lines.take (last + 1)).drop first) ++
        bytesAfter payload.bytes payload.lines last ∧
      replacement = bytesBefore payload.bytes payload.lines first ++
        lineBytes payload.bytes args.replacementLines ++
          bytesAfter payload.bytes payload.lines last := by
  have hsplice : spliceLines payload.lines first last args.replacementLines =
      some (payload.lines.take first ++ args.replacementLines ++ payload.lines.drop (last + 1)) :=
    if_pos ⟨h.first_le, h.last_lt⟩
  have hself : encodeLines payload.bytes payload.lines =
      bytesBefore payload.bytes payload.lines first ++ lineBytes payload.bytes
          ((payload.lines.take (last + 1)).drop first) ++
        bytesAfter payload.bytes payload.lines last :=
    encodeLines_splice (spliceLines_self h.first_le h.last_lt) hlast
  rw [hsame] at hself
  exact ⟨hself, h.replacement.trans (encodeLines_splice hsplice hlast)⟩

end Tools
end Moh
