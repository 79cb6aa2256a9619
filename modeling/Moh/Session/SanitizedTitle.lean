/-
# Generated titles stay as they are

`session/title.rs`: a text goes through control stripping, quote trimming, whitespace
collapsing and truncation, and only then to the rules of a title.  What comes out has a
shape (`Sanitized`) that each of these steps leaves alone, truncation too: the ellipsis at
the end is neither whitespace nor a mark.  So the rules never reject a normalized text, and
a title that was sanitized once is its own sanitized form (`titles_accepted`).
-/

import Mathlib.Data.List.Chain
import Moh.Session.Title

namespace Moh

/-! ### Collapsing character by character -/

/-- Leading whitespace does not matter. -/
theorem collapseWhitespace_space {c : Char} (hc : Unicode.isWhitespace c = true)
    (cs : List Char) : collapseWhitespace (c :: cs) = collapseWhitespace cs := by
  simp [collapseWhitespace, Unicode.splitWhitespace, List.splitOnP_cons_eq_if_modifyHead, hc]

/-- Words are not empty, so neither is what they are joined to. -/
theorem collapseWhitespace_eq_nil_iff (cs : List Char) :
    collapseWhitespace cs = [] ↔ Unicode.splitWhitespace cs = [] := by
  constructor
  · intro h
    cases hwords : Unicode.splitWhitespace cs with
    | nil => rfl
    | cons word words =>
      have hne := (Unicode.of_mem_splitWhitespace (hwords ▸ List.mem_cons_self)).1
      rw [collapseWhitespace, hwords] at h
      cases words <;> simp_all [List.intercalate]
  · intro h
    rw [collapseWhitespace, h]
    rfl

/-- A character of a word, and whether a gap follows it. -/
theorem collapseWhitespace_cons {c : Char} (hc : Unicode.isWhitespace c = false)
    (cs : List Char) :
    collapseWhitespace (c :: cs) =
      c :: if cs.head?.any Unicode.isWhitespace ∧ collapseWhitespace cs ≠ []
        then ' ' :: collapseWhitespace cs else collapseWhitespace cs := by
  have hjoin : ∀ (word : List Char) (words : List (List Char)),
      [' '].intercalate ((c :: word) :: words) = c :: [' '].intercalate (word :: words) := by
    intro word words
    cases words <;> simp [List.intercalate]
  cases cs with
  | nil => simp [collapseWhitespace, Unicode.splitWhitespace, List.splitOnP_cons_eq_if_modifyHead,
      hc, List.intercalate]
  | cons b cs =>
    obtain ⟨first, parts, hparts⟩ :=
      List.exists_cons_of_ne_nil (List.splitOnP_ne_nil Unicode.isWhitespace cs)
    by_cases hb : Unicode.isWhitespace b = true
    · have hwords : Unicode.splitWhitespace (c :: b :: cs) =
          [c] :: Unicode.splitWhitespace cs := by
        simp [Unicode.splitWhitespace, List.splitOnP_cons_eq_if_modifyHead, hc, hb]
      rw [collapseWhitespace_space hb]
      simp only [List.head?_cons, Option.any_some, hb, true_and, ne_eq,
        collapseWhitespace_eq_nil_iff]
      rw [collapseWhitespace, hwords, hjoin, collapseWhitespace]
      cases Unicode.splitWhitespace cs <;> simp [List.intercalate]
    · have hb : Unicode.isWhitespace b = false := by simpa using hb
      have hrest : Unicode.splitWhitespace (b :: cs) =
          (b :: first) :: parts.filter fun word => !word.isEmpty := by
        simp [Unicode.splitWhitespace, List.splitOnP_cons_eq_if_modifyHead, hb, hparts]
      have hwords : Unicode.splitWhitespace (c :: b :: cs) =
          (c :: b :: first) :: parts.filter fun word => !word.isEmpty := by
        simp [Unicode.splitWhitespace, List.splitOnP_cons_eq_if_modifyHead, hc, hb, hparts]
      rw [if_neg (by simp [hb]), collapseWhitespace, hwords, hjoin, collapseWhitespace, hrest]

/-- A text that does not begin with whitespace keeps its first character. -/
theorem head?_collapseWhitespace {cs : List Char}
    (h : ∀ c ∈ cs.head?, Unicode.isWhitespace c = false) :
    (collapseWhitespace cs).head? = cs.head? := by
  cases cs with
  | nil => rfl
  | cons c cs => rw [collapseWhitespace_cons (h c rfl), List.head?_cons, List.head?_cons]

/-- A text that does not end in whitespace keeps its last character. -/
theorem getLast?_collapseWhitespace {cs : List Char}
    (h : ∀ c ∈ cs.getLast?, Unicode.isWhitespace c = false) :
    (collapseWhitespace cs).getLast? = cs.getLast? := by
  induction cs with
  | nil => rfl
  | cons c cs ih =>
    cases cs with
    | nil => rw [collapseWhitespace_cons (h c rfl)]; simp [collapseWhitespace]; rfl
    | cons b cs =>
      rw [List.getLast?_cons_cons] at h ⊢
      have ih := ih h
      by_cases hc : Unicode.isWhitespace c = true
      · rw [collapseWhitespace_space hc, ih]
      · have hne : collapseWhitespace (b :: cs) ≠ [] := by
          intro hnil
          rw [hnil] at ih
          exact List.cons_ne_nil _ _ (List.getLast?_eq_none_iff.1 ih.symm)
        rw [collapseWhitespace_cons (by simpa using hc)]
        split_ifs
        · rw [List.getLast?_cons_cons, List.getLast?_cons_of_ne_nil hne, ih]
        · rw [List.getLast?_cons_of_ne_nil hne, ih]

/-! ### Single spaces between words -/

/-- The only whitespace is the space, and no two spaces stand together. -/
structure Spaced (cs : List Char) : Prop where
  spaces : ∀ c ∈ cs, Unicode.isWhitespace c = true → c = ' '
  apart : cs.IsChain fun a b => ¬(Unicode.isWhitespace a = true ∧ Unicode.isWhitespace b = true)

/-- A character in front of a spaced text. -/
theorem Spaced.cons {c : Char} {cs : List Char} (h : Spaced cs)
    (hc : Unicode.isWhitespace c = true → c = ' ')
    (hapart : Unicode.isWhitespace c = true → ∀ b ∈ cs.head?, Unicode.isWhitespace b = false) :
    Spaced (c :: cs) := by
  refine ⟨fun x hx => ?_, List.isChain_cons.2 ⟨fun b hb hspaces => ?_, h.apart⟩⟩
  · rcases List.mem_cons.1 hx with rfl | hx
    · exact hc
    · exact h.spaces x hx
  · rw [hapart hspaces.1 b hb] at hspaces
    exact absurd hspaces.2 Bool.false_ne_true

theorem Spaced.tail {c : Char} {cs : List Char} (h : Spaced (c :: cs)) : Spaced cs :=
  ⟨fun b hb => h.spaces b (List.mem_cons_of_mem _ hb), (List.isChain_cons.1 h.apart).2⟩

/-- After a space comes a word. -/
theorem Spaced.next {c : Char} {cs : List Char} (h : Spaced (c :: cs))
    (hc : Unicode.isWhitespace c = true) : ∀ b ∈ cs.head?, Unicode.isWhitespace b = false := by
  intro b hb
  have hapart := (List.isChain_cons.1 h.apart).1 b hb
  simpa [hc] using hapart

/-- **What is collapsed is spaced,** and does not begin with a space. -/
theorem spaced_collapseWhitespace (cs : List Char) :
    Spaced (collapseWhitespace cs) ∧
      ∀ c ∈ (collapseWhitespace cs).head?, Unicode.isWhitespace c = false := by
  induction cs with
  | nil => exact ⟨⟨nofun, List.isChain_nil⟩, nofun⟩
  | cons c cs ih =>
    by_cases hc : Unicode.isWhitespace c = true
    · rw [collapseWhitespace_space hc]
      exact ih
    · have hword : Unicode.isWhitespace c = false := by simpa using hc
      rw [collapseWhitespace_cons hword]
      refine ⟨?_, by simpa using hword⟩
      split_ifs
      · exact (ih.1.cons (fun _ => rfl) fun _ => ih.2).cons (absurd · hc) (absurd · hc)
      · exact ih.1.cons (absurd · hc) (absurd · hc)

/-- **A spaced text is not collapsed further** if it begins and ends with a word. -/
theorem collapseWhitespace_eq_self : ∀ {cs : List Char}, Spaced cs →
    (∀ c ∈ cs.head?, Unicode.isWhitespace c = false) →
    (∀ c ∈ cs.getLast?, Unicode.isWhitespace c = false) → collapseWhitespace cs = cs
  | [], _, _, _ => rfl
  | [c], _, hhead, _ => by
    rw [collapseWhitespace_cons (hhead c rfl)]
    rfl
  | a :: b :: cs, h, hhead, hlast => by
    have hend : ∀ c ∈ (b :: cs).getLast?, Unicode.isWhitespace c = false := by
      rwa [List.getLast?_cons_cons] at hlast
    rw [collapseWhitespace_cons (hhead a rfl)]
    by_cases hb : Unicode.isWhitespace b = true
    · obtain rfl : b = ' ' := h.tail.spaces b List.mem_cons_self hb
      have hne : cs ≠ [] := by
        rintro rfl
        exact absurd (hend ' ' rfl) (by decide)
      have hword : ∀ c ∈ cs.getLast?, Unicode.isWhitespace c = false := by
        rwa [List.getLast?_cons_of_ne_nil hne] at hend
      rw [collapseWhitespace_space hb,
        collapseWhitespace_eq_self h.tail.tail (h.tail.next hb) hword,
        if_pos ⟨by simpa using hb, hne⟩]
    · have hb : Unicode.isWhitespace b = false := by simpa using hb
      rw [if_neg (by simp [hb]), collapseWhitespace_eq_self h.tail (by simpa using hb) hend]

/-! ### Paired marks -/

/-- A pair of marks: both ends of a text of at least two characters. -/
theorem pairedBy_eq_none_iff (mark : Char) (cs : List Char) :
    pairedBy mark cs = none ↔
      ¬(2 ≤ cs.length ∧ cs.head? = some mark ∧ cs.getLast? = some mark) := by
  cases cs with
  | nil => simp [pairedBy]
  | cons c cs =>
    rcases cs.eq_nil_or_concat with rfl | ⟨cs, b, rfl⟩
    · simp [pairedBy]
    · have hlast : (c :: (cs ++ [b])).getLast? = some b := by
        rw [← List.cons_append, List.getLast?_concat]
      simp [pairedBy, hlast]

/-- Collapsing a text that begins and ends with a word pairs nothing. -/
theorem pairedInner_collapseWhitespace {cs : List Char}
    (hhead : ∀ c ∈ cs.head?, Unicode.isWhitespace c = false)
    (hlast : ∀ c ∈ cs.getLast?, Unicode.isWhitespace c = false)
    (h : pairedInner cs = none) : pairedInner (collapseWhitespace cs) = none := by
  rw [pairedInner, List.findSome?_eq_none_iff] at h ⊢
  intro mark hmark
  have hnone := h mark hmark
  rw [pairedBy_eq_none_iff] at hnone ⊢
  rw [head?_collapseWhitespace hhead, getLast?_collapseWhitespace hlast]
  rintro ⟨hlong, hends⟩
  refine hnone ⟨?_, hends⟩
  match cs, hlong with
  | [c], hlong =>
    rw [collapseWhitespace_cons (hhead c rfl)] at hlong
    simp [collapseWhitespace, Unicode.splitWhitespace] at hlong
  | _ :: _ :: _, _ => exact Nat.le_add_left 2 _

/-- Nothing is paired once the pairs are trimmed. -/
theorem pairedInner_trimPaired (cs : List Char) : pairedInner (trimPaired cs) = none := by
  fun_induction trimPaired cs with
  | case1 cs h => exact h
  | case2 cs inner h _ _ ih => exact ih

theorem trimPaired_eq_self {cs : List Char} (h : pairedInner cs = none) : trimPaired cs = cs := by
  unfold trimPaired
  split
  · rfl
  · simp_all

/-- Every character that trimming keeps is one of the text. -/
theorem trim_subset (cs : List Char) : Unicode.trim cs ⊆ cs := fun _ hc =>
  (List.dropWhile_sublist _).subset ((List.rdropWhile_prefix _ _).subset hc)

/-- A trimmed text begins and ends with a word. -/
theorem trim_ends (cs : List Char) :
    (∀ c ∈ (Unicode.trim cs).head?, Unicode.isWhitespace c = false) ∧
      ∀ c ∈ (Unicode.trim cs).getLast?, Unicode.isWhitespace c = false := by
  constructor
  · intro c hc
    obtain ⟨rest, hrest⟩ : Unicode.trim cs <+: cs.dropWhile Unicode.isWhitespace :=
      List.rdropWhile_prefix _ _
    have hhead : (cs.dropWhile Unicode.isWhitespace).head? = some c := by
      rw [← hrest, List.head?_append, Option.mem_def.1 hc]
      rfl
    have hne : cs.dropWhile Unicode.isWhitespace ≠ [] := by
      rintro hnil
      simp [hnil] at hhead
    have hnot := List.head_dropWhile_not Unicode.isWhitespace hne
    rwa [Option.some.inj ((List.head?_eq_some_head hne).symm.trans hhead)] at hnot
  · intro c hc
    have hne : Unicode.trim cs ≠ [] := List.ne_nil_of_mem (List.mem_of_getLast? hc)
    have hnot : ¬Unicode.isWhitespace ((Unicode.trim cs).getLast hne) = true :=
      List.rdropWhile_last_not Unicode.isWhitespace _ hne
    rw [Option.some.inj ((List.getLast?_eq_some_getLast hne).symm.trans hc)] at hnot
    simpa using hnot

/-- What is left of a trimmed text when its pairs are trimmed: some of its characters, from
a word to a word. -/
theorem trimPaired_ends {cs : List Char}
    (h : (∀ c ∈ cs.head?, Unicode.isWhitespace c = false) ∧
      ∀ c ∈ cs.getLast?, Unicode.isWhitespace c = false) :
    trimPaired cs ⊆ cs ∧ (∀ c ∈ (trimPaired cs).head?, Unicode.isWhitespace c = false) ∧
      ∀ c ∈ (trimPaired cs).getLast?, Unicode.isWhitespace c = false := by
  fun_induction trimPaired cs with
  | case1 cs _ => exact ⟨List.Subset.refl _, h⟩
  | case2 cs inner hinner _ _ ih =>
    obtain ⟨hsubset, hends⟩ := ih (trim_ends inner)
    refine ⟨fun c hc => ?_, hends⟩
    obtain ⟨mark, -, hmark⟩ := List.exists_of_findSome?_eq_some hinner
    cases cs with
    | nil => simp [pairedBy] at hmark
    | cons b cs =>
      simp only [pairedBy] at hmark
      split_ifs at hmark
      obtain rfl := Option.some.inj hmark
      exact List.mem_cons_of_mem _ ((List.dropLast_sublist _).subset (trim_subset _ (hsubset hc)))

/-! ### Controls -/

/-- No control character is left. -/
theorem of_mem_stripTerminalControls {cs : List Char} {c : Char}
    (h : c ∈ stripTerminalControls cs) : Unicode.isControl c = false := by
  unfold stripTerminalControls at h
  fun_induction stripTerminalControlsWithWhitespace false cs with
  | case1 => simp at h
  | case2 _ _ _ _ ih => exact ih h
  | case3 _ _ _ hspace _ => simp at hspace
  | case4 _ _ _ _ _ ih => exact ih h
  | case5 _ _ _ _ hcontrol ih =>
    rcases List.mem_cons.1 h with rfl | h
    · simpa using hcontrol
    · exact ih h

/-- Without control characters there is nothing to strip. -/
theorem stripTerminalControls_eq_self {cs : List Char}
    (h : ∀ c ∈ cs, Unicode.isControl c = false) : stripTerminalControls cs = cs := by
  induction cs with
  | nil => simp [stripTerminalControls, stripTerminalControlsWithWhitespace]
  | cons c cs ih =>
    obtain ⟨hc, hcs⟩ := List.forall_mem_cons.1 h
    have hplain : ¬(c = '\x1b' ∨ c = '\u009b') := by
      rintro (rfl | rfl) <;> simp [Unicode.isControl] at hc
    rw [stripTerminalControls, stripTerminalControlsWithWhitespace]
    simp only [Bool.or_eq_true, decide_eq_true_eq, hplain, if_false, Bool.false_and, hc]
    exact congrArg (c :: ·) (ih hcs)

/-! ### Sanitized titles -/

/-- A valid title has at least one and at most 64 characters, and is tidy. -/
theorem tidy_of_isValidTitle {cs : List Char} (h : isValidTitle cs = true) :
    Tidy cs ∧ cs ≠ [] ∧ cs.length ≤ maxSessionTitleScalars := by
  simp only [isValidTitle, Bool.not_eq_true', Bool.or_eq_false_iff, beq_eq_false_iff_ne,
    decide_eq_false_iff_not, bne_eq_false_iff_eq, List.any_eq_false] at h
  obtain ⟨⟨⟨hne, hlen⟩, htrim⟩, hcontrol⟩ := h
  have hends := trim_ends cs
  rw [htrim] at hends
  exact ⟨⟨fun c hc => by simpa using hcontrol c hc, hends.1, hends.2⟩,
    fun hnil => hne (hnil ▸ rfl), not_lt.1 hlen⟩

/-- **What sanitizing leaves alone:** a valid title, with single spaces between its words and
no pair of marks around it. -/
structure Sanitized (cs : List Char) : Prop where
  valid : isValidTitle cs = true
  spaced : Spaced cs
  unpaired : pairedInner cs = none

/-- Words become a sanitized title when they are truncated. -/
theorem sanitized_truncateTitle {cs : List Char} (htidy : Tidy cs) (hspaced : Spaced cs)
    (hunpaired : pairedInner cs = none) (hne : cs ≠ []) : Sanitized (truncateTitle cs) := by
  refine ⟨isValidTitle_truncateTitle htidy hne, ?_, ?_⟩ <;>
    by_cases hlen : cs.length ≤ maxSessionTitleScalars
  · rwa [truncateTitle, if_pos hlen]
  · obtain ⟨n, -, -, hkept⟩ := exists_truncateTitle_eq hlen
    rw [hkept]
    refine ⟨fun c hc hspace => ?_, List.isChain_append.2
      ⟨hspaced.apart.take n, List.isChain_singleton _, fun a _ b hb hspaces => ?_⟩⟩
    · rcases List.mem_append.1 hc with hc | hc
      · exact hspaced.spaces c (List.mem_of_mem_take hc) hspace
      · rw [List.mem_singleton.1 hc] at hspace
        exact absurd hspace (by decide)
    · obtain rfl : '…' = b := by simpa using hb
      exact absurd hspaces.2 (by decide)
  · rwa [truncateTitle, if_pos hlen]
  · -- the ellipsis is none of the marks
    obtain ⟨n, -, -, hkept⟩ := exists_truncateTitle_eq hlen
    rw [hkept, pairedInner, List.findSome?_eq_none_iff]
    intro mark hmark
    rw [pairedBy_eq_none_iff, List.getLast?_concat]
    rintro ⟨-, -, hlast⟩
    rw [← Option.some.inj hlast] at hmark
    exact absurd hmark (by decide)

/-- Without a line break there is one line. -/
theorem lines_eq_singleton {cs : List Char} (hne : cs ≠ []) (h : '\n' ∉ cs) :
    Unicode.lines cs = [cs] := by
  simp [Unicode.lines, List.splitOn_eq_singleton h, hne]

/-- **A sanitized title is its own sanitized form.** -/
theorem sanitizeGeneratedTitle_eq_self {title : SessionTitle} (h : Sanitized title.text.toList) :
    sanitizeGeneratedTitle title.text = some title := by
  obtain ⟨htidy, hne, hlen⟩ := tidy_of_isValidTitle h.valid
  have hline : '\n' ∉ title.text.toList := fun hbreak =>
    absurd (htidy.controls _ hbreak) (by decide)
  have hblank : Unicode.isBlank title.text.toList = false := by
    obtain ⟨c, cs, hcs⟩ := List.exists_cons_of_ne_nil hne
    have hc := htidy.head c (by rw [hcs]; rfl)
    rw [hcs, Unicode.isBlank, List.all_cons, hc, Bool.false_and]
  have htrim : trimPairedSurrounding title.text.toList = title.text.toList := by
    rw [trimPairedSurrounding, Unicode.trim_eq_self htidy.head htidy.last,
      trimPaired_eq_self h.unpaired]
  have hfind : [title.text.toList].find? (fun line => !Unicode.isBlank line) =
      some title.text.toList := by
    rw [List.find?_cons_of_pos (by rw [hblank]; rfl)]
  rw [sanitizeGeneratedTitle, lines_eq_singleton hne hline, hfind, Option.bind_eq_bind,
    Option.bind_some, stripTerminalControls_eq_self htidy.controls, htrim]
  dsimp only
  rw [collapseWhitespace_eq_self h.spaced htidy.head htidy.last, truncateTitle, if_pos hlen,
    String.ofList_toList, SessionTitle.parse, dif_pos title.valid]

/-- **Whatever sanitizing returns is sanitized.** -/
theorem sanitized_of_sanitizeGeneratedTitle {generated : String} {title : SessionTitle}
    (h : sanitizeGeneratedTitle generated = some title) : Sanitized title.text.toList := by
  obtain ⟨line, -, hparse⟩ := Option.bind_eq_some_iff.1 h
  have hends := trim_ends (stripTerminalControls line)
  obtain ⟨hsubset, hhead, hlast⟩ := trimPaired_ends hends
  have hcontrols : ∀ c ∈ trimPairedSurrounding (stripTerminalControls line),
      Unicode.isControl c = false := fun c hc =>
    of_mem_stripTerminalControls (trim_subset _ (hsubset hc))
  have htidy := tidy_collapseWhitespace fun c hc => .inr (hcontrols c hc)
  have hunpaired := pairedInner_collapseWhitespace hhead hlast (pairedInner_trimPaired _)
  simp only [SessionTitle.parse] at hparse
  split_ifs at hparse with hvalid
  obtain rfl := Option.some.inj hparse
  rw [String.toList_ofList] at hvalid ⊢
  refine sanitized_truncateTitle htidy (spaced_collapseWhitespace _).1 hunpaired fun hnil => ?_
  change collapseWhitespace (trimPairedSurrounding _) = [] at hnil
  exact (tidy_of_isValidTitle hvalid).2.1 (by rw [hnil]; rfl)

/-- **Generated and fallback titles are valid:** every text has a fallback title, and what a
generated text is sanitized to, if to anything, is a title that is accepted as it is, and
sanitized to itself. -/
theorem titles_accepted (text : String) :
    (∃ title, fallbackTitle text = some title ∧ SessionTitle.parse title.text = some title) ∧
      (sanitizeGeneratedTitle text = none ∨ ∃ title, sanitizeGeneratedTitle text = some title ∧
        SessionTitle.parse title.text = some title ∧
        sanitizeGeneratedTitle title.text = some title) := by
  have haccepted : ∀ title : SessionTitle, SessionTitle.parse title.text = some title := by
    intro title
    rw [SessionTitle.parse, dif_pos title.valid]
  refine ⟨?_, ?_⟩
  · obtain ⟨title, htitle⟩ := exists_fallbackTitle text
    exact ⟨title, htitle, haccepted title⟩
  · cases hgenerated : sanitizeGeneratedTitle text with
    | none => exact .inl rfl
    | some title =>
      exact .inr ⟨title, rfl, haccepted title,
        sanitizeGeneratedTitle_eq_self (sanitized_of_sanitizeGeneratedTitle hgenerated)⟩

end Moh
