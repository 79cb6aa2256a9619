/-
# Sanitizing markdown

`client/ui/markdown.rs`: `sanitize_markdown_source`, which takes the control sequences out
of the text of a model before it is rendered.  An automaton reads the text character by
character and keeps the sequence that it is in beside the text; what is left unfinished at
the end is text.

The sequences are those of the terminal: control sequences (CSI), system commands (OSC)
and application commands (APC), each behind `ESC` and a character, or behind one character.
-/

import Moh.Session.ControlSequences
import Moh.Tools.Lines

namespace Moh
namespace Client

/-! ### The automaton -/

/-- `EscapeState`. -/
inductive EscapeState where
  | text
  | escape
  | csi
  | osc
  | apc
  | stringTerminator
deriving DecidableEq, Repr

/-- The variables of the loop: the text so far, the sequence that is being read, and where
in it the loop is. -/
structure Stripping where
  stripped : List Char
  sequence : List Char
  state : EscapeState
deriving DecidableEq

/-- `is_csi_final`. -/
def isCsiFinal (character : Char) : Bool :=
  0x40 ≤ character.toNat && character.toNat ≤ 0x7e

namespace Stripping

variable {s : Stripping} {c : Char} {cs : List Char}

/-- The body of the loop. -/
def step (s : Stripping) (character : Char) : Stripping :=
  match s.state with
  | .text =>
    if character = '\x1b' then { s with state := .escape }
    else if character = '\u009b' then { s with state := .csi }
    else if character = '\u009d' then { s with state := .osc }
    else if character = '\u009f' then { s with state := .apc }
    else { s with stripped := s.stripped ++ [character] }
  | .escape =>
    if character = '[' then { s with sequence := s.sequence ++ [character], state := .csi }
    else if character = ']' then { s with sequence := s.sequence ++ [character], state := .osc }
    else if character = '_' then { s with sequence := s.sequence ++ [character], state := .apc }
    else if character = '\x1b' then { s with state := .escape }
    else { s with stripped := s.stripped ++ [character], state := .text }
  | .csi =>
    if isCsiFinal character then { s with sequence := [], state := .text }
    else if character = '\x1b' then ⟨s.stripped ++ s.sequence, [], .escape⟩
    else { s with sequence := s.sequence ++ [character] }
  | .osc | .apc =>
    if character = '\x07' ∨ character = '\u009c' then { s with sequence := [], state := .text }
    else if character = '\x1b' then { s with state := .stringTerminator }
    else { s with sequence := s.sequence ++ [character] }
  | .stringTerminator =>
    if character = '\\' ∨ character = '\u009c' then { s with sequence := [], state := .text }
    else if character = '\x1b' then { s with sequence := s.sequence ++ ['\x1b'] }
    else { s with sequence := s.sequence ++ [character], state := .osc }

/-- The loop. -/
def feed (s : Stripping) (source : List Char) : Stripping := source.foldl step s

/-- Before the loop. -/
def start : Stripping := ⟨[], [], .text⟩

/-- Behind the loop: an unfinished sequence is text. -/
def finish (s : Stripping) : List Char :=
  if s.state = .text then s.stripped else s.stripped ++ s.sequence

end Stripping

/-- The `filter_map` behind the automaton. -/
def expand (character : Char) : List Char :=
  if character = '\n' then ['\n']
  else if character = '\t' then [' ', ' ', ' ', ' ']
  else if Unicode.isControl character then []
  else [character]

/-- What follows the automaton: one kind of line break, spaces for tabs, and no other
control character. -/
def normalizeMarkdown (stripped : List Char) : List Char :=
  (Tools.replaceCr (Tools.replaceCrLf stripped)).flatMap expand

/-- `sanitize_markdown_source`. -/
def sanitizeMarkdownSource (source : List Char) : List Char :=
  normalizeMarkdown (Stripping.start.feed source).finish

/-! ### Texts with sequences -/

/-- A character that a terminal shows, or a tab or line break. -/
def isPlain (c : Char) : Bool :=
  c == '\t' || c == '\r' || c == '\n' || !Unicode.isControl c

/-- The two kinds of sequences that carry a string. -/
inductive StringKind where
  | osc
  | apc
deriving DecidableEq, Repr

/-- `ESC ]` and `U+009D`, `ESC _` and `U+009F`. -/
def StringKind.introducer : StringKind → Introducer → List Char
  | .osc, .escape => ['\x1b', ']']
  | .osc, .single => ['\u009d']
  | .apc, .escape => ['\x1b', '_']
  | .apc, .single => ['\u009f']

/-- The state behind an introducer. -/
def StringKind.state : StringKind → EscapeState
  | .osc => .osc
  | .apc => .apc

/-- What ends a string: `BEL`, `U+009C` or `ESC \`. -/
inductive Terminator where
  | bell
  | single
  | escape
deriving DecidableEq, Repr

def Terminator.text : Terminator → List Char
  | .bell => ['\x07']
  | .single => ['\u009c']
  | .escape => ['\x1b', '\\']

/-- A run of plain characters, or a complete sequence. -/
inductive MarkdownPiece where
  | run (characters : List Char) (plain : ∀ c ∈ characters, isPlain c = true)
  | control (introducer : Introducer) (body : ControlSequence)
  | string (kind : StringKind) (introducer : Introducer) (payload : List Char)
      (free : ∀ c ∈ payload, c ≠ '\x07' ∧ c ≠ '\u009c' ∧ c ≠ '\x1b') (terminator : Terminator)

namespace MarkdownPiece

def text : MarkdownPiece → List Char
  | run characters _ => characters
  | control introducer body => introducer.text ++ body.text
  | string kind introducer payload _ terminator =>
    kind.introducer introducer ++ payload ++ terminator.text

def plain : MarkdownPiece → List Char
  | run characters _ => characters
  | control _ _ => []
  | string _ _ _ _ _ => []

end MarkdownPiece

/-! ### The sequences are read whole -/

theorem isCsiFinal_iff (c : Char) : isCsiFinal c = true ↔ '@' ≤ c ∧ c ≤ '~' := by
  rw [char_le_iff, char_le_iff, isCsiFinal, Bool.and_eq_true, decide_eq_true_eq,
    decide_eq_true_eq]
  rfl

/-- A plain character introduces no sequence. -/
theorem ne_introducer_of_isPlain {c : Char} (h : isPlain c = true) :
    c ≠ '\x1b' ∧ c ≠ '\u009b' ∧ c ≠ '\u009d' ∧ c ≠ '\u009f' := by
  refine ⟨?_, ?_, ?_, ?_⟩ <;>
  · rintro rfl
    exact absurd h (by decide)

namespace Stripping

variable {s : Stripping} {c : Char} {cs out buffer : List Char}

theorem feed_nil (s : Stripping) : s.feed [] = s := rfl

theorem feed_cons (s : Stripping) (c : Char) (cs : List Char) :
    s.feed (c :: cs) = (s.step c).feed cs := rfl

theorem feed_append (s : Stripping) (cs ds : List Char) :
    s.feed (cs ++ ds) = (s.feed cs).feed ds := List.foldl_append

/-- A plain run is text. -/
theorem feed_run (h : ∀ c ∈ cs, isPlain c = true) :
    feed ⟨out, [], .text⟩ cs = ⟨out ++ cs, [], .text⟩ := by
  induction cs generalizing out with
  | nil => rw [feed_nil, List.append_nil]
  | cons c cs ih =>
    obtain ⟨h₁, h₂, h₃, h₄⟩ := ne_introducer_of_isPlain (h c List.mem_cons_self)
    have hstep : step ⟨out, [], .text⟩ c = ⟨out ++ [c], [], .text⟩ := by
      simp only [step, if_neg h₁, if_neg h₂, if_neg h₃, if_neg h₄]
    rw [feed_cons, hstep, ih fun x hx => h x (List.mem_cons_of_mem _ hx),
      List.append_assoc, List.singleton_append]

/-- The bytes before the final one go to the buffer. -/
theorem feed_leading (h : ∀ c ∈ cs, ' ' ≤ c ∧ c ≤ '?') :
    feed ⟨out, buffer, .csi⟩ cs = ⟨out, buffer ++ cs, .csi⟩ := by
  induction cs generalizing buffer with
  | nil => rw [feed_nil, List.append_nil]
  | cons c cs ih =>
    obtain ⟨hlo, hhi⟩ := h c List.mem_cons_self
    have hfinal : ¬isCsiFinal c = true := by
      rw [isCsiFinal_iff]
      exact fun hc => absurd (hc.1.trans hhi) (by decide)
    have hescape : c ≠ '\x1b' := by
      rintro rfl
      exact absurd hlo (by decide)
    have hstep : step ⟨out, buffer, .csi⟩ c = ⟨out, buffer ++ [c], .csi⟩ := by
      simp only [step, if_neg hfinal, if_neg hescape]
    rw [feed_cons, hstep, ih fun x hx => h x (List.mem_cons_of_mem _ hx),
      List.append_assoc, List.singleton_append]

/-- The body of a control sequence empties the buffer. -/
theorem feed_body (body : ControlSequence) :
    feed ⟨out, buffer, .csi⟩ body.text = ⟨out, [], .text⟩ := by
  have hleading : ∀ c ∈ body.leading, ' ' ≤ c ∧ c ≤ '?' := fun c hc =>
    ControlSequence.range_of_mem_leading hc
  have hfinal : isCsiFinal body.final = true := (isCsiFinal_iff _).2 body.final_range
  rw [ControlSequence.text, feed_append, feed_leading hleading, feed_cons, feed_nil]
  simp only [step, if_pos hfinal]

/-- The payload of a string goes to the buffer. -/
theorem feed_payload (kind : StringKind)
    (h : ∀ c ∈ cs, c ≠ '\x07' ∧ c ≠ '\u009c' ∧ c ≠ '\x1b') :
    feed ⟨out, buffer, kind.state⟩ cs = ⟨out, buffer ++ cs, kind.state⟩ := by
  induction cs generalizing buffer with
  | nil => rw [feed_nil, List.append_nil]
  | cons c cs ih =>
    obtain ⟨hbell, hsingle, hescape⟩ := h c List.mem_cons_self
    have hstep : step ⟨out, buffer, kind.state⟩ c = ⟨out, buffer ++ [c], kind.state⟩ := by
      cases kind <;> simp only [step, StringKind.state, hbell, hsingle, or_self, if_false,
        if_neg hescape]
    rw [feed_cons, hstep, ih fun x hx => h x (List.mem_cons_of_mem _ hx),
      List.append_assoc, List.singleton_append]

/-- Each terminator empties the buffer. -/
theorem feed_terminator (kind : StringKind) (terminator : Terminator) :
    feed ⟨out, buffer, kind.state⟩ terminator.text = ⟨out, [], .text⟩ := by
  cases kind <;> cases terminator <;> rfl

/-- **A piece leaves its plain characters**, and an empty buffer. -/
theorem feed_piece (piece : MarkdownPiece) :
    feed ⟨out, [], .text⟩ piece.text = ⟨out ++ piece.plain, [], .text⟩ := by
  cases piece with
  | run characters plain => exact feed_run plain
  | control introducer body =>
    show feed _ (introducer.text ++ body.text) = ⟨out ++ [], [], .text⟩
    rw [feed_append, List.append_nil]
    cases introducer with
    | escape => exact feed_body body
    | single => exact feed_body body
  | string kind introducer payload free terminator =>
    show feed _ (kind.introducer introducer ++ payload ++ terminator.text) =
      ⟨out ++ [], [], .text⟩
    have hopen : ∃ buffer, feed ⟨out, [], .text⟩ (kind.introducer introducer) =
        ⟨out, buffer, kind.state⟩ := by
      cases kind <;> cases introducer <;> exact ⟨_, rfl⟩
    obtain ⟨buffer, hopen⟩ := hopen
    rw [feed_append, feed_append, hopen, feed_payload kind free, feed_terminator,
      List.append_nil]

/-- The pieces leave their plain runs. -/
theorem feed_pieces (pieces : List MarkdownPiece) :
    feed ⟨out, [], .text⟩ (pieces.flatMap MarkdownPiece.text) =
      ⟨out ++ pieces.flatMap MarkdownPiece.plain, [], .text⟩ := by
  induction pieces generalizing out with
  | nil => simp [feed_nil]
  | cons piece pieces ih =>
    rw [List.flatMap_cons, feed_append, feed_piece, ih, List.flatMap_cons, List.append_assoc]

end Stripping

/-! ### What is left -/

/-- A tab as spaces. -/
def spaceTab (c : Char) : List Char := if c = '\t' then [' ', ' ', ' ', ' '] else [c]

theorem mem_replaceCrLf {c : Char} {text : List Char} (h : c ∈ Tools.replaceCrLf text) :
    c ∈ text := by
  fun_induction Tools.replaceCrLf text with
  | case1 rest ih =>
    rcases List.mem_cons.1 h with rfl | h
    · simp
    · simp [ih h]
  | case2 d rest _ ih =>
    rcases List.mem_cons.1 h with rfl | h
    · simp
    · simp [ih h]
  | case3 => exact h

/-- Replacing line breaks leaves no carriage return, and brings line feeds only. -/
theorem of_mem_replaceCr {c : Char} {text : List Char}
    (h : c ∈ Tools.replaceCr (Tools.replaceCrLf text)) : c = '\n' ∨ c ∈ text ∧ c ≠ '\r' := by
  obtain ⟨d, hd, heq⟩ := List.mem_map.1 h
  split_ifs at heq with hcr
  · exact .inl heq.symm
  · exact .inr ⟨heq ▸ mem_replaceCrLf hd, heq ▸ hcr⟩

theorem replaceCr_replaceCrLf_eq_self {text : List Char} (h : '\r' ∉ text) :
    Tools.replaceCr (Tools.replaceCrLf text) = text := by
  induction text with
  | nil => rfl
  | cons c text ih =>
    have hc : c ≠ '\r' := fun hc => h (hc ▸ List.mem_cons_self)
    rw [Tools.replaceCrLf_cons hc, Tools.replaceCr, List.map_cons, if_neg hc]
    exact congrArg (c :: ·) (ih fun hmem => h (List.mem_cons_of_mem _ hmem))

/-- What `expand` makes of a plain character that is no carriage return. -/
theorem expand_eq_spaceTab {c : Char} (h : isPlain c = true) (hcr : c ≠ '\r') :
    expand c = spaceTab c := by
  unfold expand spaceTab
  by_cases hline : c = '\n'
  · rw [hline]
    rfl
  · have hcontrol : c ≠ '\t' → Unicode.isControl c = false := by
      intro htab
      simpa [isPlain, hline, htab, hcr] using h
    split_ifs with htab hc
    · rfl
    · exact absurd ((hcontrol htab).symm.trans hc) (by decide)
    · rfl

/-- **On plain text only line breaks and tabs change.** -/
theorem normalizeMarkdown_plain {text : List Char} (h : ∀ c ∈ text, isPlain c = true) :
    normalizeMarkdown text =
      (Tools.replaceCr (Tools.replaceCrLf text)).flatMap spaceTab := by
  unfold normalizeMarkdown
  rw [List.flatMap_def, List.flatMap_def]
  refine congrArg List.flatten (List.map_congr_left fun c hc => ?_)
  rcases of_mem_replaceCr hc with rfl | ⟨hmem, hcr⟩
  · exact expand_eq_spaceTab (by decide) (by decide)
  · exact expand_eq_spaceTab (h c hmem) hcr

/-- The characters that sanitizing keeps as they are. -/
def isClean (c : Char) : Bool := c == '\n' || !Unicode.isControl c

theorem isPlain_of_isClean {c : Char} (h : isClean c = true) : isPlain c = true := by
  simp only [isClean, isPlain, Bool.or_eq_true] at h ⊢
  exact h.imp (fun h => .inr h) id

theorem isClean_of_mem_expand {c d : Char} (h : d ∈ expand c) : isClean d = true := by
  unfold expand at h
  split_ifs at h with hline htab hcontrol
  · rw [List.mem_singleton.1 h]
    rfl
  · have hspace : d = ' ' := by simpa using h
    rw [hspace]
    rfl
  · simp at h
  · rw [List.mem_singleton.1 h, isClean, Bool.eq_false_of_not_eq_true hcontrol]
    simp

theorem isClean_of_mem_sanitizeMarkdownSource {c : Char} {source : List Char}
    (h : c ∈ sanitizeMarkdownSource source) : isClean c = true := by
  obtain ⟨d, -, hd⟩ := List.mem_flatMap.1 h
  exact isClean_of_mem_expand hd

theorem expand_of_isClean {c : Char} (h : isClean c = true) : expand c = [c] := by
  unfold expand
  split_ifs with hline htab hcontrol
  · rw [hline]
  · rw [htab] at h
    exact absurd h (by decide)
  · simp [isClean, hline, hcontrol] at h
  · rfl

/-- What the pieces sanitize to. -/
theorem sanitizeMarkdownSource_pieces (pieces : List MarkdownPiece) :
    sanitizeMarkdownSource (pieces.flatMap MarkdownPiece.text) =
      normalizeMarkdown (pieces.flatMap MarkdownPiece.plain) := by
  rw [sanitizeMarkdownSource, Stripping.start, Stripping.feed_pieces, List.nil_append,
    Stripping.finish, if_pos rfl]

/-- **Clean text stays as it is.** -/
theorem sanitizeMarkdownSource_eq_self {source : List Char}
    (h : ∀ c ∈ source, isClean c = true) : sanitizeMarkdownSource source = source := by
  have hplain : ∀ c ∈ source, isPlain c = true := fun c hc => isPlain_of_isClean (h c hc)
  have hcr : '\r' ∉ source := fun hc => absurd (h _ hc) (by decide)
  rw [sanitizeMarkdownSource, Stripping.start, Stripping.feed_run hplain, List.nil_append,
    Stripping.finish, if_pos rfl, normalizeMarkdown, replaceCr_replaceCrLf_eq_self hcr,
    List.flatMap_def, List.map_congr_left fun c hc => expand_of_isClean (h c hc),
    ← List.flatMap_def, List.flatMap_singleton']

theorem isPlain_of_mem_plain {pieces : List MarkdownPiece} {c : Char}
    (h : c ∈ pieces.flatMap MarkdownPiece.plain) : isPlain c = true := by
  obtain ⟨piece, -, hpiece⟩ := List.mem_flatMap.1 h
  cases piece with
  | run characters plain => exact plain c hpiece
  | control introducer body => simp [MarkdownPiece.plain] at hpiece
  | string kind introducer payload free terminator => simp [MarkdownPiece.plain] at hpiece

/-- **Sanitizing removes exactly the sequences.**  Of a text of plain runs and complete
sequences it leaves the plain runs, with one kind of line break and spaces for tabs; of any
text it leaves no control character but line feeds, and what it leaves it does not change. -/
theorem sanitizeMarkdownSource_exact :
    (∀ pieces : List MarkdownPiece,
      sanitizeMarkdownSource (pieces.flatMap MarkdownPiece.text) =
        (Tools.replaceCr (Tools.replaceCrLf (pieces.flatMap MarkdownPiece.plain))).flatMap
          spaceTab) ∧
    ∀ source : List Char,
      (∀ c ∈ sanitizeMarkdownSource source, Unicode.isControl c = true → c = '\n') ∧
      sanitizeMarkdownSource (sanitizeMarkdownSource source) = sanitizeMarkdownSource source := by
  constructor
  · intro pieces
    rw [sanitizeMarkdownSource_pieces, normalizeMarkdown_plain fun c => isPlain_of_mem_plain]
  · intro source
    constructor
    · intro c hc hcontrol
      simpa [isClean, hcontrol] using isClean_of_mem_sanitizeMarkdownSource hc
    · exact sanitizeMarkdownSource_eq_self fun c => isClean_of_mem_sanitizeMarkdownSource

/-- The tests of the source: an unfinished sequence stays, without its `ESC`. -/
example : sanitizeMarkdownSource ['a', '\x1b', '[', '3', '1'] = ['a', '[', '3', '1'] := by
  decide

end Client
end Moh
