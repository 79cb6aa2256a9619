/-
# Control sequences in titles and failure messages

A text of plain runs and control sequences, each introduced by `ESC [` or by the single
character `U+009B`.  `sanitize_failure_message` of `session/manager.rs` sends the two
introducers to the same loop, and leaves exactly the plain runs.  `strip_terminal_controls`
of `session/title.rs` sends `U+009B` to `consume_escape_sequence`, which looks for the `[`
of the other introducer: it drops one character of the sequence and leaks the rest.

So a title is right where every sequence behind a `U+009B` is a final byte alone, and no
bracket; `spared` says what a bracket does, which opens a sequence or a system command of
its own (`stripped_iff`).
-/

import Moh.Session.Manager
import Moh.Session.SanitizedTitle

namespace Moh

/-- What follows the introducer of a control sequence. -/
structure ControlSequence where
  parameters : List Char
  intermediates : List Char
  final : Char
  parameters_range : ∀ c ∈ parameters, '0' ≤ c ∧ c ≤ '?'
  intermediates_range : ∀ c ∈ intermediates, ' ' ≤ c ∧ c ≤ '/'
  final_range : '@' ≤ final ∧ final ≤ '~'

/-- The bytes before the final one. -/
def ControlSequence.leading (s : ControlSequence) : List Char := s.parameters ++ s.intermediates

def ControlSequence.text (s : ControlSequence) : List Char := s.leading ++ [s.final]

/-- `ESC [` and `U+009B`. -/
inductive Introducer where
  | escape
  | single
deriving DecidableEq, Repr

def Introducer.text : Introducer → List Char
  | .escape => ['\x1b', '[']
  | .single => ['\u009b']

/-- A run of plain characters, or a complete control sequence. -/
inductive Piece where
  | run (characters : List Char) (plain : ∀ c ∈ characters, Unicode.isControl c = false)
  | sequence (introducer : Introducer) (body : ControlSequence)

namespace Piece

def text : Piece → List Char
  | .run characters _ => characters
  | .sequence introducer body => introducer.text ++ body.text

def plain : Piece → List Char
  | .run characters _ => characters
  | .sequence _ _ => []

end Piece

/-- The text that the pieces make up. -/
def textOf (pieces : List Piece) : List Char := pieces.flatMap Piece.text

/-- Its plain runs. -/
def plainOf (pieces : List Piece) : List Char := pieces.flatMap Piece.plain

/-- The rules of `sanitize_failure_message` for plain text: single spaces, and a default for
a message without words. -/
def failureText (plain : List Char) : String :=
  if (collapseWhitespace plain).isEmpty then "session runtime failed to start"
  else String.ofList (collapseWhitespace plain)

/-- **The sequences are removed whole:** a title keeps exactly the plain runs, and a failure
message what its rules make of them. -/
structure Stripped (pieces : List Piece) : Prop where
  title : stripTerminalControls (textOf pieces) = plainOf pieces
  failure : sanitizeFailureMessage (String.ofList (textOf pieces)) = failureText (plainOf pieces)

/-- Where the title module removes the sequences whole.  A sequence behind a `U+009B` is a
final byte alone.  If that is `]`, nothing plain follows; if it is `[`, what is skipped next
(`true`) is a sequence behind another `U+009B`, or nothing. -/
def spared : Bool → List Piece → Bool
  | _, [] => true
  | false, .run _ _ :: pieces => spared false pieces
  | false, .sequence .escape _ :: pieces => spared false pieces
  | false, .sequence .single body :: pieces =>
    body.leading.isEmpty &&
      if body.final = '[' then spared true pieces
      else if body.final = ']' then (plainOf pieces).isEmpty
      else spared false pieces
  | true, .run characters _ :: pieces => characters.isEmpty && spared true pieces
  | true, .sequence .escape _ :: _ => false
  | true, .sequence .single _ :: pieces => spared false pieces

/-! ### Characters of a sequence -/

theorem char_le_iff (c d : Char) : c ≤ d ↔ c.toNat ≤ d.toNat := by
  rw [Char.le_def, UInt32.le_iff_toNat_le]
  rfl

/-- The printable characters of ASCII are no controls. -/
theorem isControl_eq_false {c : Char} (hlo : ' ' ≤ c) (hhi : c ≤ '~') :
    Unicode.isControl c = false := by
  rw [char_le_iff, show ' '.toNat = 32 from rfl] at hlo
  rw [char_le_iff, show '~'.toNat = 126 from rfl] at hhi
  simp only [Unicode.isControl, Bool.or_eq_false_iff, Bool.and_eq_false_iff,
    decide_eq_false_iff_not]
  omega

theorem ne_of_isControl {c d : Char} (hc : Unicode.isControl c = false)
    (hd : Unicode.isControl d = true) : c ≠ d := by
  rintro rfl
  exact absurd (hc.symm.trans hd) Bool.false_ne_true

namespace ControlSequence

variable {s : ControlSequence} {c : Char}

/-- A byte before the final one is less than every final byte. -/
theorem range_of_mem_leading (h : c ∈ s.leading) : ' ' ≤ c ∧ c ≤ '?' := by
  rcases List.mem_append.1 h with h | h
  · exact ⟨le_trans (by decide) (s.parameters_range c h).1, (s.parameters_range c h).2⟩
  · exact ⟨(s.intermediates_range c h).1,
      le_trans (s.intermediates_range c h).2 (by decide)⟩

theorem not_final_of_mem_leading (h : c ∈ s.leading) : ¬('@' ≤ c ∧ c ≤ '~') := by
  rintro ⟨hlo, -⟩
  exact absurd (hlo.trans (range_of_mem_leading h).2) (by decide)

/-- No byte of a sequence is a control. -/
theorem isControl_of_mem_text (h : c ∈ s.text) : Unicode.isControl c = false := by
  rcases List.mem_append.1 h with h | h
  · exact isControl_eq_false (range_of_mem_leading h).1
      ((range_of_mem_leading h).2.trans (by decide))
  · rw [List.mem_singleton.1 h]
    exact isControl_eq_false (le_trans (by decide) s.final_range.1) s.final_range.2

theorem text_ne_nil (s : ControlSequence) : s.text ≠ [] := by simp [text]

theorem tail_text_ne_nil (s : ControlSequence) (h : s.leading ≠ []) : s.text.tail ≠ [] := by
  obtain ⟨c, leading, hleading⟩ := List.exists_cons_of_ne_nil h
  simp [text, hleading]

end ControlSequence

/-! ### The loops -/

/-- A control sequence is skipped through its final byte. -/
theorem skipControlSequence_text (s : ControlSequence) (rest : List Char) :
    skipControlSequence (s.text ++ rest) = rest := by
  have hskip : ∀ leading : List Char, (∀ c ∈ leading, ¬('@' ≤ c ∧ c ≤ '~')) →
      skipControlSequence (leading ++ s.final :: rest) = rest := by
    intro leading hleading
    induction leading with
    | nil => simp [skipControlSequence, s.final_range]
    | cons c leading ih =>
      obtain ⟨hc, hleading⟩ := List.forall_mem_cons.1 hleading
      have hnot : ¬(decide ('@' ≤ c) && decide (c ≤ '~')) = true := by simpa using hc
      rw [List.cons_append, skipControlSequence, if_neg hnot, ih hleading]
  rw [ControlSequence.text, List.append_assoc]
  exact hskip s.leading fun c hc => s.not_final_of_mem_leading hc

/-- Something is skipped, if there is something. -/
theorem skipControlSequence_length_lt {cs : List Char} (h : cs ≠ []) :
    (skipControlSequence cs).length < cs.length := by
  cases cs with
  | nil => exact absurd rfl h
  | cons c cs =>
    have := skipControlSequence_length_le cs
    rw [skipControlSequence, List.length_cons]
    split_ifs <;> omega

/-- An operating-system command goes on over characters that are no controls. -/
theorem skipSystemCommand_append {run : List Char}
    (h : ∀ c ∈ run, Unicode.isControl c = false) (rest : List Char) :
    skipSystemCommand (run ++ rest) = skipSystemCommand rest := by
  induction run with
  | nil => rfl
  | cons c run ih =>
    obtain ⟨hc, hrun⟩ := List.forall_mem_cons.1 h
    rw [List.cons_append, skipSystemCommand.eq_def]
    dsimp only
    rw [if_neg (ne_of_isControl hc (by decide)), if_neg (ne_of_isControl hc (by decide)), ih hrun]

/-- **A system command that a sequence opens never ends:** no piece has its terminator. -/
theorem skipSystemCommand_textOf (pieces : List Piece) :
    skipSystemCommand (textOf pieces) = [] := by
  induction pieces with
  | nil => rfl
  | cons piece pieces ih =>
    rw [textOf, List.flatMap_cons, ← textOf]
    cases piece with
    | run characters plain => rw [Piece.text, skipSystemCommand_append plain, ih]
    | sequence introducer body =>
      have hbody : skipSystemCommand (body.text ++ textOf pieces) = [] := by
        rw [skipSystemCommand_append fun c hc => body.isControl_of_mem_text hc, ih]
      cases introducer with
      | escape => simpa [Piece.text, Introducer.text, skipSystemCommand] using hbody
      | single => simpa [Piece.text, Introducer.text, skipSystemCommand] using hbody

/-! ### Stripping -/

theorem strip_nil : stripTerminalControls [] = [] := by
  simp [stripTerminalControls, stripTerminalControlsWithWhitespace]

/-- Plain characters are kept. -/
theorem strip_append {run : List Char} (h : ∀ c ∈ run, Unicode.isControl c = false)
    (rest : List Char) :
    stripTerminalControls (run ++ rest) = run ++ stripTerminalControls rest := by
  induction run with
  | nil => rfl
  | cons c run ih =>
    obtain ⟨hc, hrun⟩ := List.forall_mem_cons.1 h
    have hplain : ¬(c = '\x1b' ∨ c = '\u009b') := by
      rintro (rfl | rfl) <;> simp [Unicode.isControl] at hc
    rw [stripTerminalControls, List.cons_append, stripTerminalControlsWithWhitespace]
    simp only [Bool.or_eq_true, decide_eq_true_eq, hplain, if_false, Bool.false_and, hc]
    exact congrArg (c :: ·) (ih hrun)

/-- Both introducers are looked at in the same way. -/
theorem strip_introducer {c : Char} (h : c = '\x1b' ∨ c = '\u009b') (cs : List Char) :
    stripTerminalControls (c :: cs) = stripTerminalControls (consumeEscapeSequence cs) := by
  rw [stripTerminalControls, stripTerminalControlsWithWhitespace, if_pos (by simpa using h)]

/-- Nothing is added. -/
theorem strip_length_le (cs : List Char) : (stripTerminalControls cs).length ≤ cs.length := by
  unfold stripTerminalControls
  fun_induction stripTerminalControlsWithWhitespace false cs with
  | case1 => exact le_rfl
  | case2 _ cs _ hle ih =>
    rw [List.length_cons]
    omega
  | case3 _ _ _ hspace => simp at hspace
  | case4 _ cs _ _ _ ih =>
    rw [List.length_cons]
    omega
  | case5 _ cs _ _ _ ih => simpa using ih

/-- A sequence behind `ESC [` is removed whole. -/
theorem strip_escape (s : ControlSequence) (rest : List Char) :
    stripTerminalControls (Introducer.escape.text ++ s.text ++ rest) =
      stripTerminalControls rest := by
  show stripTerminalControls ('\x1b' :: '[' :: (s.text ++ rest)) = _
  rw [strip_introducer (.inl rfl), consumeEscapeSequence, skipControlSequence_text]

/-- **A sequence behind `U+009B`** loses its first byte, if that is no bracket. -/
theorem strip_single {s : ControlSequence} {c : Char} {tail : List Char}
    (htext : s.text = c :: tail) (hopen : c ≠ '[') (hclose : c ≠ ']') (rest : List Char) :
    stripTerminalControls (Introducer.single.text ++ s.text ++ rest) =
      tail ++ stripTerminalControls rest := by
  have htail : ∀ b ∈ tail, Unicode.isControl b = false := fun b hb =>
    s.isControl_of_mem_text (by rw [htext]; exact List.mem_cons_of_mem _ hb)
  rw [htext]
  show stripTerminalControls ('\u009b' :: c :: (tail ++ rest)) = _
  rw [strip_introducer (.inr rfl)]
  have hconsume : consumeEscapeSequence (c :: (tail ++ rest)) = tail ++ rest := by
    rw [consumeEscapeSequence]
    · exact hopen
    · exact hclose
  rw [hconsume, strip_append htail]

/-- The text that is left behind the introducer, when a bracket stands alone there. -/
theorem ControlSequence.text_eq_singleton {s : ControlSequence} (h : s.leading = []) :
    s.text = [s.final] := by
  rw [text, h]
  rfl

/-- Behind `U+009B`, a lone `[` opens a sequence of its own. -/
theorem strip_bracket {s : ControlSequence} (hleading : s.leading = []) (hfinal : s.final = '[')
    (rest : List Char) :
    stripTerminalControls (Introducer.single.text ++ s.text ++ rest) =
      stripTerminalControls (skipControlSequence rest) := by
  rw [s.text_eq_singleton hleading, hfinal]
  show stripTerminalControls ('\u009b' :: '[' :: rest) = _
  rw [strip_introducer (.inr rfl), consumeEscapeSequence]

/-- Behind `U+009B`, a lone `]` opens a system command, to the end of the text. -/
theorem strip_command {s : ControlSequence} (hleading : s.leading = []) (hfinal : s.final = ']')
    (pieces : List Piece) :
    stripTerminalControls (Introducer.single.text ++ s.text ++ textOf pieces) = [] := by
  rw [s.text_eq_singleton hleading, hfinal]
  show stripTerminalControls ('\u009b' :: ']' :: textOf pieces) = _
  rw [strip_introducer (.inr rfl), consumeEscapeSequence, skipSystemCommand_textOf, strip_nil]

/-- Behind `U+009B`, all but the first byte of a sequence leaks, if it is not a lone bracket. -/
theorem strip_leak {s : ControlSequence} (h : s.leading = [] → s.final ≠ '[' ∧ s.final ≠ ']')
    (rest : List Char) :
    stripTerminalControls (Introducer.single.text ++ s.text ++ rest) =
      s.text.tail ++ stripTerminalControls rest := by
  cases hleading : s.leading with
  | nil =>
    rw [s.text_eq_singleton hleading]
    have htext := s.text_eq_singleton hleading
    rw [← htext, strip_single htext (h hleading).1 (h hleading).2, htext, List.tail_cons]
  | cons c leading =>
    have hc : c ∈ s.leading := by
      rw [hleading]
      exact List.mem_cons_self
    have htext : s.text = c :: (leading ++ [s.final]) := by
      rw [ControlSequence.text, hleading, List.cons_append]
    rw [strip_single htext, htext, List.tail_cons]
    · rintro rfl
      exact s.not_final_of_mem_leading hc (by decide)
    · rintro rfl
      exact s.not_final_of_mem_leading hc (by decide)

/-- A final byte alone is removed whole, if it is no bracket. -/
theorem strip_lone {s : ControlSequence} (hleading : s.leading = []) (hopen : s.final ≠ '[')
    (hclose : s.final ≠ ']') (rest : List Char) :
    stripTerminalControls (Introducer.single.text ++ s.text ++ rest) =
      stripTerminalControls rest := by
  rw [strip_leak fun _ => ⟨hopen, hclose⟩, s.text_eq_singleton hleading]
  rfl

/-! ### Failure messages -/

/-- Plain characters reach the message, whitespace as spaces. -/
theorem plainFailure_append {run : List Char} (h : ∀ c ∈ run, Unicode.isControl c = false)
    (rest : List Char) :
    plainFailure (run ++ rest) =
      run.map (fun c => if Unicode.isWhitespace c then ' ' else c) ++ plainFailure rest := by
  induction run with
  | nil => rfl
  | cons c run ih =>
    obtain ⟨hc, hrun⟩ := List.forall_mem_cons.1 h
    rw [List.cons_append, plainFailure, if_neg (ne_of_isControl hc (by decide)),
      if_neg (ne_of_isControl hc (by decide)), ih hrun, List.map_cons, hc]
    split_ifs with hspace hfalse
    · rfl
    · exact absurd hfalse id
    · rfl

/-- **A failure message keeps exactly the plain runs.** -/
theorem plainFailure_textOf (pieces : List Piece) :
    plainFailure (textOf pieces) =
      (plainOf pieces).map fun c => if Unicode.isWhitespace c then ' ' else c := by
  induction pieces with
  | nil => simp [textOf, plainOf, plainFailure]
  | cons piece pieces ih =>
    rw [textOf, plainOf, List.flatMap_cons, List.flatMap_cons, ← textOf, ← plainOf]
    cases piece with
    | run characters plain =>
      rw [Piece.text, Piece.plain, plainFailure_append plain, ih, List.map_append]
    | sequence introducer body =>
      cases introducer with
      | escape =>
        show plainFailure ('\x1b' :: '[' :: (body.text ++ textOf pieces)) = _
        rw [plainFailure, if_pos rfl, consumeEscapeSequence, skipControlSequence_text, ih]
        rfl
      | single =>
        show plainFailure ('\u009b' :: (body.text ++ textOf pieces)) = _
        rw [plainFailure, if_neg (by decide), if_pos rfl, skipControlSequence_text, ih]
        rfl

/-- Which whitespace stands between words does not matter. -/
theorem collapseWhitespace_map (cs : List Char) :
    collapseWhitespace (cs.map fun c => if Unicode.isWhitespace c then ' ' else c) =
      collapseWhitespace cs := by
  induction cs with
  | nil => rfl
  | cons c cs ih =>
    rw [List.map_cons]
    by_cases hc : Unicode.isWhitespace c = true
    · rw [if_pos hc, collapseWhitespace_space (by decide), collapseWhitespace_space hc, ih]
    · have hword : Unicode.isWhitespace c = false := by simpa using hc
      have hhead : (cs.map fun c => if Unicode.isWhitespace c then ' ' else c).head?.any
          Unicode.isWhitespace = cs.head?.any Unicode.isWhitespace := by
        cases cs with
        | nil => rfl
        | cons b cs =>
          rw [List.map_cons, List.head?_cons, List.head?_cons, Option.any_some, Option.any_some]
          split_ifs with hb
          · rw [hb]
            rfl
          · rfl
      rw [if_neg hc, collapseWhitespace_cons hword, collapseWhitespace_cons hword, hhead, ih]

/-- Failure messages are right for every text. -/
theorem sanitizeFailureMessage_textOf (pieces : List Piece) :
    sanitizeFailureMessage (String.ofList (textOf pieces)) = failureText (plainOf pieces) := by
  rw [sanitizeFailureMessage, String.toList_ofList, plainFailure_textOf, collapseWhitespace_map]
  rfl

/-! ### Titles -/

theorem textOf_cons (piece : Piece) (pieces : List Piece) :
    textOf (piece :: pieces) = piece.text ++ textOf pieces := List.flatMap_cons

theorem plainOf_cons (piece : Piece) (pieces : List Piece) :
    plainOf (piece :: pieces) = piece.plain ++ plainOf pieces := List.flatMap_cons

/-- The initial parts of a text that begins with a piece. -/
theorem forall_prefix_cons {P : List Piece → Prop} (piece : Piece) (pieces : List Piece) :
    (∀ part, part <+: piece :: pieces → P part) ↔
      P [] ∧ ∀ part, part <+: pieces → P (piece :: part) := by
  constructor
  · exact fun h => ⟨h [] List.nil_prefix,
      fun part hpart => h _ ((List.prefix_cons_inj piece).2 hpart)⟩
  · rintro ⟨hnil, hcons⟩ part hpart
    rcases List.prefix_cons_iff.1 hpart with rfl | ⟨rest, rfl, hrest⟩
    · exact hnil
    · exact hcons rest hrest

/-- Plain text follows in some initial part exactly if it follows in the whole. -/
theorem forall_prefix_plainOf_iff (pieces : List Piece) :
    (∀ part, part <+: pieces → [] = plainOf part) ↔ plainOf pieces = [] := by
  constructor
  · exact fun h => (h pieces (List.prefix_refl _)).symm
  · rintro h part ⟨rest, rfl⟩
    rw [plainOf, List.flatMap_append] at h
    exact (List.append_eq_nil_iff.1 h).1.symm

/-- The title of every initial part is right. -/
def TitlesRight (pieces : List Piece) : Prop :=
  ∀ part, part <+: pieces → stripTerminalControls (textOf part) = plainOf part

/-- The title of every initial part is right when a sequence is still being skipped. -/
def SkippedRight (pieces : List Piece) : Prop :=
  ∀ part, part <+: pieces →
    stripTerminalControls (skipControlSequence (textOf part)) = plainOf part

/-- One piece more. -/
theorem titlesRight_cons_iff {piece : Piece} {pieces : List Piece}
    (ih : TitlesRight pieces ↔ spared false pieces = true)
    (ihSkipped : SkippedRight pieces ↔ spared true pieces = true) :
    TitlesRight (piece :: pieces) ↔ spared false (piece :: pieces) = true := by
  rw [TitlesRight, forall_prefix_cons]
  simp only [textOf_cons, plainOf_cons]
  refine (and_iff_right strip_nil).trans ?_
  match piece with
  | .run characters plain =>
    simp only [Piece.text, Piece.plain, strip_append plain, List.append_cancel_left_eq]
    exact ih
  | .sequence .escape body =>
    simp only [Piece.text, Piece.plain, strip_escape, List.nil_append]
    exact ih
  | .sequence .single body =>
    simp only [Piece.text, Piece.plain, List.nil_append]
    by_cases hleading : body.leading = []
    · by_cases hopen : body.final = '['
      · simp only [strip_bracket hleading hopen]
        refine ihSkipped.trans ?_
        simp [spared, hleading, hopen]
      · by_cases hclose : body.final = ']'
        · simp only [strip_command hleading hclose, forall_prefix_plainOf_iff]
          simp [spared, hleading, hclose]
        · simp only [strip_lone hleading hopen hclose]
          refine ih.trans ?_
          simp [spared, hleading, hopen, hclose]
    · refine iff_of_false (fun hall => ?_) (by simp [spared, hleading])
      have hleak := hall [] List.nil_prefix
      rw [strip_leak fun h => absurd h hleading] at hleak
      exact body.tail_text_ne_nil hleading (List.append_eq_nil_iff.1 hleak).1

/-- One piece more behind a sequence that is still being skipped: it loses a plain character,
ends in the bracket of a 7-bit introducer, whose bytes then leak, and ends before an 8-bit one,
which is skipped in its place. -/
theorem skippedRight_cons_iff {piece : Piece} {pieces : List Piece}
    (ih : TitlesRight pieces ↔ spared false pieces = true)
    (ihSkipped : SkippedRight pieces ↔ spared true pieces = true) :
    SkippedRight (piece :: pieces) ↔ spared true (piece :: pieces) = true := by
  rw [SkippedRight, forall_prefix_cons]
  simp only [textOf_cons, plainOf_cons]
  refine (and_iff_right strip_nil).trans ?_
  match piece with
  | .run characters plain =>
    simp only [Piece.text, Piece.plain, spared]
    by_cases hempty : characters = []
    · simp only [hempty, List.nil_append, List.isEmpty_nil, Bool.true_and]
      exact ihSkipped
    · refine iff_of_false (fun hall => ?_) (by simp [hempty])
      have hlost := congrArg List.length (hall [] List.nil_prefix)
      have hskip := skipControlSequence_length_lt hempty
      have hstrip := strip_length_le (skipControlSequence characters)
      simp only [textOf, plainOf, List.flatMap_nil, List.append_nil] at hlost
      omega
  | .sequence .escape body =>
    refine iff_of_false (fun hall => ?_) (by simp [spared])
    have hleak := hall [] List.nil_prefix
    have hskip : skipControlSequence (Introducer.escape.text ++ body.text ++ textOf []) =
        body.text ++ textOf [] := by
      show skipControlSequence ('\x1b' :: '[' :: (body.text ++ textOf [])) = _
      simp [skipControlSequence]
    rw [Piece.text, Piece.plain, hskip,
      strip_append fun c hc => body.isControl_of_mem_text hc] at hleak
    exact body.text_ne_nil (List.append_eq_nil_iff.1 hleak).1
  | .sequence .single body =>
    have hskip : ∀ rest, skipControlSequence (Introducer.single.text ++ body.text ++ rest) =
        rest := by
      intro rest
      show skipControlSequence ('\u009b' :: (body.text ++ rest)) = _
      rw [skipControlSequence, if_neg (by decide), skipControlSequence_text]
    simp only [Piece.text, Piece.plain, List.nil_append, hskip, spared]
    exact ih

/-- The title of every initial part is right exactly if the text is spared; and so it is when
a sequence is still being skipped. -/
theorem titlesRight_iff (pieces : List Piece) :
    (TitlesRight pieces ↔ spared false pieces = true) ∧
      (SkippedRight pieces ↔ spared true pieces = true) := by
  induction pieces with
  | nil =>
    simp only [TitlesRight, SkippedRight, List.prefix_nil, forall_eq, spared, iff_true]
    exact ⟨strip_nil, strip_nil⟩
  | cons piece pieces ih =>
    exact ⟨titlesRight_cons_iff ih.1 ih.2, skippedRight_cons_iff ih.1 ih.2⟩

/-- Behind a `U+009B` there is no lone bracket. -/
def Unbracketed (pieces : List Piece) : Prop :=
  ∀ body, Piece.sequence .single body ∈ pieces → body.leading = [] →
    body.final ≠ '[' ∧ body.final ≠ ']'

/-- Without lone brackets, bytes may leak but no plain text is lost.  So what comes out is the
plain text exactly if nothing leaks. -/
theorem title_iff {pieces : List Piece} (h : Unbracketed pieces) :
    (plainOf pieces).length ≤ (stripTerminalControls (textOf pieces)).length ∧
      (stripTerminalControls (textOf pieces) = plainOf pieces ↔ spared false pieces = true) := by
  induction pieces with
  | nil => exact ⟨Nat.zero_le _, iff_of_true strip_nil rfl⟩
  | cons piece pieces ih =>
    obtain ⟨hlength, ih⟩ := ih fun body hbody => h body (List.mem_cons_of_mem _ hbody)
    rw [textOf_cons, plainOf_cons]
    match piece with
    | .run characters plain =>
      rw [Piece.text, Piece.plain, strip_append plain, List.length_append, List.length_append,
        List.append_cancel_left_eq]
      exact ⟨Nat.add_le_add_left hlength _, ih⟩
    | .sequence .escape body =>
      rw [Piece.text, Piece.plain, strip_escape]
      exact ⟨hlength, ih⟩
    | .sequence .single body =>
      have hbrackets := h body List.mem_cons_self
      rw [Piece.text, Piece.plain, List.nil_append]
      by_cases hleading : body.leading = []
      · obtain ⟨hopen, hclose⟩ := hbrackets hleading
        rw [strip_lone hleading hopen hclose, ih]
        exact ⟨hlength, by simp [spared, hleading, hopen, hclose]⟩
      · rw [strip_leak hbrackets, List.length_append]
        refine ⟨hlength.trans (Nat.le_add_left _ _), iff_of_false (fun he => ?_) ?_⟩
        · have hpos := List.length_pos_iff.2 (body.tail_text_ne_nil hleading)
          have hlonger := congrArg List.length he
          rw [List.length_append] at hlonger
          omega
        · simp [spared, hleading]

/-- **Where control sequences are removed whole:** from a text and from each of its initial
parts exactly if the text is spared; without lone brackets behind a `U+009B`, from the text
itself exactly if it is.  (What one sequence leaks and what a bracket then swallows can be the
same characters, so a text with brackets may come out right while its parts do not.) -/
theorem stripped_iff (pieces : List Piece) :
    ((∀ part, part <+: pieces → Stripped part) ↔ spared false pieces = true) ∧
      (Unbracketed pieces → (Stripped pieces ↔ spared false pieces = true)) := by
  constructor
  · rw [← (titlesRight_iff pieces).1]
    exact ⟨fun h part hpart => (h part hpart).title,
      fun h part hpart => ⟨h part hpart, sanitizeFailureMessage_textOf part⟩⟩
  · intro h
    rw [← (title_iff h).2]
    exact ⟨fun hs => hs.title, fun he => ⟨he, sanitizeFailureMessage_textOf pieces⟩⟩

-- `U+009B [ ESC [ m U+009B ] m`: one `m` leaks, the other one is swallowed.
example : stripTerminalControls ['\u009b', '[', '\x1b', '[', 'm', '\u009b', ']', 'm'] = ['m'] := by
  decide +kernel

/-- `U+009B 3 1 m`, and a run. -/
def redPieces : List Piece :=
  [.sequence .single ⟨['3', '1'], [], 'm', by simp, by simp, by decide⟩,
    .run ['r', 'e', 'd'] (by simp [Unicode.isControl])]

/-- `stripped_iff` for it: it is unbracketed, and leaks. -/
theorem stripped_red : ¬Stripped redPieces :=
  fun h => absurd ((stripped_iff redPieces).2 (by
    intro body hbody
    simp only [redPieces, List.mem_cons, Piece.sequence.injEq, true_and, reduceCtorEq,
      List.not_mem_nil, or_false] at hbody
    rw [hbody]
    simp [ControlSequence.leading]) |>.1 h) (by decide)

/-- **The title of `U+009B 3 1 m r e d` is `1mred`.** -/
theorem red_leaks : stripTerminalControls (textOf redPieces) = ['1', 'm', 'r', 'e', 'd'] ∧
    ¬∀ pieces, Stripped pieces := by
  have hleak : stripTerminalControls (textOf redPieces) = ['1', 'm', 'r', 'e', 'd'] := by
    decide +kernel
  refine ⟨hleak, fun hall => ?_⟩
  have htitle := (hall redPieces).title
  rw [hleak] at htitle
  exact absurd htitle (by decide)

end Moh
