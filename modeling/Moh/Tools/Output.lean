/-
# The output a command keeps

`tools/bash.rs`: `OutputStore` appends every line of a command's output to a log file
and keeps the last lines in memory, at most 2,000 and at most 50 KiB of them
(`trimTail`).  What is kept is the longest tail of the output that fits
(`appendAll_isTail`); a last line that does not fit alone is kept without the start
of its text, and no slice of it is off a character boundary.
-/

import Moh.Library.ByteOffset
import Moh.Library.FileSystem
import Moh.Tools.Text
import Mathlib.Data.List.Infix

namespace Moh
namespace Tools

open Utf8

/-- `MAX_OUTPUT_BYTES`. -/
def maxOutputBytes : ℕ := 50 * 1024

/-- `MAX_OUTPUT_LINES`. -/
def maxOutputLines : ℕ := 2000

/-- The streams a command writes to. -/
inductive OutputSource where
  | stdout
  | stderr
deriving DecidableEq, Repr

/-- The name of a stream, the `source` of a line. -/
def OutputSource.name : OutputSource → List Char
  | .stdout => ['s', 't', 'd', 'o', 'u', 't']
  | .stderr => ['s', 't', 'd', 'e', 'r', 'r']

/-- What stands before a line of a stream. -/
def outputTag (source : OutputSource) : List Char :=
  ['['] ++ source.name ++ [']', ' ']

/-- `format!("[{source}] {line}")`. -/
def outputEntry (source : OutputSource) (line : Line) : Line :=
  outputTag source ++ line

/-! ### Trimming -/

/-- `while start < line.len() && !line.is_char_boundary(start) { start += 1 }`, with the
bytes that are left as a bound. -/
def nextBoundary (line : Line) : ℕ → ℕ → ℕ
  | 0, start => start
  | left + 1, start =>
    if start < byteLength line ∧ isCharBoundary line start = false then
      nextBoundary line left (start + 1)
    else start

/-- The only line of the tail without the start of its text; `none` is the panic of a
slice. -/
def trimLine (line : Line) : Option Line :=
  let prefixEnd := match find [']', ' '] line with
    | some index => index + 2
    | none => 0
  let retainedBody := maxOutputBytes - 1 - prefixEnd
  let start := max (byteLength line - retainedBody) prefixEnd
  let start := nextBoundary line (byteLength line - start) start
  match sliceTo line prefixEnd, sliceFrom line start with
  | some tag, some tail => some (tag ++ tail)
  | _, _ => none

/-- `trim_tail`; `none` is a panic, in a slice or where the byte count falls below zero,
or a loop that does not end, on no lines with bytes left. -/
def trimTail : List Line → ℕ → Option (List Line × ℕ)
  | lines, bytes =>
    if maxOutputLines < lines.length ∨ maxOutputBytes < bytes then
      match lines with
      | [] => none
      | [line] => (trimLine line).map fun line => ([line], byteLength line + 1)
      | removed :: line :: rest =>
        if byteLength removed + 1 ≤ bytes then
          trimTail (line :: rest) (bytes - (byteLength removed + 1))
        else none
    else some (lines, bytes)

/-! ### The store -/

/-- `BashJobDetails`; the log is known by its path. -/
structure BashJobDetails where
  command : List Char
  output : List Char
  fullOutput : Option PathBuf
  truncated : Bool
  exitCode : Option ℤ
  reason : Option (List Char)
deriving DecidableEq

/-- `OutputStore`, with the bytes of its log file. -/
structure OutputStore where
  file : List UInt8
  command : List Char
  lines : List Line
  bytes : ℕ
  observedBytes : ℕ
  observedLines : ℕ
  truncated : Bool
  log : PathBuf

/-- What fails in the two writes to the log file, and after how many bytes. -/
structure AppendIo where
  entry : Option (IoErrorKind × ℕ) := none
  newline : Option (IoErrorKind × ℕ) := none

/-- `write_all`. -/
def writeAll (failure : Option (IoErrorKind × ℕ)) (file bytes : List UInt8) :
    List UInt8 × Option IoErrorKind :=
  match failure with
  | none => (file ++ bytes, none)
  | some (kind, written) => (file ++ bytes.take written, some kind)

namespace OutputStore

/-- `OutputStore::new`. -/
def new (file : List UInt8) (log : PathBuf) (command : List Char) : OutputStore where
  file
  command
  lines := []
  bytes := 0
  observedBytes := 0
  observedLines := 0
  truncated := false
  log

/-- `OutputStore::details`. -/
def details (store : OutputStore) (exitCode : Option ℤ) (reason : Option (List Char)) :
    BashJobDetails where
  command := store.command
  output := ['\n'].intercalate store.lines
  fullOutput := some store.log
  truncated := store.truncated
  exitCode
  reason

/-- The rest of `append_line` behind its writes. -/
def push (store : OutputStore) (entry : Line) : Option OutputStore :=
  let observedBytes := store.observedBytes + (byteLength entry + 1)
  let observedLines := store.observedLines + 1
  (trimTail (store.lines ++ [entry]) (store.bytes + (byteLength entry + 1))).map fun kept =>
    { store with
      lines := kept.1
      bytes := kept.2
      observedBytes
      observedLines
      truncated := decide (maxOutputLines < observedLines ∨ maxOutputBytes < observedBytes) }

/-- `OutputStore::append_line`; `none` is a panic of `trim_tail`. -/
def appendLine (io : AppendIo) (source : OutputSource) (line : Line) (terminated : Bool)
    (store : OutputStore) : Option (Except IoErrorKind BashJobDetails × OutputStore) :=
  let entry := outputEntry source line
  let (file, failure) := writeAll io.entry store.file (encode entry)
  match failure with
  | some kind => some (.error kind, { store with file })
  | none =>
    let (file, failure) := if terminated then writeAll io.newline file [0x0A] else (file, none)
    match failure with
    | some kind => some (.error kind, { store with file })
    | none => (push { store with file } entry).map fun store => (.ok (store.details none none), store)

end OutputStore

/-! ### What fits -/

/-- The bytes of lines with their newlines. -/
def tailBytes (lines : List Line) : ℕ :=
  (lines.map fun line => byteLength line + 1).sum

/-- The lines are within both limits. -/
def Fits (lines : List Line) : Prop :=
  lines.length ≤ maxOutputLines ∧ tailBytes lines ≤ maxOutputBytes

variable {lines entries : List Line} {source : OutputSource} {line : Line} {store : OutputStore}

theorem tailBytes_append (lines more : List Line) :
    tailBytes (lines ++ more) = tailBytes lines + tailBytes more := by
  simp [tailBytes]

theorem tailBytes_cons (line : Line) (lines : List Line) :
    tailBytes (line :: lines) = byteLength line + 1 + tailBytes lines := by
  simp [tailBytes]

theorem tailBytes_singleton (line : Line) : tailBytes [line] = byteLength line + 1 := by
  simp [tailBytes]

/-- A tail of lines that fit fits. -/
theorem Fits.append_left {more : List Line} (h : Fits (lines ++ more)) : Fits lines := by
  obtain ⟨hlines, hbytes⟩ := h
  rw [List.length_append] at hlines
  rw [tailBytes_append] at hbytes
  exact ⟨by omega, by omega⟩

/-! ### One line that does not fit -/

theorem byteLength_outputTag (source : OutputSource) : byteLength (outputTag source) = 9 := by
  cases source <;> decide

theorem byteLength_outputEntry (source : OutputSource) (line : Line) :
    byteLength (outputEntry source line) = 9 + byteLength line := by
  rw [outputEntry, byteLength_append, byteLength_outputTag]

theorem find_outputEntry (source : OutputSource) (line : Line) :
    find [']', ' '] (outputEntry source line) = some 7 := by
  cases source <;> rfl

/-- **The next boundary is at most as far as any other.** -/
theorem nextBoundary_spec {left start k : ℕ} (hboundary : isCharBoundary line (start + k) = true)
    (hleft : k ≤ left) (hk : start + k ≤ byteLength line) :
    ∃ j ≤ k, nextBoundary line left start = start + j ∧
      isCharBoundary line (start + j) = true := by
  induction left generalizing start k with
  | zero =>
    obtain rfl : k = 0 := by omega
    exact ⟨0, le_rfl, rfl, hboundary⟩
  | succ left ih =>
    rw [nextBoundary]
    split_ifs with hmore
    · have hne : k ≠ 0 := by
        rintro rfl
        rw [Nat.add_zero, hmore.2] at hboundary
        cases hboundary
      obtain ⟨n, rfl⟩ := Nat.exists_eq_succ_of_ne_zero hne
      rw [Nat.succ_eq_add_one, show start + (n + 1) = start + 1 + n by omega] at hboundary
      obtain ⟨j, hj, hnext, hat⟩ := ih hboundary (by omega) (by omega)
      exact ⟨j + 1, by omega, by omega, by rwa [show start + (j + 1) = start + 1 + j by omega]⟩
    · refine ⟨0, by omega, rfl, ?_⟩
      by_cases hlt : start < byteLength line
      · rw [Nat.add_zero]
        simpa using fun hfalse => hmore ⟨hlt, hfalse⟩
      · obtain rfl : k = 0 := by omega
        exact hboundary

/-- **A single line that does not fit keeps its tag and a tail of its text,** which is
as long as it can be, up to the rest of one character. -/
theorem trimLine_outputEntry (h : maxOutputBytes < byteLength (outputEntry source line) + 1) :
    ∃ tail, trimLine (outputEntry source line) = some (outputEntry source tail) ∧
      tail <:+ line ∧ byteLength (outputEntry source tail) + 1 ≤ maxOutputBytes ∧
      maxOutputBytes ≤ byteLength (outputEntry source tail) + 1 + 3 := by
  have htag := byteLength_outputTag source
  have hlength := byteLength_outputEntry source line
  have hmax : maxOutputBytes = 51200 := rfl
  have hstart : max (byteLength (outputEntry source line) - (maxOutputBytes - 1 - (7 + 2))) (7 + 2) =
      9 + (byteLength line - 51190) := by omega
  obtain ⟨k, hk, hboundary, hkle⟩ := exists_isCharBoundary
    (show byteLength line - 51190 ≤ byteLength line by omega)
  have hshift : ∀ i, isCharBoundary (outputEntry source line) (9 + i) = isCharBoundary line i := by
    intro i
    rw [← htag, outputEntry, isCharBoundary_append]
  rw [← hshift, ← Nat.add_assoc] at hboundary
  have hroom : k ≤ byteLength (outputEntry source line) - (9 + (byteLength line - 51190)) := by
    omega
  obtain ⟨j, hj, hnext, hat⟩ := nextBoundary_spec hboundary hroom (by omega)
  rw [Nat.add_assoc, hshift] at hat
  obtain ⟨⟨pre, tail⟩, hsplit⟩ := Option.isSome_iff_exists.1 hat
  obtain ⟨hline, hpre⟩ := splitAt?_eq_some_iff.1 hsplit
  have htailLength := congrArg byteLength hline
  rw [byteLength_append] at htailLength
  have hto : sliceTo (outputEntry source line) (7 + 2) = some (outputTag source) := by
    rw [sliceTo, show 7 + 2 = byteLength (outputTag source) from htag.symm, outputEntry,
      splitAt?_append]
    rfl
  have hwhole : splitAt? (outputEntry source line) (9 + (byteLength line - 51190) + j) =
      some (outputTag source ++ pre, tail) := by
    refine splitAt?_eq_some_iff.2 ⟨?_, ?_⟩
    · rw [outputEntry, List.append_assoc, ← hline]
    · rw [byteLength_append, htag, hpre, Nat.add_assoc]
  have hfrom : sliceFrom (outputEntry source line) (9 + (byteLength line - 51190) + j) =
      some tail := by
    rw [sliceFrom, hwhole]
    rfl
  refine ⟨tail, ?_, ⟨pre, hline.symm⟩, ?_, ?_⟩
  · simp only [trimLine, find_outputEntry, hstart, hnext, hto, hfrom]
    rfl
  · rw [byteLength_outputEntry]
    omega
  · rw [byteLength_outputEntry]
    omega

/-! ### Trimming keeps the longest tail -/

theorem trimTail_of_fits (h : Fits lines) :
    trimTail lines (tailBytes lines) = some (lines, tailBytes lines) := by
  have hlines := h.1
  have hbytes := h.2
  have hno : ¬(maxOutputLines < lines.length ∨ maxOutputBytes < tailBytes lines) := by omega
  rw [trimTail.eq_def]
  dsimp only
  rw [if_neg hno]

theorem over_of_not_fits (h : ¬Fits lines) :
    maxOutputLines < lines.length ∨ maxOutputBytes < tailBytes lines := by
  by_contra hno
  rw [not_or] at hno
  exact h ⟨Nat.not_lt.1 hno.1, Nat.not_lt.1 hno.2⟩

theorem trimTail_singleton (h : ¬Fits [line]) : trimTail [line] (tailBytes [line]) =
    (trimLine line).map fun line => ([line], byteLength line + 1) := by
  rw [trimTail.eq_def]
  dsimp only
  rw [if_pos (over_of_not_fits h)]

theorem trimTail_cons_cons {removed : Line} (h : ¬Fits (removed :: line :: lines)) :
    trimTail (removed :: line :: lines) (tailBytes (removed :: line :: lines)) =
      trimTail (line :: lines) (tailBytes (line :: lines)) := by
  rw [trimTail.eq_def]
  dsimp only
  rw [if_pos (over_of_not_fits h), tailBytes_cons, if_pos (by omega), Nat.add_sub_cancel_left]

/-- **`trim_tail` keeps the longest tail that fits,** or the last line, if even that
does not. -/
theorem trimTail_spec (hne : lines ≠ []) :
    ∃ kept, kept <:+ lines ∧ kept ≠ [] ∧
      (∀ tail, tail <:+ lines → Fits tail → tail.length ≤ kept.length) ∧
      (Fits kept ∧ trimTail lines (tailBytes lines) = some (kept, tailBytes kept) ∨
        ∃ line, kept = [line] ∧ maxOutputBytes < byteLength line + 1 ∧
          trimTail lines (tailBytes lines) =
            (trimLine line).map fun line => ([line], byteLength line + 1)) := by
  induction lines with
  | nil => exact absurd rfl hne
  | cons removed rest ih =>
    by_cases hfits : Fits (removed :: rest)
    · exact ⟨removed :: rest, List.suffix_refl _, hne, fun tail htail _ => htail.length_le,
        .inl ⟨hfits, trimTail_of_fits hfits⟩⟩
    · cases rest with
      | nil =>
        have hover : maxOutputBytes < byteLength removed + 1 := by
          have hone : [removed].length ≤ maxOutputLines := Nat.le_of_ble_eq_true rfl
          rw [← tailBytes_singleton]
          exact (over_of_not_fits hfits).resolve_left (Nat.not_lt.2 hone)
        exact ⟨[removed], List.suffix_refl _, hne, fun tail htail _ => htail.length_le,
          .inr ⟨removed, rfl, hover, trimTail_singleton hfits⟩⟩
      | cons line rest =>
        obtain ⟨kept, hsuffix, hkept, hlongest, htrim⟩ := ih (List.cons_ne_nil _ _)
        rw [trimTail_cons_cons hfits]
        refine ⟨kept, hsuffix.trans (List.suffix_cons _ _), hkept, fun tail htail hfit => ?_, htrim⟩
        rcases List.suffix_cons_iff.1 htail with rfl | htail
        · exact absurd hfit hfits
        · exact hlongest tail htail hfit

/-! ### The tail of the output -/

/-- What may be kept of the entries: a tail of them, or of a last entry that does not
fit its tag and a tail of its text. -/
inductive Retained (entries : List Line) : List Line → Prop
  | suffix {lines : List Line} : lines <:+ entries → Retained entries lines
  | oversize {source : OutputSource} {line tail : Line} :
      entries.getLast? = some (outputEntry source line) →
      maxOutputBytes < byteLength (outputEntry source line) + 1 → tail <:+ line →
      maxOutputBytes ≤ byteLength (outputEntry source tail) + 1 + 3 →
      Retained entries [outputEntry source tail]

/-- **The store has the tail of the entries:** its byte count is right, its lines are
within the limits and the longest tail that is, and it says truncated iff something
was dropped. -/
structure IsTail (entries : List Line) (store : OutputStore) : Prop where
  bytes : store.bytes = tailBytes store.lines
  fits : Fits store.lines
  retained : Retained entries store.lines
  longest : ∀ tail, tail <:+ entries → Fits tail → tail.length ≤ store.lines.length
  observedLines : store.observedLines = entries.length
  observedBytes : store.observedBytes = tailBytes entries
  truncated : store.truncated = true ↔ store.lines ≠ entries

theorem isTail_new (file : List UInt8) (log : PathBuf) (command : List Char) :
    IsTail [] (OutputStore.new file log command) := by
  refine ⟨rfl, ⟨Nat.zero_le _, Nat.zero_le _⟩, .suffix (List.suffix_refl _),
    fun tail htail _ => htail.length_le, rfl, rfl, ?_⟩
  exact iff_of_false Bool.false_ne_true fun hne => hne rfl

/-- Nothing that ends in an entry that does not fit fits. -/
theorem eq_nil_of_fits_of_oversize {tail : List Line}
    (hlast : entries.getLast? = some line) (hover : maxOutputBytes < byteLength line + 1)
    (htail : tail <:+ entries) (hfits : Fits tail) : tail = [] := by
  rcases List.eq_nil_or_concat tail with rfl | ⟨init, last, rfl⟩
  · rfl
  · obtain ⟨pre, rfl⟩ := htail
    rw [List.concat_eq_append] at hlast hfits
    rw [← List.append_assoc, List.getLast?_concat] at hlast
    obtain rfl := Option.some.inj hlast
    have hbytes := hfits.2
    rw [tailBytes_append, tailBytes_singleton] at hbytes
    omega

/-- A tail that is not empty behind one more entry ends in this entry. -/
theorem exists_eq_append_of_suffix_concat {tail : List Line} {entry : Line}
    (h : tail <:+ entries ++ [entry]) (hne : tail ≠ []) :
    ∃ init, tail = init ++ [entry] ∧ init <:+ entries := by
  obtain ⟨init, last, rfl⟩ := (List.eq_nil_or_concat tail).resolve_left hne
  obtain ⟨pre, hpre⟩ := h
  rw [List.concat_eq_append, ← List.append_assoc] at hpre
  obtain ⟨rfl, hlast⟩ := List.append_inj' hpre rfl
  obtain rfl := (List.cons.inj hlast).1
  exact ⟨init, List.concat_eq_append, ⟨pre, rfl⟩⟩

/-- **Something was dropped iff not everything fits.** -/
theorem ne_iff_not_fits (hfits : Fits lines) (hretained : Retained entries lines)
    (hlongest : ∀ tail, tail <:+ entries → Fits tail → tail.length ≤ lines.length) :
    lines ≠ entries ↔ ¬Fits entries := by
  constructor
  · intro hne hall
    have hlength := hlongest entries (List.suffix_refl _) hall
    cases hretained with
    | suffix hsuffix => exact hne (hsuffix.sublist.eq_of_length_le hlength)
    | oversize hlast hover htail hfull =>
      obtain rfl := eq_nil_of_fits_of_oversize hlast hover (List.suffix_refl _) hall
      cases hlast
  · rintro hnot rfl
    exact hnot hfits

/-- The longest tail of the entries that fits, with one more entry. -/
theorem longest_concat {entry : Line} {kept : List Line} (h : IsTail entries store)
    (hkept : kept ≠ [])
    (hlongest : ∀ tail, tail <:+ store.lines ++ [entry] → Fits tail → tail.length ≤ kept.length)
    {tail : List Line} (htail : tail <:+ entries ++ [entry]) (hfits : Fits tail) :
    tail.length ≤ kept.length := by
  rcases eq_or_ne tail [] with rfl | hne
  · exact Nat.zero_le _
  · obtain ⟨init, rfl, hinit⟩ := exists_eq_append_of_suffix_concat htail hne
    have hlength := h.longest init hinit hfits.append_left
    have hretained := h.retained
    generalize store.lines = lines at hlength hretained hlongest
    cases hretained with
    | suffix hsuffix =>
      obtain ⟨pre, rfl⟩ := List.suffix_of_suffix_length_le hinit hsuffix hlength
      exact hlongest _ ⟨pre, by rw [List.append_assoc]⟩ hfits
    | oversize hlast hover htail hfull =>
      obtain rfl := eq_nil_of_fits_of_oversize hlast hover hinit hfits.append_left
      exact List.length_pos_iff.2 hkept

/-- **One more entry:** the tail that is trimmed again is that of all entries. -/
theorem retained_concat (h : IsTail entries store) (source : OutputSource) (line : Line) :
    ∃ lines, trimTail (store.lines ++ [outputEntry source line])
        (tailBytes (store.lines ++ [outputEntry source line])) = some (lines, tailBytes lines) ∧
      Fits lines ∧ Retained (entries ++ [outputEntry source line]) lines ∧
      ∀ tail, tail <:+ entries ++ [outputEntry source line] → Fits tail →
        tail.length ≤ lines.length := by
  have hne : store.lines ++ [outputEntry source line] ≠ [] := by simp
  obtain ⟨kept, hsuffix, hkept, hlongest, htrim⟩ := trimTail_spec hne
  have hlongest' : ∀ tail, tail <:+ entries ++ [outputEntry source line] → Fits tail →
      tail.length ≤ kept.length := fun tail htail hfits =>
    longest_concat h hkept hlongest htail hfits
  obtain ⟨init, rfl, hinit⟩ := exists_eq_append_of_suffix_concat hsuffix hkept
  rcases htrim with ⟨hfits, htrim⟩ | ⟨last, hsingle, hover, htrim⟩
  · refine ⟨_, htrim, hfits, .suffix ?_, hlongest'⟩
    have hretained := h.retained
    generalize store.lines = lines at hinit hretained
    cases hretained with
    | suffix hlines =>
      obtain ⟨pre, hpre⟩ := hinit.trans hlines
      exact ⟨pre, by rw [← hpre, List.append_assoc]⟩
    | @oversize _ _ rest _ hover _ hfull =>
      -- the line that was cut leaves no room for the tag of another one
      rcases List.suffix_cons_iff.1 hinit with rfl | hnil
      · have hbytes := hfits.2
        rw [tailBytes_append, tailBytes_singleton, tailBytes_singleton,
          byteLength_outputEntry source line] at hbytes
        omega
      · obtain rfl := List.suffix_nil.1 hnil
        exact List.suffix_append _ _
  · obtain ⟨rfl, heq⟩ : init = [] ∧ outputEntry source line = last := by
      simpa [List.append_eq_singleton_iff] using hsingle
    subst heq
    obtain ⟨rest, hcut, hrest, hle, hfull⟩ := trimLine_outputEntry hover
    refine ⟨[outputEntry source rest], ?_, ⟨Nat.le_of_ble_eq_true rfl, ?_⟩, ?_, hlongest'⟩
    · rw [htrim, hcut, tailBytes_singleton]
      rfl
    · rwa [tailBytes_singleton]
    · exact .oversize List.getLast?_concat hover hrest hfull

/-- **`append_line` behind its writes keeps the tail,** and does not panic. -/
theorem push_isTail (h : IsTail entries store) (source : OutputSource) (line : Line) :
    ∃ store', store.push (outputEntry source line) = some store' ∧
      IsTail (entries ++ [outputEntry source line]) store' := by
  obtain ⟨lines, htrim, hfits, hretained, hlongest⟩ := retained_concat h source line
  have hbytes : store.bytes + (byteLength (outputEntry source line) + 1) =
      tailBytes (store.lines ++ [outputEntry source line]) := by
    rw [h.bytes, tailBytes_append, tailBytes_singleton]
  rw [OutputStore.push, hbytes, htrim]
  refine ⟨_, rfl, rfl, hfits, hretained, hlongest, ?_, ?_, ?_⟩
  · rw [List.length_append, ← h.observedLines]
    rfl
  · rw [tailBytes_append, tailBytes_singleton, ← h.observedBytes]
  · rw [ne_iff_not_fits hfits hretained hlongest]
    dsimp only
    rw [decide_eq_true_eq, Fits, List.length_append, tailBytes_append, tailBytes_singleton,
      h.observedLines, h.observedBytes, List.length_singleton]
    omega

/-! ### Every sequence of appends -/

/-- A call of `append_line`. -/
structure AppendCall where
  io : AppendIo := {}
  source : OutputSource
  line : Line
  terminated : Bool := true

/-- What a call appends: nothing when one of its writes fails. -/
def AppendCall.appended (call : AppendCall) : List Line :=
  if call.io.entry.isNone && (!call.terminated || call.io.newline.isNone) then
    [outputEntry call.source call.line]
  else []

/-- The calls of `append_line` in turn; `none` is a panic. -/
def appendAll (store : OutputStore) (calls : List AppendCall) : Option OutputStore :=
  calls.foldlM (fun store call =>
    (store.appendLine call.io call.source call.line call.terminated).map Prod.snd) store

theorem IsTail.setFile (h : IsTail entries store) (file : List UInt8) :
    IsTail entries { store with file } :=
  ⟨h.bytes, h.fits, h.retained, h.longest, h.observedLines, h.observedBytes, h.truncated⟩

/-- **One call keeps the tail of what has been appended.** -/
theorem appendLine_isTail (h : IsTail entries store) (call : AppendCall) :
    ∃ result store', store.appendLine call.io call.source call.line call.terminated =
        some (result, store') ∧ IsTail (entries ++ call.appended) store' := by
  obtain ⟨⟨entry, newline⟩, source, line, terminated⟩ := call
  cases entry with
  | some failure => exact ⟨_, _, rfl, by simpa [AppendCall.appended] using h.setFile _⟩
  | none =>
    cases terminated with
    | false =>
      obtain ⟨store', hpush, htail⟩ := push_isTail
        (h.setFile (store.file ++ encode (outputEntry source line))) source line
      refine ⟨.ok (store'.details none none), store', ?_, by simpa [AppendCall.appended] using htail⟩
      simp only [OutputStore.appendLine, writeAll, Bool.false_eq_true, if_false]
      rw [hpush]
      rfl
    | true =>
      cases newline with
      | some failure => exact ⟨_, _, rfl, by simpa [AppendCall.appended] using h.setFile _⟩
      | none =>
        obtain ⟨store', hpush, htail⟩ := push_isTail
          (h.setFile (store.file ++ encode (outputEntry source line) ++ [0x0A])) source line
        refine ⟨.ok (store'.details none none), store', ?_,
          by simpa [AppendCall.appended] using htail⟩
        simp only [OutputStore.appendLine, writeAll, if_true]
        rw [hpush]
        rfl

theorem appendAll_isTail_of_isTail (h : IsTail entries store) (calls : List AppendCall) :
    ∃ store', appendAll store calls = some store' ∧
      IsTail (entries ++ calls.flatMap AppendCall.appended) store' := by
  induction calls generalizing entries store with
  | nil => exact ⟨store, rfl, by simpa using h⟩
  | cons call calls ih =>
    obtain ⟨result, next, happend, hnext⟩ := appendLine_isTail h call
    obtain ⟨store', hrun, htail⟩ := ih hnext
    refine ⟨store', ?_, by simpa [List.append_assoc] using htail⟩
    rw [appendAll, List.foldlM_cons, happend]
    exact hrun

/-- **The output that is kept is the tail of the output,** after every sequence of
appends, and no slice of a line panics. -/
theorem appendAll_isTail (file : List UInt8) (log : PathBuf) (command : List Char)
    (calls : List AppendCall) :
    ∃ store, appendAll (OutputStore.new file log command) calls = some store ∧
      IsTail (calls.flatMap AppendCall.appended) store :=
  appendAll_isTail_of_isTail (isTail_new file log command) calls

end Tools
end Moh
