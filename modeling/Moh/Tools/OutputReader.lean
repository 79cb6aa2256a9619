/-
# Reading the output of a command

`tools/bash.rs`: `read_output` reads the bytes of a stream in chunks, decodes what is
available (`decodeAvailable`) and publishes the lines that have ended
(`publishLines`).  The lines it publishes are those of the whole stream, wherever the
chunks are cut: within a sequence of bytes, an invalid part or a line
(`readOutput_eq`).
-/

import Moh.Library.Utf8Stream
import Moh.Tools.Output

namespace Moh
namespace Tools

open Utf8

/-- `StreamCarry`: bytes of a sequence that has not ended, and text of a line that has
not. -/
structure StreamCarry where
  bytes : List UInt8 := []
  text : List Char := []

/-- `decode_available`. -/
def decodeAvailable (carry : StreamCarry) : StreamCarry :=
  match h : fromUtf8 carry.bytes with
  | .ok text => { bytes := [], text := carry.text ++ text }
  | .error ⟨valid, some length⟩ =>
    decodeAvailable
      { bytes := carry.bytes.drop (valid + length)
        text := carry.text ++ decodeLossy (carry.bytes.take valid) ++ [replacement] }
  | .error ⟨valid, none⟩ =>
    { bytes := carry.bytes.drop valid
      text := carry.text ++ decodeLossy (carry.bytes.take valid) }
termination_by carry.bytes.length
decreasing_by exact length_drop_of_invalid h

/-- `trim_end_matches('\r')`. -/
def trimEndCr (line : List Char) : Line :=
  line.rdropWhile (· == '\r')

section
variable {σ : Type} (publish : OutputSource → Line → Bool → σ → Except String σ)
  (source : OutputSource)

/-- `publish_lines`; `publish` is `publish_line` on the store and the job. -/
def publishLines (eof : Bool) (carry : StreamCarry) (s : σ) : Except String (StreamCarry × σ) :=
  match h : carry.text.findIdx? (· == '\n') with
  | some newline => do
    let s ← publish source (trimEndCr (carry.text.take newline)) true s
    publishLines eof { carry with text := carry.text.drop (newline + 1) } s
  | none =>
    if eof && !carry.text.isEmpty then do
      let s ← publish source carry.text false s
      pure ({ carry with text := [] }, s)
    else pure (carry, s)
termination_by carry.text.length
decreasing_by
  obtain ⟨hlt, -⟩ := List.findIdx?_eq_some_iff_getElem.1 h
  simp only [List.length_drop]
  omega

/-- The end of `read_output`, behind its loop. -/
def finishOutput (carry : StreamCarry) (s : σ) : Except String σ := do
  let carry : StreamCarry := if carry.bytes.isEmpty then carry
    else { bytes := [], text := carry.text ++ decodeLossy carry.bytes }
  let (_, s) ← publishLines publish source true carry s
  pure s

/-- The loop of `read_output` over the results of the reads; an empty one is the end of
the stream. -/
def readOutput : List (Except String (List UInt8)) → StreamCarry → σ → Except String σ
  | [], carry, s => finishOutput publish source carry s
  | .error error :: _, _, _ =>
    .error (String.ofList source.name ++ " pipe read failed: " ++ error)
  | .ok chunk :: reads, carry, s =>
    if chunk.isEmpty then finishOutput publish source carry s
    else do
      let carry := decodeAvailable { carry with bytes := carry.bytes ++ chunk }
      let (carry, s) ← publishLines publish source false carry s
      readOutput reads carry s

end

/-! ### Decoding what is available -/

/-- **What is available is decoded,** and the bytes that are left are the start of a
sequence, or none. -/
theorem decodeAvailable_spec (carry : StreamCarry) :
    (decodeAvailable carry).text = carry.text ++ lossy (decodeRun .idle carry.bytes).1 ∧
      decodeRun .idle (decodeAvailable carry).bytes = ([], (decodeRun .idle carry.bytes).2) := by
  fun_induction decodeAvailable carry with
  | case1 carry text h =>
    rw [decodeRun_of_ok h, lossy_map_some]
    exact ⟨rfl, rfl⟩
  | case2 carry valid length h ih =>
    obtain ⟨htext, hstate⟩ := decodeRun_of_invalid h
    refine ⟨ih.1.trans ?_, by rw [hstate]; exact ih.2⟩
    rw [htext]
    simp only [List.append_assoc]
  | case3 carry valid h =>
    obtain ⟨htext, hrest⟩ := decodeRun_of_unfinished h
    rw [htext]
    exact ⟨rfl, hrest⟩

/-! ### Lines of a text -/

/-- The lines of a text that have ended, without their carriage returns. -/
def terminatedLines (text : List Char) : List (Line × Bool) :=
  (text.splitOn '\n').dropLast.map fun line => (trimEndCr line, true)

/-- The rest of a text behind its last newline. -/
def unterminated (text : List Char) : List Char :=
  (text.splitOn '\n').getLast (List.splitOn_ne_nil _ _)

/-- **The lines of an output:** those that have ended, and an unterminated rest. -/
def outputLines (text : List Char) : List (Line × Bool) :=
  terminatedLines text ++ if unterminated text = [] then [] else [(unterminated text, false)]

variable {text : List Char} {line : Line}

theorem terminatedLines_of_notMem (h : '\n' ∉ text) : terminatedLines text = [] := by
  rw [terminatedLines, List.splitOn_eq_singleton h]
  rfl

theorem unterminated_of_notMem (h : '\n' ∉ text) : unterminated text = text := by
  simp only [unterminated, List.splitOn_eq_singleton h, List.getLast_singleton]

theorem terminatedLines_cons (h : '\n' ∉ line) (text : List Char) :
    terminatedLines (line ++ '\n' :: text) = (trimEndCr line, true) :: terminatedLines text := by
  rw [terminatedLines, List.splitOn_append_cons_self_of_not_mem h,
    List.dropLast_cons_of_ne_nil (List.splitOn_ne_nil _ _), List.map_cons]
  rfl

theorem unterminated_cons (h : '\n' ∉ line) (text : List Char) :
    unterminated (line ++ '\n' :: text) = unterminated text := by
  simp only [unterminated, List.splitOn_append_cons_self_of_not_mem h]
  exact List.getLast_cons (List.splitOn_ne_nil _ _)

theorem outputLines_cons (h : '\n' ∉ line) (text : List Char) :
    outputLines (line ++ '\n' :: text) = (trimEndCr line, true) :: outputLines text := by
  rw [outputLines, terminatedLines_cons h, unterminated_cons h]
  rfl

/-- **More text continues the line that has not ended.** -/
theorem lines_append (text more : List Char) :
    terminatedLines (text ++ more) =
        terminatedLines text ++ terminatedLines (unterminated text ++ more) ∧
      unterminated (text ++ more) = unterminated (unterminated text ++ more) := by
  induction hlength : text.length using Nat.strong_induction_on generalizing text with
  | _ n ih =>
    by_cases hmem : '\n' ∈ text
    · obtain ⟨line, rest, rfl, hline⟩ := List.eq_append_cons_of_mem hmem
      have hlt : rest.length < n := by
        rw [← hlength, List.length_append, List.length_cons]
        omega
      obtain ⟨hlines, hrest⟩ := ih rest.length hlt rest rfl
      rw [List.append_assoc, List.cons_append, terminatedLines_cons hline,
        terminatedLines_cons hline, unterminated_cons hline, unterminated_cons hline, hlines]
      exact ⟨rfl, hrest⟩
    · rw [terminatedLines_of_notMem hmem, unterminated_of_notMem hmem]
      exact ⟨rfl, rfl⟩

theorem outputLines_append (text more : List Char) :
    outputLines (text ++ more) =
      terminatedLines text ++ outputLines (unterminated text ++ more) := by
  obtain ⟨hlines, hrest⟩ := lines_append text more
  rw [outputLines, hlines, hrest, List.append_assoc]
  rfl

/-! ### Publishing -/

section
variable {σ : Type} (publish : OutputSource → Line → Bool → σ → Except String σ)
  (source : OutputSource)

/-- Publishes lines one after the other. -/
def publishAll (lines : List (Line × Bool)) (s : σ) : Except String σ :=
  lines.foldlM (fun s line => publish source line.1 line.2 s) s

theorem publishAll_cons (line : Line × Bool) (lines : List (Line × Bool)) (s : σ) :
    publishAll publish source (line :: lines) s =
      publish source line.1 line.2 s >>= publishAll publish source lines := by
  rw [publishAll, List.foldlM_cons]
  rfl

theorem publishAll_append (lines more : List (Line × Bool)) (s : σ) :
    publishAll publish source (lines ++ more) s =
      publishAll publish source lines s >>= publishAll publish source more := by
  rw [publishAll, List.foldlM_append]
  rfl

theorem notMem_of_findIdx? (h : text.findIdx? (· == '\n') = none) : '\n' ∉ text := fun hmem =>
  absurd (List.findIdx?_eq_none_iff.1 h _ hmem) (by simp)

/-- **`publish_lines` publishes the lines that have ended,** and at the end of the stream
the rest. -/
theorem publishLines_eq (eof : Bool) (carry : StreamCarry) (s : σ) :
    publishLines publish source eof carry s =
      publishAll publish source (if eof then outputLines carry.text
        else terminatedLines carry.text) s >>= fun s =>
          .ok ({ carry with text := if eof then [] else unterminated carry.text }, s) := by
  fun_induction publishLines publish source eof carry s with
  | case1 carry s newline h ih =>
    obtain ⟨hlt, hnewline, hbefore⟩ := List.findIdx?_eq_some_iff_getElem.1 h
    have hline : '\n' ∉ carry.text.take newline := by
      intro hmem
      obtain ⟨i, hi, heq⟩ := List.getElem_of_mem hmem
      rw [List.length_take] at hi
      rw [List.getElem_take] at heq
      exact hbefore i (by omega) (by simp [heq])
    have htext : carry.text = carry.text.take newline ++
        '\n' :: carry.text.drop (newline + 1) := by
      have hsplit := List.take_append_drop newline carry.text
      rw [List.drop_eq_getElem_cons hlt, eq_of_beq hnewline] at hsplit
      exact hsplit.symm
    have hlines : (if eof then outputLines carry.text else terminatedLines carry.text) =
        (trimEndCr (carry.text.take newline), true) ::
          if eof then outputLines (carry.text.drop (newline + 1))
          else terminatedLines (carry.text.drop (newline + 1)) := by
      have hout := outputLines_cons hline (carry.text.drop (newline + 1))
      have hended := terminatedLines_cons hline (carry.text.drop (newline + 1))
      rw [← htext] at hout hended
      rw [hout, hended]
      split_ifs <;> rfl
    have hrest : unterminated carry.text = unterminated (carry.text.drop (newline + 1)) := by
      have hrest := unterminated_cons hline (carry.text.drop (newline + 1))
      rwa [← htext] at hrest
    rw [hlines, hrest, publishAll_cons, bind_assoc]
    exact bind_congr ih
  | case2 carry s h heof =>
    have hmem := notMem_of_findIdx? h
    rw [Bool.and_eq_true] at heof
    have hne : carry.text ≠ [] := by simpa using heof.2
    rw [heof.1, if_pos rfl, if_pos rfl, outputLines, terminatedLines_of_notMem hmem,
      unterminated_of_notMem hmem, if_neg hne]
    rw [List.nil_append, publishAll_cons, bind_assoc]
    rfl
  | case3 carry s h heof =>
    have hmem := notMem_of_findIdx? h
    cases eof with
    | false =>
      simp only [Bool.false_eq_true, if_false, terminatedLines_of_notMem hmem,
        unterminated_of_notMem hmem]
      rfl
    | true =>
      have hnil : carry.text = [] := by simpa using heof
      obtain ⟨bytes, text⟩ := carry
      obtain rfl : text = [] := hnil
      rfl

/-! ### Reading in chunks -/

/-- The text of a stream from where the carry stands. -/
def carriedText (carry : StreamCarry) (bytes : List UInt8) : List Char :=
  carry.text ++ decodeLossy (carry.bytes ++ bytes)

theorem finishOutput_eq {carry : StreamCarry} (s : σ) :
    finishOutput publish source carry s =
      publishAll publish source (outputLines (carriedText carry [])) s := by
  have htext : (if carry.bytes.isEmpty then carry
      else { bytes := [], text := carry.text ++ decodeLossy carry.bytes }).text =
      carriedText carry [] := by
    rw [carriedText, List.append_nil]
    split_ifs with hempty
    · rw [List.isEmpty_iff.1 hempty]
      exact (List.append_nil _).symm
    · rfl
  rw [finishOutput, publishLines_eq]
  simp only [if_true, htext]
  rw [bind_assoc]
  exact bind_pure _

/-- **One chunk:** what is decoded and published is what the whole stream has less. -/
theorem carriedText_step (carry : StreamCarry) (chunk bytes : List UInt8) :
    carriedText carry (chunk ++ bytes) =
      carriedText (decodeAvailable { carry with bytes := carry.bytes ++ chunk }) bytes := by
  obtain ⟨htext, hbytes⟩ := decodeAvailable_spec { carry with bytes := carry.bytes ++ chunk }
  rw [carriedText, carriedText, htext, ← List.append_assoc, decodeLossy_eq_lossy,
    decodeLossy_eq_lossy, decodeRun_append, decodeRun_append _ (decodeAvailable _).bytes, hbytes]
  simp only [List.nil_append, lossy_append, List.append_assoc]

theorem readOutput_cons {chunk : List UInt8} (hne : chunk ≠ [])
    (reads : List (Except String (List UInt8))) (carry : StreamCarry) (s : σ) :
    readOutput publish source (.ok chunk :: reads) carry s =
      publishLines publish source false
        (decodeAvailable { carry with bytes := carry.bytes ++ chunk }) s >>= fun next =>
          readOutput publish source reads next.1 next.2 := by
  rw [readOutput, List.isEmpty_eq_false_iff.2 hne, if_neg Bool.false_ne_true]

theorem readOutput_eq_publishAll {chunks : List (List UInt8)}
    (hchunks : ∀ chunk ∈ chunks, chunk ≠ []) (carry : StreamCarry) (s : σ) :
    readOutput publish source (chunks.map .ok) carry s =
      publishAll publish source (outputLines (carriedText carry chunks.flatten)) s := by
  induction chunks generalizing carry s with
  | nil => exact finishOutput_eq publish source s
  | cons chunk chunks ih =>
    rw [List.forall_mem_cons] at hchunks
    rw [List.map_cons, readOutput_cons publish source hchunks.1, publishLines_eq,
      List.flatten_cons, carriedText_step]
    generalize decodeAvailable { carry with bytes := carry.bytes ++ chunk } = next
    have hlines : outputLines (carriedText next chunks.flatten) = terminatedLines next.text ++
        outputLines (carriedText { next with text := unterminated next.text } chunks.flatten) :=
      outputLines_append _ _
    rw [hlines, publishAll_append, bind_assoc]
    exact bind_congr fun s => ih hchunks.2 _ s

/-- **What is published does not depend on the chunks:** it is the lines of the whole
stream, decoded at once, one after the other until one cannot be published. -/
theorem readOutput_eq {chunks : List (List UInt8)} (hchunks : ∀ chunk ∈ chunks, chunk ≠ [])
    (s : σ) : readOutput publish source (chunks.map .ok) {} s =
      publishAll publish source (outputLines (decodeLossy chunks.flatten)) s :=
  readOutput_eq_publishAll publish source hchunks {} s

end

/-- Takes the lines down that are published. -/
def collect (_ : OutputSource) (line : Line) (terminated : Bool) (lines : List (Line × Bool)) :
    Except String (List (Line × Bool)) :=
  .ok (lines ++ [(line, terminated)])

/-- A chunk ends within a character and one within a line break, and the stream within
a sequence. -/
theorem readOutput_eq_sample :
    readOutput collect .stdout
        ([[0xE2], [0x82, 0xAC, 0x0D], [0x0A, 0x62, 0xF0]].map .ok) {} [] =
      publishAll collect .stdout (outputLines
        (decodeLossy [[0xE2], [0x82, 0xAC, 0x0D], [0x0A, 0x62, 0xF0]].flatten)) [] :=
  readOutput_eq collect .stdout (by decide) []

theorem publishAll_collect (source : OutputSource) (lines published : List (Line × Bool)) :
    publishAll collect source lines published = .ok (published ++ lines) := by
  induction lines generalizing published with
  | nil => exact congrArg Except.ok (List.append_nil _).symm
  | cons line lines ih =>
    rw [publishAll_cons]
    exact (ih _).trans (congrArg Except.ok (List.append_assoc _ _ _))

/-- **All lines of the stream are published,** where each can be. -/
theorem readOutput_collect (source : OutputSource) {chunks : List (List UInt8)}
    (hchunks : ∀ chunk ∈ chunks, chunk ≠ []) :
    readOutput collect source (chunks.map .ok) {} [] =
      .ok (outputLines (decodeLossy chunks.flatten)) :=
  (readOutput_eq_publishAll collect source hchunks {} []).trans (publishAll_collect source _ _)

example : outputLines (decodeLossy [0xE2, 0x82, 0xAC, 0x0D, 0x0A, 0x62, 0xF0]) =
    [(['€'], true), (['b', '\uFFFD'], false)] := by
  decide +kernel

end Tools
end Moh
