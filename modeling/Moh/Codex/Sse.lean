/-
# Completion evidence in server-sent events

`providers/codex/sse.rs`: the client looks for a completed response in the events of a
streamed body, as it arrives (`observeCompletedSse`).  An event ends at two line
endings, of line feeds and carriage returns in any mix (`nextSseEvent_of_lines`); a
carriage return at the end of the buffer waits for the line feed that may follow.  What
is found in the buffer stays found when more arrives (`nextSseEventFrom_append`), so that
neither the events nor the evidence depend on the chunks of the body
(`observedBody_chunks`).
-/

import Moh.Library.Framing
import Moh.Library.Unicode
import Moh.Library.Utf8

namespace Moh
namespace Codex

/-! ### Where an event ends -/

/-- `matches!(byte, b'\r' | b'\n')`. -/
def isLineEnding (byte : UInt8) : Bool :=
  byte == 0x0D || byte == 0x0A

/-- `sse_line_ending_length`. -/
def sseLineEndingLength (buffer : List UInt8) (index : ℕ) (endOfStream : Bool) : Option ℕ :=
  match buffer[index]?, buffer[index + 1]? with
  | some 0x0D, some 0x0A => some 2
  | some 0x0D, _ => if endOfStream || decide (index + 1 < buffer.length) then some 1 else none
  | some 0x0A, _ => some 1
  | _, _ => none

/-- A line ending has bytes, and they are in the buffer. -/
theorem sseLineEndingLength_spec {buffer : List UInt8} {index length : ℕ} {endOfStream : Bool}
    (h : sseLineEndingLength buffer index endOfStream = some length) :
    0 < length ∧ index + length ≤ buffer.length := by
  have hin : ∀ {i : ℕ} {byte : UInt8}, buffer[i]? = some byte → i < buffer.length :=
    fun hbyte => (List.getElem?_eq_some_iff.1 hbyte).1
  unfold sseLineEndingLength at h
  split at h
  · rename_i hsecond
    obtain rfl := Option.some.inj h
    have := hin hsecond
    omega
  · rename_i hfirst _
    split_ifs at h
    obtain rfl := Option.some.inj h
    have := hin hfirst
    omega
  · rename_i hfirst
    obtain rfl := Option.some.inj h
    have := hin hfirst
    omega
  · cases h

/-- The loop of `next_sse_event`, from `search_from` on. -/
def nextSseEventFrom (buffer : List UInt8) (endOfStream : Bool) (searchFrom : ℕ) :
    Option (ℕ × ℕ) :=
  match hfirst : (buffer.drop searchFrom).findIdx? isLineEnding with
  | none => none
  | some offset =>
    let first := searchFrom + offset
    match hlength : sseLineEndingLength buffer first endOfStream with
    | none => none
    | some firstLength =>
      let second := first + firstLength
      if (buffer[second]?).any isLineEnding then
        (sseLineEndingLength buffer second endOfStream).map fun secondLength =>
          (first, firstLength + secondLength)
      else nextSseEventFrom buffer endOfStream second
termination_by buffer.length - searchFrom
decreasing_by
  obtain ⟨hlt, -⟩ := List.findIdx?_eq_some_iff_getElem.1 hfirst
  have := (sseLineEndingLength_spec hlength).1
  rw [List.length_drop] at hlt
  omega

/-- `next_sse_event`: the length of the first event, and that of its delimiter. -/
def nextSseEvent (buffer : List UInt8) (endOfStream : Bool) : Option (ℕ × ℕ) :=
  nextSseEventFrom buffer endOfStream 0

/-! ### What an event says -/

/-- `normalize_sse_lines`, before the bytes are decoded. -/
def normalizeBytes : List UInt8 → List UInt8
  | 0x0D :: 0x0A :: rest => 0x0A :: normalizeBytes rest
  | 0x0D :: rest => 0x0A :: normalizeBytes rest
  | byte :: rest => byte :: normalizeBytes rest
  | [] => []

/-- `normalize_sse_lines`. -/
def normalizeSseLines (bytes : List UInt8) : List Char :=
  Utf8.decodeLossy (normalizeBytes bytes)

/-- `line.strip_prefix("data:")`. -/
def stripData (line : List Char) : Option (List Char) :=
  if ['d', 'a', 't', 'a', ':'].isPrefixOf line then some (line.drop 5) else none

/-- The data of an event: its `data:` lines without their leading whitespace. -/
def eventData (event : List UInt8) : List Char :=
  ['\n'].intercalate (((Unicode.lines (normalizeSseLines event)).filterMap stripData).map
    fun data => data.dropWhile Unicode.isWhitespace)

/-- `ResponseChunkKind`, as far as it is told apart. -/
inductive ResponseChunkKind where
  | responseCompleted
  | other
deriving DecidableEq, Repr

/-- `ResponseStatus`, as far as it is told apart. -/
inductive ResponseStatus where
  | completed
  | other
deriving DecidableEq, Repr

/-- The fields of a response that are checked. -/
structure CompletionResponse where
  status : ResponseStatus
  error : Option (List Char)
  incompleteDetails : Option (List Char)
deriving DecidableEq

/-- `StreamingCompletionChunk`: a response, or a delta of one. -/
inductive StreamingCompletionChunk where
  | response (kind : ResponseChunkKind) (response : CompletionResponse)
  | delta
deriving DecidableEq

/-- The chunk says that the response is complete, without an error. -/
def isCompleted : StreamingCompletionChunk → Bool
  | .response kind response =>
    kind == .responseCompleted && response.status == .completed && response.error.isNone &&
      response.incompleteDetails.isNone
  | .delta => false

/-! ### Draining the buffer -/

/-- An event that is found lies in the buffer with its delimiter. -/
theorem nextSseEventFrom_spec {buffer : List UInt8} {endOfStream : Bool} {searchFrom : ℕ}
    {event delimiter : ℕ}
    (h : nextSseEventFrom buffer endOfStream searchFrom = some (event, delimiter)) :
    event + delimiter ≤ buffer.length ∧ 0 < delimiter := by
  fun_induction nextSseEventFrom buffer endOfStream searchFrom with
  | case1 => cases h
  | case2 => cases h
  | case3 searchFrom offset hfirst first firstLength hlength second hsecond =>
    obtain ⟨secondLength, hsecondLength, heq⟩ := Option.map_eq_some_iff.1 h
    obtain ⟨rfl, rfl⟩ := Prod.mk.inj heq
    have hpos := (sseLineEndingLength_spec hlength).1
    have hle := (sseLineEndingLength_spec hsecondLength).2
    exact ⟨by omega, by omega⟩
  | case4 searchFrom offset hfirst first firstLength hlength second hsecond ih => exact ih h

/-- The events of a body, each with its delimiter. -/
def sseFramer (endOfStream : Bool) : Framer UInt8 (List UInt8 × List UInt8) where
  next buffer := (nextSseEvent buffer endOfStream).map fun found =>
    ((buffer.take found.1, (buffer.drop found.1).take found.2), buffer.drop (found.1 + found.2))
  shrinks := by
    intro buffer frame rest h
    obtain ⟨⟨event, delimiter⟩, hfound, heq⟩ := Option.map_eq_some_iff.1 h
    obtain ⟨-, rfl⟩ := Prod.mk.inj heq
    obtain ⟨hle, hpos⟩ := nextSseEventFrom_spec hfound
    rw [List.length_drop]
    omega

/-- The event is that of a completed response; `parse` is `serde_json::from_str`. -/
def isCompletedEvent (parse : List Char → Option StreamingCompletionChunk)
    (event : List UInt8 × List UInt8) : Bool :=
  (parse (eventData event.1)).any isCompleted

/-- `observe_completed_sse`: the events that are drained, whether one of them is a
completed response, and the buffer that is left. -/
def observeCompletedSse (parse : List Char → Option StreamingCompletionChunk)
    (buffer bytes : List UInt8) (endOfStream : Bool) :
    List (List UInt8 × List UInt8) × Bool × List UInt8 :=
  let (events, rest) := (sseFramer endOfStream).drain (buffer ++ bytes)
  (events, events.any (isCompletedEvent parse), rest)

/-! ### A body -/

/-- What the client has seen of a body: the events, the evidence and the buffer. -/
structure ObservedBody where
  events : List (List UInt8 × List UInt8) := []
  completed : Bool := false
  buffer : List UInt8 := []
deriving DecidableEq

/-- One call of `observe_completed_sse`, and `observe_completed` after it. -/
def ObservedBody.observe (parse : List Char → Option StreamingCompletionChunk)
    (body : ObservedBody) (bytes : List UInt8) (endOfStream : Bool) : ObservedBody :=
  let (events, observed, buffer) := observeCompletedSse parse body.buffer bytes endOfStream
  { events := body.events ++ events, completed := body.completed || observed, buffer }

/-- One item of the body; an error is passed on without being observed. -/
def ObservedBody.observeItem {ε : Type} (parse : List Char → Option StreamingCompletionChunk)
    (body : ObservedBody) : Except ε (List UInt8) → ObservedBody
  | .ok bytes => body.observe parse bytes false
  | .error _ => body

/-- The observed body of `send_streaming`: its items, and the end of the stream. -/
def observedBody {ε : Type} (parse : List Char → Option StreamingCompletionChunk)
    (items : List (Except ε (List UInt8))) : ObservedBody :=
  (items.foldl (ObservedBody.observeItem parse) {}).observe parse [] true

/-! ### What is found stays found -/

variable {buffer more : List UInt8}

theorem sseLineEndingLength_append {index length : ℕ} (hindex : index < buffer.length)
    (h : sseLineEndingLength buffer index false = some length) :
    sseLineEndingLength (buffer ++ more) index false = some length := by
  have hat : (buffer ++ more)[index]? = buffer[index]? := List.getElem?_append_left hindex
  by_cases hnext : index + 1 < buffer.length
  · have hat' : (buffer ++ more)[index + 1]? = buffer[index + 1]? :=
      List.getElem?_append_left hnext
    have hmore : index + 1 < (buffer ++ more).length := by
      rw [List.length_append]
      omega
    simp only [sseLineEndingLength, hnext, hmore, hat, hat'] at h ⊢
    exact h
  · have hnone : buffer[index + 1]? = none := List.getElem?_eq_none (by omega)
    -- only a line feed is told without the byte behind it
    unfold sseLineEndingLength at h ⊢
    rw [hnone] at h
    rw [hat]
    generalize buffer[index]? = byte at h ⊢
    split at h
    · rename_i hcontra
      cases hcontra
    · split_ifs at h with hcontra
      simp [hnext] at hcontra
    · exact h
    · cases h

/-- The loop behind its first line ending. -/
theorem nextSseEventFrom_of_first {endOfStream : Bool} {searchFrom offset length : ℕ}
    (hfirst : (buffer.drop searchFrom).findIdx? isLineEnding = some offset)
    (hlength : sseLineEndingLength buffer (searchFrom + offset) endOfStream = some length) :
    nextSseEventFrom buffer endOfStream searchFrom =
      if (buffer[searchFrom + offset + length]?).any isLineEnding then
        (sseLineEndingLength buffer (searchFrom + offset + length) endOfStream).map
          fun secondLength => (searchFrom + offset, length + secondLength)
      else nextSseEventFrom buffer endOfStream (searchFrom + offset + length) := by
  rw [nextSseEventFrom.eq_def]
  split
  · rename_i hnone
    cases hfirst.symm.trans hnone
  · rename_i other hother
    obtain rfl := Option.some.inj (hfirst.symm.trans hother)
    dsimp only
    split
    · rename_i hnone
      cases hlength.symm.trans hnone
    · rename_i other hother
      obtain rfl := Option.some.inj (hlength.symm.trans hother)
      rfl

theorem nextSseEventFrom_of_length_le {endOfStream : Bool} {searchFrom : ℕ}
    (h : buffer.length ≤ searchFrom) : nextSseEventFrom buffer endOfStream searchFrom = none := by
  have hnone : (buffer.drop searchFrom).findIdx? isLineEnding = none := by
    rw [List.drop_eq_nil_of_le h]
    rfl
  rw [nextSseEventFrom.eq_def]
  split
  · rfl
  · rename_i hsome
    cases hnone.symm.trans hsome

/-- **An event that is found stays found when more arrives.** -/
theorem nextSseEventFrom_append {searchFrom : ℕ} {found : ℕ × ℕ}
    (h : nextSseEventFrom buffer false searchFrom = some found) :
    nextSseEventFrom (buffer ++ more) false searchFrom = some found := by
  generalize hend : false = endOfStream at h
  fun_induction nextSseEventFrom buffer endOfStream searchFrom with
  | case1 => cases h
  | case2 => cases h
  | case3 searchFrom offset hfirst first firstLength hlength second hsecond =>
    subst hend
    obtain ⟨hoffset, -⟩ := List.findIdx?_eq_some_iff_getElem.1 hfirst
    rw [List.length_drop] at hoffset
    obtain ⟨secondLength, hsecondLength, hfound⟩ := Option.map_eq_some_iff.1 h
    have hlt : second < buffer.length := by
      by_contra hle
      rw [List.getElem?_eq_none (Nat.not_lt.1 hle)] at hsecond
      cases hsecond
    have hfirst' : ((buffer ++ more).drop searchFrom).findIdx? isLineEnding = some offset := by
      rw [List.drop_append_of_le_length (by omega), List.findIdx?_append, hfirst]
      rfl
    have hsecond' : ((buffer ++ more)[second]?).any isLineEnding = true := by
      rwa [List.getElem?_append_left hlt]
    rw [nextSseEventFrom_of_first hfirst' (sseLineEndingLength_append (by omega) hlength),
      if_pos hsecond', sseLineEndingLength_append hlt hsecondLength, Option.map_some]
    exact congrArg some hfound
  | case4 searchFrom offset hfirst first firstLength hlength second hsecond ih =>
    subst hend
    obtain ⟨hoffset, -⟩ := List.findIdx?_eq_some_iff_getElem.1 hfirst
    rw [List.length_drop] at hoffset
    have hlt : second < buffer.length := by
      by_contra hle
      rw [nextSseEventFrom_of_length_le (Nat.not_lt.1 hle)] at h
      cases h
    have hfirst' : ((buffer ++ more).drop searchFrom).findIdx? isLineEnding = some offset := by
      rw [List.drop_append_of_le_length (by omega), List.findIdx?_append, hfirst]
      rfl
    have hsecond' : ¬((buffer ++ more)[second]?).any isLineEnding = true := by
      rwa [List.getElem?_append_left hlt]
    rw [nextSseEventFrom_of_first hfirst' (sseLineEndingLength_append (by omega) hlength),
      if_neg hsecond']
    exact ih h

/-- The events of a body are told by what has arrived. -/
theorem stable_sseFramer : (sseFramer false).Stable := by
  intro buffer frame rest more h
  obtain ⟨⟨event, delimiter⟩, hfound, heq⟩ := Option.map_eq_some_iff.1 h
  obtain ⟨hle, -⟩ := nextSseEventFrom_spec hfound
  obtain ⟨rfl, rfl⟩ := Prod.mk.inj heq
  have htake : (buffer ++ more).take event = buffer.take event :=
    List.take_append_of_le_length (by omega)
  have hdrop : (buffer ++ more).drop event = buffer.drop event ++ more :=
    List.drop_append_of_le_length (by omega)
  have hdelimiter : ((buffer ++ more).drop event).take delimiter =
      (buffer.drop event).take delimiter := by
    rw [hdrop, List.take_append_of_le_length (by rw [List.length_drop]; omega)]
  have hrest : (buffer ++ more).drop (event + delimiter) =
      buffer.drop (event + delimiter) ++ more :=
    List.drop_append_of_le_length hle
  refine Option.map_eq_some_iff.2 ⟨_, nextSseEventFrom_append hfound, ?_⟩
  rw [htake, hdelimiter, hrest]

/-! ### Two line endings end an event -/

/-- The line endings of an event stream: a line feed, a carriage return, or both. -/
def IsEnding (ending : List UInt8) : Prop :=
  ending = [0x0A] ∨ ending = [0x0D] ∨ ending = [0x0D, 0x0A]

/-- The bytes of a line that is not empty. -/
structure IsLine (line : List UInt8) : Prop where
  ne_nil : line ≠ []
  noEnding : ∀ byte ∈ line, isLineEnding byte = false

/-- What is behind an ending does not make it longer, and tells a carriage return from
the first half of an ending, if the end of the stream does not. -/
def EndsBefore (ending behind : List UInt8) (endOfStream : Bool) : Prop :=
  ending = [0x0D] → behind.head? ≠ some 0x0A ∧ (endOfStream = true ∨ behind ≠ [])

section Endings

variable {before ending line behind : List UInt8} {endOfStream : Bool}

theorem IsEnding.exists_cons (h : IsEnding ending) :
    ∃ byte rest, ending = byte :: rest ∧ isLineEnding byte = true := by
  rcases h with rfl | rfl | rfl
  · exact ⟨_, _, rfl, rfl⟩
  · exact ⟨_, _, rfl, rfl⟩
  · exact ⟨_, _, rfl, rfl⟩

/-- An ending is read as a whole. -/
theorem IsEnding.sseLineEndingLength (before : List UInt8) (h : IsEnding ending)
    (hbehind : EndsBefore ending behind endOfStream) :
    sseLineEndingLength (before ++ (ending ++ behind)) before.length endOfStream =
      some ending.length := by
  have hat : ∀ i, (before ++ (ending ++ behind))[before.length + i]? = (ending ++ behind)[i]? :=
    fun i => by rw [List.getElem?_append_right (by omega), Nat.add_sub_cancel_left]
  have hfirst := hat 0
  rw [Nat.add_zero] at hfirst
  rw [Codex.sseLineEndingLength, hfirst, hat 1]
  rcases h with rfl | rfl | rfl
  · rfl
  · obtain ⟨hhead, hmore⟩ := hbehind rfl
    cases behind with
    | nil => simp [hmore.resolve_right (by simp)]
    | cons byte rest =>
      have hbyte : byte ≠ 0x0A := fun heq => hhead (congrArg some heq)
      simp [hbyte]
  · rfl

/-- The first ending behind a line. -/
theorem IsLine.findIdx?_eq (h : IsLine line) (hending : IsEnding ending) :
    (line ++ (ending ++ behind)).findIdx? isLineEnding = some line.length := by
  obtain ⟨byte, rest, rfl, hbyte⟩ := hending.exists_cons
  rw [List.findIdx?_append, List.findIdx?_eq_none_iff.2 h.noEnding]
  simp [List.findIdx?_cons, hbyte]

theorem IsLine.head?_append (h : IsLine line) (behind : List UInt8) :
    ∃ byte, (line ++ behind).head? = some byte ∧ isLineEnding byte = false := by
  obtain ⟨byte, rest, rfl⟩ := List.exists_cons_of_ne_nil h.ne_nil
  exact ⟨byte, rfl, h.noEnding byte (List.mem_cons_self ..)⟩

/-- No line makes the ending before it longer. -/
theorem IsLine.endsBefore (h : IsLine line) (behind : List UInt8) :
    EndsBefore ending (line ++ behind) endOfStream := by
  obtain ⟨byte, hhead, hbyte⟩ := h.head?_append behind
  refine fun _ => ⟨fun hfeed => ?_, .inr fun hnil => ?_⟩
  · rw [hhead] at hfeed
    rw [Option.some.inj hfeed] at hbyte
    cases hbyte
  · rw [hnil] at hhead
    cases hhead

/-- The loop at a line with its ending. -/
theorem IsLine.nextSseEventFrom (before : List UInt8) (h : IsLine line) (hending : IsEnding ending)
    (hbehind : EndsBefore ending behind endOfStream) :
    nextSseEventFrom (before ++ (line ++ (ending ++ behind))) endOfStream before.length =
      if behind.head?.any isLineEnding then
        (Codex.sseLineEndingLength (before ++ (line ++ (ending ++ behind)))
          (before ++ line ++ ending).length endOfStream).map fun length =>
            ((before ++ line).length, ending.length + length)
      else Codex.nextSseEventFrom (before ++ (line ++ (ending ++ behind))) endOfStream
        (before ++ line ++ ending).length := by
  have hfound : ((before ++ (line ++ (ending ++ behind))).drop before.length).findIdx?
      isLineEnding = some line.length := by
    rw [List.drop_left]
    exact h.findIdx?_eq hending
  have hlength : Codex.sseLineEndingLength (before ++ (line ++ (ending ++ behind)))
      (before.length + line.length) endOfStream = some ending.length := by
    have := hending.sseLineEndingLength (before ++ line) hbehind
    rwa [List.append_assoc, List.length_append] at this
  have hnext : (before ++ (line ++ (ending ++ behind)))[before.length + line.length +
      ending.length]? = behind.head? := by
    rw [List.getElem?_append_right (by omega), List.getElem?_append_right (by omega),
      List.getElem?_append_right (by omega), List.head?_eq_getElem?]
    congr 1
    omega
  rw [nextSseEventFrom_of_first hfound hlength, hnext]
  simp only [List.length_append]

variable {lines : List (List UInt8 × List UInt8)} {first second : List UInt8}

/-- The lines of an event, each with the ending behind it. -/
def encodeEndings (lines : List (List UInt8 × List UInt8)) : List UInt8 :=
  lines.flatMap fun entry => entry.1 ++ entry.2

/-- The loop over the lines of an event, up to its delimiter. -/
theorem nextSseEventFrom_of_lines (hlines : ∀ entry ∈ lines, IsLine entry.1 ∧ IsEnding entry.2)
    (hline : IsLine line) (hfirst : IsEnding first) (hsecond : IsEnding second)
    (hapart : EndsBefore first (second ++ behind) endOfStream)
    (hbehind : EndsBefore second behind endOfStream) :
    nextSseEventFrom
        (before ++ (encodeEndings lines ++ (line ++ (first ++ (second ++ behind)))))
        endOfStream before.length =
      some ((before ++ (encodeEndings lines ++ line)).length, first.length + second.length) := by
  induction lines generalizing before with
  | nil =>
    obtain ⟨byte, rest, rfl, hbyte⟩ := hsecond.exists_cons
    have hlength := hsecond.sseLineEndingLength (before ++ line ++ first) hbehind
    simp only [List.append_assoc] at hlength
    rw [encodeEndings, List.flatMap_nil, List.nil_append,
      hline.nextSseEventFrom before hfirst hapart, if_pos (by simpa using hbyte)]
    simp only [List.append_assoc, hlength, Option.map_some, List.nil_append]
  | cons entry lines ih =>
    obtain ⟨hentry, hrest⟩ := List.forall_mem_cons.1 hlines
    -- the line behind is not empty, so the loop goes on there
    have hnext : ∃ text more, IsLine text ∧
        encodeEndings lines ++ (line ++ (first ++ (second ++ behind))) = text ++ more := by
      cases lines with
      | nil => exact ⟨line, _, hline, rfl⟩
      | cons next lines =>
        refine ⟨next.1, next.2 ++ (encodeEndings lines ++ (line ++ (first ++ (second ++ behind)))),
          (hrest next (List.mem_cons_self ..)).1, ?_⟩
        simp only [encodeEndings, List.flatMap_cons, List.append_assoc]
    obtain ⟨text, more, htext, heq⟩ := hnext
    obtain ⟨byte, hhead, hbyte⟩ := htext.head?_append more
    have hgo := hentry.1.nextSseEventFrom before hentry.2
      (htext.endsBefore more : EndsBefore _ _ endOfStream)
    rw [hhead, if_neg (by simp [hbyte]), ← heq] at hgo
    have hih := @ih (before ++ entry.1 ++ entry.2) hrest
    simp only [encodeEndings, List.flatMap_cons, List.append_assoc] at hgo hih ⊢
    rw [hgo, hih]

/-- **An event ends at two endings, each a line feed, a carriage return or both**,
whatever the endings between its lines are. -/
theorem nextSseEvent_of_lines (hlines : ∀ entry ∈ lines, IsLine entry.1 ∧ IsEnding entry.2)
    (hline : IsLine line) (hfirst : IsEnding first) (hsecond : IsEnding second)
    (hapart : EndsBefore first (second ++ behind) endOfStream)
    (hbehind : EndsBefore second behind endOfStream) :
    nextSseEvent (encodeEndings lines ++ (line ++ (first ++ (second ++ behind)))) endOfStream =
      some ((encodeEndings lines ++ line).length, first.length + second.length) :=
  @nextSseEventFrom_of_lines [] line behind endOfStream lines first second hlines hline hfirst
    hsecond hapart hbehind

end Endings

/-! ### Chunks of a body -/

section
variable {ε : Type} (parse : List Char → Option StreamingCompletionChunk)

/-- What has been seen when these events have been found. -/
def ObservedBody.ofFound (found : List (List UInt8 × List UInt8) × List UInt8) : ObservedBody where
  events := found.1
  completed := found.1.any (isCompletedEvent parse)
  buffer := found.2

/-- **The observer feeds the framer** with the chunks of the body. -/
theorem foldl_observeItem (items : List (Except ε (List UInt8)))
    (found : List (List UInt8 × List UInt8) × List UInt8) :
    items.foldl (ObservedBody.observeItem parse) (.ofFound parse found) =
      .ofFound parse ((items.filterMap Except.toOption).foldl (sseFramer false).feed found) := by
  induction items generalizing found with
  | nil => rfl
  | cons item items ih =>
    cases item with
    | error error => exact ih found
    | ok bytes =>
      have hstep : ObservedBody.observeItem parse (.ofFound parse found)
          (.ok bytes : Except ε (List UInt8)) =
            .ofFound parse ((sseFramer false).feed found bytes) := by
        rw [ObservedBody.ofFound, ObservedBody.ofFound, Framer.feed, List.any_append]
        rfl
      rw [List.foldl_cons, hstep, ih]
      rfl

/-- Errors between the chunks change nothing either. -/
theorem observedBody_eq (items : List (Except ε (List UInt8))) :
    observedBody parse items = (ObservedBody.ofFound parse ((sseFramer false).drain
      (items.filterMap Except.toOption).flatten)).observe parse [] true := by
  have hnil : (sseFramer false).next [] = none := by
    show (nextSseEvent [] false).map _ = none
    rw [nextSseEvent, nextSseEventFrom_of_length_le (Nat.zero_le _)]
    rfl
  rw [observedBody, show ({} : ObservedBody) = .ofFound parse ([], []) from rfl,
    foldl_observeItem, ← Framer.feedAll_eq stable_sseFramer hnil]
  rfl

/-- **Completion evidence does not depend on the chunks of the body.**  After the chunks
and the end of the stream, the events and their delimiters, the evidence and the
buffer are those of the stream in one chunk. -/
theorem observedBody_chunks (chunks : List (List UInt8)) :
    observedBody parse (chunks.map (Except.ok : List UInt8 → Except ε (List UInt8))) =
      observedBody parse [(.ok chunks.flatten : Except ε (List UInt8))] := by
  have hall : (chunks.map (Except.ok : List UInt8 → Except ε (List UInt8))).filterMap
      Except.toOption = chunks := by
    rw [List.filterMap_map]
    exact List.filterMap_some
  have hone : [(.ok chunks.flatten : Except ε (List UInt8))].filterMap Except.toOption =
      [chunks.flatten] := rfl
  rw [observedBody_eq, observedBody_eq, hall, hone, List.flatten_singleton]

/-- **The events are cut out of the stream:** with their delimiters and the buffer they
are the stream again. -/
theorem join_drain (endOfStream : Bool) (buffer : List UInt8) :
    ((sseFramer endOfStream).drain buffer).1.flatMap (fun event => event.1 ++ event.2) ++
      ((sseFramer endOfStream).drain buffer).2 = buffer := by
  fun_induction (sseFramer endOfStream).drain buffer with
  | case1 buffer h => rfl
  | case2 buffer frame rest h ih =>
    obtain ⟨⟨event, delimiter⟩, -, heq⟩ := Option.map_eq_some_iff.1 h
    obtain ⟨rfl, rfl⟩ := Prod.mk.inj heq
    rw [List.flatMap_cons, List.append_assoc, ih]
    dsimp only
    rw [List.append_assoc, ← List.drop_drop, List.take_append_drop,
      List.take_append_drop]

end

end Codex
end Moh
