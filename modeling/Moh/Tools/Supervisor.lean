/-
# The supervisor of a command

`tools/bash.rs`: `run_supervisor` spawns Bash and two readers of its streams (`read_output`),
and `finish_child` waits for whatever comes first of the exit, a cancellation, the timeout and
a failure of a reader; it ends the command, waits for the readers and settles the job.  The
readers append lines to the one store and publish its details, each in its own time: between
any two steps of one the other may take some, and so may everybody else who uses the registry
of jobs.

A job that settled says what its command did (`reported_of_run`): its output is the tail of
the lines that were appended, these are, stream by stream, lines of the stream in their order,
and all of them where the job is said to have completed.
-/

import Moh.Tools.JobLease
import Moh.Tools.OutputReader

namespace Moh
namespace Tools
namespace Supervisor

open Utf8 JobWorld

/-! ### The readers -/

/-- How far a reader is: not spawned, in its loop, behind it, or over. -/
inductive Reading where
  | unborn
  | looping
  | ended
  | closed (result : Except String Unit)
  | panicked

/-- A reader, with the details that it has to publish and the bytes that it was given. -/
structure Reader where
  carry : StreamCarry
  reading : Reading
  unsent : Option BashJobDetails
  received : List UInt8

/-- A reader that is not spawned. -/
def Reader.unborn : Reader := ⟨{}, .unborn, none, []⟩

/-- The reader's task is finished. -/
def Reader.joined (r : Reader) : Bool :=
  match r.reading with
  | .closed _ | .panicked => true
  | .unborn | .looping | .ended => false

/-- What the task of a reader failed with; the text of a panic is left out. -/
def Reader.failure (r : Reader) : Option String :=
  match r.reading with
  | .closed (.error reason) => some reason
  | .panicked => some "output reader task failed: "
  | _ => none

/-- The end of the loop of `read_output`: what is left of the bytes is decoded. -/
def StreamCarry.flush (carry : StreamCarry) : StreamCarry :=
  if carry.bytes.isEmpty then carry
  else { bytes := [], text := carry.text ++ decodeLossy carry.bytes }

/-! ### The supervisor -/

/-- The `Outcome` of `finish_child`: the exit with the code of its status, unless the wait
failed, or what came before it. -/
inductive Ending where
  | exited (status : Option (Option ℤ))
  | cancelled
  | timedOut (milliseconds : ℕ)
  | captureFailed (reason : String)

/-- How far the supervisor is: before the spawn, waiting for what comes first, ending the
command, waiting for the readers, over with what it settled the job with, or dropped. -/
inductive Phase where
  | starting
  | running
  | terminating (ending : Ending)
  | joining (ending : Ending)
  | finished (ending : Option Ending) (state : JobState) (details : BashJobDetails)
  | dropped

/-- The store, the readers, the channel of their failures, the supervisor, the registry of
jobs, and the lines that were appended so far. -/
structure World where
  store : OutputStore
  readers : OutputSource → Reader
  failures : List String
  phase : Phase
  jobs : JobWorld BashJobDetails
  log : List (OutputSource × Line × Bool)

/-- The job of the supervisor, and the timeout of its command. -/
structure Job where
  id : JobId
  token : ℕ
  timeoutMs : Option ℕ

/-- What happens: a read of a stream or a step of its reader, what the supervisor comes to,
the end of its task, and what others do with the registry. -/
inductive Move where
  | spawnFails (flush : Option IoErrorKind) (now : Timestamp)
  | pipesMissing (flush : Option IoErrorKind) (now : Timestamp)
  | started
  | read (source : OutputSource) (result : Except String (List UInt8))
  | publish (source : OutputSource) (io : AppendIo)
  | update (source : OutputSource)
  | exit (status : Option (Option ℤ))
  | cancel
  | timeout
  | captureFails
  | terminated
  | finish (flush : Option IoErrorKind) (now : Timestamp)
  | drop (now : Timestamp)
  | other (operation : JobOperation BashJobDetails)

variable (describe : IoErrorKind → String)

/-- A reader gets on. -/
def World.put (w : World) (source : OutputSource) (r : Reader) : World :=
  { w with readers := Function.update w.readers source r }

/-- `read_output` fails, and says so on the channel. -/
def World.fail (w : World) (source : OutputSource) (r : Reader) (reason : String) : World :=
  { w.put source { r with reading := .closed (.error reason) } with
    failures := w.failures ++ [reason] }

/-- `publish_line`, up to its update of the job. -/
def World.append (w : World) (source : OutputSource) (io : AppendIo) (line : Line)
    (terminated : Bool) (r : Reader) : World :=
  match w.store.appendLine io source line terminated with
  | none => w.put source { r with reading := .panicked }
  | some (.error kind, store) =>
    { w with store }.fail source r ("output log write failed: " ++ describe kind)
  | some (.ok details, store) =>
    { w.put source { r with unsent := some details } with
      store, log := w.log ++ [(source, line, terminated)] }

/-- A read of the stream, where all lines that have ended are published. -/
def World.read (w : World) (source : OutputSource) (result : Except String (List UInt8)) : World :=
  let r := w.readers source
  match r.reading, r.unsent, r.carry.text.findIdx? (· == '\n') with
  | .looping, none, none =>
    match result with
    | .error error => w.fail source r (String.ofList source.name ++ " pipe read failed: " ++ error)
    | .ok chunk =>
      if chunk.isEmpty then
        w.put source { r with carry := StreamCarry.flush r.carry, reading := .ended }
      else
        w.put source
          { r with
            carry := decodeAvailable { r.carry with bytes := r.carry.bytes ++ chunk }
            received := r.received ++ chunk }
  | _, _, _ => w

/-- A step of `publish_lines`: the next line that has ended, and behind the loop the rest. -/
def World.publish (w : World) (source : OutputSource) (io : AppendIo) : World :=
  let r := w.readers source
  match r.reading, r.unsent, r.carry.text.findIdx? (· == '\n') with
  | .looping, none, some newline | .ended, none, some newline =>
    w.append describe source io (trimEndCr (r.carry.text.take newline)) true
      { r with carry := { r.carry with text := r.carry.text.drop (newline + 1) } }
  | .ended, none, none =>
    if r.carry.text.isEmpty then w.put source { r with reading := .closed (.ok ()) }
    else
      w.append describe source io r.carry.text false
        { r with carry := { r.carry with text := [] } }
  | _, _, _ => w

/-- The details of a reader are published. -/
def World.update (job : Job) (w : World) (source : OutputSource) : World :=
  let r := w.readers source
  match r.unsent with
  | none => w
  | some details =>
    { w.put source { r with unsent := none } with
      jobs := w.jobs.step (.update job.id job.token details) }

/-- The state, the exit code and the reason that an outcome stands for. -/
def verdict : Ending → JobState × Option ℤ × Option (List Char)
  | .exited (some code) => (.completed, code, none)
  | .exited none => (.failed, none, some "failed to wait for Bash".toList)
  | .cancelled => (.cancelled, none, some "cancelled".toList)
  | .timedOut milliseconds =>
    (.failed, none, some ("timeout after " ++ toString milliseconds ++ " ms").toList)
  | .captureFailed reason => (.failed, none, some ("output capture failed: " ++ reason).toList)

/-- A failure of a reader replaces it. -/
def amended (failure : Option String) (v : JobState × Option ℤ × Option (List Char)) :
    JobState × Option ℤ × Option (List Char) :=
  match failure with
  | none => v
  | some failure => (.failed, none, some ("output capture failed: " ++ failure).toList)

/-- `terminal_details`, and what stands in for them where the log cannot be flushed. -/
def terminalDetails (store : OutputStore) (flush : Option IoErrorKind)
    (v : JobState × Option ℤ × Option (List Char)) : JobState × BashJobDetails :=
  match flush with
  | none => (v.1, store.details v.2.1 v.2.2)
  | some kind => (.failed, store.details none
      (some ("output capture failed: output log flush failed: " ++ describe kind).toList))

/-- The supervisor settles the job; a lease that did not do it is dropped. -/
def World.settle (job : Job) (w : World) (ending : Option Ending)
    (terminal : JobState × BashJobDetails) (now : Timestamp) : World :=
  { w with
    phase := .finished ending terminal.1 terminal.2
    jobs := (w.jobs.step (.finish job.id terminal.1 (.published terminal.2) now)).step
      (.drop job.id now) }

/-- What the readers failed with, that of the first stream before that of the second. -/
def World.readerFailure (w : World) : Option String :=
  (w.readers .stdout).failure.or (w.readers .stderr).failure

/-- The job was cancelled, or is gone from the registry. -/
def World.cancelled (job : Job) (w : World) : Bool :=
  match w.jobs.registry.jobs.find job.id with
  | none => true
  | some entry => entry.cancellation

/-- A step. -/
def step (job : Job) (w : World) : Move → World
  | .spawnFails flush now =>
    match w.phase with
    | .starting => w.settle job none
        (terminalDetails describe w.store flush
          (.failed, none, some "failed to spawn Bash".toList)) now
    | _ => w
  | .pipesMissing flush now =>
    match w.phase with
    | .starting => w.settle job none
        (terminalDetails describe w.store flush
          (.failed, none, some "Bash output pipes are unavailable".toList)) now
    | _ => w
  | .started =>
    match w.phase with
    | .starting =>
      { w with phase := .running, readers := fun _ => { Reader.unborn with reading := .looping } }
    | _ => w
  | .read source result => w.read source result
  | .publish source io => w.publish describe source io
  | .update source => w.update job source
  | .exit status =>
    match w.phase with
    | .running => { w with phase := .joining (.exited status) }
    | _ => w
  | .cancel =>
    match w.phase with
    | .running => if w.cancelled job then { w with phase := .terminating .cancelled } else w
    | _ => w
  | .timeout =>
    match w.phase, job.timeoutMs with
    | .running, some milliseconds => { w with phase := .terminating (.timedOut milliseconds) }
    | _, _ => w
  | .captureFails =>
    match w.phase, w.failures with
    | .running, reason :: failures =>
      { w with phase := .terminating (.captureFailed reason), failures }
    | _, _ => w
  | .terminated =>
    match w.phase with
    | .terminating ending => { w with phase := .joining ending }
    | _ => w
  | .finish flush now =>
    match w.phase with
    | .joining ending =>
      if (w.readers .stdout).joined && (w.readers .stderr).joined then
        w.settle job (some ending)
          (terminalDetails describe w.store flush (amended w.readerFailure (verdict ending))) now
      else w
    | _ => w
  | .drop now =>
    match w.phase with
    | .finished _ _ _ | .dropped => w
    | _ => { w with phase := .dropped, jobs := w.jobs.step (.drop job.id now) }
  | .other operation => { w with jobs := w.jobs.step operation }

/-- What others do with the registry: only the supervisor has the lease of its job. -/
def Foreign (job : Job) (_ : World) : Move → Prop
  | .other (.finish id _ _ _) | .other (.drop id _) => id ≠ job.id
  | _ => True

/-! ### One stream -/

/-- The lines of a stream in the log. -/
def logged (log : List (OutputSource × Line × Bool)) (source : OutputSource) :
    List (Line × Bool) :=
  (log.filter fun entry => entry.1 = source).map Prod.snd

theorem logged_append_self (log : List (OutputSource × Line × Bool)) (source : OutputSource)
    (line : Line) (terminated : Bool) : logged (log ++ [(source, line, terminated)]) source =
      logged log source ++ [(line, terminated)] := by
  simp [logged]

theorem logged_append_of_ne (log : List (OutputSource × Line × Bool))
    {source other : OutputSource} (h : other ≠ source) (line : Line) (terminated : Bool) :
    logged (log ++ [(other, line, terminated)]) source = logged log source := by
  simp [logged, h]

/-- **What a reader has published of its stream,** and what is left of it: whatever comes on
the stream, the lines of the whole are those published and those of what is carried. -/
def Reads (lines : List (Line × Bool)) (r : Reader) : Prop :=
  match r.reading with
  | .unborn => lines = [] ∧ r.received = []
  | .looping => ∀ more, outputLines (decodeLossy (r.received ++ more)) =
      lines ++ outputLines (carriedText r.carry more)
  | .ended => outputLines (decodeLossy r.received) = lines ++ outputLines r.carry.text
  | .closed (.ok ()) => lines = outputLines (decodeLossy r.received)
  | .closed (.error _) => lines <+: outputLines (decodeLossy r.received)
  | .panicked => False

/-- A reader that is spawned has all of the stream before it. -/
theorem reads_start : Reads [] { Reader.unborn with reading := .looping } := by
  intro more
  show outputLines (decodeLossy ([] ++ more)) = [] ++ outputLines ([] ++ decodeLossy ([] ++ more))
  rfl

/-- What a reader published is the start of the lines that it was given. -/
theorem Reads.isPrefix {lines : List (Line × Bool)} {r : Reader} (h : Reads lines r) :
    lines <+: outputLines (decodeLossy r.received) := by
  unfold Reads at h
  split at h
  · rw [h.1]
    exact List.nil_prefix
  · have hlines := h []
    rw [List.append_nil] at hlines
    exact hlines ▸ List.prefix_append _ _
  · exact h ▸ List.prefix_append _ _
  · rw [h]
  · exact h
  · exact h.elim

/-- A chunk is decoded. -/
theorem reads_chunk {lines : List (Line × Bool)} {r : Reader} (hreading : r.reading = .looping)
    (h : Reads lines r) (chunk : List UInt8) :
    Reads lines { r with
      carry := decodeAvailable { r.carry with bytes := r.carry.bytes ++ chunk }
      received := r.received ++ chunk } := by
  simp only [Reads, hreading] at h ⊢
  intro more
  rw [List.append_assoc, h (chunk ++ more), carriedText_step]

/-- The stream ends. -/
theorem reads_flush {lines : List (Line × Bool)} {r : Reader} (hreading : r.reading = .looping)
    (h : Reads lines r) :
    Reads lines { r with carry := StreamCarry.flush r.carry, reading := .ended } := by
  simp only [Reads, hreading] at h ⊢
  have htext : (StreamCarry.flush r.carry).text = carriedText r.carry [] := by
    rw [carriedText, List.append_nil, StreamCarry.flush]
    split_ifs with hempty
    · rw [List.isEmpty_iff.1 hempty]
      exact (List.append_nil _).symm
    · rfl
  rw [htext, ← h [], List.append_nil]

/-- A text with a newline is a line and the rest. -/
theorem text_eq_of_findIdx? {text : List Char} {newline : ℕ}
    (h : text.findIdx? (· == '\n') = some newline) :
    '\n' ∉ text.take newline ∧
      text = text.take newline ++ '\n' :: text.drop (newline + 1) := by
  obtain ⟨hlt, hnewline, hbefore⟩ := List.findIdx?_eq_some_iff_getElem.1 h
  constructor
  · intro hmem
    obtain ⟨i, hi, heq⟩ := List.getElem_of_mem hmem
    rw [List.length_take] at hi
    rw [List.getElem_take] at heq
    exact hbefore i (by omega) (by simp [heq])
  · have hsplit := List.take_append_drop newline text
    rw [List.drop_eq_getElem_cons hlt, eq_of_beq hnewline] at hsplit
    exact hsplit.symm

/-- A line that has ended is published. -/
theorem reads_line {lines : List (Line × Bool)} {r : Reader} {newline : ℕ}
    (hreading : r.reading = .looping ∨ r.reading = .ended) (h : Reads lines r)
    (hnewline : r.carry.text.findIdx? (· == '\n') = some newline)
    (unsent : Option BashJobDetails) :
    Reads (lines ++ [(trimEndCr (r.carry.text.take newline), true)])
      { r with
        carry := { r.carry with text := r.carry.text.drop (newline + 1) }
        unsent } := by
  obtain ⟨hline, htext⟩ := text_eq_of_findIdx? hnewline
  rcases hreading with hreading | hreading
  · simp only [Reads, hreading] at h ⊢
    intro more
    have hcarried : carriedText r.carry more = r.carry.text.take newline ++
        '\n' :: carriedText { r.carry with text := r.carry.text.drop (newline + 1) } more := by
      rw [carriedText, carriedText, ← List.cons_append, ← List.append_assoc, ← htext]
    rw [h more, hcarried, outputLines_cons hline, List.append_assoc]
    rfl
  · simp only [Reads, hreading] at h ⊢
    have hout := outputLines_cons hline (r.carry.text.drop (newline + 1))
    rw [← htext] at hout
    rw [h, hout, List.append_assoc]
    rfl

/-- The rest of the stream is published. -/
theorem reads_rest {lines : List (Line × Bool)} {r : Reader} (hreading : r.reading = .ended)
    (h : Reads lines r) (hnewline : r.carry.text.findIdx? (· == '\n') = none)
    (hne : r.carry.text ≠ []) (unsent : Option BashJobDetails) :
    Reads (lines ++ [(r.carry.text, false)])
      { r with carry := { r.carry with text := [] }, unsent } := by
  have hmem := notMem_of_findIdx? hnewline
  simp only [Reads, hreading] at h ⊢
  have hrest : outputLines r.carry.text = [(r.carry.text, false)] := by
    rw [outputLines, terminatedLines_of_notMem hmem, unterminated_of_notMem hmem, if_neg hne]
    rfl
  rw [h, hrest]
  exact (List.append_nil _).symm

/-! ### The invariant -/

/-- The lines of the log as they are in the store. -/
def entries (log : List (OutputSource × Line × Bool)) : List Line :=
  log.map fun entry => outputEntry entry.1 entry.2.1

/-- A reader that appends nothing any more, or was never spawned. -/
def Reader.Still (r : Reader) : Prop := r.reading = .unborn ∨ r.joined = true

/-- **What the supervisor settles the job with:** the command was not spawned, or all readers
are over and the outcome, what they failed with and the flush of the log decide. -/
def Concluded (w : World) : Option Ending → JobState → BashJobDetails → Prop
  | none, state, details =>
    state = .failed ∧ (∀ source, (w.readers source).reading = .unborn) ∧
      ∃ reason, details = w.store.details none (some reason)
  | some ending, state, details =>
    (∀ source, (w.readers source).joined = true) ∧
      ∃ flush, (state, details) =
        terminalDetails describe w.store flush (amended w.readerFailure (verdict ending))

/-- The supervisor has the lease of its job, which is not settled. -/
def Leased (job : Job) (w : World) : Prop :=
  job.id ∈ w.jobs.leases ∧ job.id ∉ w.jobs.settledIds

/-- The job is its supervisor's until it is settled, and then it is settled as that says. -/
def Owned (job : Job) (w : World) : Phase → Prop
  | .finished ending state details =>
    Concluded describe w ending state details ∧ (∀ source, (w.readers source).Still) ∧
      ∃ snapshot ∈ w.jobs.settled, snapshot.id = job.id ∧ snapshot.state = state ∧
        snapshot.details = .published details
  | .dropped => True
  | .starting => Leased job w ∧ ∀ source, (w.readers source).reading = .unborn
  | .running | .terminating _ | .joining _ => Leased job w

/-- **What holds of a supervisor between any two steps.** -/
structure Inv (job : Job) (w : World) : Prop where
  tail : IsTail (entries w.log) w.store
  streams : ∀ source, Reads (logged w.log source) (w.readers source)
  steady : w.jobs.Steady
  owned : Owned describe job w w.phase

section Steps

variable {describe} {job : Job} {w : World}

/-- A reader that appends nothing has nothing to read or to publish. -/
theorem read_of_still {source : OutputSource} (h : (w.readers source).Still)
    (result : Except String (List UInt8)) : w.read source result = w := by
  unfold World.read
  cases hreading : (w.readers source).reading <;>
    simp_all [Reader.Still, Reader.joined]

theorem publish_of_still {source : OutputSource} (h : (w.readers source).Still)
    (io : AppendIo) : w.publish describe source io = w := by
  unfold World.publish
  cases hreading : (w.readers source).reading <;>
    simp_all [Reader.Still, Reader.joined]

/-- One reader gets on, and has published what the log has of its stream. -/
theorem reads_put (h : ∀ source, Reads (logged w.log source) (w.readers source))
    {source : OutputSource} {r : Reader} (hr : Reads (logged w.log source) r)
    (other : OutputSource) :
    Reads (logged w.log other) ((w.put source r).readers other) := by
  show Reads _ (Function.update w.readers source r other)
  by_cases hother : other = source
  · subst hother
    rw [Function.update_self]
    exact hr
  · rw [Function.update_of_ne hother]
    exact h other

/-- **`append_line` fails and leaves what is kept, or keeps the line;** it does not panic. -/
theorem appendLine_spec {kept : List Line} {store : OutputStore} (h : IsTail kept store)
    (io : AppendIo) (source : OutputSource) (line : Line) (terminated : Bool) :
    (∃ kind store', store.appendLine io source line terminated = some (.error kind, store') ∧
      IsTail kept store') ∨
    ∃ details store', store.appendLine io source line terminated = some (.ok details, store') ∧
      IsTail (kept ++ [outputEntry source line]) store' := by
  obtain ⟨entry, newline⟩ := io
  have hpushed (file : List UInt8) := push_isTail (h.setFile file) source line
  cases entry with
  | some failure => exact .inl ⟨_, _, rfl, h.setFile _⟩
  | none =>
    cases terminated with
    | false =>
      obtain ⟨store', hpush, htail⟩ := hpushed (store.file ++ encode (outputEntry source line))
      refine .inr ⟨store'.details none none, store', ?_, htail⟩
      simp only [OutputStore.appendLine, writeAll, Bool.false_eq_true, if_false, hpush,
        Option.map_some]
    | true =>
      cases newline with
      | some failure => exact .inl ⟨_, _, rfl, h.setFile _⟩
      | none =>
        obtain ⟨store', hpush, htail⟩ :=
          hpushed (store.file ++ encode (outputEntry source line) ++ [0x0A])
        refine .inr ⟨store'.details none none, store', ?_, htail⟩
        simp only [OutputStore.appendLine, writeAll, if_true, hpush, Option.map_some]

/-- What the readers do to the store and the log, where it keeps them. -/
structure Appends (w w' : World) : Prop where
  tail : IsTail (entries w'.log) w'.store
  streams : ∀ source, Reads (logged w'.log source) (w'.readers source)
  phase : w'.phase = w.phase
  jobs : w'.jobs = w.jobs

/-- A reader says what it failed with. -/
theorem appends_fail (htail : IsTail (entries w.log) w.store)
    (hstreams : ∀ source, Reads (logged w.log source) (w.readers source))
    {source : OutputSource} {r : Reader} (reason : String)
    (hr : logged w.log source <+: outputLines (decodeLossy r.received)) :
    Appends w (w.fail source r reason) where
  tail := htail
  streams := reads_put hstreams hr
  phase := rfl
  jobs := rfl

/-- **A line is appended,** or its reader fails. -/
theorem appends_append (htail : IsTail (entries w.log) w.store)
    (hstreams : ∀ source, Reads (logged w.log source) (w.readers source))
    {source : OutputSource} {io : AppendIo} {line : Line} {terminated : Bool} {r : Reader}
    (hsofar : logged w.log source <+: outputLines (decodeLossy r.received))
    (hline : ∀ unsent, Reads (logged w.log source ++ [(line, terminated)]) { r with unsent }) :
    Appends w (w.append describe source io line terminated r) := by
  unfold World.append
  rcases appendLine_spec htail io source line terminated with
    ⟨kind, store, happend, hkept⟩ | ⟨details, store, happend, hkept⟩
  · rw [happend]
    exact { appends_fail (w := { w with store }) hkept hstreams _ hsofar with
      phase := rfl, jobs := rfl }
  · rw [happend]
    refine ⟨?_, fun other => ?_, rfl, rfl⟩
    · show IsTail (List.map _ (w.log ++ [(source, line, terminated)])) store
      rw [List.map_append, List.map_singleton]
      exact hkept
    · show Reads (logged (w.log ++ [(source, line, terminated)]) other)
        (Function.update w.readers source { r with unsent := some details } other)
      by_cases hother : other = source
      · subst hother
        rw [Function.update_self, logged_append_self]
        exact hline _
      · rw [Function.update_of_ne hother, logged_append_of_ne _ (Ne.symm hother)]
        exact hstreams other

/-- A read of a stream. -/
theorem appends_read (htail : IsTail (entries w.log) w.store)
    (hstreams : ∀ source, Reads (logged w.log source) (w.readers source))
    (source : OutputSource) (result : Except String (List UInt8)) :
    Appends w (w.read source result) := by
  have hsame : Appends w w := ⟨htail, hstreams, rfl, rfl⟩
  have hr := hstreams source
  simp only [World.read]
  split
  · rename_i hreading hunsent _
    cases result with
    | error error => exact appends_fail htail hstreams _ hr.isPrefix
    | ok chunk =>
      dsimp only
      split_ifs
      · exact ⟨htail, reads_put hstreams (reads_flush hreading hr), rfl, rfl⟩
      · exact ⟨htail, reads_put hstreams (reads_chunk hreading hr chunk), rfl, rfl⟩
  · exact hsame

/-- A step of `publish_lines`. -/
theorem appends_publish (htail : IsTail (entries w.log) w.store)
    (hstreams : ∀ source, Reads (logged w.log source) (w.readers source))
    (source : OutputSource) (io : AppendIo) : Appends w (w.publish describe source io) := by
  have hsame : Appends w w := ⟨htail, hstreams, rfl, rfl⟩
  have hr := hstreams source
  simp only [World.publish]
  split
  · rename_i newline hreading hunsent hnewline
    exact appends_append htail hstreams hr.isPrefix
      fun unsent => reads_line (.inl hreading) hr hnewline unsent
  · rename_i newline hreading hunsent hnewline
    exact appends_append htail hstreams hr.isPrefix
      fun unsent => reads_line (.inr hreading) hr hnewline unsent
  · rename_i hreading hunsent hnewline
    split_ifs with hempty
    · refine ⟨htail, reads_put hstreams ?_, rfl, rfl⟩
      simp only [Reads, hreading] at hr ⊢
      rw [hr, List.isEmpty_iff.1 hempty]
      exact (List.append_nil _).symm
    · exact appends_append htail hstreams hr.isPrefix
        fun unsent => reads_rest hreading hr hnewline (by simpa using hempty) unsent
  · exact hsame

/-- What the job is depends on how far the readers are, and on the registry. -/
theorem Owned.mono {w' : World} {phase : Phase} (h : Owned describe job w phase)
    (hstore : w'.store = w.store)
    (hreaders : ∀ source, (w'.readers source).reading = (w.readers source).reading)
    (hjobs : job.id ∈ w.jobs.leases → job.id ∉ w.jobs.settledIds →
      job.id ∈ w'.jobs.leases ∧ job.id ∉ w'.jobs.settledIds)
    (hsettled : w.jobs.settled <+: w'.jobs.settled) : Owned describe job w' phase := by
  have hjoined (source : OutputSource) :
      (w'.readers source).joined = (w.readers source).joined := by
    simp only [Reader.joined, hreaders]
  have hfailure : w'.readerFailure = w.readerFailure := by
    simp only [World.readerFailure, Reader.failure, hreaders]
  cases phase with
  | starting => exact ⟨hjobs h.1.1 h.1.2, fun source => (hreaders source).trans (h.2 source)⟩
  | running => exact hjobs h.1 h.2
  | terminating ending => exact hjobs h.1 h.2
  | joining ending => exact hjobs h.1 h.2
  | dropped => exact trivial
  | finished ending state details =>
    obtain ⟨hconcluded, hstill, snapshot, hmem, hsnapshot⟩ := h
    refine ⟨?_, fun source => ?_, snapshot, hsettled.subset hmem, hsnapshot⟩
    · cases ending with
      | none =>
        obtain ⟨hstate, hunborn, reason, hdetails⟩ := hconcluded
        exact ⟨hstate, fun source => (hreaders source).trans (hunborn source), reason,
          hstore ▸ hdetails⟩
      | some ending =>
        obtain ⟨hall, flush, hterminal⟩ := hconcluded
        refine ⟨fun source => (hjoined source).trans (hall source), flush, ?_⟩
        rw [hstore, hfailure]
        exact hterminal
    · simp only [Reader.Still, hreaders, hjoined]
      exact hstill source

/-- A read or a step of `publish_lines` keeps the invariant. -/
theorem Inv.appends (h : Inv describe job w) {w' : World} (ha : Appends w w')
    (hstill : (∀ source, (w.readers source).Still) → w' = w) : Inv describe job w' := by
  refine ⟨ha.tail, ha.streams, ha.jobs ▸ h.steady, ?_⟩
  have howned := h.owned
  rw [ha.phase]
  cases hphase : w.phase with
  | starting =>
    rw [hphase] at howned
    rw [hstill fun source => .inl (howned.2 source)]
    exact howned
  | finished ending state details =>
    rw [hphase] at howned
    rw [hstill howned.2.1]
    exact howned
  | dropped => exact trivial
  | running =>
    rw [hphase] at howned
    show Leased job w'
    rw [Leased, ha.jobs]
    exact howned
  | terminating ending =>
    rw [hphase] at howned
    show Leased job w'
    rw [Leased, ha.jobs]
    exact howned
  | joining ending =>
    rw [hphase] at howned
    show Leased job w'
    rw [Leased, ha.jobs]
    exact howned

/-- What others do to the registry keeps the invariant. -/
theorem Inv.operate (h : Inv describe job w) (operation : JobOperation BashJobDetails)
    (hfinish : ∀ state details now, operation ≠ .finish job.id state details now)
    (hdrop : ∀ now, operation ≠ .drop job.id now) :
    Inv describe job { w with jobs := w.jobs.step operation } :=
  ⟨h.tail, h.streams, JobWorld.steady_step _ _ h.steady,
    h.owned.mono rfl (fun _ => rfl) (lease_of_foreign h.steady operation hfinish hdrop)
      (JobWorld.settled_prefix_step _ _)⟩

/-- The details of a reader are published. -/
theorem Inv.update (h : Inv describe job w) (source : OutputSource) :
    Inv describe job (w.update job source) := by
  unfold World.update
  dsimp only
  split
  · exact h
  · rename_i details hunsent
    have hoperate := h.operate (.update job.id job.token details) (by simp) (by simp)
    have hreading (other : OutputSource) :
        (Function.update w.readers source { w.readers source with unsent := none } other).reading =
          (w.readers other).reading := by
      by_cases hother : other = source
      · subst hother
        rw [Function.update_self]
      · rw [Function.update_of_ne hother]
    refine ⟨hoperate.tail, ?_, hoperate.steady, hoperate.owned.mono rfl hreading
      (fun hlease hsettled => ⟨hlease, hsettled⟩) List.prefix_rfl⟩
    refine reads_put h.streams ?_
    have hr := h.streams source
    unfold Reads at hr ⊢
    exact hr

/-- **The supervisor settles its job.** -/
theorem Inv.settle (h : Inv describe job w) (hlease : Leased job w) {ending : Option Ending}
    {final : JobState × BashJobDetails} (hterminal : terminal final.1 = true)
    (hconcluded : Concluded describe w ending final.1 final.2)
    (hstill : ∀ source, (w.readers source).Still) (now : Timestamp) :
    Inv describe job (w.settle job ending final now) where
  tail := h.tail
  streams := h.streams
  steady := JobWorld.steady_step
    (w.jobs.step (.finish job.id final.1 (.published final.2) now)) (.drop job.id now)
    (JobWorld.steady_step _ _ h.steady)
  owned := by
    refine ⟨?_, hstill, settled_of_finish h.steady hlease.1 hlease.2 hterminal _ now⟩
    cases ending with
    | none => exact hconcluded
    | some ending => exact hconcluded

/-- The supervisor comes to its next phase. -/
theorem Inv.enter (h : Inv describe job w) {p : Phase} (hp : Owned describe job w p)
    {failures : List String} :
    Inv describe job { w with phase := p, failures := failures } :=
  ⟨h.tail, h.streams, h.steady, hp.mono rfl (fun _ => rfl)
    (fun hlease hsettled => ⟨hlease, hsettled⟩) List.prefix_rfl⟩

/-- The readers are spawned. -/
theorem Inv.started (h : Inv describe job w) (hphase : w.phase = .starting) :
    Inv describe job { w with
      phase := .running, readers := fun _ => { Reader.unborn with reading := .looping } } := by
  have howned := h.owned
  rw [hphase] at howned
  refine ⟨h.tail, fun source => ?_, h.steady, howned.1⟩
  have hr := h.streams source
  simp only [Reads, howned.2 source] at hr
  show Reads (logged w.log source) { Reader.unborn with reading := .looping }
  rw [hr.1]
  exact reads_start

theorem terminal_verdict (ending : Ending) : terminal (verdict ending).1 = true := by
  cases ending with
  | exited status => cases status <;> rfl
  | cancelled => rfl
  | timedOut milliseconds => rfl
  | captureFailed reason => rfl

theorem terminal_terminalDetails (store : OutputStore) (flush : Option IoErrorKind)
    {v : JobState × Option ℤ × Option (List Char)} (hv : terminal v.1 = true) :
    terminal (terminalDetails describe store flush v).1 = true := by
  cases flush with
  | none => exact hv
  | some kind => rfl

/-- A command that was not spawned settles as failed. -/
theorem Inv.fail (h : Inv describe job w) (hphase : w.phase = .starting)
    (flush : Option IoErrorKind) (reason : List Char) (now : Timestamp) :
    Inv describe job (w.settle job none
      (terminalDetails describe w.store flush (.failed, none, some reason)) now) := by
  have howned := h.owned
  rw [hphase] at howned
  refine h.settle howned.1 (terminal_terminalDetails _ _ rfl) ?_
    (fun source => .inl (howned.2 source)) now
  cases flush with
  | none => exact ⟨rfl, howned.2, _, rfl⟩
  | some kind => exact ⟨rfl, howned.2, _, rfl⟩

/-- **A step keeps the invariant.** -/
theorem inv_step (w : World) (m : Move) (h : Inv describe job w) (hforeign : Foreign job w m) :
    Inv describe job (step describe job w m) := by
  cases m with
  | spawnFails flush now =>
    simp only [step]
    split
    · rename_i hphase
      exact h.fail hphase flush _ now
    · exact h
  | pipesMissing flush now =>
    simp only [step]
    split
    · rename_i hphase
      exact h.fail hphase flush _ now
    · exact h
  | started =>
    simp only [step]
    split
    · rename_i hphase
      exact h.started hphase
    · exact h
  | read source result =>
    exact h.appends (appends_read h.tail h.streams source result)
      fun hstill => read_of_still (hstill source) result
  | publish source io =>
    exact h.appends (appends_publish h.tail h.streams source io)
      fun hstill => publish_of_still (hstill source) io
  | update source => exact h.update source
  | exit status =>
    have howned := h.owned
    simp only [step]
    split
    · rename_i hphase
      rw [hphase] at howned
      exact h.enter (p := .joining (.exited status)) howned
    · exact h
  | cancel =>
    have howned := h.owned
    simp only [step]
    split
    · rename_i hphase
      rw [hphase] at howned
      split_ifs
      · exact h.enter (p := .terminating .cancelled) howned
      · exact h
    · exact h
  | timeout =>
    have howned := h.owned
    simp only [step]
    split
    · rename_i milliseconds hphase _
      rw [hphase] at howned
      exact h.enter (p := .terminating (.timedOut milliseconds)) howned
    · exact h
  | captureFails =>
    have howned := h.owned
    simp only [step]
    split
    · rename_i reason failures hphase _
      rw [hphase] at howned
      exact h.enter (p := .terminating (.captureFailed reason)) howned
    · exact h
  | terminated =>
    have howned := h.owned
    simp only [step]
    split
    · rename_i ending hphase
      rw [hphase] at howned
      exact h.enter (p := .joining ending) howned
    · exact h
  | finish flush now =>
    have howned := h.owned
    simp only [step]
    split
    · rename_i ending hphase
      rw [hphase] at howned
      split_ifs with hjoined
      · rw [Bool.and_eq_true] at hjoined
        have hall (source : OutputSource) : (w.readers source).joined = true := by
          cases source with
          | stdout => exact hjoined.1
          | stderr => exact hjoined.2
        have hterminal : terminal (amended w.readerFailure (verdict ending)).1 = true := by
          cases w.readerFailure with
          | none => exact terminal_verdict ending
          | some failure => rfl
        have hconcluded : Concluded describe w (some ending) _ _ := ⟨hall, flush, rfl⟩
        exact h.settle howned (terminal_terminalDetails _ _ hterminal) hconcluded
          (fun source => .inr (hall source)) now
      · exact h
    · exact h
  | drop now =>
    simp only [step]
    split
    · exact h
    · exact h
    · exact ⟨h.tail, h.streams, JobWorld.steady_step w.jobs (.drop job.id now) h.steady, trivial⟩
  | other operation =>
    refine h.operate operation ?_ ?_
    · rintro state details now rfl
      exact hforeign rfl
    · rintro now rfl
      exact hforeign rfl

end Steps

/-! ### Every run -/

/-- A supervisor whose job was just started. -/
def World.start (jobs : JobWorld BashJobDetails) (log : PathBuf) (command : List Char) : World where
  store := OutputStore.new [] log command
  readers _ := Reader.unborn
  failures := []
  phase := .starting
  jobs := jobs
  log := []

variable {describe} {job : Job}

/-- The job that was just started is its supervisor's. -/
theorem inv_start {jobs : JobWorld BashJobDetails} (h : jobs.Steady) {kind : JobKind}
    {title : String} {details : BashJobDetails} {now : Timestamp}
    (hstart : (jobs.registry.start kind title details now).result = .ok job.id) (log : PathBuf)
    (command : List Char) :
    Inv describe job (.start (jobs.step (.start kind title details now)) log command) := by
  have hstep : jobs.step (.start kind title details now) =
      (jobs.record (jobs.registry.start kind title details now)).grant job.id := by
    rw [JobWorld.step, hstart]
  have hfresh : job.id ∉ jobs.settledIds := by
    intro hmem
    have hlt := h.sound.started_lt _ (h.sound.settled_mem_started hmem)
    rw [id_of_start hstart] at hlt
    exact lt_irrefl _ hlt
  refine ⟨isTail_new [] log command, fun source => ⟨rfl, rfl⟩,
    JobWorld.steady_step jobs (.start kind title details now) h, ⟨?_, ?_⟩, fun source => rfl⟩
  · show job.id ∈ (jobs.step (.start kind title details now)).leases
    rw [hstep]
    exact List.mem_append_right _ (List.mem_singleton_self _)
  · show job.id ∉ (jobs.step (.start kind title details now)).settledIds
    rw [hstep]
    exact notMem_settledIds_record hfresh fun snapshot hmem => by simp [settled_start] at hmem

/-- All lines of a stream whose reader did not fail are there. -/
theorem logged_eq_of_joined {w : World} {source : OutputSource}
    (h : Reads (logged w.log source) (w.readers source))
    (hjoined : (w.readers source).joined = true) (hfailure : (w.readers source).failure = none) :
    logged w.log source = outputLines (decodeLossy (w.readers source).received) := by
  unfold Reads at h
  unfold Reader.joined at hjoined
  unfold Reader.failure at hfailure
  cases hreading : (w.readers source).reading with
  | closed result =>
    cases result with
    | ok done =>
      rw [hreading] at h
      exact h
    | error reason => simp [hreading] at hfailure
  | panicked => simp [hreading] at hfailure
  | _ => simp [hreading] at hjoined

/-- A job that completed or was cancelled did so by its outcome, and no reader failed. -/
theorem verdict_of_terminalDetails {w : World} {ending : Ending} {flush : Option IoErrorKind}
    {state : JobState} {details : BashJobDetails} (hstate : state ≠ .failed)
    (h : (state, details) =
      terminalDetails describe w.store flush (amended w.readerFailure (verdict ending))) :
    (w.readers .stdout).failure = none ∧ (w.readers .stderr).failure = none ∧
      state = (verdict ending).1 ∧ details.exitCode = (verdict ending).2.1 ∧
      details.reason = (verdict ending).2.2 := by
  cases flush with
  | some kind => exact absurd (congrArg Prod.fst h) hstate
  | none =>
    cases hfailure : w.readerFailure with
    | some failure =>
      rw [hfailure] at h
      exact absurd (congrArg Prod.fst h) hstate
    | none =>
      rw [hfailure] at h
      have hnone := Option.or_eq_none_iff.1 hfailure
      obtain ⟨rfl, rfl⟩ := Prod.mk.inj h
      exact ⟨hnone.1, hnone.2, rfl, rfl, rfl⟩

/-- **A settled job says what its command did.**  However the two readers, the exit, the
cancellation, the timeout, the failures and all other uses of the registry interleave, and
wherever the streams are cut into reads: when the supervisor is over, its job is settled in
the registry with its state and its details; the output is the tail of the lines that were
appended, which are for each stream the first lines of that stream, in their order; and if
the state is not a failure, they are all of its lines, and the state, the exit code and the
reason are those of what the supervisor was waiting for. -/
theorem reported_of_run (describe : IoErrorKind → String) (job : Job)
    (operations : List (JobOperation BashJobDetails)) (title : String) (details : BashJobDetails)
    (now : Timestamp) (log : PathBuf) (command : List Char)
    (hstart : ((Run.run JobWorld.step .new operations).registry.start .bash title details
      now).result = .ok job.id) (moves : List Move)
    (hforeign : Run.Guarded (step describe job) (Foreign job)
      (.start ((Run.run JobWorld.step .new operations).step (.start .bash title details now)) log
        command) moves) :
    let w := Run.run (step describe job)
      (.start ((Run.run JobWorld.step .new operations).step (.start .bash title details now)) log
        command) moves
    ∀ ending state details, w.phase = .finished ending state details →
      (∃ snapshot ∈ w.jobs.settled, snapshot.id = job.id ∧ snapshot.state = state ∧
        snapshot.details = .published details) ∧
      IsTail (entries w.log) w.store ∧
      details = w.store.details details.exitCode details.reason ∧
      (∀ source, logged w.log source <+: outputLines (decodeLossy (w.readers source).received)) ∧
      (state ≠ .failed →
        (∃ outcome, ending = some outcome ∧
          (state, details.exitCode, details.reason) = verdict outcome) ∧
        ∀ source, logged w.log source = outputLines (decodeLossy (w.readers source).received)) := by
  intro w ending state details hphase
  have hsteady : (Run.run JobWorld.step .new operations).Steady :=
    Run.run_invariant JobWorld.steady_step JobWorld.steady_new operations
  have h : Inv describe job w := Run.run_invariant_of_guarded
    (fun w m hw hm => inv_step w m hw hm) (inv_start hsteady hstart log command) hforeign
  have howned := h.owned
  rw [hphase] at howned
  obtain ⟨hconcluded, -, hsettled⟩ := howned
  cases ending with
  | none =>
    obtain ⟨hfailed, hunborn, reason, hdetails⟩ := hconcluded
    exact ⟨hsettled, h.tail, by rw [hdetails]; rfl, fun source => (h.streams source).isPrefix,
      fun hstate => absurd hfailed hstate⟩
  | some outcome =>
    obtain ⟨hall, flush, hterminal⟩ := hconcluded
    refine ⟨hsettled, h.tail, ?_, fun source => (h.streams source).isPrefix, fun hstate => ?_⟩
    · have hdetails : details = (terminalDetails describe w.store flush
          (amended w.readerFailure (verdict outcome))).2 := congrArg Prod.snd hterminal
      cases flush with
      | none =>
        rw [hdetails]
        rfl
      | some kind =>
        rw [hdetails]
        rfl
    · obtain ⟨hstdout, hstderr, hverdict, hcode, hreason⟩ :=
        verdict_of_terminalDetails hstate hterminal
      refine ⟨⟨outcome, rfl, ?_⟩, fun source => ?_⟩
      · rw [hverdict, hcode, hreason]
      · cases source with
        | stdout => exact logged_eq_of_joined (h.streams _) (hall _) hstdout
        | stderr => exact logged_eq_of_joined (h.streams _) (hall _) hstderr

/-- A command that writes a line to either stream, the second cut into two reads and not
ended, and exits. -/
def twoStreams : List Move :=
  [.started, .read .stdout (.ok [0x61, 0x0A]), .read .stderr (.ok [0x62]), .exit (some (some 0)),
    .publish .stdout {}, .read .stderr (.ok [0x63]), .read .stderr (.ok []), .publish .stderr {},
    .update .stderr, .update .stdout, .read .stdout (.ok []), .publish .stderr {},
    .publish .stdout {}, .finish none default]

/-- The supervisor settled its job as completed. -/
def Phase.isCompleted : Phase → Bool
  | .finished _ .completed _ => true
  | _ => false

theorem Phase.eq_of_isCompleted {phase : Phase} (h : phase.isCompleted = true) :
    ∃ ending details, phase = .finished ending .completed details := by
  cases phase with
  | finished ending state details =>
    cases state with
    | completed => exact ⟨ending, details, rfl⟩
    | _ => simp [Phase.isCompleted] at h
  | _ => simp [Phase.isCompleted] at h

/-- The job of that command is settled as completed, and its log has the lines of both
streams. -/
theorem reported_of_run_twoStreams :
    let w := Run.run (step (fun _ => "") ⟨0, 0, none⟩)
      (.start (JobWorld.new.step (.start .bash "" ⟨[], [], none, false, none, none⟩ 0)) [] [])
      twoStreams
    (∃ snapshot ∈ w.jobs.settled, snapshot.id = 0 ∧ snapshot.state = .completed) ∧
      logged w.log .stdout = [(['a'], true)] ∧ logged w.log .stderr = [(['b', 'c'], false)] := by
  intro w
  have hdone : w.phase.isCompleted = true := by decide +kernel
  obtain ⟨ending, details, hphase⟩ := Phase.eq_of_isCompleted hdone
  obtain ⟨⟨snapshot, hmem, hid, hstate, -⟩, -, -, -, hcompleted⟩ :=
    reported_of_run (fun _ => "") ⟨0, 0, none⟩ [] "" ⟨[], [], none, false, none, none⟩ 0 [] [] rfl
      twoStreams ⟨trivial, trivial, trivial, trivial, trivial, trivial, trivial, trivial, trivial,
        trivial, trivial, trivial, trivial, trivial, trivial⟩ ending .completed details hphase
  refine ⟨⟨snapshot, hmem, hid, hstate⟩, ?_, ?_⟩
  · exact ((hcompleted (by decide)).2 .stdout).trans (by decide +kernel)
  · exact ((hcompleted (by decide)).2 .stderr).trans (by decide +kernel)

end Supervisor
end Tools
end Moh
