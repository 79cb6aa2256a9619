/-
# Tool calls of many sessions

The calls of all sessions, interleaved.  A call waits wherever the code awaits: a
read before its file is collected, before the stored anchors are loaded, before
the new ones are saved and before the file is recorded; an edit before it
collects, before it loads, before it replaces the file, and in its read at the
end.  Between two of these points any other call advances and anything else on
the machine changes the file system.
-/

import Moh.Library.Run
import Moh.Tools.Edit

namespace Moh
namespace Tools

open Fallible

/-! ### Calls -/

/-- Where a read stands. -/
inductive ReadPhase where
  | collect
  | load (file : ReadFilePayload)
  | save (file : ReadFilePayload) (hashes : List Anchor)
  | record (file : ReadFilePayload) (hashes : List Anchor)
  | finished (result : Except (Abort ReadToolError) (List Char))

/-- An edit that has its plan. -/
structure Edited where
  payload : EditPayload
  row : AnchorSnapshot
  first : ℕ
  last : ℕ
  replacement : List UInt8

/-- Where an edit stands; `edited` is what it has done to its file. -/
inductive EditPhase where
  | collect
  | load (payload : EditPayload)
  | install (edited : Edited)
  | reread (edited : Edited) (phase : ReadPhase)
  | finished (edited : Option Edited) (result : Except (Abort EditToolError) (List Char))

/-- A call and where it stands. -/
inductive Call where
  | read (args : ReadArgs) (phase : ReadPhase)
  | write (args : WriteArgs) (result : Option (Except (Abort WriteToolError) (List Char)))
  | edit (args : EditArgs) (phase : EditPhase)

/-- What a session asks for. -/
inductive Request where
  | read (args : ReadArgs)
  | write (args : WriteArgs)
  | edit (args : EditArgs)

/-- A call that has not begun to work. -/
def Request.start : Request → Call
  | .read args => .read args .collect
  | .write args => .write args none
  | .edit args => .edit args .collect

/-- What fails in a step, and what changes in it. -/
structure StepIo where
  read : ReadIo := {}
  write : WriteIo := {}
  edit : EditIo := {}

variable (H : Hashing)

/-- The first step of a read. -/
def startRead (io : ReadIo) (cwd : PathBuf) (args : ReadArgs) :
    Tool ReadToolError ReadPayload :=
  if !args.isValid then Tool.fail .invalidArgument
  else collectReadPayload H io.collect cwd args

/-- The second step of a read: the anchors of the text. -/
def findAnchors (io : ReadIo) (file : ReadFilePayload) : Tool ReadToolError (List Anchor) := do
  let stored ← Tool.loadAnchors io.load .store file.canonicalPath
  anchorsFor H stored file

/-- One step of a read. -/
def ReadPhase.step (io : ReadIo) (cwd : PathBuf) (args : ReadArgs) (s : ToolState) :
    ReadPhase → ReadPhase × ToolState
  | .collect =>
    match startRead H io cwd args s with
    | (.ok (.directory text), s) => (.finished (.ok text), s)
    | (.ok (.file file), s) => (.load file, s)
    | (.error e, s) => (.finished (.error e), s)
  | .load file =>
    match findAnchors H io file s with
    | (.ok hashes, s) => (.save file hashes, s)
    | (.error e, s) => (.finished (.error e), s)
  | .save file hashes =>
    match Tool.saveAnchors io.save .store file.canonicalPath
        (snapshot file.checksum file.lines hashes) s with
    | (.ok (), s) => (.record file hashes, s)
    | (.error e, s) => (.finished (.error e), s)
  | .record file hashes =>
    match finishRead H io file hashes s with
    | (result, s) => (.finished result, s)
  | .finished result => (.finished result, s)

/-- The second step of an edit: its plan. -/
def findPlan (io : EditIo) (args : EditArgs) (payload : EditPayload) :
    Tool EditToolError Edited := do
  let stored ← Tool.loadAnchors io.load .runtime payload.canonical
  let replacement ← planEdit payload stored args
  match stored with
  | none => Tool.fail .notRead
  | some row =>
    match anchorRange row args with
    | .ok (first, last) => pure ⟨payload, row, first, last, replacement⟩
    | .error e => Tool.fail e

/-- One step of an edit. -/
def EditPhase.step (io : EditIo) (cwd : PathBuf) (args : EditArgs) (s : ToolState) :
    EditPhase → EditPhase × ToolState
  | .collect =>
    if !args.isValid then
      (.finished none (.error (.error (.invalidArgument "invalid edit arguments"))), s)
    else
      match collectEditPayload H io.collect cwd args.path s with
      | (.ok payload, s) => (.load payload, s)
      | (.error e, s) => (.finished none (.error e), s)
  | .load payload =>
    match findPlan io args payload s with
    | (.ok edited, s) => (.install edited, s)
    | (.error e, s) => (.finished none (.error e), s)
  | .install edited =>
    match installEdit H io.replace edited.payload edited.replacement s with
    | (.ok (), s) => (.reread edited .collect, s)
    | (.error e, s) => (.finished none (.error e), s)
  | .reread edited phase =>
    match phase.step H io.reread cwd { path := args.path } s with
    | (.finished (.ok text), s) => (.finished (some edited) (.ok text), s)
    | (.finished (.error e), s) => (.finished (some edited) (.error (e.map fun _ => .runtime)), s)
    | (phase, s) => (.reread edited phase, s)
  | .finished edited result => (.finished edited result, s)

/-- One step of a call. -/
def Call.step (io : StepIo) (cwd : PathBuf) (s : ToolState) : Call → Call × ToolState
  | .read args phase =>
    match phase.step H io.read cwd args s with
    | (phase, s) => (.read args phase, s)
  | .write args none =>
    match Tools.write H io.write cwd args s with
    | (result, s) => (.write args (some result), s)
  | .write args (some result) => (.write args (some result), s)
  | .edit args phase =>
    match phase.step H io.edit cwd args s with
    | (phase, s) => (.edit args phase, s)

/-! ### The machine -/

/-- A call of a session. -/
structure SessionCall where
  session : ℕ
  cwd : PathBuf
  call : Call

/-- Everything the calls of all sessions share, their observations, and the calls.
`saved` is history: the texts whose anchors were saved, newest first. -/
structure Workbench where
  fs : FileSystem
  anchors : AnchorStore
  observations : ℕ → FileObservations
  calls : List SessionCall
  log : List ToolEvent := []
  saved : List (PathBuf × List Char) := []

/-- What happens next: a session makes a call, a call takes its next step, or
something else changes the file system. -/
inductive Action where
  | begin (session : ℕ) (cwd : PathBuf) (request : Request)
  | advance (index : ℕ) (io : StepIo)
  | external (fs : FileSystem → FileSystem)

namespace Workbench

/-- What a call of a session sees. -/
def view (m : Workbench) (session : ℕ) : ToolState :=
  ⟨m.fs, m.anchors, m.observations session, m.log⟩

/-- The read inside a call that is about to save its anchors. -/
def savingRead : Call → Option ReadFilePayload
  | .read _ (.save file _) => some file
  | .edit _ (.reread _ (.save file _)) => some file
  | _ => none

/-- The anchors have been saved. -/
def hasSaved : Call → Bool
  | .read _ (.record ..) => true
  | .edit _ (.reread _ (.record ..)) => true
  | _ => false

/-- The text whose anchors a step saves. -/
def savedBy (before after : Call) : List (PathBuf × List Char) :=
  match savingRead before with
  | some file =>
    if hasSaved after then [(file.canonicalPath, (normalizeText file.bytes).1)] else []
  | none => []

/-- A call takes its next step. -/
def advance (m : Workbench) (index : ℕ) (io : StepIo) : Workbench :=
  match m.calls[index]? with
  | none => m
  | some c =>
    match c.call.step H io c.cwd (m.view c.session) with
    | (call, s) =>
      { fs := s.fs
        anchors := s.anchors
        observations := Function.update m.observations c.session s.observations
        calls := m.calls.set index { c with call }
        log := s.log
        saved := savedBy c.call call ++ m.saved }

/-- One action. -/
def step (m : Workbench) : Action → Workbench
  | .begin session cwd request => { m with calls := m.calls ++ [⟨session, cwd, request.start⟩] }
  | .advance index io => m.advance H index io
  | .external fs => { m with fs := fs m.fs }

end Workbench

/-! ### One call alone -/

section
variable {H} {cwd : PathBuf} {s : ToolState}

/-- The result of a read that has finished. -/
def ReadPhase.result : ReadPhase → Option (Except (Abort ReadToolError) (List Char))
  | .finished result => some result
  | _ => none

/-- Steps of a read without anything in between. -/
def ReadPhase.steps (H : Hashing) (io : ReadIo) (cwd : PathBuf) (args : ReadArgs) :
    ℕ → ReadPhase × ToolState → ReadPhase × ToolState
  | 0, x => x
  | n + 1, (phase, s) => steps H io cwd args n (phase.step H io cwd args s)

theorem ReadPhase.steps_finished (io : ReadIo) (args : ReadArgs) (n : ℕ)
    (result : Except (Abort ReadToolError) (List Char)) :
    ReadPhase.steps H io cwd args n (.finished result, s) = (.finished result, s) := by
  induction n with
  | zero => rfl
  | succ n ih => exact ih

/-- What a read goes on to when it knows what it has collected. -/
def ReadPayload.rest (H : Hashing) (io : ReadIo) : ReadPayload → Tool ReadToolError (List Char)
  | .directory text => pure text
  | .file payload => hashesFor H io payload >>= fun hashes => finishRead H io payload hashes

theorem read_eq_bind (io : ReadIo) (args : ReadArgs) :
    read H io cwd args s = (startRead H io cwd args >>= ReadPayload.rest H io) s := by
  unfold read startRead
  split_ifs <;> rfl

/-- **Four steps of a read with nothing in between are a read.** -/
theorem ReadPhase.steps_eq_read {io : ReadIo} (hl : io.beforeLoad = {}) (hs : io.beforeSave = {})
    (args : ReadArgs) :
    ReadPhase.steps H io cwd args 4 (.collect, s) =
      (.finished (read H io cwd args s).1, (read H io cwd args s).2) := by
  rw [read_eq_bind, ReadPhase.steps, ReadPhase.step]
  rcases hc : startRead H io cwd args s with ⟨e | payload, t⟩
  · rw [Proc.bind_of_error hc]
    exact ReadPhase.steps_finished io args 3 (.error e)
  rw [Proc.bind_of_ok hc]
  cases payload with
  | directory text => exact ReadPhase.steps_finished io args 3 (.ok text)
  | file file =>
    have hhashes : hashesFor H io file = findAnchors H io file >>= fun hashes =>
        Tool.saveAnchors io.save ReadToolError.store file.canonicalPath
          (snapshot file.checksum file.lines hashes) >>= fun _ => pure hashes := by
      rw [hashesFor, hl, hs, findAnchors, Proc.bind_assoc]
      rfl
    dsimp only
    rw [ReadPhase.steps, ReadPhase.step, ReadPayload.rest, Proc.bind_apply, hhashes]
    rcases hf : findAnchors H io file t with ⟨e | hashes, u⟩
    · rw [Proc.bind_of_error hf]
      exact ReadPhase.steps_finished io args 2 (.error e)
    rw [Proc.bind_of_ok hf]
    dsimp only
    rw [ReadPhase.steps, ReadPhase.step, Proc.bind_apply]
    rcases hv : Tool.saveAnchors io.save ReadToolError.store file.canonicalPath
        (snapshot file.checksum file.lines hashes) u with ⟨e | ⟨⟩, v⟩
    · exact ReadPhase.steps_finished io args 1 (.error e)
    · rfl

end

end Tools
end Moh
