/-
# The reader

`tools/read.rs`: `ReadService::read`.  The reader collects the text of a file,
takes its anchors from the store or allocates them, saves them for the next read,
and records what it has seen.  A directory is listed instead.
-/

import Moh.Tools.State
import Mathlib.Data.List.Sort

namespace Moh
namespace Tools

open Fallible

/-- `ReadArgs`. -/
structure ReadArgs where
  path : List Char
  offset : Option ℕ := none
  limit : Option ℕ := none

/-- The rules of `ReadArgs`: a path, and positive numbers. -/
def ReadArgs.isValid (args : ReadArgs) : Bool :=
  args.path != [] && args.offset != some 0 && args.limit != some 0

/-- `ReadToolError`. -/
inductive ReadToolError where
  | invalidArgument
  | notFound
  | access
  | notText
  | fileTooLarge
  | store
  | worker
deriving DecidableEq, Repr

/-- The texts of `ReadToolError`. -/
def ReadToolError.message : ReadToolError → String
  | .invalidArgument => "[E_INVALID_ARGUMENT] invalid read arguments"
  | .notFound => "[E_NOT_FOUND] file not found"
  | .access => "[E_ACCESS] file could not be accessed"
  | .notText => "[E_NOT_TEXT] hashline reading only supports regular text files"
  | .fileTooLarge => "[E_FILE_TOO_LARGE] file exceeds the text-reader size limit"
  | .store => "[E_STORE] durable anchor storage is unavailable"
  | .worker => "[E_RUNTIME] read tool worker failed"

/-- `map_io_error`. -/
def mapIoError : IoErrorKind → ReadToolError
  | .notFound => .notFound
  | _ => .access

/-! ### Output -/

/-- A number in decimal. -/
def decimal (n : ℕ) : List Char := Nat.toDigits 10 n

/-- `MAX_RENDERED_ROW_BYTES`. -/
def maxRenderedRowBytes : ℕ := 204800

/-- `DEFAULT_LIMIT`. -/
def defaultLimit : ℕ := 2000

/-- `append_lossy_warning`. -/
def appendLossyWarning (result : List Char) (hadUtf8DecodeErrors : Bool) : List Char :=
  if hadUtf8DecodeErrors then
    result ++ "\n[Non-UTF-8 bytes shown as U+FFFD; editing rewrites the file as UTF-8.]".toList
  else result

/-- One row of `format_output`. -/
def renderRow (lines : List Line) (hashes : List Anchor) (index : ℕ) : List Char :=
  let row := hashes.getD index [] ++ '│' :: lines.getD index []
  let size := (Utf8.encode row).length
  if maxRenderedRowBytes < size then
    "[Line ".toList ++ decimal (index + 1) ++ " is ".toList ++ decimal size ++
      " bytes, exceeds 204800 bytes; content not shown. Use bash: sed -n '".toList ++
      decimal (index + 1) ++ "p' <path> | head -c 204800]".toList
  else row

/-- `format_output`. -/
def formatOutput (lines : List Line) (hashes : List Anchor) (offset limit : ℕ)
    (hadUtf8DecodeErrors : Bool) : List Char :=
  let totalLines := lines.length
  let start := offset - 1
  let isEmpty := lines = [[]]
  if totalLines ≤ start then
    appendLossyWarning
      (if isEmpty then
        "Offset ".toList ++ decimal offset ++
          " is beyond end of file (0 lines total). The file is empty. ".toList ++
          "Use replace to insert content.".toList
      else
        "Offset ".toList ++ decimal offset ++ " is beyond end of file (".toList ++
          decimal totalLines ++ " lines total). Use offset=1 to read from the start, ".toList ++
          "or offset=".toList ++ decimal totalLines ++ " to read the last line.".toList)
      hadUtf8DecodeErrors
  else if isEmpty ∧ offset = 1 then
    appendLossyWarning
      (hashes.getD 0 [] ++ '│' :: "\n[File is empty. Use replace to insert content.]".toList)
      hadUtf8DecodeErrors
  else
    let stop := min (start + limit) totalLines
    let rows := (List.range (stop - start)).map fun i => renderRow lines hashes (start + i)
    let shown := ['\n'].intercalate rows
    appendLossyWarning
      (if stop < totalLines then
        shown ++ "\n[Showing lines ".toList ++ decimal (start + 1) ++ ['-'] ++ decimal stop ++
          " of ".toList ++ decimal totalLines ++ ". Use offset=".toList ++ decimal (stop + 1) ++
          " to continue.]".toList
      else shown)
      hadUtf8DecodeErrors

/-- `format_directory_output`. -/
def formatDirectoryOutput (entries : List (List Char)) (offset limit : ℕ) : List Char :=
  let totalEntries := entries.length
  let start := offset - 1
  if entries = [] then "[Directory is empty.]".toList
  else if totalEntries ≤ start then
    "Offset ".toList ++ decimal offset ++ " is beyond end of directory (".toList ++
      decimal totalEntries ++ " entries total). Use offset=1 to list from the start, ".toList ++
      "or offset=".toList ++ decimal totalEntries ++ " to list the last entry.".toList
  else
    let stop := min (start + limit) totalEntries
    let shown := ['\n'].intercalate ((entries.drop start).take (stop - start))
    if stop < totalEntries then
      shown ++ "\n[Showing entries ".toList ++ decimal (start + 1) ++ ['-'] ++ decimal stop ++
        " of ".toList ++ decimal totalEntries ++ ". Use offset=".toList ++ decimal (stop + 1) ++
        " to continue.]".toList
    else shown

/-- `list_directory`, from the names and kinds the directory yields. -/
def listDirectory (entries : List (List Char × Bool)) (offset limit : ℕ) : List Char :=
  let sorted := entries.mergeSort fun a b => !(b.1 < a.1 : Bool)
  formatDirectoryOutput (sorted.map fun entry => if entry.2 then entry.1 ++ ['/'] else entry.1)
    offset limit

/-! ### Collecting -/

/-- What fails in `collect_read_payload`, and what changes on the way. -/
structure CollectReadIo where
  worker : Bool := false
  canonicalize : Option IoErrorKind := none
  beforeMetadata : FileSystem → FileSystem := id
  metadata : Option IoErrorKind := none
  entries : Except IoErrorKind (List (List Char × Bool)) := .ok []
  beforeTextMetadata : FileSystem → FileSystem := id
  textMetadata : Option IoErrorKind := none
  beforeOpen : FileSystem → FileSystem := id
  openFile : Option IoErrorKind := none

/-- The changes of others, in order. -/
def CollectReadIo.drifts (io : CollectReadIo) : List Drift :=
  [.ofFs io.beforeMetadata, .ofFs io.beforeTextMetadata, .ofFs io.beforeOpen]

/-- `ReadFilePayload`. -/
structure ReadFilePayload where
  requestedPath : PathBuf
  canonicalPath : PathBuf
  bytes : List UInt8
  lines : List Line
  checksum : List Char
  offset : ℕ
  limit : ℕ
  hadUtf8DecodeErrors : Bool

/-- `ReadPayload`. -/
inductive ReadPayload where
  | directory (text : List Char)
  | file (file : ReadFilePayload)

/-- The path a call asks for: relative paths start in the session's directory. -/
def requestedPath (cwd : PathBuf) (path : List Char) : PathBuf :=
  cwd.join (PathBuf.ofText path)

/-- An answer of the system, unless it fails. -/
def answer (fault : Option IoErrorKind) (x : Except IoErrorKind α) : Except IoErrorKind α :=
  match fault with
  | some kind => .error kind
  | none => x

/-- `read_text_bytes`. -/
def readTextBytes (io : CollectReadIo) (path : PathBuf) : Tool ReadToolError (List UInt8) := do
  Tool.drift (.ofFs io.beforeTextMetadata)
  let s ← Tool.state
  match ← Tool.ofExcept (answer io.textMetadata (s.fs.lookup path)) mapIoError with
  | .file bytes _ =>
    if maxBytes < bytes.length then Tool.fail .fileTooLarge
    else do
      Tool.drift (.ofFs io.beforeOpen)
      let s ← Tool.state
      match ← Tool.ofExcept (answer io.openFile (s.fs.lookup path)) mapIoError with
      | .file bytes _ =>
        if maxBytes < bytes.length then Tool.fail .fileTooLarge
        else if isText bytes then pure bytes
        else Tool.fail .notText
      | _ => Tool.fail .notText
  | _ => Tool.fail .notText

/-- What `collect_read_payload` makes of the bytes. -/
def readFilePayload (H : Hashing) (requested canonical : PathBuf) (args : ReadArgs)
    (bytes : List UInt8) : ReadFilePayload where
  requestedPath := requested
  canonicalPath := canonical
  bytes
  lines := logicalLines (normalizeText bytes).1
  checksum := textChecksum H (normalizeText bytes).1
  offset := args.offset.getD 1
  limit := args.limit.getD defaultLimit
  hadUtf8DecodeErrors := (normalizeText bytes).2

/-- `collect_read_payload` for a path that is no directory. -/
def collectFile (H : Hashing) (io : CollectReadIo) (requested canonical : PathBuf)
    (args : ReadArgs) : Tool ReadToolError ReadPayload := do
  let bytes ← readTextBytes io canonical
  let file := readFilePayload H requested canonical args bytes
  if maxLines < file.lines.length then Tool.fail .fileTooLarge
  else pure (.file file)

/-- `collect_read_payload`. -/
def collectReadPayload (H : Hashing) (io : CollectReadIo) (cwd : PathBuf) (args : ReadArgs) :
    Tool ReadToolError ReadPayload := do
  Tool.check io.worker .worker
  let requested := requestedPath cwd args.path
  let s ← Tool.state
  let canonical ← Tool.ofExcept (answer io.canonicalize (s.fs.resolve requested)) mapIoError
  Tool.drift (.ofFs io.beforeMetadata)
  let s ← Tool.state
  match ← Tool.ofExcept (answer io.metadata (s.fs.lookup canonical)) mapIoError with
  | .directory => do
    let entries ← Tool.ofExcept io.entries mapIoError
    pure (.directory (listDirectory entries (args.offset.getD 1) (args.limit.getD defaultLimit)))
  | _ => collectFile H io requested canonical args

/-! ### Reading -/

/-- What fails in `read`, and what changes on the way. -/
structure ReadIo where
  collect : CollectReadIo := {}
  beforeLoad : Drift := {}
  load : Bool := false
  beforeSave : Drift := {}
  save : Bool := false
  record : Bool := false

/-- The changes of others, in order. -/
def ReadIo.drifts (io : ReadIo) : List Drift :=
  io.collect.drifts ++ [io.beforeLoad, io.beforeSave]

/-- The anchors of a text, from the stored snapshot or new ones. -/
def anchorsFor (H : Hashing) (stored : Option AnchorSnapshot) (file : ReadFilePayload) :
    Tool ReadToolError (List Anchor) :=
  match hashesFromSnapshot H stored file.checksum file.lines with
  | some hashes => pure hashes
  | none => Proc.fail (.panicked .allocate)

/-- `hashes_for`. -/
def hashesFor (H : Hashing) (io : ReadIo) (file : ReadFilePayload) :
    Tool ReadToolError (List Anchor) := do
  Tool.drift io.beforeLoad
  let stored ← Tool.loadAnchors io.load .store file.canonicalPath
  let hashes ← anchorsFor H stored file
  Tool.drift io.beforeSave
  Tool.saveAnchors io.save .store file.canonicalPath (snapshot file.checksum file.lines hashes)
  pure hashes

/-- The end of `read`: the observation is recorded and the rows are returned. -/
def finishRead (H : Hashing) (io : ReadIo) (file : ReadFilePayload) (hashes : List Anchor) :
    Tool ReadToolError (List Char) := do
  Tool.recordObservation H io.record .store file.requestedPath file.canonicalPath file.bytes
  pure (formatOutput file.lines hashes file.offset file.limit file.hadUtf8DecodeErrors)

/-- `ReadService::read`. -/
def read (H : Hashing) (io : ReadIo) (cwd : PathBuf) (args : ReadArgs) :
    Tool ReadToolError (List Char) :=
  if !args.isValid then Tool.fail .invalidArgument
  else do
    match ← collectReadPayload H io.collect cwd args with
    | .directory text => pure text
    | .file file => do
      let hashes ← hashesFor H io file
      finishRead H io file hashes

/-! ### What a read finds -/

theorem answer_eq_ok {fault : Option IoErrorKind} {x : Except IoErrorKind α} {a : α} :
    answer fault x = .ok a ↔ fault = none ∧ x = .ok a := by
  cases fault <;> simp [answer]

theorem isOk_answer {fault : Option IoErrorKind} {x : Except IoErrorKind α} :
    (answer fault x).isOk = true ↔ fault = none ∧ x.isOk = true := by
  cases fault <;> simp [answer, Except.isOk, Except.toBool]

section
variable {H : Hashing} {s s' : ToolState} {cwd : PathBuf} {args : ReadArgs} {bytes : List UInt8}

/-- The bytes of a text are those of the file when it was opened. -/
theorem readTextBytes_eq_ok {io : CollectReadIo} {path : PathBuf}
    (h : readTextBytes io path s = (.ok bytes, s')) :
    s' = (Drift.ofFs io.beforeOpen).apply ((Drift.ofFs io.beforeTextMetadata).apply s) ∧
      s'.fs.read path = .ok bytes := by
  unfold readTextBytes at h
  rw [Tool.bind_drift, Tool.bind_state] at h
  obtain ⟨entry, -, h⟩ := Tool.bind_ofExcept_eq_ok.1 h
  cases entry with
  | directory => simp at h
  | link target => simp at h
  | file stale permissions =>
    dsimp only at h
    split_ifs at h with hsize
    · simp at h
    rw [Tool.bind_drift, Tool.bind_state] at h
    obtain ⟨entry, hopen, h⟩ := Tool.bind_ofExcept_eq_ok.1 h
    cases entry with
    | directory => simp at h
    | link target => simp at h
    | file current permissions =>
      dsimp only at h
      split_ifs at h with hsize' htext
      · simp at h
      · simp only [Proc.pure_apply, Prod.mk.injEq, Except.ok.injEq] at h
        obtain ⟨rfl, rfl⟩ := h
        refine ⟨rfl, ?_⟩
        unfold FileSystem.read
        rw [(answer_eq_ok.1 hopen).2]
      · simp at h

theorem collectFile_eq_ok {io : CollectReadIo} {requested canonical : PathBuf}
    {file : ReadFilePayload} (h : collectFile H io requested canonical args s =
      (.ok (.file file), s')) :
    ∃ bytes, s'.fs.read canonical = .ok bytes ∧
      file = readFilePayload H requested canonical args bytes := by
  obtain ⟨bytes, t, hread, h⟩ := Proc.bind_eq_ok.1 h
  split_ifs at h with hlines
  · simp at h
  · simp only [Proc.pure_apply, Prod.mk.injEq, Except.ok.injEq, ReadPayload.file.injEq] at h
    obtain ⟨rfl, rfl⟩ := h
    exact ⟨bytes, (readTextBytes_eq_ok hread).2, rfl⟩

/-- **What `collect_read_payload` returns for a file:** the place the path led to
at first, and the bytes there at last. -/
theorem collectReadPayload_eq_ok {io : CollectReadIo} {file : ReadFilePayload}
    (h : collectReadPayload H io cwd args s = (.ok (.file file), s')) :
    ∃ c bytes, s.fs.resolve (requestedPath cwd args.path) = .ok c ∧
      s'.fs.read c = .ok bytes ∧
      file = readFilePayload H (requestedPath cwd args.path) c args bytes := by
  unfold collectReadPayload at h
  obtain ⟨-, h⟩ := Tool.bind_check_eq_ok.1 h
  rw [Tool.bind_state] at h
  obtain ⟨c, hresolve, h⟩ := Tool.bind_ofExcept_eq_ok.1 h
  rw [Tool.bind_drift, Tool.bind_state] at h
  obtain ⟨entry, -, h⟩ := Tool.bind_ofExcept_eq_ok.1 h
  cases entry with
  | directory =>
    obtain ⟨entries, t₈, -, h⟩ := Proc.bind_eq_ok.1 h
    simp at h
  | file b m =>
    obtain ⟨bytes, hread, hfile⟩ := collectFile_eq_ok h
    exact ⟨c, bytes, (answer_eq_ok.1 hresolve).2, hread, hfile⟩
  | link target =>
    obtain ⟨bytes, hread, hfile⟩ := collectFile_eq_ok h
    exact ⟨c, bytes, (answer_eq_ok.1 hresolve).2, hread, hfile⟩

end

/-! ### What a read preserves -/

section
variable {H : Hashing} {S : PanicSite → Prop} {P : ToolState → Prop}
  {io : ReadIo} {cwd : PathBuf} {args : ReadArgs}

theorem readTextBytes_preserves {io : CollectReadIo} (hd : ∀ d ∈ io.drifts, d.Keeps P)
    (path : PathBuf) : Tool.Preserves S P (readTextBytes io path) := by
  refine (Tool.Preserves.drift (hd _ (by simp [CollectReadIo.drifts]))).bind fun _ =>
    Tool.Preserves.state.bind fun _ => Tool.Preserves.ofExcept.bind fun entry => ?_
  split
  · split_ifs
    · exact .fail
    · refine (Tool.Preserves.drift (hd _ (by simp [CollectReadIo.drifts]))).bind fun _ =>
        Tool.Preserves.state.bind fun _ => Tool.Preserves.ofExcept.bind fun entry => ?_
      split
      · split_ifs
        · exact .fail
        · exact .pure _
        · exact .fail
      · exact .fail
  · exact .fail

theorem collectReadPayload_preserves {io : CollectReadIo} (hd : ∀ d ∈ io.drifts, d.Keeps P) :
    Tool.Preserves S P (collectReadPayload H io cwd args) := by
  refine Tool.Preserves.check.bind fun _ => Tool.Preserves.state.bind fun _ =>
    Tool.Preserves.ofExcept.bind fun canonical =>
    (Tool.Preserves.drift (hd _ (by simp [CollectReadIo.drifts]))).bind fun _ =>
    Tool.Preserves.state.bind fun _ => Tool.Preserves.ofExcept.bind fun entry => ?_
  split
  · exact Tool.Preserves.ofExcept.bind fun _ => .pure _
  · refine (readTextBytes_preserves hd _).bind fun bytes => ?_
    dsimp only
    split_ifs
    · exact .fail
    · exact .pure _

theorem hashesFor_preserves (ha : S .allocate) (hs : Tool.Saves P)
    (hd : ∀ d ∈ io.drifts, d.Keeps P) (file : ReadFilePayload) :
    Tool.Preserves S P (hashesFor H io file) := by
  refine (Tool.Preserves.drift (hd _ (by simp [ReadIo.drifts]))).bind fun _ =>
    Tool.Preserves.loadAnchors.bind fun stored => Tool.Preserves.bind ?_ fun hashes =>
    (Tool.Preserves.drift (hd _ (by simp [ReadIo.drifts]))).bind fun _ =>
    (Tool.Preserves.saveAnchors hs).bind fun _ => .pure _
  unfold anchorsFor
  split
  · exact .pure _
  · exact .panic ha

/-- **A read preserves** what withstands its records and the changes of others. -/
theorem read_preserves (ha : S .allocate) (hP : Tool.Stable H P) (hs : Tool.Saves P)
    (hd : ∀ d ∈ io.drifts, d.Keeps P) :
    Tool.Preserves S P (read H io cwd args) := by
  unfold read
  split_ifs
  · exact .fail
  · refine (collectReadPayload_preserves fun d h => hd d (by simp [ReadIo.drifts, h])).bind
      fun payload => ?_
    split
    · exact .pure _
    · exact (hashesFor_preserves ha hs hd _).bind fun hashes =>
        hP.recordObservation.bind fun _ => .pure _

end

end Tools
end Moh
