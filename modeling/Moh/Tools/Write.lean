/-
# The writer

`tools/write.rs`: `WriteService::write`.  An existing file is replaced only if the
session has observed it and its bytes still have the observed checksum, which is
checked before the new contents are staged and again right before the rename.  A
target that does not exist is created by a rename that replaces nothing.
-/

import Moh.Tools.Read

namespace Moh
namespace Tools

open Fallible

/-- `WriteArgs`. -/
structure WriteArgs where
  path : List Char
  content : List Char

/-- `WriteToolError`. -/
inductive WriteToolError where
  | invalidArgument
  | notRead
  | staleRead
  | access
  | runtime
  | worker
deriving DecidableEq, Repr

/-- The texts of `WriteToolError`. -/
def WriteToolError.message : WriteToolError → String
  | .invalidArgument => "[E_INVALID_ARGUMENT] path must not be empty"
  | .notRead => "[E_NOT_READ] existing file must be read before it can be overwritten"
  | .staleRead =>
    "[E_STALE_READ] file changed after it was read; read it again before overwriting"
  | .access => "[E_ACCESS] file could not be written"
  | .runtime => "[E_RUNTIME] write tool state is unavailable"
  | .worker => "[E_RUNTIME] write tool worker failed"

/-- What fails in `write_sync`, and what changes on the way. -/
structure WriteIo where
  worker : Bool := false
  pathExists : Option IoErrorKind := none
  requestedLock : Bool := false
  beforeCanonicalize : FileSystem → FileSystem := id
  canonicalize : Option IoErrorKind := none
  canonicalLock : Bool := false
  beforeRead : FileSystem → FileSystem := id
  readFile : Option IoErrorKind := none
  forgetLock : Bool := false
  beforeMetadata : FileSystem → FileSystem := id
  metadata : Option IoErrorKind := none
  beforeCreateDirs : FileSystem → FileSystem := id
  createDirs : Option IoErrorKind := none
  stage : Bool := false
  beforeFinalRead : FileSystem → FileSystem := id
  finalRead : Option IoErrorKind := none
  finalForgetLock : Bool := false
  persist : Option IoErrorKind := none
  beforeRecord : FileSystem → FileSystem := id
  recordCanonicalize : Option IoErrorKind := none
  recordLock : Bool := false

/-- The changes of others, in order. -/
def WriteIo.drifts (io : WriteIo) : List Drift :=
  [.ofFs io.beforeCanonicalize, .ofFs io.beforeRead, .ofFs io.beforeMetadata,
    .ofFs io.beforeCreateDirs, .ofFs io.beforeFinalRead, .ofFs io.beforeRecord]

/-- The permissions of a staged file. -/
def stagedPermissions : ℕ := 0o600

/-- The observation a call relies on: that of the requested path, else that of
the canonical one. -/
def observationFor (requestedLock canonicalLock : Bool) (runtime notRead : ε)
    (requested canonical : PathBuf) : Tool ε FileObservation := do
  let atRequested ← Tool.observed requestedLock runtime requested
  let atCanonical ← Tool.observed canonicalLock runtime canonical
  match atRequested.or atCanonical with
  | some observation => pure observation
  | none => Tool.fail notRead

/-- The first check of an existing target: its place, the observation it still
matches, and its permissions. -/
def checkExisting (H : Hashing) (io : WriteIo) (path : PathBuf) :
    Tool WriteToolError (PathBuf × FileObservation × ℕ) := do
  Tool.drift (.ofFs io.beforeCanonicalize)
  let s ← Tool.state
  let canonical ← Tool.ofExcept (answer io.canonicalize (s.fs.resolve path)) fun _ => .access
  let observation ← observationFor io.requestedLock io.canonicalLock .runtime .notRead path canonical
  Tool.drift (.ofFs io.beforeRead)
  let s ← Tool.state
  let current ← Tool.ofExcept (answer io.readFile (s.fs.read canonical)) fun _ => .access
  if observation.canonicalPath ≠ canonical ∨ observation.checksum ≠ H.xxh64 current then do
    Tool.forgetObservation io.forgetLock .runtime observation
    Tool.fail .staleRead
  else do
    Tool.drift (.ofFs io.beforeMetadata)
    let s ← Tool.state
    match ← Tool.ofExcept (answer io.metadata (s.fs.lookup canonical)) fun _ => .access with
    | .file _ permissions => pure (canonical, observation, permissions)
    | _ => pure (canonical, observation, 0)

/-- The target of a write and, if it exists, what its replacement relies on. -/
def writeTarget (H : Hashing) (io : WriteIo) (path : PathBuf) :
    Tool WriteToolError (PathBuf × Option (FileObservation × ℕ)) := do
  let s ← Tool.state
  if (answer io.pathExists (s.fs.lookup path)).isOk then do
    let (canonical, observation, permissions) ← checkExisting H io path
    pure (canonical, some (observation, permissions))
  else do
    match ← Tool.observed io.requestedLock .runtime path with
    | some observation => do
      Tool.forgetObservation io.forgetLock .runtime observation
      Tool.fail .staleRead
    | none => pure (path, none)

/-- The directories on the way to the target, and the staged contents. -/
def stage (io : WriteIo) (writePath : PathBuf) : Tool WriteToolError Unit :=
  match writePath.parent with
  | none => Tool.fail .access
  | some parent => do
    Tool.drift (.ofFs io.beforeCreateDirs)
    let s ← Tool.state
    let fs ← Tool.ofExcept (answer io.createDirs (s.fs.createDirAll parent)) fun _ => .access
    Tool.setFs fs
    Tool.check io.stage .access

/-- The final check of an existing target, and the rename that replaces it. -/
def persistExisting (H : Hashing) (io : WriteIo) (writePath : PathBuf) (content : List UInt8)
    (observation : FileObservation) (permissions : ℕ) : Tool WriteToolError Unit := do
  Tool.drift (.ofFs io.beforeFinalRead)
  let s ← Tool.state
  let current ← Tool.ofExcept (answer io.finalRead (s.fs.read writePath)) fun _ => .staleRead
  if observation.checksum ≠ H.xxh64 current then do
    Tool.forgetObservation io.finalForgetLock .runtime observation
    Tool.fail .staleRead
  else do
    let fs ← Tool.ofExcept (answer io.persist (s.fs.rename writePath content permissions))
      fun _ => .access
    Tool.setFile fs (.replaced writePath current content)

/-- The rename to a target that does not exist. -/
def persistNew (io : WriteIo) (writePath : PathBuf) (content : List UInt8) :
    Tool WriteToolError Unit := do
  Tool.drift (.ofFs io.beforeFinalRead)
  let s ← Tool.state
  let fs ← Tool.ofExcept (answer io.persist (s.fs.create writePath content stagedPermissions))
    fun kind => if kind = .alreadyExists then .notRead else .access
  Tool.setFile fs (.created writePath (s.fs.replacedBytes writePath) content)

/-- `write_sync` up to the rename; returns the path that was renamed to. -/
def installWrite (H : Hashing) (io : WriteIo) (path : PathBuf) (content : List UInt8) :
    Tool WriteToolError PathBuf := do
  let (writePath, existing) ← writeTarget H io path
  stage io writePath
  match existing with
  | some (observation, permissions) => do
    persistExisting H io writePath content observation permissions
    pure writePath
  | none => do
    persistNew io writePath content
    pure writePath

/-- `write_sync`. -/
def writeSync (H : Hashing) (io : WriteIo) (cwd : PathBuf) (args : WriteArgs) :
    Tool WriteToolError (List Char) := do
  Tool.check io.worker .worker
  let path := requestedPath cwd args.path
  let content := Utf8.encode args.content
  let writePath ← installWrite H io path content
  Tool.drift (.ofFs io.beforeRecord)
  let s ← Tool.state
  let canonical ← Tool.ofExcept (answer io.recordCanonicalize (s.fs.resolve writePath))
    fun _ => .access
  Tool.recordObservation H io.recordLock .runtime path canonical content
  pure ("Successfully wrote ".toList ++ decimal content.length ++ " bytes to ".toList ++ args.path)

/-- `WriteService::write`. -/
def write (H : Hashing) (io : WriteIo) (cwd : PathBuf) (args : WriteArgs) :
    Tool WriteToolError (List Char) :=
  if args.path = [] then Tool.fail .invalidArgument else writeSync H io cwd args

/-! ### What a write preserves -/

section
variable {H : Hashing} {S : PanicSite → Prop} {P Q : ToolState → Prop}
  {A : FileObservation → List ToolEvent → Prop} {io : WriteIo} {path cwd : PathBuf}

/-- What is found is an entry. -/
theorem observationFor_spec
    (hfound : ∀ s key o, P s → s.observations.entries key = some o → A o s.log)
    {locked locked' : Bool} {e e' : ε} {canonical : PathBuf} :
    Tool.Failing S P (observationFor locked locked' e e' path canonical)
      fun o s => P s ∧ A o s.log := by
  intro s hs
  cases locked with
  | true => exact ⟨hs, nofun⟩
  | false =>
  cases locked' with
  | true => exact ⟨hs, nofun⟩
  | false =>
    have heval : observationFor false false e e' path canonical s =
        (match (s.observations.get path).or (s.observations.get canonical) with
          | some observation => pure observation
          | none => Tool.fail e' : Tool _ FileObservation) s := rfl
    rw [heval]
    cases h : (s.observations.get path).or (s.observations.get canonical) with
    | none => exact ⟨hs, nofun⟩
    | some o =>
      refine ⟨hs, ?_⟩
      rcases Option.or_eq_some_iff.1 h with h | ⟨-, h⟩
      · exact hfound s _ o hs h
      · exact hfound s _ o hs h

/-- What the predicates on either side of the rename must satisfy: `P` holds up to
it and `Q` from it on; `A` is what is known of an observation that was found. -/
structure RenameRules (H : Hashing) (P Q : ToolState → Prop)
    (A : FileObservation → List ToolEvent → Prop) : Prop where
  before : Tool.Stable H P
  after : Tool.Stable H Q
  found : ∀ s key o, P s → s.observations.entries key = some o → A o s.log
  dirs : ∀ s path fs, P s → s.fs.createDirAll path = .ok fs → P { s with fs }
  replace : ∀ s o current content fs permissions, P s → A o s.log →
    o.checksum = H.xxh64 current → s.fs.read o.canonicalPath = .ok current →
    s.fs.rename o.canonicalPath content permissions = .ok fs →
    Q { s with fs, log := s.log ++ [.replaced o.canonicalPath current content] }
  create : ∀ s path content fs, P s → s.fs.create path content stagedPermissions = .ok fs →
    Q { s with fs, log := s.log ++ [.created path (s.fs.replacedBytes path) content] }

/-- What is known of the target of a write. -/
def Grounded (A : FileObservation → List ToolEvent → Prop)
    (target : PathBuf × Option (FileObservation × ℕ)) (s : ToolState) : Prop :=
  ∀ o permissions, target.2 = some (o, permissions) → o.canonicalPath = target.1 ∧ A o s.log

theorem checkExisting_spec (hP : Tool.Stable H P) (hd : ∀ d ∈ io.drifts, d.Keeps P)
    (hfound : ∀ s key o, P s → s.observations.entries key = some o → A o s.log) :
    Tool.Failing S P (checkExisting H io path) fun target s =>
      P s ∧ target.2.1.canonicalPath = target.1 ∧ A target.2.1 s.log := by
  refine (Tool.Preserves.drift (hd _ (by simp [WriteIo.drifts]))).andThen fun _ =>
    Tool.Preserves.state.andThen fun _ => Tool.Preserves.ofExcept.andThen fun canonical =>
    Proc.Triple.bind (observationFor_spec hfound) fun observation => ?_
  -- from here on nothing is recorded, so that what is known stays known
  have hkeeps : ∀ d ∈ io.drifts, d.Keeps fun s => P s ∧ A observation s.log :=
    fun d h s hs => ⟨hd d h s hs.1, hs.2⟩
  have hsub : ∀ s, P s ∧ A observation s.log → P s := fun _ h => h.1
  refine (Tool.Preserves.drift (d := .ofFs io.beforeRead)
    (hkeeps _ (by simp [WriteIo.drifts]))).andThenOf hsub fun _ =>
    Tool.Preserves.state.andThenOf hsub fun _ => Tool.Preserves.ofExcept.andThenOf hsub fun _ => ?_
  split_ifs with hstale
  · exact hP.forgetAndFail.mono hsub (fun _ _ h => h) fun _ _ h => h
  · push Not at hstale
    refine (Tool.Preserves.drift (d := .ofFs io.beforeMetadata)
      (hkeeps _ (by simp [WriteIo.drifts]))).andThenOf hsub fun _ =>
      Tool.Preserves.state.andThenOf hsub fun _ => Tool.Preserves.ofExcept.andThenOf hsub
      fun entry => ?_
    split <;> exact Proc.Triple.pure fun s hs => ⟨hs.1, hstale.1, hs.2⟩

/-- **The first check of a write** finds an observation of its target. -/
theorem writeTarget_spec (hP : Tool.Stable H P) (hd : ∀ d ∈ io.drifts, d.Keeps P)
    (hfound : ∀ s key o, P s → s.observations.entries key = some o → A o s.log) :
    Tool.Failing S P (writeTarget H io path) fun target s => P s ∧ Grounded A target s := by
  refine Tool.Preserves.state.andThen fun s => ?_
  split_ifs
  · refine Proc.Triple.bind (checkExisting_spec hP hd hfound) fun target => ?_
    refine Proc.Triple.pure fun s hs => ⟨hs.1, fun o permissions h => ?_⟩
    obtain ⟨rfl, -⟩ := Prod.mk.inj (Option.some.inj h)
    exact hs.2
  · refine Tool.Preserves.observed.andThen fun observation => ?_
    split
    · exact hP.forgetAndFail
    · exact Proc.Triple.pure fun s hs => ⟨hs, nofun⟩

/-- Directories and the staged file. -/
theorem stage_preserves
    (hdirs : ∀ s path fs, P s → s.fs.createDirAll path = .ok fs → P { s with fs })
    (hd : ∀ d ∈ io.drifts, d.Keeps P) {writePath : PathBuf} :
    Tool.Preserves S P (stage io writePath) := by
  unfold stage
  split
  · exact .fail
  · rename_i parent _
    refine (Tool.Preserves.drift (hd _ (by simp [WriteIo.drifts]))).bind fun _ => ?_
    intro s hs
    rw [Tool.bind_state]
    cases hfs : answer io.createDirs (s.fs.createDirAll parent) with
    | error e => exact ⟨hs, nofun⟩
    | ok fs =>
      have hput : P { s with fs } := hdirs s parent fs hs (answer_eq_ok.1 hfs).2
      exact Tool.Preserves.check (S := S) _ hput

/-- The rename that replaces an existing target. -/
theorem persistExisting_spec (hrules : RenameRules H P Q A) (hd : ∀ d ∈ io.drifts, d.Keeps P)
    {writePath : PathBuf} {content : List UInt8} {o : FileObservation} {permissions : ℕ}
    (hpath : o.canonicalPath = writePath) :
    Proc.Triple (fun s => P s ∧ A o s.log) (persistExisting H io writePath content o permissions)
      (fun _ => Q) fun e s => P s ∧ ∀ site, e = .panicked site → S site := by
  have hkeeps : ∀ d ∈ io.drifts, d.Keeps fun s => P s ∧ A o s.log :=
    fun d h s hs => ⟨hd d h s hs.1, hs.2⟩
  have hsub : ∀ s, P s ∧ A o s.log → P s := fun _ h => h.1
  refine (Tool.Preserves.drift (d := .ofFs io.beforeFinalRead)
    (hkeeps _ (by simp [WriteIo.drifts]))).andThenOf hsub fun _ => ?_
  intro s hs
  subst hpath
  rw [Tool.bind_state]
  cases hread : answer io.finalRead (s.fs.read o.canonicalPath) with
  | error e => exact ⟨hs.1, nofun⟩
  | ok current =>
    rw [Proc.bind_apply, Tool.ofExcept_ok]
    dsimp only
    split_ifs with hstale
    · exact hrules.before.forgetAndFail s hs.1
    · rw [not_not] at hstale
      cases hrename : answer io.persist (s.fs.rename o.canonicalPath content permissions) with
      | error e => exact ⟨hs.1, nofun⟩
      | ok fs =>
        rw [Proc.bind_apply, Tool.ofExcept_ok]
        exact hrules.replace s o current content fs permissions hs.1 hs.2 hstale
          (answer_eq_ok.1 hread).2 (answer_eq_ok.1 hrename).2

/-- The rename to a target that does not exist. -/
theorem persistNew_spec (hcreate : ∀ s path content fs, P s →
      s.fs.create path content stagedPermissions = .ok fs →
      Q { s with fs, log := s.log ++ [.created path (s.fs.replacedBytes path) content] })
    (hd : ∀ d ∈ io.drifts, d.Keeps P) {writePath : PathBuf} {content : List UInt8} :
    Tool.Failing S P (persistNew io writePath content) fun _ => Q := by
  refine (Tool.Preserves.drift (hd _ (by simp [WriteIo.drifts]))).andThen fun _ => ?_
  intro s hs
  rw [Tool.bind_state]
  cases hfs : answer io.persist (s.fs.create writePath content stagedPermissions) with
  | error e => exact ⟨hs, nofun⟩
  | ok fs => exact hcreate s writePath content fs hs (answer_eq_ok.1 hfs).2

/-- **A write up to its rename.** -/
theorem installWrite_spec (hrules : RenameRules H P Q A) (hd : ∀ d ∈ io.drifts, d.Keeps P)
    {content : List UInt8} :
    Tool.Failing S P (installWrite H io path content) fun _ => Q := by
  refine Proc.Triple.bind (writeTarget_spec hrules.before hd hrules.found) fun target => ?_
  obtain ⟨writePath, existing⟩ := target
  have hkeeps : ∀ d ∈ io.drifts, d.Keeps fun s => P s ∧ Grounded A (writePath, existing) s :=
    fun d h s hs => ⟨hd d h s hs.1, hs.2⟩
  refine Tool.Preserves.andThenOf (fun _ h => h.1) (stage_preserves (fun s path fs hs h =>
    ⟨hrules.dirs s path fs hs.1 h, hs.2⟩) hkeeps) fun _ => ?_
  cases existing with
  | none =>
    exact Proc.Triple.mono (Proc.Triple.bind (persistNew_spec hrules.create hd) fun _ =>
      Proc.Triple.pure fun _ h => h) (fun _ h => h.1) (fun _ _ h => h) fun _ _ h => h
  | some entry =>
    obtain ⟨o, permissions⟩ := entry
    by_cases hpath : o.canonicalPath = writePath
    · exact Proc.Triple.mono (Proc.Triple.bind (persistExisting_spec hrules hd hpath) fun _ =>
        Proc.Triple.pure fun _ h => h) (fun _ h => ⟨h.1, (h.2 o permissions rfl).2⟩)
        (fun _ _ h => h) fun _ _ h => h
    · exact fun s hs => absurd (hs.2 o permissions rfl).1 hpath

/-- **What a write establishes:** `P` until its rename, and `Q` from then on. -/
theorem write_spec (hrules : RenameRules H P Q A) (hP : ∀ d ∈ io.drifts, d.Keeps P)
    (hQ : ∀ d ∈ io.drifts, d.Keeps Q) {args : WriteArgs} :
    Proc.Triple P (write H io cwd args) (fun _ => Q)
      fun e s => (P s ∨ Q s) ∧ ∀ site, e = .panicked site → S site := by
  have hbefore : ∀ (e : Abort WriteToolError) (s : ToolState),
      (P s ∧ ∀ site, e = .panicked site → S site) →
      (P s ∨ Q s) ∧ ∀ site, e = .panicked site → S site := fun _ _ h => ⟨.inl h.1, h.2⟩
  unfold write
  split_ifs
  · exact Proc.Triple.fail fun _ h => ⟨.inl h, nofun⟩
  · refine Proc.Triple.bind (Tool.Preserves.check.mono (fun _ h => h) (fun _ _ h => h) hbefore)
      fun _ => Proc.Triple.bind ((installWrite_spec hrules hP).mono (fun _ h => h)
        (fun _ _ h => h) hbefore) fun writePath => ?_
    refine Proc.Triple.mono (P := Q) (E := fun e s => Q s ∧ ∀ site, e = .panicked site → S site) ?_
      (fun _ h => h) (fun _ _ h => h) fun _ _ h => ⟨.inr h.1, h.2⟩
    exact (Tool.Preserves.drift (hQ _ (by simp [WriteIo.drifts]))).andThen fun _ =>
      Tool.Preserves.state.andThen fun _ => Tool.Preserves.ofExcept.andThen fun _ =>
      hrules.after.recordObservation.andThen fun _ => Proc.Triple.pure fun _ h => h

/-- **A write preserves** what withstands its records, its file and the changes of
others. -/
theorem write_preserves (hP : Tool.Stable H P) (hput : Tool.Puts P)
    (hd : ∀ d ∈ io.drifts, d.Keeps P) {args : WriteArgs} :
    Tool.Preserves S P (write H io cwd args) := by
  have hrules : RenameRules H P P fun _ _ => True :=
    ⟨hP, hP, fun _ _ _ _ _ => trivial, hput.dirs,
      fun s o current content fs permissions hs _ _ _ _ => hput.file s fs _ hs,
      fun s path content fs hs _ => hput.file s fs _ hs⟩
  exact (write_spec hrules hd hd).mono (fun _ h => h) (fun _ _ h => h)
    fun _ _ h => ⟨h.1.elim id id, h.2⟩

end

end Tools
end Moh
