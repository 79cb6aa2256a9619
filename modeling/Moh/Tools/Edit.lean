/-
# The editor

`tools/edit.rs`: `EditService::edit`.  The editor collects the bytes of a file the
session has observed, finds the range of lines between two anchors of the stored
snapshot, replaces it, and reads the file again for new anchors.
-/

import Moh.Tools.Write

namespace Moh
namespace Tools

open Fallible

/-- `EditArgs`. -/
structure EditArgs where
  path : List Char
  removeFrom : Anchor
  removeTo : Anchor
  replacementLines : List Line

/-- `^[^\r\n]*$`. -/
def isOneLine (line : Line) : Bool :=
  line.all fun c => c ≠ '\r' && c ≠ '\n'

/-- The rules of `EditArgs`. -/
def EditArgs.isValid (args : EditArgs) : Bool :=
  args.path != [] && isAnchor args.removeFrom && isAnchor args.removeTo &&
    args.replacementLines.all isOneLine

/-- `EditToolError`. -/
inductive EditToolError where
  | invalidArgument (text : String)
  | notRead
  | staleRead
  | staleAnchor
  | access
  | runtime
  | worker
deriving DecidableEq, Repr

/-- The texts of `EditToolError`. -/
def EditToolError.message : EditToolError → String
  | .invalidArgument text => "[E_INVALID_ARGUMENT] " ++ text
  | .notRead => "[E_NOT_READ] existing file must be read before it can be edited"
  | .staleRead =>
    "[E_STALE_READ] file changed after it was read; read it again before editing"
  | .staleAnchor =>
    "[E_STALE_ANCHOR] edit anchors are not present in the observed file; read it again"
  | .access => "[E_ACCESS] file could not be edited"
  | .runtime => "[E_RUNTIME] edit tool state is unavailable"
  | .worker => "[E_RUNTIME] edit tool worker failed"

/-! ### Collecting -/

/-- What fails in `collect_edit_payload`, and what changes on the way. -/
structure CollectEditIo where
  worker : Bool := false
  requestedLock : Bool := false
  canonicalize : Option IoErrorKind := none
  canonicalLock : Bool := false
  beforeRead : FileSystem → FileSystem := id
  readFile : Option IoErrorKind := none
  forgetLock : Bool := false

/-- The changes of others, in order. -/
def CollectEditIo.drifts (io : CollectEditIo) : List Drift := [.ofFs io.beforeRead]

/-- `EditPayload`. -/
structure EditPayload where
  path : PathBuf
  canonical : PathBuf
  bytes : List UInt8

/-- The lines of the collected bytes. -/
def EditPayload.lines (payload : EditPayload) : List Line :=
  logicalLines (normalizeText payload.bytes).1

/-- Forgets the observation and reports the file as changed. -/
def staleRead (io : CollectEditIo) (observation : FileObservation) : Tool EditToolError α := do
  Tool.forgetObservation io.forgetLock .runtime observation
  Tool.fail .staleRead

/-- The bytes behind an observation, if they still match it. -/
def readObserved (H : Hashing) (io : CollectEditIo) (canonical : PathBuf)
    (observation : FileObservation) : Tool EditToolError (List UInt8) := do
  Tool.drift (.ofFs io.beforeRead)
  let s ← Tool.state
  match answer io.readFile (s.fs.read canonical) with
  | .error _ => staleRead io observation
  | .ok bytes =>
    if observation.canonicalPath ≠ canonical ∨ observation.checksum ≠ H.xxh64 bytes then
      staleRead io observation
    else pure bytes

/-- `collect_edit_payload`. -/
def collectEditPayload (H : Hashing) (io : CollectEditIo) (cwd : PathBuf) (pathArg : List Char) :
    Tool EditToolError EditPayload := do
  Tool.check io.worker .worker
  let path := requestedPath cwd pathArg
  let atRequested ← Tool.observed io.requestedLock .runtime path
  let s ← Tool.state
  match answer io.canonicalize (s.fs.resolve path) with
  | .error _ =>
    match atRequested with
    | some observation => staleRead io observation
    | none => Tool.fail .access
  | .ok canonical => do
    let atCanonical ← Tool.observed io.canonicalLock .runtime canonical
    match atRequested.or atCanonical with
    | none => Tool.fail .notRead
    | some observation => do
      let bytes ← readObserved H io canonical observation
      pure ⟨path, canonical, bytes⟩

/-! ### The new contents -/

/-- The positions of the two anchors in the stored snapshot. -/
def anchorRange (snapshot : AnchorSnapshot) (args : EditArgs) : Except EditToolError (ℕ × ℕ) :=
  match snapshot.hashes.findIdx? (· == args.removeFrom) with
  | none => .error .staleAnchor
  | some first =>
    match snapshot.hashes.findIdx? (· == args.removeTo) with
    | none => .error .staleAnchor
    | some last =>
      if last < first then
        .error (.invalidArgument "remove_from must precede or equal remove_to")
      else .ok (first, last)

/-- `lines.splice(first..=last, replacement)`; it panics outside the list. -/
def spliceLines (lines : List Line) (first last : ℕ) (replacement : List Line) :
    Option (List Line) :=
  if first ≤ last ∧ last < lines.length then
    some (lines.take first ++ replacement ++ lines.drop (last + 1))
  else none

/-- The bytes that `edit` installs. -/
def planEdit (payload : EditPayload) (snapshot : Option AnchorSnapshot) (args : EditArgs) :
    Tool EditToolError (List UInt8) :=
  match snapshot with
  | none => Tool.fail .notRead
  | some snapshot =>
    match anchorRange snapshot args with
    | .error e => Tool.fail e
    | .ok (first, last) =>
      match spliceLines payload.lines first last args.replacementLines with
      | none => Proc.fail (.panicked .splice)
      | some lines => pure (encodeLines payload.bytes lines)

theorem findIdx?_eq_some_getElem? {hashes : List Anchor} {anchor : Anchor} {i : ℕ}
    (h : hashes.findIdx? (· == anchor) = some i) : hashes[i]? = some anchor := by
  obtain ⟨hi, heq, -⟩ := List.findIdx?_eq_some_iff_getElem.1 h
  rw [List.getElem?_eq_getElem hi, eq_of_beq heq]

/-- The range lies between the positions of the two anchors. -/
theorem anchorRange_eq_ok {row : AnchorSnapshot} {args : EditArgs} {first last : ℕ}
    (h : anchorRange row args = .ok (first, last)) :
    row.hashes[first]? = some args.removeFrom ∧ row.hashes[last]? = some args.removeTo ∧
      first ≤ last := by
  unfold anchorRange at h
  split at h
  · cases h
  · rename_i i hi
    split at h
    · cases h
    · rename_i j hj
      split_ifs at h with hlt
      obtain ⟨rfl, rfl⟩ := Prod.mk.inj (Except.ok.inj h)
      exact ⟨findIdx?_eq_some_getElem? hi, findIdx?_eq_some_getElem? hj, Nat.not_lt.1 hlt⟩

/-! ### Replacing -/

/-- What fails when the file is replaced, and what changes on the way. -/
structure ReplaceIo where
  worker : Bool := false
  beforeMetadata : FileSystem → FileSystem := id
  metadata : Option IoErrorKind := none
  stage : Bool := false
  beforeFinalRead : FileSystem → FileSystem := id
  finalRead : Option IoErrorKind := none
  persist : Option IoErrorKind := none
  recordLock : Bool := false

/-- The changes of others, in order. -/
def ReplaceIo.drifts (io : ReplaceIo) : List Drift :=
  [.ofFs io.beforeMetadata, .ofFs io.beforeFinalRead]

/-- `replace_file`. -/
def replaceFile (io : ReplaceIo) (path : PathBuf) (expected replacement : List UInt8) :
    Tool EditToolError Unit :=
  match path.parent with
  | none => Tool.fail .access
  | some _ => do
    Tool.drift (.ofFs io.beforeMetadata)
    let s ← Tool.state
    let entry ← Tool.ofExcept (answer io.metadata (s.fs.lookup path)) fun _ => .access
    let permissions := match entry with
      | .file _ permissions => permissions
      | _ => 0
    Tool.check io.stage .access
    Tool.drift (.ofFs io.beforeFinalRead)
    let s ← Tool.state
    let current ← Tool.ofExcept (answer io.finalRead (s.fs.read path)) fun _ => .staleRead
    if current ≠ expected then Tool.fail .staleRead
    else do
      let fs ← Tool.ofExcept (answer io.persist (s.fs.rename path replacement permissions))
        fun _ => .access
      Tool.setFile fs (.replaced path current replacement)

/-- The blocking part of `edit` behind the plan: the file is replaced and the new
bytes are recorded. -/
def installEdit (H : Hashing) (io : ReplaceIo) (payload : EditPayload)
    (replacement : List UInt8) : Tool EditToolError Unit := do
  Tool.check io.worker .worker
  replaceFile io payload.canonical payload.bytes replacement
  Tool.recordObservation H io.recordLock .runtime payload.path payload.canonical replacement

/-! ### Editing -/

/-- What fails in `edit`, and what changes on the way. -/
structure EditIo where
  collect : CollectEditIo := {}
  beforeLoad : Drift := {}
  load : Bool := false
  replace : ReplaceIo := {}
  beforeReread : Drift := {}
  reread : ReadIo := {}

/-- The changes of others, in order. -/
def EditIo.drifts (io : EditIo) : List Drift :=
  io.collect.drifts ++ [io.beforeLoad] ++ io.replace.drifts ++ [io.beforeReread] ++
    io.reread.drifts

/-- `edit` up to the plan: the collected bytes and those to install. -/
def prepareEdit (H : Hashing) (io : EditIo) (cwd : PathBuf) (args : EditArgs) :
    Tool EditToolError (EditPayload × List UInt8) := do
  let payload ← collectEditPayload H io.collect cwd args.path
  Tool.drift io.beforeLoad
  let snapshot ← Tool.loadAnchors io.load .runtime payload.canonical
  let replacement ← planEdit payload snapshot args
  pure (payload, replacement)

/-- The read at the end of `edit`. -/
def reread (H : Hashing) (io : EditIo) (cwd : PathBuf) (args : EditArgs) :
    Tool EditToolError (List Char) := do
  Tool.drift io.beforeReread
  Tool.mapErr (fun _ => .runtime) (read H io.reread cwd { path := args.path })

/-- `EditService::edit`. -/
def edit (H : Hashing) (io : EditIo) (cwd : PathBuf) (args : EditArgs) :
    Tool EditToolError (List Char) :=
  if !args.isValid then Tool.fail (.invalidArgument "invalid edit arguments")
  else do
    let (payload, replacement) ← prepareEdit H io cwd args
    installEdit H io.replace payload replacement
    reread H io cwd args

/-! ### What the steps do -/

section
variable {H : Hashing} {s s' : ToolState} {cwd : PathBuf} {arg : List Char}
  {payload : EditPayload} {replacement : List UInt8}

/-- The payload is what the observed file holds. -/
structure Collected (H : Hashing) (s s' : ToolState) (payload : EditPayload) : Prop where
  resolve : s.fs.resolve payload.path = .ok payload.canonical
  read : s'.fs.read payload.canonical = .ok payload.bytes
  observed : ∃ observation,
    (s.observations.get payload.path).or (s.observations.get payload.canonical) =
      some observation ∧
    observation.canonicalPath = payload.canonical ∧ observation.checksum = H.xxh64 payload.bytes

theorem staleRead_ne_ok {io : CollectEditIo} {observation : FileObservation} {a : α} :
    staleRead io observation s ≠ (.ok a, s') := by
  unfold staleRead
  intro h
  obtain ⟨-, t, -, h⟩ := Proc.bind_eq_ok.1 h
  simp at h

theorem readObserved_eq_ok {io : CollectEditIo} {canonical : PathBuf}
    {observation : FileObservation} {bytes : List UInt8}
    (h : readObserved H io canonical observation s = (.ok bytes, s')) :
    s' = (Drift.ofFs io.beforeRead).apply s ∧ s'.fs.read canonical = .ok bytes ∧
      observation.canonicalPath = canonical ∧ observation.checksum = H.xxh64 bytes := by
  unfold readObserved at h
  rw [Tool.bind_drift, Tool.bind_state] at h
  cases hread : answer io.readFile (((Drift.ofFs io.beforeRead).apply s).fs.read canonical) with
  | error e =>
    rw [hread] at h
    exact absurd h staleRead_ne_ok
  | ok read =>
    rw [hread] at h
    dsimp only at h
    split_ifs at h with hstale
    · exact absurd h staleRead_ne_ok
    · simp only [Proc.pure_apply, Prod.mk.injEq, Except.ok.injEq] at h
      obtain ⟨rfl, rfl⟩ := h
      push Not at hstale
      exact ⟨rfl, (answer_eq_ok.1 hread).2, hstale⟩

/-- **What `collect_edit_payload` has checked** when it succeeds. -/
theorem collectEditPayload_eq_ok {io : CollectEditIo}
    (h : collectEditPayload H io cwd arg s = (.ok payload, s')) :
    s' = (Drift.ofFs io.beforeRead).apply s ∧ payload.path = requestedPath cwd arg ∧
      Collected H s s' payload := by
  unfold collectEditPayload at h
  obtain ⟨-, h⟩ := Tool.bind_check_eq_ok.1 h
  obtain ⟨-, h⟩ := Tool.bind_observed_eq_ok.1 h
  rw [Tool.bind_state] at h
  cases hresolve : answer io.canonicalize (s.fs.resolve (requestedPath cwd arg)) with
  | error e =>
    rw [hresolve] at h
    cases hget : s.observations.get (requestedPath cwd arg) with
    | none => simp [hget] at h
    | some observation =>
      rw [hget] at h
      exact absurd h staleRead_ne_ok
  | ok canonical =>
    rw [hresolve] at h
    obtain ⟨-, h⟩ := Tool.bind_observed_eq_ok.1 h
    cases hobserved : (s.observations.get (requestedPath cwd arg)).or
        (s.observations.get canonical) with
    | none => simp [hobserved] at h
    | some observation =>
      rw [hobserved] at h
      obtain ⟨bytes, t, hread, h⟩ := Proc.bind_eq_ok.1 h
      simp only [Proc.pure_apply, Prod.mk.injEq, Except.ok.injEq] at h
      obtain ⟨rfl, rfl⟩ := h
      obtain ⟨rfl, hbytes, hpath, hsum⟩ := readObserved_eq_ok hread
      exact ⟨rfl, rfl, (answer_eq_ok.1 hresolve).2, hbytes, observation, hobserved, hpath, hsum⟩

/-- The replacement and where it comes from. -/
structure Planned (payload : EditPayload) (row : AnchorSnapshot) (args : EditArgs)
    (first last : ℕ) (replacement : List UInt8) : Prop where
  range : anchorRange row args = .ok (first, last)
  first_le : first ≤ last
  last_lt : last < payload.lines.length
  replacement : replacement = encodeLines payload.bytes
    (payload.lines.take first ++ args.replacementLines ++ payload.lines.drop (last + 1))

theorem planEdit_eq_ok {snapshot : Option AnchorSnapshot} {args : EditArgs}
    (h : planEdit payload snapshot args s = (.ok replacement, s')) :
    s' = s ∧ ∃ row first last, snapshot = some row ∧
      Planned payload row args first last replacement := by
  cases snapshot with
  | none => simp [planEdit] at h
  | some row =>
    cases hrange : anchorRange row args with
    | error e => simp [planEdit, hrange] at h
    | ok range =>
      obtain ⟨first, last⟩ := range
      simp only [planEdit, hrange, spliceLines] at h
      by_cases hbounds : first ≤ last ∧ last < payload.lines.length
      · simp only [if_pos hbounds, Proc.pure_apply, Prod.mk.injEq, Except.ok.injEq] at h
        obtain ⟨rfl, rfl⟩ := h
        exact ⟨rfl, row, first, last, rfl, hrange, hbounds.1, hbounds.2, rfl⟩
      · simp [if_neg hbounds] at h

/-- **What `edit` has checked** when it has a plan. -/
theorem prepareEdit_eq_ok {io : EditIo} {args : EditArgs}
    (h : prepareEdit H io cwd args s = (.ok (payload, replacement), s')) :
    s' = io.beforeLoad.apply ((Drift.ofFs io.collect.beforeRead).apply s) ∧
      payload.path = requestedPath cwd args.path ∧
      Collected H s ((Drift.ofFs io.collect.beforeRead).apply s) payload ∧
      ∃ row first last, s'.anchors.rows payload.canonical = some row ∧
        validateSnapshot row true = .ok () ∧
        Planned payload row args first last replacement := by
  unfold prepareEdit at h
  obtain ⟨payload', t₁, hcollect, h⟩ := Proc.bind_eq_ok.1 h
  obtain ⟨rfl, hpath, hcollected⟩ := collectEditPayload_eq_ok hcollect
  rw [Tool.bind_drift] at h
  obtain ⟨snapshot, t₃, hload, h⟩ := Proc.bind_eq_ok.1 h
  obtain ⟨-, hrow, rfl, hvalid⟩ := Tool.loadAnchors_eq_ok.1 hload
  obtain ⟨plan, t₄, hplan, h⟩ := Proc.bind_eq_ok.1 h
  simp only [Proc.pure_apply, Prod.mk.injEq, Except.ok.injEq] at h
  obtain ⟨⟨rfl, rfl⟩, rfl⟩ := h
  obtain ⟨rfl, row, first, last, rfl, hplanned⟩ := planEdit_eq_ok hplan
  exact ⟨rfl, hpath, hcollected, row, first, last, hrow.symm, hvalid row rfl, hplanned⟩

/-- **What `replace_file` has done** when it succeeds. -/
theorem replaceFile_eq_ok {io : ReplaceIo} {path : PathBuf} {expected : List UInt8}
    (h : replaceFile io path expected replacement s = (.ok (), s')) :
    ∃ t fs' permissions, t = (Drift.ofFs io.beforeFinalRead).apply
        ((Drift.ofFs io.beforeMetadata).apply s) ∧
      t.fs.read path = .ok expected ∧ t.fs.rename path replacement permissions = .ok fs' ∧
      s' = { t with fs := fs', log := t.log ++ [.replaced path expected replacement] } := by
  unfold replaceFile at h
  cases hparent : path.parent with
  | none => simp [hparent] at h
  | some parent =>
    rw [hparent] at h
    dsimp only at h
    rw [Tool.bind_drift, Tool.bind_state] at h
    obtain ⟨entry, -, h⟩ := Tool.bind_ofExcept_eq_ok.1 h
    obtain ⟨-, h⟩ := Tool.bind_check_eq_ok.1 h
    rw [Tool.bind_drift, Tool.bind_state] at h
    obtain ⟨current, hread, h⟩ := Tool.bind_ofExcept_eq_ok.1 h
    by_cases hstale : current = expected
    · subst hstale
      rw [if_neg (not_not.2 rfl)] at h
      obtain ⟨fs', hpersist, h⟩ := Tool.bind_ofExcept_eq_ok.1 h
      simp only [Tool.setFile_apply, Prod.mk.injEq, true_and] at h
      exact ⟨_, fs', _, rfl, (answer_eq_ok.1 hread).2, (answer_eq_ok.1 hpersist).2, h.symm⟩
    · simp [hstale] at h

end

/-! ### What an edit preserves -/

section
variable {H : Hashing} {S : PanicSite → Prop} {P : ToolState → Prop} {cwd : PathBuf} {arg : List Char}

theorem staleRead_preserves (hP : Tool.Stable H P) {io : CollectEditIo}
    {observation : FileObservation} :
    Tool.Preserves S P (staleRead io observation : Tool EditToolError α) :=
  hP.forgetObservation.bind fun _ => .fail

theorem collectEditPayload_preserves (hP : Tool.Stable H P) {io : CollectEditIo}
    (hd : ∀ d ∈ io.drifts, d.Keeps P) : Tool.Preserves S P (collectEditPayload H io cwd arg) := by
  refine Tool.Preserves.check.bind fun _ => Tool.Preserves.observed.bind fun atRequested =>
    Tool.Preserves.state.bind fun s => ?_
  split
  · split
    · exact staleRead_preserves hP
    · exact .fail
  · refine Tool.Preserves.observed.bind fun atCanonical => ?_
    split
    · exact .fail
    · refine Tool.Preserves.bind ?_ fun bytes => .pure _
      refine (Tool.Preserves.drift (hd _ (by simp [CollectEditIo.drifts]))).bind fun _ =>
        Tool.Preserves.state.bind fun s => ?_
      split
      · exact staleRead_preserves hP
      · split_ifs
        · exact staleRead_preserves hP
        · exact .pure _

theorem planEdit_preserves (hp : S .splice) {payload : EditPayload} {snapshot : Option AnchorSnapshot}
    {args : EditArgs} : Tool.Preserves S P (planEdit payload snapshot args) := by
  unfold planEdit
  split
  · exact .fail
  · split
    · exact .fail
    · split
      · exact .panic hp
      · exact .pure _

/-- **An edit preserves up to its plan** what withstands its records and the
changes of others. -/
theorem prepareEdit_preserves (hp : S .splice) (hP : Tool.Stable H P) {io : EditIo} {args : EditArgs}
    (hd : ∀ d ∈ io.drifts, d.Keeps P) : Tool.Preserves S P (prepareEdit H io cwd args) := by
  refine (collectEditPayload_preserves hP fun d h => hd d (by simp [EditIo.drifts, h])).bind
    fun payload => (Tool.Preserves.drift (hd _ (by simp [EditIo.drifts]))).bind fun _ =>
    Tool.Preserves.loadAnchors.bind fun snapshot => (planEdit_preserves hp).bind fun _ => .pure _

theorem reread_preserves (ha : S .allocate) (hP : Tool.Stable H P) (hs : Tool.Saves P)
    {io : EditIo} {args : EditArgs}
    (hd : ∀ d ∈ io.drifts, d.Keeps P) : Tool.Preserves S P (reread H io cwd args) :=
  (Tool.Preserves.drift (hd _ (by simp [EditIo.drifts]))).bind fun _ =>
    (read_preserves ha hP hs fun d h => hd d (by simp [EditIo.drifts, h])).mapErr

/-- A replacement that fails preserves what withstands the changes of others. -/
theorem replaceFile_error {io : ReplaceIo} {path : PathBuf} {expected replacement : List UInt8}
    (hd : ∀ d ∈ io.drifts, d.Keeps P) :
    Tool.Failing S P (replaceFile io path expected replacement) fun _ _ => True := by
  unfold replaceFile
  split
  · exact Proc.Triple.fail fun _ h => ⟨h, fun _ h => by cases h⟩
  · refine (Tool.Preserves.drift (d := .ofFs io.beforeMetadata)
      (hd _ (by simp [ReplaceIo.drifts]))).andThen fun _ => Tool.Preserves.state.andThen fun _ =>
      Tool.Preserves.ofExcept.andThen fun _ => Tool.Preserves.check.andThen fun _ =>
      (Tool.Preserves.drift (d := .ofFs io.beforeFinalRead)
        (hd _ (by simp [ReplaceIo.drifts]))).andThen fun _ => Tool.Preserves.state.andThen fun _ =>
      Tool.Preserves.ofExcept.andThen fun _ => ?_
    split_ifs
    · exact Proc.Triple.fail fun _ h => ⟨h, fun _ h => by cases h⟩
    · exact Tool.Preserves.ofExcept.andThen fun _ => Proc.Triple.modify fun _ _ => trivial

/-! ### Before and after the rename -/

variable {Q : ToolState → Prop} {A : FileObservation → List ToolEvent → Prop} {io : EditIo}
  {args : EditArgs}

/-- An edit that has a plan has found an observation of the bytes it has collected. -/
theorem prepareEdit_spec (hp : S .splice) (hrules : RenameRules H P Q A)
    (hd : ∀ d ∈ io.drifts, d.Keeps P) :
    Tool.Failing S P (prepareEdit H io cwd args) fun plan s => P s ∧ ∃ o, A o s.log ∧
      o.canonicalPath = plan.1.canonical ∧ o.checksum = H.xxh64 plan.1.bytes := by
  intro s hs
  rcases (prepareEdit H io cwd args).apply_cases s with ⟨⟨payload, replacement⟩, t, ht⟩ | ⟨e, t, ht⟩
  · rw [ht]
    obtain ⟨rfl, -, hcollected, -⟩ := prepareEdit_eq_ok ht
    obtain ⟨o, hfound, hpath, hsum⟩ := hcollected.observed
    have hknown : A o s.log := by
      rcases Option.or_eq_some_iff.1 hfound with h | ⟨-, h⟩
      · exact hrules.found s _ o hs h
      · exact hrules.found s _ o hs h
    have hbefore := hd (.ofFs io.collect.beforeRead) (by simp [EditIo.drifts, CollectEditIo.drifts])
    have hload := hd io.beforeLoad (by simp [EditIo.drifts])
    exact ⟨hload _ (hbefore s hs), o, hknown, hpath, hsum⟩
  · rw [ht]
    exact (prepareEdit_preserves hp hrules.before hd).error hs ht

theorem replaceFile_spec (hrules : RenameRules H P Q A) {io : ReplaceIo}
    (hd : ∀ d ∈ io.drifts, d.Keeps P) {expected replacement : List UInt8} {o : FileObservation}
    (hsum : o.checksum = H.xxh64 expected) :
    Proc.Triple (fun s => P s ∧ A o s.log) (replaceFile io o.canonicalPath expected replacement)
      (fun _ => Q) fun e s => P s ∧ ∀ site, e ≠ .panicked site := by
  intro s hs
  rcases (replaceFile io o.canonicalPath expected replacement).apply_cases s
    with ⟨⟨⟩, t, ht⟩ | ⟨e, t, ht⟩
  · rw [ht]
    obtain ⟨u, fs, permissions, rfl, hread, hrename, rfl⟩ := replaceFile_eq_ok ht
    have hmeta := hd (.ofFs io.beforeMetadata) (by simp [ReplaceIo.drifts])
    have hfinal := hd (.ofFs io.beforeFinalRead) (by simp [ReplaceIo.drifts])
    exact hrules.replace _ o expected replacement fs permissions (hfinal _ (hmeta s hs.1)) hs.2
      hsum hread hrename
  · rw [ht]
    exact (replaceFile_error (S := fun _ => False) hd).error hs.1 ht

theorem installEdit_spec (hrules : RenameRules H P Q A) {io : ReplaceIo}
    (hd : ∀ d ∈ io.drifts, d.Keeps P) {payload : EditPayload} {replacement : List UInt8}
    {o : FileObservation} (hpath : o.canonicalPath = payload.canonical)
    (hsum : o.checksum = H.xxh64 payload.bytes) :
    Proc.Triple (fun s => P s ∧ A o s.log) (installEdit H io payload replacement) (fun _ => Q)
      fun e s => Q s ∨ P s ∧ ∀ site, e ≠ .panicked site := by
  unfold installEdit
  rw [← hpath]
  refine Proc.Triple.bind (Tool.Preserves.check.mono (fun _ h => h) (fun _ _ h => h)
    fun _ _ h => .inr ⟨h.1.1, h.2⟩) fun _ => Proc.Triple.bind ((replaceFile_spec hrules hd hsum).mono
      (fun _ h => h) (fun _ _ h => h) fun _ _ h => .inr h) fun _ => ?_
  exact (hrules.after.recordObservation (S := fun _ => False)).mono (fun _ h => h) (fun _ _ h => h)
    fun _ _ h => .inl h.1

/-- **What an edit establishes:** `P` until its rename, and `Q` from then on.  Before
the rename only the plan panics. -/
theorem edit_spec (hrules : RenameRules H P Q A) (hsaves : Tool.Saves Q)
    (hP : ∀ d ∈ io.drifts, d.Keeps P) (hQ : ∀ d ∈ io.drifts, d.Keeps Q) {s : ToolState}
    (hs : P s) :
    match edit H io cwd args s with
    | (.ok _, t) => Q t
    | (.error e, t) => Q t ∨ P t ∧ ∀ site, e = .panicked site →
        prepareEdit H io cwd args s = (.error e, t) := by
  unfold edit
  split_ifs
  · exact .inr ⟨hs, nofun⟩
  have hprepare : Tool.Failing (fun _ => True) P (prepareEdit H io cwd args) _ :=
    prepareEdit_spec trivial hrules hP
  have hplan := hprepare s hs
  rcases (prepareEdit H io cwd args).apply_cases s with ⟨⟨payload, replacement⟩, t, ht⟩ | ⟨e, t, ht⟩
  · rw [ht] at hplan
    obtain ⟨hPt, o, hknown, hpath, hsum⟩ := hplan
    rw [Proc.bind_of_ok ht]
    have hreplace : ∀ d ∈ io.replace.drifts, d.Keeps P := fun d hd =>
      hP d (by simp [EditIo.drifts, hd])
    have hinstall : Proc.Triple _ (installEdit H io.replace payload replacement) _ _ :=
      installEdit_spec hrules hreplace hpath hsum
    have hreread : Tool.Preserves (fun _ => True) Q (reread H io cwd args) :=
      reread_preserves trivial hrules.after hsaves hQ
    dsimp only
    rcases (installEdit H io.replace payload replacement).apply_cases t with
      ⟨⟨⟩, u, hu⟩ | ⟨e, u, hu⟩
    · rw [Proc.bind_of_ok hu]
      have hQu := hinstall.ok ⟨hPt, hknown⟩ hu
      rcases (reread H io cwd args).apply_cases u with ⟨text, v, hv⟩ | ⟨e, v, hv⟩
      · rw [hv]
        exact hreread.ok hQu hv
      · rw [hv]
        exact .inl (hreread.error hQu hv).1
    · rw [Proc.bind_of_error hu]
      exact (hinstall.error ⟨hPt, hknown⟩ hu).imp_right fun h =>
        ⟨h.1, fun site he => absurd he (h.2 site)⟩
  · rw [ht] at hplan
    rw [Proc.bind_of_error ht]
    exact .inr ⟨hplan.1, fun _ _ => ht⟩

/-- What holds after an edit that succeeds. -/
theorem edit_ok (hrules : RenameRules H P Q A) (hsaves : Tool.Saves Q)
    (hP : ∀ d ∈ io.drifts, d.Keeps P) (hQ : ∀ d ∈ io.drifts, d.Keeps Q) {s t : ToolState}
    (hs : P s) {text : List Char} (hrun : edit H io cwd args s = (.ok text, t)) : Q t := by
  have hedit := @edit_spec H P cwd Q A io args hrules hsaves hP hQ s hs
  rwa [hrun] at hedit

/-- What holds after an edit that fails. -/
theorem edit_error (hrules : RenameRules H P Q A) (hsaves : Tool.Saves Q)
    (hP : ∀ d ∈ io.drifts, d.Keeps P) (hQ : ∀ d ∈ io.drifts, d.Keeps Q) {s t : ToolState}
    (hs : P s) {e : Abort EditToolError} (hrun : edit H io cwd args s = (.error e, t)) :
    Q t ∨ P t ∧ ∀ site, e = .panicked site → prepareEdit H io cwd args s = (.error e, t) := by
  have hedit := @edit_spec H P cwd Q A io args hrules hsaves hP hQ s hs
  rwa [hrun] at hedit

end

end Tools
end Moh
