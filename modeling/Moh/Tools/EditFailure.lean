/-
# Failed edits

`tools/edit.rs`: `EditService::edit` replaces the file before its last steps, which
record the new bytes and read the file again for new anchors.  When one of these
fails the caller gets an error although the file was changed; when nothing behind
the rename can fail, an error means that the file is as it was
(`failureKeepsFiles_iff`).  The reader refuses more than the editor: the NUL byte,
which `^[^\r\n]*$` admits, more than 238,328 lines, and more than 100 MiB.
-/

import Moh.Tools.Edit

namespace Moh
namespace Tools

open Fallible

variable {H : Hashing} {cwd : PathBuf} {s t : ToolState} {c : PathBuf} {bytes : List UInt8}
  {permissions : ℕ}

/-! ### Reading the new contents -/

/-- Nothing keeps `collect_read_payload` from taking these bytes. -/
structure Readable (io : CollectReadIo) (bytes : List UInt8) : Prop where
  worker : io.worker = false
  canonicalize : io.canonicalize = none
  metadata : io.metadata = none
  textMetadata : io.textMetadata = none
  openFile : io.openFile = none
  size : bytes.length ≤ maxBytes
  text : isText bytes = true
  lines : (logicalLines (normalizeText bytes).1).length ≤ maxLines

/-- **A file is collected iff nothing keeps the reader from it.** -/
theorem collectReadPayload_of_isFile {io : CollectReadIo} (args : ReadArgs)
    (hu : ∀ d ∈ io.drifts, d = {}) (hr : s.fs.resolve (requestedPath cwd args.path) = .ok c)
    (hf : s.fs.IsFile c bytes permissions) :
    (Readable io bytes → collectReadPayload H io cwd args s =
      (.ok (.file (readFilePayload H (requestedPath cwd args.path) c args bytes)), s)) ∧
    (¬Readable io bytes → Tool.Fails (collectReadPayload H io cwd args) s) := by
  have h₁ : Drift.ofFs io.beforeMetadata = {} := hu _ (by simp [CollectReadIo.drifts])
  have h₂ : Drift.ofFs io.beforeTextMetadata = {} := hu _ (by simp [CollectReadIo.drifts])
  have h₃ : Drift.ofFs io.beforeOpen = {} := hu _ (by simp [CollectReadIo.drifts])
  constructor
  · rintro ⟨hw, hc, hm, ht, ho, hsize, htext, hlines⟩
    simp [collectReadPayload, collectFile, readTextBytes, Proc.bind_apply, h₁, h₂, h₃, hw, hc, hm, ht, ho,
      answer, hr, hf.lookup, readFilePayload, Nat.not_lt.2 hsize, htext, Nat.not_lt.2 hlines]
  · intro hnot
    unfold Tool.Fails
    cases hw : io.worker with
    | true => simp [collectReadPayload, Proc.bind_apply, hw]
    | false =>
    cases hc : io.canonicalize with
    | some kind => simp [collectReadPayload, Proc.bind_apply, hw, hc, answer]
    | none =>
    cases hm : io.metadata with
    | some kind => simp [collectReadPayload, Proc.bind_apply, hw, hc, hm, h₁, hr, answer]
    | none =>
    cases ht : io.textMetadata with
    | some kind =>
      simp [collectReadPayload, collectFile, readTextBytes, Proc.bind_apply, hw, hc, hm, ht, h₁, h₂, hr,
        hf.lookup, answer]
    | none =>
    by_cases hsize : bytes.length ≤ maxBytes
    · cases ho : io.openFile with
      | some kind =>
        simp [collectReadPayload, collectFile, readTextBytes, Proc.bind_apply, hw, hc, hm, ht, ho, h₁, h₂, h₃,
          hr, hf.lookup, answer, Nat.not_lt.2 hsize]
      | none =>
        cases htext : isText bytes with
        | false =>
          simp [collectReadPayload, collectFile, readTextBytes, Proc.bind_apply, hw, hc, hm, ht, ho, h₁, h₂,
            h₃, hr, hf.lookup, answer, Nat.not_lt.2 hsize, htext]
        | true =>
          have hlines : maxLines < (logicalLines (normalizeText bytes).1).length :=
            Nat.lt_of_not_le fun h => hnot ⟨hw, hc, hm, ht, ho, hsize, htext, h⟩
          simp [collectReadPayload, collectFile, readTextBytes, Proc.bind_apply, hw, hc, hm, ht, ho, h₁, h₂,
            h₃, hr, hf.lookup, answer, Nat.not_lt.2 hsize, htext, readFilePayload, hlines]
    · simp [collectReadPayload, collectFile, readTextBytes, Proc.bind_apply, hw, hc, hm, ht, h₁, h₂, hr,
        hf.lookup, answer, Nat.not_le.1 hsize]

/-- Nothing keeps the anchors of these bytes from being found and saved, and the
bytes from being recorded.  A panic of the allocation is no failure. -/
structure Anchored (H : Hashing) (io : ReadIo) (row : AnchorSnapshot) (bytes : List UInt8) :
    Prop where
  load : io.load = false
  saved : ∀ hashes, hashesFromSnapshot H (some row) (textChecksum H (normalizeText bytes).1)
      (logicalLines (normalizeText bytes).1) = some hashes →
    validateSnapshot (snapshot (textChecksum H (normalizeText bytes).1)
      (logicalLines (normalizeText bytes).1) hashes) false = .ok () ∧
    io.save = false ∧ io.record = false

/-- The end of a read fails iff the anchors or the observation cannot be kept. -/
theorem fails_hashesFor_iff {io : ReadIo} {row : AnchorSnapshot} {requested : PathBuf}
    {args : ReadArgs} (hu : ∀ d ∈ io.drifts, d = {}) (hrow : s.anchors.rows c = some row)
    (hvalid : validateSnapshot row true = .ok ()) :
    Tool.Fails (hashesFor H io (readFilePayload H requested c args bytes) >>= fun hashes =>
      finishRead H io (readFilePayload H requested c args bytes) hashes) s ↔
      ¬Anchored H io row bytes := by
  have h₁ : io.beforeLoad = {} := hu _ (by simp [ReadIo.drifts])
  have h₂ : io.beforeSave = {} := hu _ (by simp [ReadIo.drifts])
  rw [← not_iff_not, not_not]
  unfold Tool.Fails
  cases hl : io.load with
  | true =>
    simp only [hashesFor, Proc.bind_apply, Tool.loadAnchors, h₁, hl]
    exact iff_of_false (by simp) fun h => by simp [h.load] at hl
  | false =>
  cases hh : hashesFromSnapshot H (some row) (textChecksum H (normalizeText bytes).1)
      (logicalLines (normalizeText bytes).1) with
  | none =>
    refine iff_of_true ?_ ⟨hl, fun hashes h => by simp [hh] at h⟩
    simp [hashesFor, Proc.bind_apply, Tool.loadAnchors, h₁, hl, hrow, hvalid, anchorsFor,
      readFilePayload, hh]
  | some hashes =>
    have hiff : Anchored H io row bytes ↔
        validateSnapshot (snapshot (textChecksum H (normalizeText bytes).1)
          (logicalLines (normalizeText bytes).1) hashes) false = .ok () ∧
        io.save = false ∧ io.record = false := by
      refine ⟨fun h => h.saved hashes hh, fun h => ⟨hl, fun hashes' h' => ?_⟩⟩
      rwa [Option.some.inj (h'.symm.trans hh)]
    rw [hiff]
    cases hv : validateSnapshot (snapshot (textChecksum H (normalizeText bytes).1)
        (logicalLines (normalizeText bytes).1) hashes) false with
    | error reason =>
      refine iff_of_false ?_ (by simp)
      simp [hashesFor, Proc.bind_apply, Tool.loadAnchors, h₁, h₂, hl, hrow, hvalid, anchorsFor,
        readFilePayload, hh, Tool.saveAnchors, hv]
    | ok u =>
      cases hs : io.save <;> cases hr : io.record <;>
        simp [hashesFor, Proc.bind_apply, Tool.loadAnchors, h₁, h₂, hl, hrow, hvalid, anchorsFor,
          readFilePayload, hh, Tool.saveAnchors, hv, hs, hr, finishRead, Tool.recordObservation]

/-- Nobody else changes anything during the call. -/
def EditIo.Undisturbed (io : EditIo) : Prop :=
  ∀ d ∈ io.drifts, d = {}

/-- The read at the end of an edit fails iff the reader refuses the new contents
or cannot keep what it found. -/
theorem fails_reread_iff {io : EditIo} {args : EditArgs} {row : AnchorSnapshot}
    (hu : io.Undisturbed) (hpath : args.path ≠ [])
    (hr : s.fs.resolve (requestedPath cwd args.path) = .ok c)
    (hf : s.fs.IsFile c bytes permissions) (hrow : s.anchors.rows c = some row)
    (hvalid : validateSnapshot row true = .ok ()) :
    Tool.Fails (reread H io cwd args) s ↔
      ¬(Readable io.reread.collect bytes ∧ Anchored H io.reread row bytes) := by
  have h₁ : io.beforeReread = {} := hu _ (by simp [EditIo.drifts])
  have hread : ∀ d ∈ io.reread.drifts, d = {} := fun d h => hu d (by simp [EditIo.drifts, h])
  have hcollect : ∀ d ∈ io.reread.collect.drifts, d = {} := fun d h =>
    hread d (by simp [ReadIo.drifts, h])
  obtain ⟨hok, hfails⟩ := collectReadPayload_of_isFile (H := H) ⟨args.path, none, none⟩
    hcollect hr hf
  unfold reread
  rw [Tool.fails_bind_of_ok (Tool.drift_eq_ok.2 rfl), h₁, Drift.apply_none, Tool.fails_mapErr,
    read]
  rw [if_neg (by simp [ReadArgs.isValid, hpath])]
  by_cases hreadable : Readable io.reread.collect bytes
  · rw [Tool.fails_bind_of_ok (hok hreadable)]
    simpa [hreadable] using fails_hashesFor_iff hread hrow hvalid
  · exact iff_of_true (hfails hreadable).bind fun h => hreadable h.1

/-! ### Failure and the rename -/

/-- An edit that returns an error leaves the bytes of every file as they were. -/
def FailureKeepsFiles (H : Hashing) (io : EditIo) (cwd : PathBuf) (args : EditArgs)
    (s : ToolState) : Prop :=
  ∀ e, (edit H io cwd args s).1 = .error (.error e) →
    ∀ c, (edit H io cwd args s).2.fs.bytesAt c = s.fs.bytesAt c

/-- The edit gets as far as its rename: the arguments are valid, the file is the
observed one, the anchors are found, and the replacement is installed. -/
def Installs (H : Hashing) (io : EditIo) (cwd : PathBuf) (args : EditArgs) (s : ToolState)
    (payload : EditPayload) (replacement : List UInt8) : Prop :=
  args.isValid = true ∧ io.replace.worker = false ∧
    ∃ t t', prepareEdit H io cwd args s = (.ok (payload, replacement), t) ∧
      replaceFile io.replace payload.canonical payload.bytes replacement t = (.ok (), t')

/-- Nothing behind the rename fails: the new bytes are recorded, the reader takes
them, and their anchors are found and saved. -/
structure FollowedUp (H : Hashing) (io : EditIo) (s : ToolState) (payload : EditPayload)
    (replacement : List UInt8) : Prop where
  recordLock : io.replace.recordLock = false
  readable : Readable io.reread.collect replacement
  anchored : ∀ row, s.anchors.rows payload.canonical = some row →
    Anchored H io.reread row replacement

variable {io : EditIo} {args : EditArgs} {payload : EditPayload} {replacement : List UInt8}

/-- **What an edit that gets as far as its rename does:** the file has the new
bytes, and the call fails iff something behind the rename does. -/
theorem Installs.spec (hu : io.Undisturbed) (h : Installs H io cwd args s payload replacement) :
    ∃ permissions permissions', s.fs.IsFile payload.canonical payload.bytes permissions ∧
      (edit H io cwd args s).2.fs =
        s.fs.put payload.canonical (.file replacement permissions') ∧
      (Tool.Fails (edit H io cwd args) s ↔ ¬FollowedUp H io s payload replacement) := by
  obtain ⟨hvalid, hworker, t, t', hprepare, hreplace⟩ := h
  obtain ⟨rfl, hpath, hcollected, row, _, _, hrow, hrowValid, -⟩ := prepareEdit_eq_ok hprepare
  obtain ⟨_, fs', permissions', rfl, -, hrename, rfl⟩ := replaceFile_eq_ok hreplace
  rw [hu io.beforeLoad (by simp [EditIo.drifts]),
    hu (.ofFs io.collect.beforeRead) (by simp [EditIo.drifts, CollectEditIo.drifts]),
    hu (.ofFs io.replace.beforeMetadata) (by simp [EditIo.drifts, ReplaceIo.drifts]),
    hu (.ofFs io.replace.beforeFinalRead) (by simp [EditIo.drifts, ReplaceIo.drifts])] at *
  simp only [Drift.apply_none] at *
  obtain ⟨c, permissions, hc, hfile⟩ := FileSystem.isFile_of_read hcollected.read
  obtain rfl : c = payload.canonical := by
    have := FileSystem.resolve_resolve hcollected.resolve
    exact Except.ok.inj (hc.symm.trans this)
  rw [hfile.rename] at hrename
  obtain rfl := Except.ok.inj hrename
  -- the state in which the new bytes are recorded
  let u : ToolState := { s with
    fs := s.fs.put payload.canonical (.file replacement permissions')
    log := s.log ++ [.replaced payload.canonical payload.bytes replacement] }
  have hedit : edit H io cwd args s = (Tool.recordObservation H io.replace.recordLock .runtime
      payload.path payload.canonical replacement >>= fun _ => reread H io cwd args) u := by
    rw [edit, if_neg (by simp [hvalid]), Proc.bind_of_ok hprepare]
    simp only [installEdit, Proc.bind_apply, hworker, Tool.check_false, hreplace]
    rfl
  have hstable := Tool.Stable.ofFs (H := H)
    (· = s.fs.put payload.canonical (.file replacement permissions'))
  have hreread : Tool.Preserves (fun _ => True) _ (reread H io cwd args) :=
    reread_preserves trivial hstable (fun _ _ _ h => h) (Drift.keeps_of_none hu)
  refine ⟨permissions, permissions', hfile, ?_, ?_⟩
  · rw [hedit]
    exact (hstable.recordObservation.bind fun _ => hreread).apply rfl
  · have hfails : Tool.Fails (edit H io cwd args) s ↔
        Tool.Fails (Tool.recordObservation H io.replace.recordLock .runtime
          payload.path payload.canonical replacement >>= fun _ => reread H io cwd args) u := by
      unfold Tool.Fails
      rw [hedit]
    rw [hfails]
    cases hlock : io.replace.recordLock with
    | true =>
      refine iff_of_true (Tool.Fails.bind ?_) fun h => by simp [h.recordLock] at hlock
      exact ⟨.runtime, rfl⟩
    | false =>
      have hsame : FileSystem.SameShape s.fs
          (s.fs.put payload.canonical (.file replacement permissions')) :=
        FileSystem.sameShape_put hfile.entry
      have hpathArg : args.path ≠ [] := fun hnil => by simp [EditArgs.isValid, hnil] at hvalid
      let v : ToolState := { u with
        observations := u.observations.record H payload.path payload.canonical replacement
        log := u.log ++ [.recorded payload.path payload.canonical replacement] }
      have hresolve : v.fs.resolve (requestedPath cwd args.path) = .ok payload.canonical := by
        rw [← hpath, ← hcollected.resolve]
        exact (FileSystem.resolve_congr hsame _).symm
      rw [Tool.fails_bind_of_ok (t := v) (Tool.recordObservation_eq_ok.2 ⟨rfl, rfl⟩),
        fails_reread_iff (s := v) hu hpathArg hresolve hfile.put hrow hrowValid]
      refine not_congr ⟨?_, fun h => ⟨h.readable, h.anchored row hrow⟩⟩
      rintro ⟨hr, ha⟩
      refine ⟨hlock, hr, fun row' h' => ?_⟩
      rwa [Option.some.inj (h'.symm.trans hrow)]

/-- An edit that does not get as far as its rename leaves the files as they were. -/
theorem fs_of_not_installs (hu : io.Undisturbed)
    (h : ∀ payload replacement, ¬Installs H io cwd args s payload replacement) :
    (edit H io cwd args s).2.fs = s.fs := by
  have hstable : Tool.Stable H fun t => t.fs = s.fs := .ofFs (· = s.fs)
  have hkeeps := Drift.keeps_of_none (P := fun t : ToolState => t.fs = s.fs) hu
  have hprepare : Tool.Preserves (fun _ => True) _ (prepareEdit H io cwd args) :=
    prepareEdit_preserves trivial hstable hkeeps
  unfold edit
  split_ifs with hvalid
  · rfl
  · rcases (prepareEdit H io cwd args).apply_cases s with ⟨⟨payload, replacement⟩, t, ht⟩ | ⟨e, t, ht⟩
    · have hfs : t.fs = s.fs := by
        have := hprepare.apply rfl
        rwa [ht] at this
      rw [Proc.bind_of_ok ht]
      cases hworker : io.replace.worker with
      | true => simpa [installEdit, Proc.bind_apply, hworker] using hfs
      | false =>
        rcases (replaceFile io.replace payload.canonical payload.bytes replacement).apply_cases t
          with ⟨⟨⟩, t', ht'⟩ | ⟨e, t', ht'⟩
        · exact absurd ⟨by simpa using hvalid, hworker, t, t', ht, ht'⟩ (h payload replacement)
        · have hfs' := ((replaceFile_error (S := fun _ => True)
            (fun d hd => hkeeps d (by simp [EditIo.drifts, hd]))).error hfs ht').1
          simpa [installEdit, Proc.bind_apply, hworker, ht'] using hfs'
    · rw [Proc.bind_of_error ht]
      have := hprepare.apply rfl
      rwa [ht] at this

/-- **A failed edit leaves the files unchanged iff nothing fails behind a rename
that changed the file.** -/
theorem failureKeepsFiles_iff (hu : io.Undisturbed) :
    FailureKeepsFiles H io cwd args s ↔
      ∀ payload replacement, Installs H io cwd args s payload replacement →
        replacement = payload.bytes ∨ FollowedUp H io s payload replacement := by
  constructor
  · intro h payload replacement hi
    obtain ⟨permissions, permissions', hfile, hfs, hfails⟩ := hi.spec hu
    by_contra hnot
    obtain ⟨hne, hnf⟩ := not_or.1 hnot
    obtain ⟨e, he⟩ := hfails.2 hnf
    have hbytes := h e he payload.canonical
    rw [hfs, hfile.put.bytesAt, hfile.bytesAt] at hbytes
    exact hne (Option.some.inj hbytes)
  · intro h e he c
    by_cases hi : ∃ payload replacement, Installs H io cwd args s payload replacement
    · obtain ⟨payload, replacement, hi⟩ := hi
      obtain ⟨permissions, permissions', hfile, hfs, hfails⟩ := hi.spec hu
      rcases h payload replacement hi with rfl | hfollowed
      · rw [hfs]
        by_cases hc : c = payload.canonical
        · subst hc
          rw [hfile.put.bytesAt, hfile.bytesAt]
        · unfold FileSystem.bytesAt
          rw [FileSystem.entries_put_of_ne _ hc]
      · exact absurd hfollowed (hfails.1 ⟨e, he⟩)
    · push Not at hi
      rw [fs_of_not_installs hu hi]

/-- The directory `/w`. -/
def sampleDir : PathBuf := [.rootDir, .normal ['w']]

/-- The file `/w/n`. -/
def sampleFile : PathBuf := [.rootDir, .normal ['w'], .normal ['n']]

/-- A new session on a machine with one file. -/
def sampleState (bytes : List UInt8) : ToolState where
  fs := ⟨fun place =>
    if place = sampleDir then some .directory
    else if place = sampleFile then some (.file bytes 0o644) else none⟩
  anchors := ⟨fun _ => none⟩
  observations := .empty

/-- The session has read the file with the line `a`. -/
def sampleRead : ToolState :=
  (read knownHashes {} sampleDir { path := ['n'] } (sampleState [0x61, 0x0A])).2

theorem failureKeepsFiles_iff_sample :
    FailureKeepsFiles knownHashes {} sampleDir ⟨['n'], "Wot".toList, "Wot".toList, [['b']]⟩
      sampleRead ↔
    ∀ payload replacement, Installs knownHashes {} sampleDir
      ⟨['n'], "Wot".toList, "Wot".toList, [['b']]⟩ sampleRead payload replacement →
      replacement = payload.bytes ∨ FollowedUp knownHashes {} sampleRead payload replacement :=
  failureKeepsFiles_iff (by
    intro d hd
    simpa [EditIo.drifts, CollectEditIo.drifts, ReplaceIo.drifts, ReadIo.drifts,
      CollectReadIo.drifts] using hd)

/-- The line `a` is replaced by a line with a NUL character: the arguments are
valid, the file is changed, and the edit returns an error. -/
theorem changed_by_failed_edit :
    EditArgs.isValid ⟨['n'], "Wot".toList, "Wot".toList, [['\x00']]⟩ = true ∧
      (edit knownHashes {} sampleDir ⟨['n'], "Wot".toList, "Wot".toList, [['\x00']]⟩
        sampleRead).1 = .error (.error .runtime) ∧
      (edit knownHashes {} sampleDir ⟨['n'], "Wot".toList, "Wot".toList, [['\x00']]⟩
        sampleRead).2.fs.bytesAt sampleFile = some [0x00, 0x0A] ∧
      ¬FailureKeepsFiles knownHashes {} sampleDir
        ⟨['n'], "Wot".toList, "Wot".toList, [['\x00']]⟩ sampleRead := by
  have hresult : (edit knownHashes {} sampleDir
      ⟨['n'], "Wot".toList, "Wot".toList, [['\x00']]⟩ sampleRead).1 =
        .error (.error .runtime) := by rfl
  have hbytes : (edit knownHashes {} sampleDir
      ⟨['n'], "Wot".toList, "Wot".toList, [['\x00']]⟩ sampleRead).2.fs.bytesAt sampleFile =
        some [0x00, 0x0A] := by decide +kernel
  refine ⟨by decide, hresult, hbytes, fun h => ?_⟩
  have hkept := h _ hresult sampleFile
  rw [hbytes] at hkept
  exact absurd hkept (by decide +kernel)

end Tools
end Moh
