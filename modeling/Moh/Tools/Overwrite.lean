/-
# No blind overwrite

`tools/write.rs`, `tools/edit.rs`: a session replaces a file only if it has seen the
bytes that are there.  Every observation that is kept was recorded and not
forgotten since (`Accounted`), and every rename of a run relies on one; a target
that did not exist is created by a rename that replaces nothing.  A call that
replaces nothing returns an error and leaves the files alone, unless the plan of
an edit panics in `splice` (`noBlindOverwrite_iff`).
-/

import Moh.Library.Run
import Moh.Tools.EditFailure

namespace Moh
namespace Tools

open Fallible

/-! ### Runs of a session -/

/-- A call of a session, with what fails and changes in it, or changes of others in
between. -/
inductive SessionStep where
  | read (io : ReadIo) (cwd : PathBuf) (args : ReadArgs)
  | write (io : WriteIo) (cwd : PathBuf) (args : WriteArgs)
  | edit (io : EditIo) (cwd : PathBuf) (args : EditArgs)
  | others (d : Drift)

/-- The state after a step. -/
def sessionStep (H : Hashing) (s : ToolState) : SessionStep → ToolState
  | .read io cwd args => (read H io cwd args s).2
  | .write io cwd args => (write H io cwd args s).2
  | .edit io cwd args => (edit H io cwd args s).2
  | .others d => d.apply s

/-- A session that has not done anything yet. -/
structure Fresh (s : ToolState) : Prop where
  observations : s.observations = .empty
  log : s.log = []

variable {H : Hashing} {s t : ToolState} {log : List ToolEvent} {c : PathBuf} {checksum : UInt64}

/-- **A step preserves** what withstands records, renames, saved anchors and the
changes of others. -/
theorem sessionStep_preserves {P : ToolState → Prop} {A : FileObservation → List ToolEvent → Prop}
    (hrules : RenameRules H P P A) (hsaves : Tool.Saves P) (hkeeps : ∀ d : Drift, d.Keeps P)
    (h : P s) (step : SessionStep) : P (sessionStep H s step) := by
  cases step with
  | read io cwd args =>
    exact (read_preserves (S := fun _ => True) trivial hrules.before hsaves
      fun d _ => hkeeps d).apply h
  | write io cwd args =>
    have hwrite : Proc.Triple _ (write H io cwd args) _ _ := write_spec (S := fun _ => True)
      hrules (fun d _ => hkeeps d) fun d _ => hkeeps d
    rw [sessionStep]
    rcases hrun : write H io cwd args s with ⟨e | text, t⟩
    · exact (hwrite.error h hrun).1.elim id id
    · exact hwrite.ok h hrun
  | edit io cwd args =>
    have hall : ∀ d ∈ io.drifts, d.Keeps P := fun d _ => hkeeps d
    rw [sessionStep]
    rcases hrun : edit H io cwd args s with ⟨e | text, t⟩
    · exact (edit_error hrules hsaves hall hall h hrun).elim id fun h => h.1
    · exact edit_ok hrules hsaves hall hall h hrun
  | others d => exact hkeeps d s h

/-! ### What a rename relies on -/

/-- The checksum was recorded for the path, which was not forgotten since. -/
def Authorised (H : Hashing) (log : List ToolEvent) (c : PathBuf) (checksum : UInt64) : Prop :=
  ∃ earlier path bytes later, log = earlier ++ .recorded path c bytes :: later ∧
    H.xxh64 bytes = checksum ∧ .forgot c ∉ later

/-- A file that is replaced has bytes that were recorded for its path; a file that
is created replaces none. -/
def Allowed (H : Hashing) (earlier : List ToolEvent) : ToolEvent → Prop
  | .replaced c before _ => Authorised H earlier c (H.xxh64 before)
  | .created _ before _ => before = none
  | _ => True

/-- Everything the session did was allowed when it did it. -/
def AllAllowed (H : Hashing) (log : List ToolEvent) : Prop :=
  ∀ earlier event, earlier ++ [event] <+: log → Allowed H earlier event

/-- Every observation that is kept was recorded, and not forgotten since. -/
structure Accounted (H : Hashing) (s : ToolState) : Prop where
  entries : ∀ key o, s.observations.entries key = some o →
    Authorised H s.log o.canonicalPath o.checksum
  log : AllAllowed H s.log

theorem Authorised.concat (h : Authorised H log c checksum) {event : ToolEvent}
    (hne : event ≠ .forgot c) : Authorised H (log ++ [event]) c checksum := by
  obtain ⟨earlier, path, bytes, later, rfl, hsum, hforgot⟩ := h
  refine ⟨earlier, path, bytes, later ++ [event], by simp, hsum, ?_⟩
  rw [List.mem_append, List.mem_singleton, not_or]
  exact ⟨hforgot, hne.symm⟩

theorem authorised_recorded (path : PathBuf) (bytes : List UInt8) :
    Authorised H (log ++ [.recorded path c bytes]) c (H.xxh64 bytes) :=
  ⟨log, path, bytes, [], rfl, rfl, by simp⟩

theorem AllAllowed.concat (h : AllAllowed H log) {event : ToolEvent}
    (hevent : Allowed H log event) : AllAllowed H (log ++ [event]) := by
  intro earlier last hstart
  rcases List.prefix_concat_iff.1 hstart with heq | hstart
  · obtain ⟨rfl, hlast⟩ := List.append_inj' heq rfl
    obtain rfl := List.singleton_inj.1 hlast
    exact hevent
  · exact h earlier last hstart

/-- **Records keep the account.** -/
theorem Accounted.stable : Tool.Stable H (Accounted H) := by
  constructor
  · intro s path canonical bytes h
    refine ⟨fun key o ho => ?_, h.log.concat trivial⟩
    rw [FileObservations.entries_record] at ho
    split_ifs at ho
    · obtain rfl := Option.some.inj ho
      exact authorised_recorded path bytes
    · exact (h.entries key o ho).concat nofun
  · intro s observation h
    refine ⟨fun key o ho => ?_, h.log.concat trivial⟩
    obtain ⟨hentry, hne⟩ := FileObservations.entries_forget.1 ho
    refine (h.entries key o hentry).concat fun heq => hne ?_
    exact (ToolEvent.forgot.inj heq).symm

/-- **The renames keep the account.** -/
theorem Accounted.rules : RenameRules H (Accounted H) (Accounted H)
    fun o log => Authorised H log o.canonicalPath o.checksum where
  before := Accounted.stable
  after := Accounted.stable
  found s key o h ho := h.entries key o ho
  dirs s path fs h _ := ⟨h.entries, h.log⟩
  replace s o current content fs permissions h hknown hsum _ _ := by
    refine ⟨fun key o' ho' => (h.entries key o' ho').concat nofun, h.log.concat ?_⟩
    rw [Allowed, ← hsum]
    exact hknown
  create s path content fs h hcreate :=
    ⟨fun key o ho => (h.entries key o ho).concat nofun,
      h.log.concat (FileSystem.replacedBytes_of_create hcreate)⟩

theorem Accounted.saves : Tool.Saves (Accounted H) := fun _ _ _ h => ⟨h.entries, h.log⟩

theorem Accounted.keeps (d : Drift) : d.Keeps (Accounted H) := fun _ h => ⟨h.entries, h.log⟩

/-- **One step keeps the account.** -/
theorem Accounted.step (s : ToolState) (step : SessionStep) (h : Accounted H s) :
    Accounted H (sessionStep H s step) :=
  sessionStep_preserves Accounted.rules Accounted.saves Accounted.keeps h step

/-- **Every run of a session keeps the account.** -/
theorem Accounted.run (hs : Fresh s) (steps : List SessionStep) :
    Accounted H (Run.run (sessionStep H) s steps) := by
  refine Run.run_invariant Accounted.step ⟨fun key o h => ?_, fun earlier event h => ?_⟩ steps
  · simp [hs.observations, FileObservations.empty] at h
  · simp [hs.log] at h

/-! ### One call -/

/-- The event is a rename. -/
def ToolEvent.installs : ToolEvent → Bool
  | .replaced .. => true
  | .created .. => true
  | _ => false

/-- The event is a rename that replaced a file. -/
def ToolEvent.replaces : ToolEvent → Bool
  | .replaced .. => true
  | _ => false

/-- **A call that writes is careful:** when its target does not exist at its begin it
replaces nothing, and when it renames nothing it returns an error and leaves every
file as it is that others leave as it is. -/
structure Careful (drifts : List Drift) (path : PathBuf) (s : ToolState)
    (outcome : Except (Abort ε) α × ToolState) : Prop where
  grows : s.log <+: outcome.2.log
  absent : s.fs.pathExists path = false →
    ∀ new, outcome.2.log = s.log ++ new → ∀ event ∈ new, event.replaces = false
  otherwise : ∀ new, outcome.2.log = s.log ++ new → (∀ event ∈ new, event.installs = false) →
    (∃ e, outcome.1 = .error (.error e)) ∧
    ∀ c bytes, s.fs.bytesAt c = some bytes →
      (∀ d ∈ drifts, d.Keeps fun t => t.fs.bytesAt c = some bytes) →
      outcome.2.fs.bytesAt c = some bytes

/-- The writes and edits are careful. -/
def CallCareful (H : Hashing) (s : ToolState) : SessionStep → Prop
  | .write io cwd args =>
    Careful io.drifts (requestedPath cwd args.path) s (write H io cwd args s)
  | .edit io cwd args => Careful io.drifts (requestedPath cwd args.path) s (edit H io cwd args s)
  | _ => True

/-- An edit that gets a range finds it inside of the lines it has collected. -/
def RangeInside (H : Hashing) (s : ToolState) : SessionStep → Prop
  | .edit io cwd args => args.isValid = true →
    ∀ payload t, collectEditPayload H io.collect cwd args.path s = (.ok payload, t) →
    ∀ row, Tool.loadAnchors io.load EditToolError.runtime payload.canonical
      (io.beforeLoad.apply t) = (.ok (some row), io.beforeLoad.apply t) →
    ∀ first last, anchorRange row args = .ok (first, last) → last < payload.lines.length
  | _ => True

/-- The log since the call began holds no rename. -/
def Quiet (s t : ToolState) : Prop :=
  ∃ new, t.log = s.log ++ new ∧ ∀ event ∈ new, event.installs = false

/-- The log since the call began holds a rename. -/
def Installed (s t : ToolState) : Prop :=
  ∃ new, t.log = s.log ++ new ∧ ∃ event ∈ new, event.installs = true

theorem Quiet.refl (s : ToolState) : Quiet s s := ⟨[], by simp, by simp⟩

theorem Quiet.grows (h : Quiet s t) : s.log <+: t.log := by
  obtain ⟨new, hlog, -⟩ := h
  exact ⟨new, hlog.symm⟩

theorem Installed.grows (h : Installed s t) : s.log <+: t.log := by
  obtain ⟨new, hlog, -⟩ := h
  exact ⟨new, hlog.symm⟩

theorem Quiet.concat {u : ToolState} (h : Quiet s t) {event : ToolEvent}
    (hevent : event.installs = false) (hu : u.log = t.log ++ [event]) : Quiet s u := by
  obtain ⟨new, hlog, hnew⟩ := h
  refine ⟨new ++ [event], by rw [hu, hlog, List.append_assoc], fun e he => ?_⟩
  rcases List.mem_append.1 he with he | he
  · exact hnew e he
  · rwa [List.mem_singleton.1 he]

theorem Quiet.install {u : ToolState} (h : Quiet s t) {event : ToolEvent}
    (hevent : event.installs = true) (hu : u.log = t.log ++ [event]) : Installed s u := by
  obtain ⟨new, hlog, -⟩ := h
  exact ⟨new ++ [event], by rw [hu, hlog, List.append_assoc], event, by simp, hevent⟩

theorem Installed.concat {u : ToolState} (h : Installed s t) {event : ToolEvent}
    (hu : u.log = t.log ++ [event]) : Installed s u := by
  obtain ⟨new, hlog, e, he, hinstalls⟩ := h
  exact ⟨new ++ [event], by rw [hu, hlog, List.append_assoc], e, by simp [he], hinstalls⟩

/-- There is a rename in the log, or there is none. -/
theorem Installed.not_quiet (h : Installed s t) {new : List ToolEvent}
    (hlog : t.log = s.log ++ new) : ¬∀ event ∈ new, event.installs = false := by
  obtain ⟨new', hlog', e, he, hinstalls⟩ := h
  obtain rfl := List.append_cancel_left (hlog.symm.trans hlog')
  intro hquiet
  rw [hquiet e he] at hinstalls
  cases hinstalls

theorem Installed.stable (s : ToolState) : Tool.Stable H (Installed s) :=
  ⟨fun _ _ _ _ h => h.concat rfl, fun _ _ h => h.concat rfl⟩

/-- No rename so far, and the file system is as it was in the respect `I`. -/
def Untouched (s : ToolState) (I : FileSystem → Prop) (t : ToolState) : Prop :=
  Quiet s t ∧ I t.fs

section
variable {I : FileSystem → Prop}

theorem Untouched.stable (s : ToolState) : Tool.Stable H (Untouched s I) :=
  ⟨fun _ _ _ _ h => ⟨h.1.concat rfl rfl, h.2⟩, fun _ _ h => ⟨h.1.concat rfl rfl, h.2⟩⟩

/-- **Up to the rename nothing is touched, and the rename is logged.** -/
theorem Untouched.rules (s : ToolState)
    (hdirs : ∀ fs path fs', I fs → fs.createDirAll path = .ok fs' → I fs') :
    RenameRules H (Untouched s I) (Installed s) fun _ _ => True where
  before := Untouched.stable s
  after := Installed.stable s
  found _ _ _ _ _ := trivial
  dirs _ _ _ h hfs := ⟨h.1, hdirs _ _ _ h.2 hfs⟩
  replace _ _ _ _ _ _ h _ _ _ _ := h.1.install rfl rfl
  create _ _ _ _ h _ := h.1.install rfl rfl

theorem Untouched.keeps {drifts : List Drift}
    (hd : ∀ d ∈ drifts, d.Keeps fun t => I t.fs) : ∀ d ∈ drifts, d.Keeps (Untouched s I) :=
  fun d h _ ht => ⟨ht.1, hd d h _ ht.2⟩

theorem Installed.keeps {drifts : List Drift} : ∀ d ∈ drifts, d.Keeps (Installed s) :=
  fun _ _ _ h => h

theorem write_grows {io : WriteIo} {cwd : PathBuf} {args : WriteArgs} :
    s.log <+: (write H io cwd args s).2.log := by
  have hwrite : Proc.Triple _ (write H io cwd args) _ _ := write_spec (S := fun _ => False)
    (Untouched.rules s fun _ _ _ _ _ => trivial) (Untouched.keeps fun _ _ _ _ => trivial)
    Installed.keeps
  rcases hrun : write H io cwd args s with ⟨e | text, t⟩
  · exact (hwrite.error ⟨Quiet.refl s, trivial⟩ hrun).1.elim (fun h => h.1.grows) Installed.grows
  · exact (hwrite.ok ⟨Quiet.refl s, trivial⟩ hrun).grows

/-- **A write that renames nothing returns an error and touches nothing.** -/
theorem write_untouched {io : WriteIo} {cwd : PathBuf} {args : WriteArgs} {new : List ToolEvent}
    (hdirs : ∀ fs path fs', I fs → fs.createDirAll path = .ok fs' → I fs')
    (hd : ∀ d ∈ io.drifts, d.Keeps fun t => I t.fs) (hI : I s.fs)
    (hlog : (write H io cwd args s).2.log = s.log ++ new)
    (hnew : ∀ event ∈ new, event.installs = false) :
    (∃ e, (write H io cwd args s).1 = .error (.error e)) ∧ I (write H io cwd args s).2.fs := by
  have hwrite : Proc.Triple _ (write H io cwd args) _ _ := write_spec (S := fun _ => False)
    (Untouched.rules s hdirs) (Untouched.keeps hd) Installed.keeps
  rcases hrun : write H io cwd args s with ⟨e | text, t⟩
  · rw [hrun] at hlog
    obtain ⟨hstate, hsite⟩ := hwrite.error ⟨Quiet.refl s, hI⟩ hrun
    refine ⟨?_, hstate.elim And.right fun h => absurd hnew (h.not_quiet hlog)⟩
    cases e with
    | error e => exact ⟨e, rfl⟩
    | panicked site => exact (hsite site rfl).elim
  · rw [hrun] at hlog
    exact absurd hnew ((hwrite.ok ⟨Quiet.refl s, hI⟩ hrun).not_quiet hlog)

/-- The log since the call began holds no rename that replaced a file. -/
def ReplacesNothing (s t : ToolState) : Prop :=
  ∃ new, t.log = s.log ++ new ∧ ∀ event ∈ new, event.replaces = false

theorem ReplacesNothing.concat {u : ToolState} (h : ReplacesNothing s t) {event : ToolEvent}
    (hevent : event.replaces = false) (hu : u.log = t.log ++ [event]) : ReplacesNothing s u := by
  obtain ⟨new, hlog, hnew⟩ := h
  refine ⟨new ++ [event], by rw [hu, hlog, List.append_assoc], fun e he => ?_⟩
  rcases List.mem_append.1 he with he | he
  · exact hnew e he
  · rwa [List.mem_singleton.1 he]

theorem ReplacesNothing.forall (h : ReplacesNothing s t) {new : List ToolEvent}
    (hlog : t.log = s.log ++ new) : ∀ event ∈ new, event.replaces = false := by
  obtain ⟨new', hlog', hnew⟩ := h
  obtain rfl := List.append_cancel_left (hlog.symm.trans hlog')
  exact hnew

theorem ReplacesNothing.stable (s : ToolState) : Tool.Stable H (ReplacesNothing s) :=
  ⟨fun _ _ _ _ h => h.concat rfl rfl, fun _ _ h => h.concat rfl rfl⟩

/-- A target that does not exist is no existing one. -/
theorem writeTarget_absent (io : WriteIo) {path : PathBuf} (h : t.fs.pathExists path = false)
    (ht : ReplacesNothing s t) :
    match writeTarget H io path t with
    | (.ok target, u) => ReplacesNothing s u ∧ target.2 = none
    | (.error _, u) => ReplacesNothing s u := by
  have habsent : ¬(answer io.pathExists (t.fs.lookup path)).isOk = true := by
    intro hfound
    have hexists : t.fs.pathExists path = true := (isOk_answer.1 hfound).2
    rw [h] at hexists
    cases hexists
  rw [writeTarget, Tool.bind_state, if_neg habsent]
  cases hlock : io.requestedLock with
  | true => exact ht
  | false =>
    cases hget : t.observations.get path with
    | none => simpa [Tool.observed, Proc.bind_apply, hget] using ht
    | some observation =>
      cases hforget : io.forgetLock with
      | true => simpa [Tool.observed, Tool.forgetObservation, Proc.bind_apply, hget] using ht
      | false =>
        simpa [Tool.observed, Tool.forgetObservation, Proc.bind_apply, hget] using
          ht.concat rfl rfl

/-- **A write to a target that does not exist replaces nothing,** whatever is created
at its place during the call. -/
theorem write_absent {io : WriteIo} {cwd : PathBuf} {args : WriteArgs}
    (h : s.fs.pathExists (requestedPath cwd args.path) = false) :
    ReplacesNothing s (write H io cwd args s).2 := by
  have hrefl : ReplacesNothing s s := ⟨[], by simp, by simp⟩
  have hkeeps : ∀ d ∈ io.drifts, d.Keeps (ReplacesNothing s) := fun _ _ _ h => h
  have hstage : ∀ path, Tool.Preserves (fun _ => True) (ReplacesNothing s) (stage io path) :=
    fun path => stage_preserves (fun _ _ _ h _ => h) hkeeps
  have hnew : ∀ path content, Tool.Preserves (fun _ => True) (ReplacesNothing s)
      (persistNew io path content) := fun path content =>
    persistNew_spec (fun _ _ _ _ h _ => h.concat rfl rfl) hkeeps
  have hinstall : ReplacesNothing s
      (installWrite H io (requestedPath cwd args.path) (Utf8.encode args.content) s).2 := by
    have htarget := writeTarget_absent (H := H) io h hrefl
    rw [installWrite]
    rcases (writeTarget H io (requestedPath cwd args.path)).apply_cases s with
      ⟨⟨writePath, existing⟩, u, hu⟩ | ⟨e, u, hu⟩
    · rw [hu] at htarget
      obtain ⟨hquiet, rfl⟩ := htarget
      rw [Proc.bind_of_ok hu]
      exact ((hstage writePath).bind fun _ => (hnew writePath _).bind fun _ => .pure _).apply hquiet
    · rw [hu] at htarget
      rw [Proc.bind_of_error hu]
      exact htarget
  unfold write
  split_ifs
  · exact hrefl
  rw [writeSync]
  cases hworker : io.worker with
  | true => exact hrefl
  | false =>
    rw [Proc.bind_apply, Tool.check_false]
    dsimp only
    rcases (installWrite H io (requestedPath cwd args.path) (Utf8.encode args.content)).apply_cases s
      with ⟨writePath, u, hu⟩ | ⟨e, u, hu⟩
    · rw [hu] at hinstall
      rw [Proc.bind_of_ok hu]
      refine Tool.Preserves.apply (S := fun _ => True) ?_ hinstall
      exact (Tool.Preserves.drift (hkeeps _ (by simp [WriteIo.drifts]))).bind fun _ =>
        Tool.Preserves.state.bind fun _ => Tool.Preserves.ofExcept.bind fun _ =>
        (ReplacesNothing.stable s).recordObservation.bind fun _ => .pure _
    · rw [hu] at hinstall
      rw [Proc.bind_of_error hu]
      exact hinstall

/-- **A write is careful.** -/
theorem write_careful (io : WriteIo) (cwd : PathBuf) (args : WriteArgs) (s : ToolState) :
    Careful io.drifts (requestedPath cwd args.path) s (write H io cwd args s) where
  grows := write_grows
  absent h _ hlog := (write_absent h).forall hlog
  otherwise _ hlog hnew :=
    ⟨(write_untouched (I := fun _ => True) (fun _ _ _ _ _ => trivial) (fun _ _ _ _ => trivial)
      trivial hlog hnew).1, fun c bytes hs hd =>
      (write_untouched (I := fun fs => fs.bytesAt c = some bytes)
        (fun _ _ _ h hfs => (FileSystem.bytesAt_createDirAll hfs).trans h) hd hs hlog hnew).2⟩

/-! ### Edits -/

variable {io : EditIo} {cwd : PathBuf} {args : EditArgs}

/-- An edit of a path that does not exist has no plan. -/
theorem prepareEdit_absent (h : s.fs.pathExists (requestedPath cwd args.path) = false)
    {plan : EditPayload × List UInt8} : prepareEdit H io cwd args s ≠ (.ok plan, t) := by
  intro hplan
  obtain ⟨-, hpath, hcollected, -⟩ := prepareEdit_eq_ok hplan
  have := FileSystem.pathExists_of_resolve hcollected.resolve
  rw [hpath, h] at this
  cases this

/-- A step that never panics. -/
theorem not_panicked {x : Tool ε α} (h : Tool.Preserves (fun _ => False) (fun _ => True) x)
    {site : PanicSite} : x s ≠ (.error (.panicked site), t) :=
  fun hx => h.site trivial hx

/-- The plan panics exactly where its range is not inside of the lines. -/
theorem planEdit_panicked_iff {payload : EditPayload} {snapshot : Option AnchorSnapshot} :
    (∃ site u, planEdit payload snapshot args s = (.error (.panicked site), u)) ↔
      ∃ row first last, snapshot = some row ∧ anchorRange row args = .ok (first, last) ∧
        payload.lines.length ≤ last := by
  cases snapshot with
  | none => simp [planEdit]
  | some row =>
    cases hrange : anchorRange row args with
    | error e => simp [planEdit, hrange]
    | ok range =>
      obtain ⟨first, last⟩ := range
      obtain ⟨-, -, hle⟩ := anchorRange_eq_ok hrange
      by_cases hlast : last < payload.lines.length
      · simp [planEdit, hrange, spliceLines, hle, hlast, Nat.not_le.2 hlast]
      · simp [planEdit, hrange, spliceLines, hle, hlast, Nat.not_lt.1 hlast]

/-- **The plan of an edit panics exactly where its range is not inside.** -/
theorem prepareEdit_panicked_iff (hvalid : args.isValid = true) :
    (∃ site t, prepareEdit H io cwd args s = (.error (.panicked site), t)) ↔
      ¬RangeInside H s (.edit io cwd args) := by
  have hcollect : Tool.Preserves (fun _ => False) (fun _ => True)
      (collectEditPayload H io.collect cwd args.path) :=
    collectEditPayload_preserves (Tool.Stable.ofFs fun _ => True) fun _ _ _ _ => trivial
  unfold prepareEdit
  constructor
  · rintro ⟨site, t, h⟩ hinside
    rcases Proc.bind_eq_error.1 h with h | ⟨payload, u, hu, h⟩
    · exact not_panicked hcollect h
    rw [Tool.bind_drift] at h
    rcases Proc.bind_eq_error.1 h with h | ⟨snapshot, v, hv, h⟩
    · exact not_panicked Tool.Preserves.loadAnchors h
    obtain ⟨-, -, rfl, -⟩ := Tool.loadAnchors_eq_ok.1 hv
    rcases Proc.bind_eq_error.1 h with h | ⟨replacement, w, -, h⟩
    · obtain ⟨row, first, last, rfl, hrange, hle⟩ := planEdit_panicked_iff.1 ⟨site, t, h⟩
      exact absurd (hinside hvalid payload u hu row hv first last hrange) (Nat.not_lt.2 hle)
    · simp at h
  · intro h
    unfold RangeInside at h
    push Not at h
    obtain ⟨-, payload, u, hu, row, hrow, first, last, hrange, hle⟩ := h
    obtain ⟨site, v, hv⟩ := (planEdit_panicked_iff (s := io.beforeLoad.apply u)).2
      ⟨row, first, last, rfl, hrange, hle⟩
    refine ⟨site, v, ?_⟩
    rw [Proc.bind_of_ok hu, Tool.bind_drift, Proc.bind_of_ok hrow, Proc.bind_of_error hv]

theorem ToolEvent.replaces_of_installs {event : ToolEvent} (h : event.installs = false) :
    event.replaces = false := by
  cases event <;> simp_all [ToolEvent.installs, ToolEvent.replaces]

/-- Up to its plan an edit renames nothing. -/
theorem prepareEdit_quiet : Tool.Preserves (fun _ => True) (Untouched s fun _ => True)
    (prepareEdit H io cwd args) :=
  prepareEdit_preserves trivial (Untouched.stable s) (Untouched.keeps fun _ _ _ _ => trivial)

/-- An edit of a path that does not exist renames nothing. -/
theorem edit_absent (h : s.fs.pathExists (requestedPath cwd args.path) = false) :
    Quiet s (edit H io cwd args s).2 := by
  unfold edit
  split_ifs
  · exact Quiet.refl s
  · rcases (prepareEdit H io cwd args).apply_cases s with ⟨plan, t, ht⟩ | ⟨e, t, ht⟩
    · exact absurd ht (prepareEdit_absent h)
    · rw [Proc.bind_of_error ht]
      exact (prepareEdit_quiet.error ⟨Quiet.refl s, trivial⟩ ht).1.1

theorem edit_grows : s.log <+: (edit H io cwd args s).2.log := by
  have hrules := Untouched.rules (H := H) s (I := fun _ => True) fun _ _ _ _ _ => trivial
  have hbefore : ∀ d ∈ io.drifts, d.Keeps (Untouched s fun _ => True) :=
    Untouched.keeps fun _ _ _ _ => trivial
  rcases hrun : edit H io cwd args s with ⟨e | text, t⟩
  · have herror := edit_error hrules (fun _ _ _ h => h) hbefore Installed.keeps
      ⟨Quiet.refl s, trivial⟩ hrun
    exact herror.elim Installed.grows fun h => h.1.1.grows
  · exact (edit_ok hrules (fun _ _ _ h => h) hbefore Installed.keeps
      ⟨Quiet.refl s, trivial⟩ hrun).grows

/-- **An edit that renames nothing returns an error and touches nothing,** if its
range is inside. -/
theorem edit_untouched {I : FileSystem → Prop} {new : List ToolEvent}
    (hinside : RangeInside H s (.edit io cwd args))
    (hdirs : ∀ fs path fs', I fs → fs.createDirAll path = .ok fs' → I fs')
    (hd : ∀ d ∈ io.drifts, d.Keeps fun t => I t.fs) (hI : I s.fs)
    (hlog : (edit H io cwd args s).2.log = s.log ++ new)
    (hnew : ∀ event ∈ new, event.installs = false) :
    (∃ e, (edit H io cwd args s).1 = .error (.error e)) ∧ I (edit H io cwd args s).2.fs := by
  have hrules := Untouched.rules (H := H) s hdirs
  have hbefore : Untouched s I s := ⟨Quiet.refl s, hI⟩
  rcases hrun : edit H io cwd args s with ⟨e | text, t⟩
  · have herror := edit_error hrules (fun _ _ _ h => h) (Untouched.keeps hd) Installed.keeps
      hbefore hrun
    rw [hrun] at hlog
    obtain ⟨huntouched, hsite⟩ := herror.resolve_left fun h => h.not_quiet hlog hnew
    refine ⟨?_, huntouched.2⟩
    cases e with
    | error e => exact ⟨e, rfl⟩
    | panicked site =>
      by_cases hvalid : args.isValid = true
      · exact absurd hinside ((prepareEdit_panicked_iff hvalid).1 ⟨site, t, hsite site rfl⟩)
      · rw [edit, if_pos (by simpa using hvalid)] at hrun
        cases hrun
  · have hinstalled := edit_ok hrules (fun _ _ _ h => h) (Untouched.keeps hd) Installed.keeps
      hbefore hrun
    rw [hrun] at hlog
    exact absurd hnew (hinstalled.not_quiet hlog)

/-- **An edit is careful exactly where its range is inside,** and panics in `splice`
elsewhere. -/
theorem edit_careful_iff :
    Careful io.drifts (requestedPath cwd args.path) s (edit H io cwd args s) ↔
      RangeInside H s (.edit io cwd args) := by
  constructor
  · intro h
    by_contra houtside
    have hvalid : args.isValid = true := by
      by_contra hvalid
      exact houtside fun hv => absurd hv hvalid
    obtain ⟨site, t, ht⟩ := (prepareEdit_panicked_iff hvalid).2 houtside
    have hedit : edit H io cwd args s = (.error (.panicked site), t) := by
      rw [edit, if_neg (by simp [hvalid]), Proc.bind_of_error ht]
    obtain ⟨⟨new, hlog, hnew⟩, -⟩ := (prepareEdit_quiet.error ⟨Quiet.refl s, trivial⟩ ht).1
    obtain ⟨⟨e, he⟩, -⟩ := h.otherwise new (by rw [hedit]; exact hlog) hnew
    rw [hedit] at he
    cases he
  · intro hinside
    refine ⟨edit_grows, fun habsent new hlog event hevent => ?_,
      fun new hlog hnew => ⟨?_, fun c bytes hs hd => ?_⟩⟩
    · have hquiet : Quiet s (edit H io cwd args s).2 := edit_absent habsent
      obtain ⟨new', hlog', hnew⟩ := hquiet
      obtain rfl := List.append_cancel_left (hlog.symm.trans hlog')
      exact ToolEvent.replaces_of_installs (hnew event hevent)
    · exact (edit_untouched (I := fun _ => True) hinside (fun _ _ _ _ _ => trivial)
        (fun _ _ _ _ => trivial) trivial hlog hnew).1
    · exact (edit_untouched (I := fun fs => fs.bytesAt c = some bytes) hinside
        (fun _ _ _ h hfs => (FileSystem.bytesAt_createDirAll hfs).trans h) hd hs hlog hnew).2

/-- **No blind overwrite:** in every run of a session, every rename relied on what
the session had seen and not forgotten, and every next call is careful, if and only
if that call is no edit whose range is not inside of its lines. -/
theorem noBlindOverwrite_iff (hs : Fresh s) (steps : List SessionStep) (call : SessionStep) :
    (AllAllowed H (sessionStep H (Run.run (sessionStep H) s steps) call).log ∧
      CallCareful H (Run.run (sessionStep H) s steps) call) ↔
    RangeInside H (Run.run (sessionStep H) s steps) call := by
  have hlog := ((Accounted.run (H := H) hs steps).step _ call).log
  rw [and_iff_right hlog]
  cases call with
  | read io cwd args => exact iff_of_true trivial trivial
  | write io cwd args => exact iff_of_true (write_careful io cwd args _) trivial
  | edit io cwd args => exact edit_careful_iff
  | others d => exact iff_of_true trivial trivial

end

/-- A session reads the file of one line and edits it. -/
theorem noBlindOverwrite_iff_sample :
    (AllAllowed knownHashes (sessionStep knownHashes (Run.run (sessionStep knownHashes)
        (sampleState [0x61, 0x0A]) [.read {} sampleDir { path := ['n'] }])
        (.edit {} sampleDir ⟨['n'], "Wot".toList, "Wot".toList, [['b']]⟩)).log ∧
      CallCareful knownHashes (Run.run (sessionStep knownHashes) (sampleState [0x61, 0x0A])
        [.read {} sampleDir { path := ['n'] }])
        (.edit {} sampleDir ⟨['n'], "Wot".toList, "Wot".toList, [['b']]⟩)) ↔
    RangeInside knownHashes (Run.run (sessionStep knownHashes) (sampleState [0x61, 0x0A])
      [.read {} sampleDir { path := ['n'] }])
      (.edit {} sampleDir ⟨['n'], "Wot".toList, "Wot".toList, [['b']]⟩) :=
  noBlindOverwrite_iff ⟨rfl, rfl⟩ _ _

/-- The session has read a file of two lines and written one of one line. -/
def shortened : ToolState :=
  Run.run (sessionStep knownHashes) (sampleState [0x61, 0x0A, 0x62])
    [.read {} sampleDir { path := ['n'] }, .write {} sampleDir ⟨['n'], ['x']⟩]

/-- An edit by the anchor of the second line panics, and returns no error. -/
theorem splice_panic_returns_no_error :
    (edit knownHashes {} sampleDir ⟨['n'], "rKa".toList, "rKa".toList, [['z']]⟩ shortened).1 =
        .error (.panicked .splice) ∧
      ¬(AllAllowed knownHashes (sessionStep knownHashes shortened
          (.edit {} sampleDir ⟨['n'], "rKa".toList, "rKa".toList, [['z']]⟩)).log ∧
        CallCareful knownHashes shortened
          (.edit {} sampleDir ⟨['n'], "rKa".toList, "rKa".toList, [['z']]⟩)) := by
  have hresult : (edit knownHashes {} sampleDir
      ⟨['n'], "rKa".toList, "rKa".toList, [['z']]⟩ shortened).1 = .error (.panicked .splice) := by
    rfl
  have hlog : (edit knownHashes {} sampleDir
      ⟨['n'], "rKa".toList, "rKa".toList, [['z']]⟩ shortened).2.log = shortened.log ++ [] := by
    decide +kernel
  refine ⟨hresult, fun h => ?_⟩
  obtain ⟨⟨e, he⟩, -⟩ := h.2.otherwise [] hlog (by simp)
  rw [hresult] at he
  cases he

end Tools
end Moh
