/-
# Authorised calls

`tools/observations.rs`: a write or an edit of a file is rejected unless the session
holds an observation of its current bytes.  An observation is kept under the name
that was asked for and under the canonical one, and the former is preferred, but a
later record through another name refreshes only its own.  What the session finds
under the canonical name is what it has recorded last (`entries_of_recordStands`),
and a call is authorised when that is the current version of the file and the name
it uses keeps no other one; an edit needs stored anchors besides (`call_authorised`).
-/

import Moh.Tools.Overwrite

namespace Moh
namespace Tools

open Fallible

variable {H : Hashing} {s t u : ToolState} {log : List ToolEvent} {c p : PathBuf}
  {bytes : List UInt8} {o : FileObservation}

/-! ### The last record of a file -/

/-- The event is a record of the file, or forgets it. -/
def ToolEvent.concerns (c : PathBuf) : ToolEvent → Bool
  | .recorded _ path _ => path == c
  | .forgot path => path == c
  | _ => false

/-- The event is a record of another file under the canonical name of this one. -/
def ToolEvent.takesName (c : PathBuf) : ToolEvent → Bool
  | .recorded requested path _ => path != c &&
      (lexicalIdentity requested == lexicalIdentity c || lexicalIdentity path == lexicalIdentity c)
  | _ => false

/-- These bytes were recorded last for the file, which was not forgotten since. -/
def LastRecorded (log : List ToolEvent) (c : PathBuf) (bytes : List UInt8) : Prop :=
  ∃ earlier requested later, log = earlier ++ .recorded requested c bytes :: later ∧
    ∀ event ∈ later, event.concerns c = false

/-- The last record of the file stands: the canonical name was not used for another
file since. -/
def RecordStands (log : List ToolEvent) (c : PathBuf) (bytes : List UInt8) : Prop :=
  ∃ earlier requested later, log = earlier ++ .recorded requested c bytes :: later ∧
    ∀ event ∈ later, event.concerns c = false ∧ event.takesName c = false

theorem lastRecorded_concat {requested : PathBuf} :
    LastRecorded (log ++ [.recorded requested c bytes]) c bytes :=
  ⟨log, requested, [], rfl, by simp⟩

/-- A record of any file leaves every file with a last record that had one. -/
theorem LastRecorded.record (h : LastRecorded log c bytes) (requested c' : PathBuf)
    (bytes' : List UInt8) :
    ∃ bytes, LastRecorded (log ++ [.recorded requested c' bytes']) c bytes := by
  by_cases hc : c' = c
  · subst hc
    exact ⟨bytes', lastRecorded_concat⟩
  · obtain ⟨earlier, first, later, rfl, hlater⟩ := h
    refine ⟨bytes, earlier, first, later ++ [.recorded requested c' bytes'], by simp,
      fun e he => ?_⟩
    rcases List.mem_append.1 he with he | he
    · exact hlater e he
    · rw [List.mem_singleton.1 he]
      simpa [ToolEvent.concerns] using hc

/-- One more event is the record that stands, or leaves it. -/
theorem RecordStands.of_concat {event : ToolEvent} (h : RecordStands (log ++ [event]) c bytes) :
    (∃ requested, event = .recorded requested c bytes) ∨
      RecordStands log c bytes ∧ event.concerns c = false ∧ event.takesName c = false := by
  obtain ⟨earlier, requested, later, hlog, hlater⟩ := h
  rcases List.eq_nil_or_concat later with rfl | ⟨rest, last, rfl⟩
  · obtain ⟨-, hlast⟩ := List.append_inj' hlog rfl
    exact .inl ⟨requested, List.singleton_inj.1 hlast⟩
  · have hlog' : log ++ [event] = (earlier ++ .recorded requested c bytes :: rest) ++ [last] := by
      simpa using hlog
    obtain ⟨rfl, hlast⟩ := List.append_inj' hlog' rfl
    obtain rfl := List.singleton_inj.1 hlast
    exact .inr ⟨⟨earlier, requested, rest, rfl, fun e he => hlater e (by simp [he])⟩,
      hlater event (by simp)⟩

/-! ### What a successful call records -/

section
variable {cwd : PathBuf}

/-- **A read that succeeds records** the file its path led to, or finds a directory. -/
theorem read_records {io : ReadIo} {args : ReadArgs} {text : List Char}
    (h : read H io cwd args s = (.ok text, t)) : t.log = s.log ∨
      ∃ c bytes, s.fs.resolve (requestedPath cwd args.path) = .ok c ∧
        t.log = s.log ++ [.recorded (requestedPath cwd args.path) c bytes] := by
  have hkeeps : ∀ d ∈ io.drifts, d.Keeps fun t => t.log = s.log := fun _ _ _ h => h
  unfold read at h
  split_ifs at h
  · simp at h
  obtain ⟨payload, u, hu, h⟩ := Proc.bind_eq_ok.1 h
  have hcollect : Tool.Preserves (fun _ => True) (fun t => t.log = s.log)
      (collectReadPayload H io.collect cwd args) :=
    collectReadPayload_preserves fun d hd => hkeeps d (by simp [ReadIo.drifts, hd])
  have hulog := hcollect.ok rfl hu
  cases payload with
  | directory listing =>
    simp only [Proc.pure_apply, Prod.mk.injEq] at h
    exact .inl (h.2 ▸ hulog)
  | file file =>
    obtain ⟨c, bytes, hresolve, -, rfl⟩ := collectReadPayload_eq_ok hu
    obtain ⟨hashes, v, hv, h⟩ := Proc.bind_eq_ok.1 h
    have hhashes : Tool.Preserves (fun _ => True) (fun t => t.log = s.log)
        (hashesFor H io (readFilePayload H (requestedPath cwd args.path) c args bytes)) :=
      hashesFor_preserves trivial (fun _ _ _ h => h) hkeeps _
    have hvlog := hhashes.ok hulog hv
    obtain ⟨⟨⟩, w, hw, h⟩ := Proc.bind_eq_ok.1 h
    obtain ⟨-, rfl⟩ := Tool.recordObservation_eq_ok.1 hw
    simp only [Proc.pure_apply, Prod.mk.injEq] at h
    refine .inr ⟨c, bytes, hresolve, ?_⟩
    rw [← h.2, ← hvlog]
    rfl

/-- **A write that succeeds records** its content. -/
theorem write_records {io : WriteIo} {args : WriteArgs} {text : List Char}
    (h : write H io cwd args s = (.ok text, t)) :
    ∃ c, LastRecorded t.log c (Utf8.encode args.content) := by
  unfold write at h
  split_ifs at h
  · simp at h
  unfold writeSync at h
  obtain ⟨-, h⟩ := Tool.bind_check_eq_ok.1 h
  obtain ⟨writePath, u, -, h⟩ := Proc.bind_eq_ok.1 h
  rw [Tool.bind_drift, Tool.bind_state] at h
  obtain ⟨canonical, -, h⟩ := Tool.bind_ofExcept_eq_ok.1 h
  obtain ⟨⟨⟩, v, hv, h⟩ := Proc.bind_eq_ok.1 h
  obtain ⟨-, rfl⟩ := Tool.recordObservation_eq_ok.1 hv
  simp only [Proc.pure_apply, Prod.mk.injEq] at h
  rw [← h.2]
  exact ⟨canonical, lastRecorded_concat⟩

/-- **An edit that succeeds records** the file it has replaced. -/
theorem edit_records {io : EditIo} {args : EditArgs} {text : List Char}
    (h : edit H io cwd args s = (.ok text, t)) :
    ∃ c bytes, s.fs.resolve (requestedPath cwd args.path) = .ok c ∧ LastRecorded t.log c bytes := by
  unfold edit at h
  split_ifs at h
  · simp at h
  obtain ⟨⟨payload, replacement⟩, u, hu, h⟩ := Proc.bind_eq_ok.1 h
  obtain ⟨-, hpath, hcollected, -⟩ := prepareEdit_eq_ok hu
  obtain ⟨⟨⟩, v, hv, h⟩ := Proc.bind_eq_ok.1 h
  obtain ⟨-, hv⟩ := Tool.bind_check_eq_ok.1 hv
  obtain ⟨⟨⟩, w, -, hv⟩ := Proc.bind_eq_ok.1 hv
  obtain ⟨-, rfl⟩ := Tool.recordObservation_eq_ok.1 hv
  have hlast : LastRecorded (w.log ++ [.recorded payload.path payload.canonical replacement])
      payload.canonical replacement := lastRecorded_concat
  unfold reread at h
  rw [Tool.bind_drift] at h
  have hresolve := hpath ▸ hcollected.resolve
  rcases read_records (Proc.mapError_eq_ok.1 h) with hlog | ⟨c', bytes', -, hlog⟩
  · exact ⟨payload.canonical, replacement, hresolve, by rw [hlog]; exact hlast⟩
  · obtain ⟨bytes, hrecord⟩ := hlast.record _ c' bytes'
    exact ⟨payload.canonical, bytes, hresolve, by rw [hlog]; exact hrecord⟩

end

/-- Where the last record of a file stands, the canonical name has it. -/
def RecordsFound (H : Hashing) (s : ToolState) : Prop :=
  ∀ c bytes, RecordStands s.log c bytes → s.observations.get c = some ⟨c, H.xxh64 bytes⟩

/-- An event that records and forgets nothing leaves what is found. -/
theorem RecordsFound.concat (h : RecordsFound H s) {event : ToolEvent} {fs : FileSystem}
    (hevent : ∀ c, event.concerns c = false) :
    RecordsFound H { s with fs, log := s.log ++ [event] } := by
  intro c bytes hstands
  rcases hstands.of_concat with ⟨requested, rfl⟩ | ⟨hstands, -⟩
  · have := hevent c
    simp [ToolEvent.concerns] at this
  · exact h c bytes hstands

/-- **Records are found again:** a record stores under the canonical name, and only a
record under this name or a call that forgets the file takes it away. -/
theorem RecordsFound.stable : Tool.Stable H (RecordsFound H) := by
  constructor
  · intro s path canonical recorded h c bytes hstands
    rw [FileObservations.get, FileObservations.entries_record]
    rcases hstands.of_concat with ⟨requested, heq⟩ | ⟨hstands, hother, hname⟩
    · obtain ⟨rfl, rfl, rfl⟩ := ToolEvent.recorded.inj heq
      rw [if_pos (.inr rfl)]
    · have hne : canonical ≠ c := by simpa [ToolEvent.concerns] using hother
      have hkey : ¬(lexicalIdentity c = lexicalIdentity path ∨
          lexicalIdentity c = lexicalIdentity canonical) := by
        rintro (heq | heq) <;> simp [ToolEvent.takesName, hne, heq] at hname
      rw [if_neg hkey]
      exact h c bytes hstands
  · intro s observation h c bytes hstands
    rcases hstands.of_concat with ⟨requested, heq⟩ | ⟨hstands, hother, -⟩
    · cases heq
    · have hne : observation.canonicalPath ≠ c := by simpa [ToolEvent.concerns] using hother
      exact FileObservations.entries_forget.2 ⟨h c bytes hstands, hne.symm⟩

theorem RecordsFound.rules : RenameRules H (RecordsFound H) (RecordsFound H) fun _ _ => True where
  before := RecordsFound.stable
  after := RecordsFound.stable
  found _ _ _ _ _ := trivial
  dirs _ _ _ h _ := h
  replace _ _ _ _ _ _ h _ _ _ _ := h.concat fun _ => rfl
  create _ _ _ _ h _ := h.concat fun _ => rfl

/-- **In every run of a session** the canonical name of a file has what was recorded
last for it, as long as the record stands. -/
theorem entries_of_recordStands (hs : Fresh s) (steps : List SessionStep) :
    RecordsFound H (Run.run (sessionStep H) s steps) := by
  have hstep : ∀ s step, RecordsFound H s → RecordsFound H (sessionStep H s step) :=
    fun s step h =>
      sessionStep_preserves RecordsFound.rules (fun _ _ _ h => h) (fun _ _ h => h) h step
  refine Run.run_invariant hstep (fun c bytes hstands => ?_) steps
  obtain ⟨earlier, requested, later, hlog, -⟩ := hstands
  simp [hs.log] at hlog

/-! ### Steps that do not reject -/

/-- The step does not fail with an error of this kind. -/
def Spares (bad : ε → Prop) (P : ToolState → Prop) (x : Tool ε α) (Q : α → ToolState → Prop) :
    Prop :=
  Proc.Triple P x Q fun e _ => ∀ e', e = .error e' → ¬bad e'

section
variable {bad : ε → Prop} {P : ToolState → Prop} {x : Tool ε α} {f : α → Tool ε β}
  {Q : α → ToolState → Prop} {R : β → ToolState → Prop} {e : ε}

theorem Spares.bind (hx : Spares bad P x Q) (hf : ∀ a, Spares bad (Q a) (f a) R) :
    Spares bad P (x >>= f) R :=
  Proc.Triple.bind hx hf

theorem Spares.pre {P' : ToolState → Prop} (hx : Spares bad P x Q) (h : ∀ s, P' s → P s) :
    Spares bad P' x Q :=
  Proc.Triple.mono hx h (fun _ _ h => h) fun _ _ h => h

theorem Spares.pure {a : α} (h : ∀ s, P s → Q a s) : Spares bad P (Pure.pure a) Q :=
  Proc.Triple.pure h

theorem Spares.fail (h : ¬bad e) : Spares bad P (Tool.fail e : Tool ε α) Q :=
  Proc.Triple.fail fun _ _ e' he => by cases he; exact h

theorem Spares.check {failed : Bool} (h : ¬bad e) :
    Spares bad P (Tool.check failed e) fun _ => P := by
  cases failed with
  | true => exact .fail h
  | false => exact Proc.Triple.pure fun _ h => h

/-! A sequence that starts with a single step. -/

theorem Spares.bindDrift {d : Drift} {f : Unit → Tool ε β} (h : d = {}) (hf : Spares bad P (f ()) R) :
    Spares bad P (Tool.drift d >>= f) R := by
  subst h
  exact hf

theorem Spares.bindState {f : ToolState → Tool ε β} (hf : Spares bad (· = s) (f s) R) :
    Spares bad (· = s) (Tool.state >>= f) R := by
  rintro t rfl
  exact hf t rfl

theorem Spares.bindExcept {r : Except ε' α} {g : ε' → ε} (he : ∀ e', r = .error e' → ¬bad (g e'))
    (hf : ∀ a, r = .ok a → Spares bad P (f a) R) : Spares bad P (Tool.ofExcept r g >>= f) R := by
  cases r with
  | error e' => exact Proc.Triple.fail fun _ _ e'' h => by cases h; exact he e' rfl
  | ok a => exact hf a rfl

theorem Spares.bindObserved {poisoned : Bool} {path : PathBuf} {f : Option FileObservation → Tool ε β}
    (h : ¬bad e) (hf : Spares bad (· = s) (f (s.observations.get path)) R) :
    Spares bad (· = s) (Tool.observed poisoned e path >>= f) R := by
  rintro t rfl
  cases poisoned with
  | true => exact fun e' he => by cases he; exact h
  | false => exact hf t rfl

end

/-- Where every error is translated to one that is no such error. -/
theorem spares_mapErr {bad : ε' → Prop} {P : ToolState → Prop} {x : Tool ε α} {g : ε → ε'}
    (h : ∀ e, ¬bad (g e)) : Spares bad P (Tool.mapErr g x) fun _ _ => True := by
  intro s _
  rcases hx : x s with ⟨e | a, t⟩
  · rw [Tool.mapErr, Proc.mapError, hx]
    intro e' he'
    cases e with
    | error e =>
      obtain rfl := Abort.error.inj he'
      exact h e
    | panicked site => cases he'
  · rw [Tool.mapErr, Proc.mapError, hx]
    trivial

theorem spares_loadAnchors {bad : ε → Prop} {e : ε} {failed : Bool} (h : ¬bad e) :
    Spares bad (· = s) (Tool.loadAnchors failed e c)
      fun row t => t = s ∧ row = s.anchors.rows c := by
  refine Spares.bind (.check h) fun _ => .bindState ?_
  cases hrow : s.anchors.rows c with
  | none => exact .pure fun t ht => ⟨ht, rfl⟩
  | some row =>
    dsimp only
    split
    · exact .pure fun t ht => ⟨ht, rfl⟩
    · exact .fail h

/-! ### Calls on a file that was seen -/

/-- The path leads to the file, whose bytes the session has under observation. -/
structure Observed (H : Hashing) (s : ToolState) (p c : PathBuf) (bytes : List UInt8)
    (permissions : ℕ) (o : FileObservation) : Prop where
  resolve : s.fs.resolve p = .ok c
  file : s.fs.IsFile c bytes permissions
  found : (s.observations.get p).or (s.observations.get c) = some o
  path : o.canonicalPath = c
  checksum : o.checksum = H.xxh64 bytes

/-- The errors of `write` that report a file not seen, or seen as it is no more. -/
def WriteToolError.unauthorised (e : WriteToolError) : Prop := e = .notRead ∨ e = .staleRead

section
variable {permissions : ℕ} {io : WriteIo}

theorem spares_observationFor {bad : ε → Prop} {e e' : ε} {locked locked' : Bool}
    (ho : Observed H s p c bytes permissions o) (he : ¬bad e) :
    Spares bad (· = s) (observationFor locked locked' e e' p c) fun o' t => t = s ∧ o' = o := by
  refine Spares.bindObserved he (Spares.bindObserved he ?_)
  rw [ho.found]
  exact .pure fun t ht => ⟨ht, rfl⟩

/-- The first check of a write finds the observation, and the bytes it is of. -/
theorem spares_checkExisting (ho : Observed H s p c bytes permissions o)
    (hu : ∀ d ∈ io.drifts, d = {}) :
    Spares WriteToolError.unauthorised (· = s) (checkExisting H io p)
      fun target t => t = s ∧ target.1 = c ∧ target.2.1 = o := by
  have haccess : ¬WriteToolError.unauthorised .access := by simp [WriteToolError.unauthorised]
  have hruntime : ¬WriteToolError.unauthorised .runtime := by simp [WriteToolError.unauthorised]
  refine .bindDrift (hu _ (by simp [WriteIo.drifts])) <| .bindState <|
    .bindExcept (fun _ _ => haccess) fun canonical hcanonical => ?_
  obtain rfl := Except.ok.inj (ho.resolve.symm.trans (answer_eq_ok.1 hcanonical).2)
  refine Spares.bind (spares_observationFor ho hruntime) fun o' => ?_
  by_cases heq : o' = o
  · subst heq
    refine Spares.pre (P := (· = s)) ?_ fun _ h => h.1
    refine .bindDrift (hu _ (by simp [WriteIo.drifts])) <| .bindState <|
      .bindExcept (fun _ _ => haccess) fun current hcurrent => ?_
    obtain rfl := Except.ok.inj (ho.file.read.symm.trans (answer_eq_ok.1 hcurrent).2)
    rw [if_neg (by simp [ho.path, ho.checksum])]
    refine .bindDrift (hu _ (by simp [WriteIo.drifts])) <| .bindState <|
      .bindExcept (fun _ _ => haccess) fun entry _ => ?_
    split <;> exact .pure fun t ht => ⟨ht, rfl, rfl⟩
  · exact fun t ht => absurd ht.2 heq

/-- The staged file changes nothing next to a file. -/
theorem spares_stage (ho : Observed H s p c bytes permissions o) (hu : ∀ d ∈ io.drifts, d = {}) :
    Spares WriteToolError.unauthorised (· = s) (stage io c) fun _ t => t = s := by
  have haccess : ¬WriteToolError.unauthorised .access := by simp [WriteToolError.unauthorised]
  obtain ⟨d, n, rfl, hd⟩ := ho.file.settled
  unfold stage
  rw [PathBuf.parent_concat]
  refine .bindDrift (hu _ (by simp [WriteIo.drifts])) <| .bindState <|
    .bindExcept (fun _ _ => haccess) fun fs hfs => ?_
  obtain rfl := Except.ok.inj (hd.createDirAll.symm.trans (answer_eq_ok.1 hfs).2)
  refine Spares.bind (Q := fun _ t => t = s) ?_ fun _ => .check haccess
  rintro t rfl
  rfl

/-- Nothing keeps a write from finding the file, and from reading it before the rename. -/
structure WriteIo.Opens (io : WriteIo) : Prop where
  pathExists : io.pathExists = none
  finalRead : io.finalRead = none

/-- **A write to a file that was seen is not rejected.** -/
theorem spares_write {cwd : PathBuf} {args : WriteArgs}
    (ho : Observed H s (requestedPath cwd args.path) c bytes permissions o)
    (hu : ∀ d ∈ io.drifts, d = {}) (hopens : io.Opens) :
    Spares WriteToolError.unauthorised (· = s) (write H io cwd args) fun _ _ => True := by
  have haccess : ¬WriteToolError.unauthorised .access := by simp [WriteToolError.unauthorised]
  have hruntime : ¬WriteToolError.unauthorised .runtime := by simp [WriteToolError.unauthorised]
  unfold write
  split_ifs
  · exact .fail (by simp [WriteToolError.unauthorised])
  refine Spares.bind (.check (by simp [WriteToolError.unauthorised])) fun _ =>
    Spares.bind (Q := fun _ _ => True) ?_ fun writePath => ?_
  · unfold installWrite writeTarget
    refine Spares.bind (Q := fun target t => t = s ∧ ∃ permissions, target = (c, some (o, permissions)))
      (.bindState ?_) fun target => ?_
    · rw [if_pos (isOk_answer.2
        ⟨hopens.pathExists, FileSystem.pathExists_of_resolve ho.resolve⟩)]
      refine (spares_checkExisting ho hu).bind fun found => .pure fun t ht => ⟨ht.1, found.2.2, ?_⟩
      obtain ⟨c', o', permissions⟩ := found
      obtain ⟨-, rfl, rfl⟩ := ht
      rfl
    · rintro t ⟨rfl, permissions', rfl⟩
      refine (Spares.bind (spares_stage ho hu) fun _ => Spares.bind (Q := fun _ _ => True) ?_
        fun _ => .pure fun _ _ => trivial) t rfl
      -- the final check finds what the first one has found
      refine .bindDrift (hu _ (by simp [WriteIo.drifts])) <| .bindState <| .bindExcept
        (fun e he => ?_) fun current hcurrent => ?_
      · rw [hopens.finalRead, answer, ho.file.read] at he
        cases he
      · obtain rfl := Except.ok.inj (ho.file.read.symm.trans (answer_eq_ok.1 hcurrent).2)
        rw [if_neg (by simp [ho.checksum])]
        refine .bindExcept (fun _ _ => haccess) fun fs _ => ?_
        exact Proc.Triple.modify fun _ _ => trivial
  · refine .bindDrift (hu _ (by simp [WriteIo.drifts])) ?_
    rintro t -
    refine (Spares.bindState (.bindExcept (fun _ _ => haccess) fun canonical _ => ?_) :
      Spares WriteToolError.unauthorised (· = t) _ _) t rfl
    refine Spares.bind (Q := fun _ _ => True) ?_ fun _ => .pure fun _ _ => trivial
    exact Spares.bind (.check hruntime) fun _ => Proc.Triple.modify fun _ _ => trivial

end

/-- The errors of `edit` that report a file not seen, or seen as it is no more. -/
def EditToolError.unauthorised (e : EditToolError) : Prop := e = .notRead ∨ e = .staleRead

section
variable {permissions : ℕ} {io : EditIo} {cwd : PathBuf} {args : EditArgs}

/-- Nothing keeps an edit from opening the file. -/
structure EditIo.Opens (io : EditIo) : Prop where
  canonicalize : io.collect.canonicalize = none
  readFile : io.collect.readFile = none
  finalRead : io.replace.finalRead = none

theorem EditToolError.not_unauthorised_runtime : ¬EditToolError.unauthorised .runtime := by
  simp [EditToolError.unauthorised]

theorem EditToolError.not_unauthorised_access : ¬EditToolError.unauthorised .access := by
  simp [EditToolError.unauthorised]

theorem EditToolError.not_unauthorised_worker : ¬EditToolError.unauthorised .worker := by
  simp [EditToolError.unauthorised]

/-- The bytes of a file that was seen are collected. -/
theorem spares_collectEditPayload
    (ho : Observed H s (requestedPath cwd args.path) c bytes permissions o)
    (hu : io.Undisturbed) (hopens : io.Opens) :
    Spares EditToolError.unauthorised (· = s) (collectEditPayload H io.collect cwd args.path)
      fun payload t => t = s ∧ payload = ⟨requestedPath cwd args.path, c, bytes⟩ := by
  have hruntime := EditToolError.not_unauthorised_runtime
  unfold collectEditPayload
  refine Spares.bind (.check EditToolError.not_unauthorised_worker) fun _ =>
    .bindObserved hruntime <| .bindState ?_
  rw [hopens.canonicalize, answer, ho.resolve]
  refine .bindObserved hruntime ?_
  rw [ho.found]
  refine Spares.bind (Q := fun read t => t = s ∧ read = bytes) ?_ fun read => ?_
  · refine .bindDrift (hu _ (by simp [EditIo.drifts, CollectEditIo.drifts])) <| .bindState ?_
    rw [hopens.readFile, answer, ho.file.read]
    dsimp only
    rw [if_neg (by simp [ho.path, ho.checksum])]
    exact .pure fun t ht => ⟨ht, rfl⟩
  · exact .pure fun t ht => ⟨ht.1, by rw [ht.2]⟩

/-- A plan is found, or none for a reason that lies in the anchors. -/
theorem spares_planEdit {P : ToolState → Prop} {payload : EditPayload} {row : AnchorSnapshot} :
    Spares EditToolError.unauthorised P (planEdit payload (some row) args) fun _ => P := by
  unfold planEdit
  dsimp only
  cases hrange : anchorRange row args with
  | error e =>
    refine .fail fun he => ?_
    unfold anchorRange at hrange
    split at hrange
    · obtain rfl := Except.error.inj hrange
      simp [EditToolError.unauthorised] at he
    · split at hrange
      · obtain rfl := Except.error.inj hrange
        simp [EditToolError.unauthorised] at he
      · split_ifs at hrange
        obtain rfl := Except.error.inj hrange
        simp [EditToolError.unauthorised] at he
  | ok range =>
    dsimp only
    split
    · exact Proc.Triple.fail fun _ _ e he => by cases he
    · exact .pure fun _ h => h

/-- The file is replaced by an edit that finds the bytes it has collected. -/
theorem spares_replaceFile (hfile : s.fs.IsFile c bytes permissions) (hu : io.Undisturbed)
    (hopens : io.Opens) {replacement : List UInt8} :
    Spares EditToolError.unauthorised (· = s) (replaceFile io.replace c bytes replacement)
      fun _ _ => True := by
  have haccess := EditToolError.not_unauthorised_access
  unfold replaceFile
  split
  · exact .fail haccess
  · refine .bindDrift (hu _ (by simp [EditIo.drifts, ReplaceIo.drifts])) <| .bindState <|
      .bindExcept (fun _ _ => haccess) fun entry _ => ?_
    refine Spares.bind (.check haccess) fun _ =>
      .bindDrift (hu _ (by simp [EditIo.drifts, ReplaceIo.drifts])) <| .bindState ?_
    rw [hopens.finalRead, answer, hfile.read]
    refine .bindExcept (fun _ he => by cases he) fun current hcurrent => ?_
    obtain rfl := Except.ok.inj hcurrent
    rw [if_neg (by simp)]
    refine .bindExcept (fun _ _ => haccess) fun fs _ => ?_
    exact Proc.Triple.modify fun _ _ => trivial

/-- **An edit of a file that was seen, and of which anchors are stored, is not
rejected.** -/
theorem spares_edit (ho : Observed H s (requestedPath cwd args.path) c bytes permissions o)
    (hu : io.Undisturbed) (hopens : io.Opens) (hrow : s.anchors.rows c ≠ none) :
    Spares EditToolError.unauthorised (· = s) (edit H io cwd args) fun _ _ => True := by
  have hruntime := EditToolError.not_unauthorised_runtime
  unfold edit
  split_ifs
  · exact .fail (by simp [EditToolError.unauthorised])
  refine Spares.bind (Q := fun plan t => t = s ∧ plan.1 = ⟨requestedPath cwd args.path, c, bytes⟩)
    ?_ fun plan => ?_
  · refine Spares.bind (spares_collectEditPayload ho hu hopens) fun payload => ?_
    rintro t ⟨rfl, rfl⟩
    refine (Spares.bindDrift (hu _ (by simp [EditIo.drifts])) ?_ :
      Spares EditToolError.unauthorised (· = t) _ _) t rfl
    refine Spares.bind (spares_loadAnchors hruntime) fun stored => ?_
    rintro u ⟨rfl, rfl⟩
    obtain ⟨row, hrow⟩ := Option.ne_none_iff_exists'.1 hrow
    rw [hrow]
    exact Spares.bind spares_planEdit (fun replacement => .pure fun v hv => ⟨hv.symm, rfl⟩) u rfl
  · rintro t ⟨rfl, hpayload⟩
    obtain ⟨payload, replacement⟩ := plan
    obtain rfl : payload = _ := hpayload
    refine (Spares.bind (Q := fun _ _ => True) ?_ fun _ => ?_ :
      Spares EditToolError.unauthorised (· = t) _ _) t rfl
    · refine Spares.bind (.check EditToolError.not_unauthorised_worker) fun _ =>
        Spares.bind (spares_replaceFile ho.file hu hopens) fun _ => ?_
      exact Spares.bind (.check hruntime) fun _ => Proc.Triple.modify fun _ _ => trivial
    · exact .bindDrift (hu _ (by simp [EditIo.drifts])) (spares_mapErr fun _ => hruntime)

end

/-! ### Runs -/

/-- The session has recorded the current bytes of the file last, and the record stands;
under the name of the path it keeps no other observation. -/
structure SeenLast (s : ToolState) (p c : PathBuf) (bytes : List UInt8) : Prop where
  last : RecordStands s.log c bytes
  resolve : s.fs.resolve p = .ok c
  current : s.fs.read c = .ok bytes
  requested : ∀ o, s.observations.get p = some o → s.observations.get c = some o

theorem SeenLast.observed (h : SeenLast s p c bytes) (hs : RecordsFound H s) :
    ∃ permissions o, Observed H s p c bytes permissions o := by
  have hget := hs c bytes h.last
  obtain ⟨c', permissions, hc', hfile⟩ := FileSystem.isFile_of_read h.current
  obtain rfl := Except.ok.inj ((FileSystem.resolve_resolve h.resolve).symm.trans hc')
  refine ⟨permissions, ⟨c, H.xxh64 bytes⟩, h.resolve, hfile, ?_, rfl, rfl⟩
  cases hp : s.observations.get p with
  | none => rw [Option.none_or, hget]
  | some o' => rw [Option.some_or, ← h.requested o' hp, hget]

/-- **A call on a file that was seen last is not rejected,** in any run of a session;
an edit needs stored anchors besides. -/
theorem call_authorised (hs : Fresh s) (steps : List SessionStep)
    (hseen : SeenLast (Run.run (sessionStep H) s steps) p c bytes) :
    (∀ (io : WriteIo) cwd args, requestedPath cwd args.path = p → (∀ d ∈ io.drifts, d = {}) →
      io.Opens → ∀ e,
        (write H io cwd args (Run.run (sessionStep H) s steps)).1 = .error (.error e) →
        ¬e.unauthorised) ∧
    (∀ (io : EditIo) cwd args, requestedPath cwd args.path = p → io.Undisturbed → io.Opens →
      (Run.run (sessionStep H) s steps).anchors.rows c ≠ none → ∀ e,
        (edit H io cwd args (Run.run (sessionStep H) s steps)).1 = .error (.error e) →
        ¬e.unauthorised) := by
  obtain ⟨permissions, o, ho⟩ := hseen.observed (entries_of_recordStands (H := H) hs steps)
  constructor
  · rintro io cwd args rfl hu hopens e he
    have hspares := spares_write ho hu hopens
    rcases hrun : write H io cwd args (Run.run (sessionStep H) s steps) with ⟨r, t⟩
    rw [hrun] at he
    obtain rfl := he
    exact hspares.error rfl hrun e rfl
  · rintro io cwd args rfl hu hopens hrow e he
    have hspares := spares_edit ho hu hopens hrow
    rcases hrun : edit H io cwd args (Run.run (sessionStep H) s steps) with ⟨r, t⟩
    rw [hrun] at he
    obtain rfl := he
    exact hspares.error rfl hrun e rfl

/-- A new session on a machine with the file `/w/n` and the link `/w/l` to it. -/
def sampleLinked : ToolState :=
  let s := sampleState [0x61, 0x0A]
  { s with fs := s.fs.put [.rootDir, .normal ['w'], .normal ['l']] (.link [.normal ['n']]) }

/-- The session has read the file through the link, written it under its own name,
read it again and edited it through the link. -/
def sampleAliased : ToolState :=
  Run.run (sessionStep knownHashes) sampleLinked
    [.read {} sampleDir { path := ['l'] }, .write {} sampleDir ⟨['n'], ['b', '\n']⟩,
      .read {} sampleDir { path := ['l'] },
      .edit {} sampleDir ⟨['l'], "rKa".toList, "rKa".toList, [['a']]⟩]

theorem call_authorised_sample :
    (∀ e, (write knownHashes {} sampleDir ⟨['l'], ['x']⟩ sampleAliased).1 = .error (.error e) →
      ¬e.unauthorised) ∧
    ∀ e, (edit knownHashes {} sampleDir ⟨['l'], "Wot".toList, "Wot".toList, [['b']]⟩
      sampleAliased).1 = .error (.error e) → ¬e.unauthorised := by
  have hrequested : sampleAliased.observations.get (requestedPath sampleDir ['l']) =
      sampleAliased.observations.get sampleFile := by decide +kernel
  have hseen : SeenLast sampleAliased (requestedPath sampleDir ['l']) sampleFile [0x61, 0x0A] :=
    { last := ⟨sampleAliased.log.dropLast, requestedPath sampleDir ['l'], [], by decide +kernel,
        by simp⟩
      resolve := by decide +kernel
      current := by decide +kernel
      requested := fun _ h => hrequested ▸ h }
  obtain ⟨hwrite, hedit⟩ := call_authorised (s := sampleLinked) ⟨rfl, rfl⟩ _ hseen
  refine ⟨hwrite {} sampleDir ⟨['l'], ['x']⟩ rfl ?_ ⟨rfl, rfl⟩,
    hedit {} sampleDir ⟨['l'], "Wot".toList, "Wot".toList, [['b']]⟩ rfl ?_ ⟨rfl, rfl, rfl⟩
      (by decide +kernel)⟩
  · intro d hd
    simpa [WriteIo.drifts] using hd
  · intro d hd
    simpa [EditIo.drifts, CollectEditIo.drifts, ReplaceIo.drifts, ReadIo.drifts,
      CollectReadIo.drifts] using hd

/-- A path with a slash behind the name of a file leads to no file. -/
example : (sampleState [0x61, 0x0A]).fs.resolve (requestedPath sampleDir ['n', '/']) =
    .error .other := by
  decide +kernel

/-- **A file that the session itself has written is not authorised for an edit:** its
record stands, but no anchors of it were ever read. -/
theorem edit_rejected_after_write :
    LastRecorded (Run.run (sessionStep knownHashes) (sampleState [0x61, 0x0A])
      [.write {} sampleDir ⟨['m'], ['x']⟩]).log [.rootDir, .normal ['w'], .normal ['m']] [0x78] ∧
    (Run.run (sessionStep knownHashes) (sampleState [0x61, 0x0A])
      [.write {} sampleDir ⟨['m'], ['x']⟩]).fs.resolve (requestedPath sampleDir ['m']) =
        .ok [.rootDir, .normal ['w'], .normal ['m']] ∧
    (Run.run (sessionStep knownHashes) (sampleState [0x61, 0x0A])
      [.write {} sampleDir ⟨['m'], ['x']⟩]).fs.read [.rootDir, .normal ['w'], .normal ['m']] =
        .ok [0x78] ∧
    (edit knownHashes {} sampleDir ⟨['m'], "Wot".toList, "Wot".toList, [['b']]⟩
      (Run.run (sessionStep knownHashes) (sampleState [0x61, 0x0A])
        [.write {} sampleDir ⟨['m'], ['x']⟩])).1 = .error (.error .notRead) := by
  refine ⟨⟨_, _, [], rfl, by simp⟩, by decide +kernel, by decide +kernel, ?_⟩
  decide +kernel

end Tools
end Moh
