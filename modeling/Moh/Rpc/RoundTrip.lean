/-
# The client reads what the server writes

`rpc/convert.rs`.  Every writer and its reader are a round trip (`RoundTrips`), from
the single fields up to a session snapshot and an event envelope
(`readSessionSnapshot_write`, `readEventEnvelope_write`).  What the writers accept and
the readers do not is an identifier that is no positive `u64`, a working directory of
more than 16 KiB, an empty persistence warning, tool arguments that do not reparse
(`SnapshotReadable`, `EventReadable`), a plan item that is not valid, and a timestamp
before the year 0 or after the year 9999, for which RFC 3339 has no text
(`HasRfc3339`).
-/

import Moh.Library.RoundTrip
import Moh.Rpc.Convert

namespace Moh
namespace Rpc

open Fallible

variable {F : TextFormats}

/-! ### What the libraries promise -/

/-- The timestamps of the years 0000 to 9999, which RFC 3339 can write. -/
def HasRfc3339 (t : Timestamp) : Prop :=
  -62167219200 * 10 ^ 9 ≤ t ∧ t < 253402300800 * 10 ^ 9

instance (t : Timestamp) : Decidable (HasRfc3339 t) := inferInstanceAs (Decidable (_ ∧ _))

/-- `chrono` reads the RFC 3339 text of a timestamp as that timestamp, in UTC, and
reads no timestamp in an empty text. -/
structure TextFormats.Rfc3339 (F : TextFormats) : Prop where
  parse_format : ∀ t, HasRfc3339 t → F.parseTimestamp (F.formatTimestamp t) = some (t, 0)
  parse_empty : F.parseTimestamp "" = none

/-- Tool arguments that `serde_json` reads back as it printed them. -/
def Reparses (F : TextFormats) (arguments : Value) : Prop :=
  ∀ text, F.formatJson arguments = some text → F.parseJson text = some arguments

/-! ### Fields -/

@[simp] theorem ok_bind {ε α β : Type} (a : α) (f : α → Except ε β) :
    ((Except.ok a : Except ε α) >>= f) = f a := rfl

@[simp] theorem follow_ok {α : Type} (a : α) : follow (.ok a) = .ok a := rfl

@[simp] theorem which_ok {α : Type} (name : String) (a : α) : which name (.ok a) = .ok a := rfl

theorem checkedText_eq_ok {value field : String} {text : Wire.Text}
    (h : checkedText value field = .ok text) : text = asBytes value := by
  obtain ⟨_, -, h⟩ := bind_eq_ok_iff.1 h
  exact (Except.ok.inj h).symm

theorem checkedData_eq_ok {value : List UInt8} {field : String} {data : Wire.Data}
    (h : checkedData value field = .ok data) : data = value := by
  obtain ⟨_, -, h⟩ := bind_eq_ok_iff.1 h
  exact (Except.ok.inj h).symm

@[simp] theorem toStr_asBytes (value field : String) : toStr (asBytes value) field = .ok value := by
  rw [toStr, asBytes, Utf8.hasErrors_encode, Utf8.decodeLossy_encode, String.ofList_toList]
  rfl

@[simp] theorem readText_asBytes (value field : String) :
    readText (.ok (asBytes value)) field = .ok value := by
  simp [readText]

theorem readInboundText_asBytes {value : String} {limit : ℕ}
    (h : (asBytes value).length ≤ limit) (field : String) :
    readInboundText (.ok (asBytes value)) limit field = .ok value := by
  simp [readInboundText, validateInboundFieldLength, if_neg (Nat.not_lt.2 h)]

theorem readInboundData_ok {value : List UInt8} {limit : ℕ} (h : value.length ≤ limit)
    (field : String) : readInboundData (.ok value) limit field = .ok value := by
  simp [readInboundData, validateInboundFieldLength, if_neg (Nat.not_lt.2 h)]

theorem readTimestamp_write (hF : F.Rfc3339) {t : Timestamp} (ht : HasRfc3339 t) (field : String) :
    readTimestamp F (.ok (asBytes (writeTimestamp F t))) field = .ok t := by
  simp [readTimestamp, writeTimestamp, hF.parse_format t ht]

/-- The text of a timestamp is not empty. -/
theorem writeTimestamp_ne_empty (hF : F.Rfc3339) {t : Timestamp} (ht : HasRfc3339 t) :
    writeTimestamp F t ≠ "" := by
  intro hempty
  have hparse := hF.parse_format t ht
  rw [show F.formatTimestamp t = "" from hempty, hF.parse_empty] at hparse
  simp at hparse

/-- The decimal digits of a positive number start with no zero. -/
theorem head?_toDigits_ne {n : ℕ} (h : 0 < n) : (Nat.toDigits 10 n).head? ≠ some '0' := by
  induction n using Nat.strongRecOn with
  | _ n ih =>
    rw [Nat.toDigits_eq_if (by decide)]
    split_ifs with hlt
    · have hdigit : ∀ d < 10, 0 < d → Nat.digitChar d ≠ '0' := by decide
      simpa using hdigit n hlt h
    · rw [List.head?_append_of_ne_nil _ Nat.toDigits_ne_nil]
      exact ih (n / 10) (by omega) (by omega)

/-- An identifier that the readers accept. -/
def PositiveId (id : SessionId) : Prop := 0 < id.value ∧ id.value ≤ u64Max

/-- **A stable identifier is read from its text.** -/
theorem fromStr_display {id : SessionId} (h : PositiveId id) :
    SessionId.fromStr id.display = some id := by
  have hlist : id.display.toList =
      's' :: 'e' :: 's' :: 's' :: 'i' :: 'o' :: 'n' :: '-' :: Nat.toDigits 10 id.value := by
    simp [SessionId.display]
  have hhead : ((Nat.toDigits 10 id.value).head? == some '0') = false :=
    beq_eq_false_iff_ne.2 (head?_toDigits_ne h.1)
  have hdigits : (Nat.toDigits 10 id.value).all Char.isDigit = true :=
    List.all_eq_true.2 fun c hc => Nat.isDigit_of_mem_toDigits (by decide) (by decide) hc
  have hvalue : Nat.ofDigitChars 10 (Nat.toDigits 10 id.value) 0 = id.value :=
    Nat.ofDigitChars_ten_toDigits
  unfold SessionId.fromStr
  simp only [hlist, hhead, hdigits, hvalue, List.isEmpty_eq_false_iff.2 Nat.toDigits_ne_nil]
  rw [if_neg (by decide), if_neg (by have := h.2; omega), if_neg (by have := h.1; omega)]

theorem readSessionId_display {id : SessionId} (h : PositiveId id) :
    readSessionId id.display = .ok id := by
  rw [readSessionId, fromStr_display h]

@[simp] theorem readSessionTitle_text (title : SessionTitle) :
    readSessionTitle title.text = .ok title := by
  rw [readSessionTitle, SessionTitle.parse_text]

/-! ### Enumerations -/

@[simp] theorem readReasoningLevel_write (level : ReasoningLevel) :
    readReasoningLevel (.ok (writeReasoningLevel level)) = .ok level := by
  cases level <;> rfl

@[simp] theorem readPlanStatus_write (status : PlanStatus) :
    readPlanStatus (.ok (writePlanStatus status)) = .ok status := by
  cases status <;> rfl

@[simp] theorem domainJobKind_wire (kind : JobKind) :
    domainJobKind (.ok (wireJobKind kind)) = .ok kind := by
  cases kind
  rfl

@[simp] theorem domainJobState_wire (state : JobState) :
    domainJobState (.ok (wireJobState state)) = .ok state := by
  cases state <;> rfl

@[simp] theorem domainRunStage_wire (stage : RunStage) :
    domainRunStage (.ok (wireRunStage stage)) = .ok stage := by
  cases stage <;> rfl

/-! ### Settings and the catalog -/

theorem readSessionSettings_write :
    RoundTrips (fun _ => True) writeSessionSettings readSessionSettings := by
  rintro settings message - h
  obtain ⟨_, hlength, h⟩ := bind_eq_ok_iff.1 h
  obtain ⟨_, hmodel, h⟩ := bind_eq_ok_iff.1 h
  obtain rfl := checkedText_eq_ok hmodel
  obtain rfl := Except.ok.inj h
  have hle : (asBytes settings.model).length ≤ maxRpcIdentifierBytes := by
    unfold validateInboundFieldLength at hlength
    split_ifs at hlength with hlt
    exact Nat.not_lt.1 hlt
  simp [readSessionSettings, readInboundText_asBytes hle]

/-- The efforts of a model are read one by one. -/
theorem mapM_readReasoningLevel (efforts : List ReasoningLevel) :
    (efforts.map fun effort => Except.ok (writeReasoningLevel effort)).mapM readReasoningLevel =
      .ok efforts := by
  induction efforts with
  | nil => rfl
  | cons effort efforts ih => simp [ih, pure, Except.pure]

theorem readModelInfo_write : RoundTrips (fun _ => True) writeModelInfo readModelInfo := by
  rintro model message - h
  obtain ⟨_, hid, h⟩ := bind_eq_ok_iff.1 h
  obtain ⟨_, hname, h⟩ := bind_eq_ok_iff.1 h
  obtain ⟨_, hdescription, h⟩ := bind_eq_ok_iff.1 h
  obtain ⟨_, -, h⟩ := bind_eq_ok_iff.1 h
  obtain rfl := checkedText_eq_ok hid
  obtain rfl := checkedText_eq_ok hname
  obtain rfl := checkedText_eq_ok hdescription
  obtain ⟨id, displayName, description, reasoningEfforts, default⟩ := model
  cases default with
  | none =>
    obtain rfl := Except.ok.inj h
    simp [-List.mapM_map, readModelInfo, mapM_readReasoningLevel, pure, Except.pure]
  | some reasoning =>
    obtain rfl := Except.ok.inj h
    simp [-List.mapM_map, readModelInfo, mapM_readReasoningLevel, Functor.map, Except.map]

theorem readModelCatalog_write : RoundTrips (fun _ => True) writeModelCatalog readModelCatalog := by
  rintro catalog message - h
  cases catalog with
  | loading =>
    obtain rfl := Except.ok.inj h
    rfl
  | ready models =>
    obtain ⟨_, -, h⟩ := bind_eq_ok_iff.1 h
    obtain ⟨list, hlist, h⟩ := bind_eq_ok_iff.1 h
    obtain rfl := Except.ok.inj h
    have hmodels := readModelInfo_write.list (fun _ _ => trivial) hlist
    simp [readModelCatalog, hmodels]
  | failed text =>
    obtain ⟨_, htext, h⟩ := bind_eq_ok_iff.1 h
    obtain rfl := checkedText_eq_ok htext
    obtain rfl := Except.ok.inj h
    simp [readModelCatalog]

/-! ### The summary -/

/-- What a summary needs to be read. -/
structure SummaryReadable (summary : SessionSummary) : Prop where
  id : PositiveId summary.id
  cwd : summary.cwd.length ≤ maxRpcCwdBytes

theorem readSessionSummary_write (hF : F.Rfc3339) :
    RoundTrips (fun s => SummaryReadable s ∧ HasRfc3339 s.lastActivity) (writeSessionSummary F)
      (readSessionSummary F) := by
  rintro summary message ⟨hs, ht⟩ h
  obtain ⟨_, hid, h⟩ := bind_eq_ok_iff.1 h
  obtain ⟨_, htitle, h⟩ := bind_eq_ok_iff.1 h
  obtain ⟨_, hcwd, h⟩ := bind_eq_ok_iff.1 h
  obtain ⟨_, hdisplay, h⟩ := bind_eq_ok_iff.1 h
  obtain ⟨_, htime, h⟩ := bind_eq_ok_iff.1 h
  obtain rfl := checkedText_eq_ok hid
  obtain rfl := checkedText_eq_ok htitle
  obtain rfl := checkedData_eq_ok hcwd
  obtain rfl := checkedText_eq_ok hdisplay
  obtain rfl := checkedText_eq_ok htime
  obtain rfl := Except.ok.inj h
  simp [readSessionSummary, readSessionId_display hs.id, readInboundData_ok hs.cwd,
    readTimestamp_write hF ht]

/-! ### Run failures -/

/-- The kind is read with the status that was written beside it. -/
theorem domainRunFailureKind_wire (kind : RunFailureKind) (status : UInt16)
    (hstatus : ∀ s ∈ (wireRunFailureKind kind).2, status = s) :
    domainRunFailureKind status (wireRunFailureKind kind).1 (wireRunFailureKind kind).2.isSome =
      .ok kind := by
  cases kind with
  | httpRejected s => rw [hstatus s rfl]; rfl
  | _ => rfl

theorem readRunFailure_write : RoundTrips (fun _ => True) writeRunFailure readRunFailure := by
  rintro failure message - h
  obtain ⟨_, hmessage, h⟩ := bind_eq_ok_iff.1 h
  obtain rfl := checkedText_eq_ok hmessage
  have hkind := domainRunFailureKind_wire failure.kind
  cases hstatus : (wireRunFailureKind failure.kind).2 with
  | none =>
    rw [hstatus] at h hkind
    obtain rfl := Except.ok.inj h
    have hread : domainRunFailureKind 0 (wireRunFailureKind failure.kind).1 false =
        .ok failure.kind := hkind 0 (by simp)
    simp [readRunFailure, readEnum, Except.map, Except.mapError, hread]
  | some status =>
    rw [hstatus] at h hkind
    obtain rfl := Except.ok.inj h
    have hread : domainRunFailureKind status (wireRunFailureKind failure.kind).1 true =
        .ok failure.kind := hkind status (by simp)
    simp [readRunFailure, readEnum, Except.map, Except.mapError, hread]

theorem readFailed_write {runId : ℕ} {failure : RunFailureSnapshot} {message : Wire.FailedRecord}
    (h : writeFailed runId failure = .ok message) :
    message.runId = runId ∧ (follow message.failure >>= readRunFailure) = .ok failure := by
  obtain ⟨written, hw, h⟩ := bind_eq_ok_iff.1 h
  obtain rfl := Except.ok.inj h
  exact ⟨rfl, readRunFailure_write trivial hw⟩

/-! ### Plans and jobs -/

theorem readPlanItem_write :
    RoundTrips (fun item => item.validate = true) writePlanItem readPlanItem := by
  intro item message hvalid h
  obtain ⟨_, hstep, h⟩ := bind_eq_ok_iff.1 h
  obtain rfl := checkedText_eq_ok hstep
  obtain rfl := Except.ok.inj h
  simp [readPlanItem, PlanItem.parse_of_validate hvalid]

theorem readPlanItems_write (field : String) :
    RoundTrips (fun plan => ∀ item ∈ plan, item.validate = true) (writePlanItems · field)
      readPlanItems := by
  intro plan message hvalid h
  obtain ⟨_, -, h⟩ := bind_eq_ok_iff.1 h
  obtain ⟨list, hlist, h⟩ := bind_eq_ok_iff.1 h
  obtain rfl := Except.ok.inj h
  exact readPlanItem_write.list hvalid hlist

/-- The timestamps of a job. -/
def jobTimestamps (job : JobSnapshotDto) : List Timestamp :=
  job.startedAt :: job.completedAt.toList

theorem readJobSnapshot_write (hF : F.Rfc3339) :
    RoundTrips (fun job => ∀ t ∈ jobTimestamps job, HasRfc3339 t) (writeJobSnapshot F)
      (readJobSnapshot F) := by
  intro job message ht h
  obtain ⟨_, hid, h⟩ := bind_eq_ok_iff.1 h
  obtain ⟨_, htitle, h⟩ := bind_eq_ok_iff.1 h
  obtain ⟨_, hstarted, h⟩ := bind_eq_ok_iff.1 h
  obtain ⟨_, hcompleted, h⟩ := bind_eq_ok_iff.1 h
  obtain ⟨_, hdetails, h⟩ := bind_eq_ok_iff.1 h
  obtain rfl := checkedText_eq_ok hid
  obtain rfl := checkedText_eq_ok htitle
  obtain rfl := checkedText_eq_ok hstarted
  obtain rfl := checkedText_eq_ok hcompleted
  obtain rfl := checkedText_eq_ok hdetails
  obtain rfl := Except.ok.inj h
  obtain ⟨id, kind, state, title, startedAt, completedAt, details⟩ := job
  have hstart := readTimestamp_write hF (ht startedAt (by simp [jobTimestamps])) "startedAt"
  cases completedAt with
  | none => simp [readJobSnapshot, hstart, pure, Except.pure]
  | some t =>
    have htime : HasRfc3339 t := ht t (by simp [jobTimestamps])
    have hend := readTimestamp_write hF htime "completedAt"
    simp [readJobSnapshot, hstart, hend, writeTimestamp_ne_empty hF htime, Functor.map, Except.map]

theorem readJobList_write (hF : F.Rfc3339) (field : String) :
    RoundTrips (fun jobs => ∀ job ∈ jobs, ∀ t ∈ jobTimestamps job, HasRfc3339 t)
      (writeJobList F · field) (readJobList F) := by
  intro jobs message ht h
  obtain ⟨_, -, h⟩ := bind_eq_ok_iff.1 h
  obtain ⟨list, hlist, h⟩ := bind_eq_ok_iff.1 h
  obtain rfl := Except.ok.inj h
  exact (readJobSnapshot_write hF).list ht hlist

/-! ### The transcript -/

theorem readToolStarted_write {runId : ℕ} {callId name : String} {arguments : Value}
    {message : Wire.ToolStartedRecord} (hargs : Reparses F arguments)
    (h : writeToolStarted F runId callId name arguments = .ok message) :
    readToolStarted F message = .ok (runId, callId, name, arguments) := by
  unfold writeToolStarted at h
  cases hjson : F.formatJson arguments with
  | none => simp [hjson] at h
  | some text =>
    rw [hjson] at h
    obtain ⟨_, hcall, h⟩ := bind_eq_ok_iff.1 h
    obtain ⟨_, hname, h⟩ := bind_eq_ok_iff.1 h
    obtain ⟨_, htext, h⟩ := bind_eq_ok_iff.1 h
    obtain rfl := checkedText_eq_ok hcall
    obtain rfl := checkedText_eq_ok hname
    obtain rfl := checkedText_eq_ok htext
    obtain rfl := Except.ok.inj h
    simp [readToolStarted, hargs text hjson]

/-- What a transcript item needs to be read. -/
def ItemReadable (F : TextFormats) : TranscriptItem → Prop
  | .toolStarted _ _ _ arguments => Reparses F arguments
  | _ => True

theorem readTranscriptItem_write :
    RoundTrips (ItemReadable F) (writeTranscriptItem F) (readTranscriptItem F) := by
  intro item message hitem h
  cases item with
  | user text =>
    obtain ⟨_, htext, h⟩ := bind_eq_ok_iff.1 h
    obtain rfl := checkedText_eq_ok htext
    obtain rfl := Except.ok.inj h
    simp [readTranscriptItem]
  | assistant text =>
    obtain ⟨_, htext, h⟩ := bind_eq_ok_iff.1 h
    obtain rfl := checkedText_eq_ok htext
    obtain rfl := Except.ok.inj h
    simp [readTranscriptItem]
  | toolStarted runId callId name arguments =>
    obtain ⟨tool, htool, h⟩ := bind_eq_ok_iff.1 h
    obtain rfl := Except.ok.inj h
    simp [readTranscriptItem, readToolStarted_write hitem htool]
  | failed runId failure =>
    obtain ⟨failed, hfailed, h⟩ := bind_eq_ok_iff.1 h
    obtain rfl := Except.ok.inj h
    obtain ⟨rfl, hread⟩ := readFailed_write hfailed
    obtain ⟨reader, hreader, hread⟩ := bind_eq_ok_iff.1 hread
    simp [readTranscriptItem, hreader, hread]
  | cancelled runId =>
    obtain rfl := Except.ok.inj h
    rfl

/-! ### Snapshots -/

theorem readActiveRun_write : RoundTrips (fun _ => True) writeActiveRun readActiveRun := by
  rintro run message - h
  obtain ⟨_, hprompt, h⟩ := bind_eq_ok_iff.1 h
  obtain ⟨_, htext, h⟩ := bind_eq_ok_iff.1 h
  obtain rfl := checkedText_eq_ok hprompt
  obtain rfl := checkedText_eq_ok htext
  obtain rfl := Except.ok.inj h
  simp [readActiveRun]

/-- The pointer to the active run is followed. -/
theorem mapM_follow (run : Option Wire.ActiveRun) :
    (run.map Except.ok).mapM follow = .ok run := by
  cases run <;> rfl

theorem readPersistenceWarning_write :
    RoundTrips (· ≠ some "") writePersistenceWarning readPersistenceWarning := by
  intro warning message hwarning h
  obtain ⟨_, htext, h⟩ := bind_eq_ok_iff.1 h
  obtain rfl := checkedText_eq_ok htext
  obtain rfl := Except.ok.inj h
  cases warning with
  | none => simp [readPersistenceWarning]
  | some text =>
    have htext : text ≠ "" := fun he => hwarning (by rw [he])
    simp [readPersistenceWarning, String.isEmpty_iff, htext]

/-- What a snapshot needs to be read, its plan and its timestamps apart. -/
structure SnapshotReadable (F : TextFormats) (snapshot : SessionSnapshot) : Prop where
  summary : SummaryReadable snapshot.summary
  transcript : ∀ item ∈ snapshot.transcript, ItemReadable F item
  warning : snapshot.persistenceWarning ≠ some ""

/-- The timestamps of a snapshot. -/
def snapshotTimestamps (snapshot : SessionSnapshot) : List Timestamp :=
  snapshot.summary.lastActivity :: snapshot.jobs.flatMap jobTimestamps

/-- **The client reads every snapshot that the server writes.** -/
theorem readSessionSnapshot_write (hF : F.Rfc3339) :
    RoundTrips
      (fun s => SnapshotReadable F s ∧ (∀ item ∈ s.plan, item.validate = true) ∧
        ∀ t ∈ snapshotTimestamps s, HasRfc3339 t)
      (writeSessionSnapshot F) (readSessionSnapshot F) := by
  rintro snapshot message ⟨hs, hvalid, ht⟩ h
  obtain ⟨summary, hsummary, h⟩ := bind_eq_ok_iff.1 h
  obtain ⟨_, -, h⟩ := bind_eq_ok_iff.1 h
  obtain ⟨transcript, htranscript, h⟩ := bind_eq_ok_iff.1 h
  obtain ⟨run, hrun, h⟩ := bind_eq_ok_iff.1 h
  obtain ⟨settings, hsettings, h⟩ := bind_eq_ok_iff.1 h
  obtain ⟨catalog, hcatalog, h⟩ := bind_eq_ok_iff.1 h
  obtain ⟨plan, hplan, h⟩ := bind_eq_ok_iff.1 h
  obtain ⟨jobs, hjobs, h⟩ := bind_eq_ok_iff.1 h
  obtain ⟨warning, hwarning, h⟩ := bind_eq_ok_iff.1 h
  obtain rfl := Except.ok.inj h
  have htime : HasRfc3339 snapshot.summary.lastActivity := ht _ (by simp [snapshotTimestamps])
  have hjobTimes : ∀ job ∈ snapshot.jobs, ∀ t ∈ jobTimestamps job, HasRfc3339 t :=
    fun job hjob t htj => ht t (by simp only [snapshotTimestamps, List.mem_cons, List.mem_flatMap]
                                   exact .inr ⟨job, hjob, htj⟩)
  simp [readSessionSnapshot, mapM_follow, readTranscriptItem_write.list hs.transcript htranscript,
    readActiveRun_write.option (fun _ _ => trivial) hrun,
    readPersistenceWarning_write hs.warning hwarning,
    readSessionSummary_write hF ⟨hs.summary, htime⟩ hsummary,
    readSessionSettings_write trivial hsettings, readModelCatalog_write trivial hcatalog,
    readPlanItems_write "plan" hvalid hplan, readJobList_write hF "jobs" hjobTimes hjobs]

/-! ### Events -/

/-- What an event needs to be read, its plan and its timestamps apart. -/
def EventReadable (F : TextFormats) : SessionEvent → Prop
  | .toolStarted _ _ _ arguments => Reparses F arguments
  | .persistenceWarning warning => warning ≠ some ""
  | .deleted sessionId => PositiveId sessionId
  | _ => True

/-- The plan of an event. -/
def eventPlan : SessionEvent → List PlanItem
  | .planChanged plan => plan
  | _ => []

/-- The timestamps of an event. -/
def eventTimestamps : SessionEvent → List Timestamp
  | .contextUsage _ _ lastActivity => [lastActivity]
  | .completed _ _ lastActivity => [lastActivity]
  | .settingsChanged _ lastActivity => [lastActivity]
  | .jobsChanged jobs => jobs.flatMap jobTimestamps
  | _ => []

theorem readEvent_write (hF : F.Rfc3339) :
    RoundTrips (fun e => EventReadable F e ∧ (∀ item ∈ eventPlan e, item.validate = true) ∧
      ∀ t ∈ eventTimestamps e, HasRfc3339 t) (writeEvent F) (readEvent F) := by
  rintro event message ⟨he, hvalid, ht⟩ h
  cases event with
  | titleChanged title titleRevision =>
    obtain ⟨_, htitle, h⟩ := bind_eq_ok_iff.1 h
    obtain rfl := checkedText_eq_ok htitle
    obtain rfl := Except.ok.inj h
    simp [readEvent]
  | started runId prompt =>
    obtain ⟨_, hprompt, h⟩ := bind_eq_ok_iff.1 h
    obtain rfl := checkedText_eq_ok hprompt
    obtain rfl := Except.ok.inj h
    simp [readEvent]
  | assistantDelta runId text =>
    obtain ⟨_, htext, h⟩ := bind_eq_ok_iff.1 h
    obtain rfl := checkedText_eq_ok htext
    obtain rfl := Except.ok.inj h
    simp [readEvent]
  | contextUsage runId inputTokens lastActivity =>
    obtain ⟨_, htime, h⟩ := bind_eq_ok_iff.1 h
    obtain rfl := checkedText_eq_ok htime
    obtain rfl := Except.ok.inj h
    simp [readEvent, readTimestamp_write hF (ht lastActivity (by simp [eventTimestamps]))]
  | toolStarted runId callId name arguments =>
    obtain ⟨tool, htool, h⟩ := bind_eq_ok_iff.1 h
    obtain rfl := Except.ok.inj h
    simp [readEvent, readToolStarted_write he htool]
  | toolFinished runId callId name =>
    obtain ⟨_, hcall, h⟩ := bind_eq_ok_iff.1 h
    obtain ⟨_, hname, h⟩ := bind_eq_ok_iff.1 h
    obtain rfl := checkedText_eq_ok hcall
    obtain rfl := checkedText_eq_ok hname
    obtain rfl := Except.ok.inj h
    simp [readEvent]
  | completed runId response lastActivity =>
    obtain ⟨_, hresponse, h⟩ := bind_eq_ok_iff.1 h
    obtain ⟨_, htime, h⟩ := bind_eq_ok_iff.1 h
    obtain rfl := checkedText_eq_ok hresponse
    obtain rfl := checkedText_eq_ok htime
    obtain rfl := Except.ok.inj h
    simp [readEvent, readTimestamp_write hF (ht lastActivity (by simp [eventTimestamps]))]
  | failed runId failure =>
    obtain ⟨failed, hfailed, h⟩ := bind_eq_ok_iff.1 h
    obtain rfl := Except.ok.inj h
    obtain ⟨rfl, hread⟩ := readFailed_write hfailed
    obtain ⟨reader, hreader, hread⟩ := bind_eq_ok_iff.1 hread
    simp [readEvent, hreader, hread]
  | cancelled runId =>
    obtain rfl := Except.ok.inj h
    rfl
  | settingsChanged settings lastActivity =>
    obtain ⟨_, hsettings, h⟩ := bind_eq_ok_iff.1 h
    obtain ⟨_, htime, h⟩ := bind_eq_ok_iff.1 h
    obtain rfl := checkedText_eq_ok htime
    obtain rfl := Except.ok.inj h
    simp [readEvent, readSessionSettings_write trivial hsettings,
      readTimestamp_write hF (ht lastActivity (by simp [eventTimestamps]))]
  | planChanged plan =>
    obtain ⟨_, hplan, h⟩ := bind_eq_ok_iff.1 h
    obtain rfl := Except.ok.inj h
    have hread : readPlanItems _ = .ok plan := readPlanItems_write "planChanged" hvalid hplan
    simp [readEvent, hread]
  | jobsChanged jobs =>
    obtain ⟨_, hjobs, h⟩ := bind_eq_ok_iff.1 h
    obtain rfl := Except.ok.inj h
    have htimes : ∀ job ∈ jobs, ∀ t ∈ jobTimestamps job, HasRfc3339 t :=
      fun job hjob t htj => ht t (List.mem_flatMap.2 ⟨job, hjob, htj⟩)
    simp [readEvent, readJobList_write hF "jobsChanged" htimes hjobs]
  | catalogChanged catalog =>
    obtain ⟨_, hcatalog, h⟩ := bind_eq_ok_iff.1 h
    obtain rfl := Except.ok.inj h
    simp [readEvent, readModelCatalog_write trivial hcatalog]
  | persistenceWarning warning =>
    obtain ⟨_, hwarning, h⟩ := bind_eq_ok_iff.1 h
    obtain rfl := Except.ok.inj h
    simp [readEvent, readPersistenceWarning_write he hwarning]
  | deleted sessionId =>
    obtain ⟨_, hid, h⟩ := bind_eq_ok_iff.1 h
    obtain rfl := checkedText_eq_ok hid
    obtain rfl := Except.ok.inj h
    simp [readEvent, readSessionId_display he]

/-- **The client reads every event that the server writes.** -/
theorem readEventEnvelope_write (hF : F.Rfc3339) :
    RoundTrips
      (fun e => EventReadable F e.event ∧ (∀ item ∈ eventPlan e.event, item.validate = true) ∧
        ∀ t ∈ eventTimestamps e.event, HasRfc3339 t)
      (writeEventEnvelope F) (readEventEnvelope F) := by
  intro envelope message he h
  obtain ⟨event, hevent, h⟩ := bind_eq_ok_iff.1 h
  obtain rfl := Except.ok.inj h
  simp [readEventEnvelope, readEvent_write hF he hevent]

/-! ### Both directions of the protocol -/

/-- **The encoding round trip:** what the server writes of a snapshot or of an event,
the client reads, and it is the same, if the plan is valid and RFC 3339 can write the
timestamps. -/
theorem read_written (hF : F.Rfc3339) :
    (∀ snapshot message, SnapshotReadable F snapshot →
      (∀ item ∈ snapshot.plan, item.validate = true) →
      (∀ t ∈ snapshotTimestamps snapshot, HasRfc3339 t) →
      writeSessionSnapshot F snapshot = .ok message →
      readSessionSnapshot F message = .ok snapshot) ∧
    ∀ envelope message, EventReadable F envelope.event →
      (∀ item ∈ eventPlan envelope.event, item.validate = true) →
      (∀ t ∈ eventTimestamps envelope.event, HasRfc3339 t) →
      writeEventEnvelope F envelope = .ok message → readEventEnvelope F message = .ok envelope :=
  ⟨fun _ _ hs hvalid ht hw => readSessionSnapshot_write hF ⟨hs, hvalid, ht⟩ hw,
    fun _ _ he hvalid ht hw => readEventEnvelope_write hF ⟨he, hvalid, ht⟩ hw⟩

/-! ### Samples -/

/-- The first instant of the year 10000. -/
def year10000 : Timestamp := 253402300800 * 10 ^ 9

/-- The epoch, the year 10000 and the value `null` as the libraries print them; the
other timestamps in unary. -/
def sampleFormats : TextFormats where
  formatTimestamp t :=
    if t = 0 then "1970-01-01T00:00:00Z"
    else if t = year10000 then "+10000-01-01T00:00:00Z"
    else
      match t with
      | .ofNat n => String.ofList (List.replicate n 'p')
      | .negSucc n => String.ofList ('n' :: List.replicate n 'p')
  parseTimestamp value :=
    match value.toList with
    | 'p' :: rest => some (rest.length + 1, 0)
    | 'n' :: rest => some (.negSucc rest.length, 0)
    | _ => if value = "1970-01-01T00:00:00Z" then some (0, 0) else none
  formatJson _ := some "null"
  parseJson value := if value = "null" then some .null else none

theorem rfc3339_sampleFormats : sampleFormats.Rfc3339 := by
  refine ⟨fun t ht => ?_, by decide⟩
  by_cases hzero : t = 0
  · subst hzero
    decide
  have hfar : t ≠ year10000 := by
    rintro rfl
    exact absurd ht (by decide)
  cases t with
  | ofNat n =>
    obtain ⟨n, rfl⟩ := Nat.exists_eq_succ_of_ne_zero (n := n) fun h => hzero (by rw [h]; rfl)
    simp only [sampleFormats, if_neg hzero, if_neg hfar, String.toList_ofList,
      List.replicate_succ, List.length_replicate]
    rfl
  | negSucc n =>
    simp only [sampleFormats, if_neg hzero, if_neg hfar, String.toList_ofList,
      List.length_replicate]

/-- A snapshot with an item of each kind, a run, a plan and a job. -/
def sampleSnapshot : SessionSnapshot where
  summary := ⟨⟨1⟩, emptyRecord.title, 3, [0x2F, 0xFF], ['/', '\uFFFD'], 1, true, true, 2, 0⟩
  transcript := [.user "hello", .toolStarted 0 "call" "bash" .null, .assistant "hi",
    .failed 0 ⟨.modelRequest, .httpRejected 503, true, "unavailable"⟩, .cancelled 1]
  activeRun := some ⟨2, "again", ""⟩
  settings := ⟨"model", .high, 7⟩
  catalog := .ready [⟨"model", "Model", "", [.low, .high], some .high⟩]
  plan := [⟨"Inspect", .inProgress⟩]
  jobs := [⟨"job-1", .bash, .failed, "build", 0, some 0, ""⟩,
    ⟨"job-2", .bash, .running, "test", 0, none, ""⟩]
  persistenceWarning := none
  sequence := 9
  busy := true

theorem readable_sampleSnapshot : SnapshotReadable sampleFormats sampleSnapshot := by
  refine ⟨⟨⟨by decide, by decide⟩, by decide⟩, fun item hitem => ?_, by decide⟩
  simp only [sampleSnapshot, List.mem_cons, List.not_mem_nil, or_false] at hitem
  rcases hitem with rfl | rfl | rfl | rfl | rfl
  · exact trivial
  · rintro text htext
    obtain rfl := Option.some.inj htext
    rfl
  · exact trivial
  · exact trivial
  · exact trivial

/-- `read_written` on that snapshot and on the end of a run. -/
theorem read_written_sample :
    (writeSessionSnapshot sampleFormats sampleSnapshot >>= readSessionSnapshot sampleFormats) =
        .ok sampleSnapshot ∧
      (writeEventEnvelope sampleFormats ⟨10, .completed 2 "done" 0⟩ >>=
        readEventEnvelope sampleFormats) = .ok ⟨10, .completed 2 "done" 0⟩ := by
  have hread := read_written rfc3339_sampleFormats
  constructor
  · have hok : (writeSessionSnapshot sampleFormats sampleSnapshot).isOk = true := by decide +kernel
    cases hw : writeSessionSnapshot sampleFormats sampleSnapshot with
    | error e => simp [hw, Except.isOk, Except.toBool] at hok
    | ok message => exact hread.1 _ _ readable_sampleSnapshot (by decide) (by decide) hw
  · exact hread.2 ⟨10, .completed 2 "done" 0⟩ _ trivial (by decide) (by decide) rfl

/-- **What no condition of the writers excludes, the readers refuse:** the end of a
run in the year 10000, which RFC 3339 cannot write, and a plan with an empty step. -/
theorem unreadable_written :
    sampleFormats.Rfc3339 ∧
      ∀ event ∈ [SessionEvent.completed 2 "done" year10000, .planChanged [⟨"", .pending⟩]],
        EventReadable sampleFormats event ∧ ∃ message,
          writeEventEnvelope sampleFormats ⟨10, event⟩ = .ok message ∧
            readEventEnvelope sampleFormats message ≠ .ok ⟨10, event⟩ := by
  have hrefused {event : SessionEvent} {message : Wire.EventEnvelope}
      (h : (readEventEnvelope sampleFormats message).isOk = false) :
      readEventEnvelope sampleFormats message ≠ .ok ⟨10, event⟩ := by
    intro hread
    rw [hread] at h
    simp [Except.isOk, Except.toBool] at h
  refine ⟨rfc3339_sampleFormats, fun event hevent => ?_⟩
  simp only [List.mem_cons, List.not_mem_nil, or_false] at hevent
  rcases hevent with rfl | rfl
  · exact ⟨trivial, _, rfl, hrefused (by decide +kernel)⟩
  · exact ⟨trivial, _, rfl, hrefused (by decide +kernel)⟩

end Rpc
end Moh
