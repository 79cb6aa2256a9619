/-
# The four representations of a session agree

One session is held four times: in the durable record, in the projection, in the
harness and in the list of turns.  `Agreement` says that they tell the same
story.  `Move` lists what one handler can do to the record and the harness and
the event it projects; while the representations agree the projection accepts
that event (`Agreement.validate`), and they agree again once it is reduced
(`Agreement.move`).
-/

import Moh.Session.Actor

namespace Moh

/-! ### Agreement -/

/-- The turns, the active run of the projection and that of the harness, over one
transcript: either nothing runs, or the last turn alone runs, all three have its
identifier, and its prompt is in the transcript. -/
inductive RunsAgree (transcript : List TranscriptItem) :
    List DurableTurn → Option ActiveRunSnapshot → Option ActiveRun → Prop where
  | idle {turns : List DurableTurn} (hturns : ∀ turn ∈ turns, turn.status ≠ .running) :
    RunsAgree transcript turns none none
  | active {turns : List DurableTurn} {turn : DurableTurn} {snapshot : ActiveRunSnapshot}
    {run : ActiveRun} (hturns : ∀ turn ∈ turns, turn.status ≠ .running)
    (hstatus : turn.status = .running) (hturn : turn.runId = run.id)
    (hsnapshot : snapshot.runId = run.id) (hprompt : snapshot.prompt = run.prompt)
    (hposition : transcript[turn.promptPosition]? = some (.user run.prompt)) :
    RunsAgree transcript (turns ++ [turn]) (some snapshot) (some run)

/-- The record, the projection and the harness of one actor tell the same story. -/
structure Agreement (record : SessionRecord) (p : SessionProjection) (h : Harness) : Prop where
  transcript : record.transcript = p.transcript
  settings : record.settings = p.settings
  plan : record.plan = p.plan
  title : record.title = p.summary.title
  titleRevision : record.titleRevision = p.summary.titleRevision
  lastActivity : record.lastActivity = p.summary.lastActivity
  history : record.history = h.history
  busy : p.summary.busy = p.activeRun.isSome
  runs : RunsAgree record.transcript record.turns p.activeRun h.active

/-- A longer transcript keeps the prompt of the active run. -/
theorem RunsAgree.append {transcript : List TranscriptItem} {turns : List DurableTurn}
    {snapshot : Option ActiveRunSnapshot} {run : Option ActiveRun}
    (h : RunsAgree transcript turns snapshot run) (more : List TranscriptItem) :
    RunsAgree (transcript ++ more) turns snapshot run := by
  cases h with
  | idle hturns => exact .idle hturns
  | active hturns hstatus hturn hsnapshot hprompt hposition =>
    refine .active hturns hstatus hturn hsnapshot hprompt ?_
    rw [List.getElem?_append_left (List.getElem?_eq_some_iff.1 hposition).1, hposition]

/-- The running turn is found when it is the only one and the last. -/
theorem updateRunningTurn_last {turns : List DurableTurn} {turn : DurableTurn}
    (hturns : ∀ t ∈ turns, t.status ≠ .running) (hstatus : turn.status = .running)
    (f : DurableTurn → DurableTurn) :
    updateRunningTurn turn.runId f (turns ++ [turn]) = .ok (turns ++ [f turn]) := by
  induction turns with
  | nil => simp [updateRunningTurn, hstatus]
  | cons t ts ih =>
    have ht : ¬(t.runId = turn.runId ∧ t.status = .running) := fun h => hturns t (by simp) h.2
    rw [List.cons_append, updateRunningTurn, if_neg ht, ih fun t' ht' => hturns t' (by simp [ht'])]
    rfl

namespace Agreement

variable {record : SessionRecord} {p : SessionProjection} {h : Harness}

/-- An idle harness leaves no turn running. -/
theorem turns_of_idle (ha : Agreement record p h) (hidle : h.active = none) :
    p.activeRun = none ∧ ∀ turn ∈ record.turns, turn.status ≠ .running := by
  have hr := ha.runs
  rw [hidle] at hr
  generalize htr : record.turns = turns at hr
  generalize hp : p.activeRun = snapshot at hr
  cases hr with
  | idle hturns => exact ⟨rfl, hturns⟩

/-- A running harness has the last turn running. -/
theorem turns_of_active (ha : Agreement record p h) {run : ActiveRun} (hrun : h.active = some run) :
    ∃ turns turn snapshot, record.turns = turns ++ [turn] ∧ p.activeRun = some snapshot ∧
      (∀ t ∈ turns, t.status ≠ .running) ∧ turn.status = .running ∧ turn.runId = run.id ∧
      snapshot.runId = run.id ∧ snapshot.prompt = run.prompt ∧
      record.transcript[turn.promptPosition]? = some (.user run.prompt) := by
  have hr := ha.runs
  rw [hrun] at hr
  generalize htr : record.turns = turns at hr
  generalize hp : p.activeRun = snapshot at hr
  cases hr with
  | active hturns hstatus hturn hsnapshot hprompt hposition =>
    exact ⟨_, _, _, rfl, rfl, hturns, hstatus, hturn, hsnapshot, hprompt, hposition⟩

/-- **An event of the active run validates.** -/
theorem validateRunId (ha : Agreement record p h) {run : ActiveRun} (hrun : h.active = some run) :
    p.validateRunId run.id = .ok () := by
  obtain ⟨_, _, snapshot, -, hp, -, -, -, hid, -, -⟩ := ha.turns_of_active hrun
  simp [SessionProjection.validateRunId, hp, hid]

/-- A new run validates while the harness is idle. -/
theorem validate_started (ha : Agreement record p h) (hidle : h.active = none) (runId : ℕ)
    (prompt : String) : p.validateEvent (.started runId prompt) = .ok () := by
  simp [SessionProjection.validateEvent, (ha.turns_of_idle hidle).1]

/-- The sequence number plays no part in the agreement. -/
theorem withSequence (ha : Agreement record p h) (n : ℕ) :
    Agreement record { p with sequence := n } h :=
  ⟨ha.transcript, ha.settings, ha.plan, ha.title, ha.titleRevision, ha.lastActivity, ha.history,
    ha.busy, ha.runs⟩

/-- Neither does the persistence warning. -/
theorem withWarning (ha : Agreement record p h) (warning : Option String) :
    Agreement record (p.reduce (.persistenceWarning warning)) h :=
  ⟨ha.transcript, ha.settings, ha.plan, ha.title, ha.titleRevision, ha.lastActivity, ha.history,
    ha.busy, ha.runs⟩

/-- **The end of the active run:** its turn is no longer running, its item is the
last of the transcript, and nothing else happened to the record. -/
theorem endTurn (ha : Agreement record p h) {run : ActiveRun} (hrun : h.active = some run)
    (status : TurnStatus) (hstatus : status ≠ .running) (item : TranscriptItem) :
    ∃ turns, endTurn record run.id status item =
        .ok { record with turns := turns, transcript := record.transcript ++ [item] } ∧
      ∀ turn ∈ turns, turn.status ≠ .running := by
  obtain ⟨turns, turn, _, htr, -, hturns, hrunning, hid, -⟩ := ha.turns_of_active hrun
  refine ⟨turns ++ [{ turn with status := status }], ?_, ?_⟩
  · rw [Moh.endTurn, htr, ← hid, updateRunningTurn_last hturns hrunning]
  · intro t ht
    rcases List.mem_append.1 ht with ht | ht
    · exact hturns t ht
    · obtain rfl := List.mem_singleton.1 ht
      exact hstatus

end Agreement

/-! ### What handlers do to the record and the harness -/

/-- What a handler does to the record and the harness, and the event it projects:
`still` is a handler that only writes. -/
inductive Move (record : SessionRecord) (h : Harness) :
    Option SessionEvent → SessionRecord → Harness → Prop where
  | still : Move record h none record h
  | started {prompt : String} {context : RunContext} {runId : ℕ} {record' : SessionRecord}
    {h' : Harness} (hs : h.submit prompt context = (.ok runId, h'))
    (hr : applyDurableEvent record (.started runId prompt) = .ok record') :
    Move record h (some (.started runId prompt)) record' h'
  | toolStarted {run : ActiveRun} {callId name : String} {arguments : Value}
    {record' : SessionRecord} (hrun : h.active = some run)
    (hr : applyDurableEvent record (.toolStarted run.id callId name arguments) = .ok record') :
    Move record h (some (.toolStarted run.id callId name arguments)) record' h
  | completed {run : ActiveRun} {response : String} {time : Timestamp} {record' : SessionRecord}
    (hrun : h.active = some run)
    (hr : applyDurableEvent record (.completed run.id response time) = .ok record') :
    Move record h (some (.completed run.id response time))
      { record' with history := h.history ++ [⟨.user, run.prompt⟩, ⟨.assistant, response⟩] }
      { h with
        active := none
        history := h.history ++ [⟨.user, run.prompt⟩, ⟨.assistant, response⟩] }
  | failed {run : ActiveRun} {failure : RunFailure} {record' : SessionRecord}
    (hrun : h.active = some run)
    (hr : applyDurableEvent record (.failed run.id failure) = .ok record') :
    Move record h (some (.failed run.id failure)) record' { h with active := none }
  | cancelled {run : ActiveRun} {record' : SessionRecord} (hrun : h.active = some run)
    (hr : applyDurableEvent record (.cancelled run.id) = .ok record') :
    Move record h (some (.cancelled run.id)) record' { h with active := none }
  | settings (settings : SessionSettings) (time : Timestamp) :
    Move record h (some (.settingsChanged settings time))
      { record with settings := settings, lastActivity := time } h
  | contextUsage {run : ActiveRun} (inputTokens : ℕ) (time : Timestamp)
    (hrun : h.active = some run) :
    Move record h (some (.contextUsage run.id inputTokens time))
      { record with
        settings := { record.settings with contextTokens := inputTokens }
        lastActivity := time } h
  | plan (plan : List PlanItem) :
    Move record h (some (.planChanged plan)) { record with plan := plan } h

/-- An event that changes neither the record nor the harness. -/
inductive Notice (h : Harness) : SessionEvent → Prop where
  | assistantDelta {run : ActiveRun} (hrun : h.active = some run) (text : String) :
    Notice h (.assistantDelta run.id text)
  | toolFinished {run : ActiveRun} (hrun : h.active = some run) (callId name : String) :
    Notice h (.toolFinished run.id callId name)
  | jobsChanged (jobs : List JobSnapshotDto) : Notice h (.jobsChanged jobs)

/-- What `apply_durable_event` does with a new run. -/
theorem applyDurableEvent_started_eq_ok {record record' : SessionRecord} {runId : ℕ}
    {prompt : String} (hr : applyDurableEvent record (.started runId prompt) = .ok record') :
    record' =
      { record with
        transcript := record.transcript ++ [.user prompt]
        turns := record.turns ++
          [⟨record.turns.length, runId, record.transcript.length, .running⟩] } := by
  unfold applyDurableEvent at hr
  split_ifs at hr
  exact (Except.ok.inj hr).symm

namespace Agreement

variable {record record' : SessionRecord} {p : SessionProjection} {h h' : Harness}
  {event : SessionEvent}

/-- **The projection accepts the event of every move.** -/
theorem validate (ha : Agreement record p h) (hm : Move record h (some event) record' h') :
    p.validateEvent event = .ok () := by
  cases hm with
  | started hs hr => exact ha.validate_started (Harness.submit_eq_ok hs).1 _ _
  | toolStarted hrun hr => exact ha.validateRunId hrun
  | completed hrun hr => exact ha.validateRunId hrun
  | failed hrun hr => exact ha.validateRunId hrun
  | cancelled hrun hr => exact ha.validateRunId hrun
  | settings settings time => rfl
  | contextUsage inputTokens time hrun => exact ha.validateRunId hrun
  | plan plan => rfl

theorem validate_notice (ha : Agreement record p h) (hn : Notice h event) :
    p.validateEvent event = .ok () := by
  cases hn with
  | assistantDelta hrun text => exact ha.validateRunId hrun
  | toolFinished hrun callId name => exact ha.validateRunId hrun
  | jobsChanged jobs => rfl

/-- A notice leaves the representations in agreement: only the text of the active
run can change. -/
theorem notice (ha : Agreement record p h) (hn : Notice h event) :
    Agreement record (p.reduce event) h := by
  cases hn with
  | assistantDelta hrun text =>
    obtain ⟨turns, turn, snapshot, htr, hp, hturns, hstatus, hid, hsid, hprompt, hpos⟩ :=
      ha.turns_of_active hrun
    refine ⟨ha.transcript, ha.settings, ha.plan, ha.title, ha.titleRevision, ha.lastActivity,
      ha.history, ?_, ?_⟩
    · simpa [SessionProjection.reduce] using ha.busy
    · simp only [SessionProjection.reduce, hp, htr, hrun, Option.map_some]
      exact .active hturns hstatus hid hsid hprompt hpos
  | toolFinished hrun callId name => exact ha
  | jobsChanged jobs => exact ha

/-- The harness lost a run that no other representation knew. -/
theorem gaveUp (ha : Agreement record p h) (hhistory : h'.history = h.history)
    (hactive : h'.active = h.active) : Agreement record p h' :=
  ⟨ha.transcript, ha.settings, ha.plan, ha.title, ha.titleRevision, ha.lastActivity,
    ha.history.trans hhistory.symm, ha.busy, hactive ▸ ha.runs⟩

/-- **Every move leaves the representations in agreement,** once the projection
reduced its event. -/
theorem move (ha : Agreement record p h) (hm : Move record h (some event) record' h') :
    Agreement record' (p.reduce event) h' := by
  cases hm with
  | started hs hr =>
    obtain ⟨hidle, hhistory, hactive⟩ := Harness.submit_eq_ok hs
    obtain ⟨-, hturns⟩ := ha.turns_of_idle hidle
    obtain rfl := applyDurableEvent_started_eq_ok hr
    refine ⟨?_, ha.settings, ha.plan, ha.title, ha.titleRevision, ha.lastActivity,
      ha.history.trans hhistory.symm, rfl, ?_⟩
    · simp only [SessionProjection.reduce, ha.transcript]
    · rw [hactive]
      exact .active hturns rfl rfl rfl rfl (by simp)
  | toolStarted hrun hr =>
    obtain ⟨turns, turn, _, htr, -, hturns, hstatus, hid, -⟩ := ha.turns_of_active hrun
    have hfound := updateRunningTurn_last hturns hstatus id
    rw [hid, ← htr] at hfound
    rw [applyDurableEvent, hfound] at hr
    obtain rfl := Except.ok.inj hr
    refine ⟨?_, ha.settings, ha.plan, ha.title, ha.titleRevision, ha.lastActivity, ha.history,
      ha.busy, ha.runs.append _⟩
    rw [SessionProjection.reduce, ha.transcript]
  | completed hrun hr =>
    obtain ⟨turns, hend, hturns⟩ := ha.endTurn hrun .completed (by decide) _
    rw [applyDurableEvent, hend] at hr
    obtain rfl := Except.ok.inj hr
    refine ⟨?_, ha.settings, ha.plan, ha.title, ha.titleRevision, rfl, ?_, rfl, .idle hturns⟩
    · simp only [SessionProjection.reduce, ha.transcript]
    · rfl
  | failed hrun hr =>
    obtain ⟨turns, hend, hturns⟩ := ha.endTurn hrun .failed (by decide) _
    rw [applyDurableEvent, hend] at hr
    obtain rfl := Except.ok.inj hr
    refine ⟨?_, ha.settings, ha.plan, ha.title, ha.titleRevision, ha.lastActivity, ha.history, rfl,
      .idle hturns⟩
    simp only [SessionProjection.reduce, ha.transcript]
  | cancelled hrun hr =>
    obtain ⟨turns, hend, hturns⟩ := ha.endTurn hrun .cancelled (by decide) _
    rw [applyDurableEvent, hend] at hr
    obtain rfl := Except.ok.inj hr
    refine ⟨?_, ha.settings, ha.plan, ha.title, ha.titleRevision, ha.lastActivity, ha.history, rfl,
      .idle hturns⟩
    simp only [SessionProjection.reduce, ha.transcript]
  | settings settings time =>
    exact ⟨ha.transcript, rfl, ha.plan, ha.title, ha.titleRevision, rfl, ha.history, ha.busy,
      ha.runs⟩
  | contextUsage inputTokens time hrun =>
    refine ⟨ha.transcript, ?_, ha.plan, ha.title, ha.titleRevision, rfl, ha.history, ha.busy,
      ha.runs⟩
    simp only [SessionProjection.reduce, ha.settings]
  | plan plan =>
    exact ⟨ha.transcript, ha.settings, rfl, ha.title, ha.titleRevision, ha.lastActivity, ha.history,
      ha.busy, ha.runs⟩

/-- A new title leaves the representations in agreement. -/
theorem retitled (ha : Agreement record p h) (title : SessionTitle) (source : TitleSource)
    (titleRevision : ℕ) :
    Agreement
      { record with title := title, titleSource := source, titleRevision := titleRevision }
      (p.reduce (.titleChanged title titleRevision)) h :=
  ⟨ha.transcript, ha.settings, ha.plan, rfl, rfl, ha.lastActivity, ha.history, ha.busy, ha.runs⟩

end Agreement
/-! ### What no move changes -/

/-- Two states of one session: what was fixed when it was created. -/
structure SameSession (record record' : SessionRecord) : Prop where
  id : record'.id = record.id
  cwd : record'.cwd = record.cwd
  createdAt : record'.createdAt = record.createdAt

theorem sameSession_of_endTurn {record record' : SessionRecord} {runId : ℕ} {status : TurnStatus}
    {item : TranscriptItem} (h : endTurn record runId status item = .ok record') :
    SameSession record record' := by
  unfold endTurn at h
  cases hu : updateRunningTurn runId (fun turn => { turn with status := status }) record.turns with
  | error error => simp [hu] at h
  | ok turns =>
    simp only [hu, Except.ok.injEq] at h
    obtain rfl := h
    exact ⟨rfl, rfl, rfl⟩

/-- A durable event never changes what session it is. -/
theorem sameSession_of_applyDurableEvent {record record' : SessionRecord} {event : SessionEvent}
    (h : applyDurableEvent record event = .ok record') : SameSession record record' := by
  cases event with
  | started runId prompt =>
    obtain rfl := applyDurableEvent_started_eq_ok h
    exact ⟨rfl, rfl, rfl⟩
  | toolStarted runId callId name arguments =>
    simp only [applyDurableEvent] at h
    split at h
    · simp at h
    · obtain rfl := Except.ok.inj h
      exact ⟨rfl, rfl, rfl⟩
  | completed runId response lastActivity =>
    simp only [applyDurableEvent] at h
    split at h
    · simp at h
    · rename_i record₁ hend
      have hs := sameSession_of_endTurn hend
      obtain rfl := Except.ok.inj h
      exact ⟨hs.id, hs.cwd, hs.createdAt⟩
  | failed runId failure => exact sameSession_of_endTurn h
  | cancelled runId => exact sameSession_of_endTurn h
  | _ =>
    obtain rfl := Except.ok.inj h
    exact ⟨rfl, rfl, rfl⟩

/-- **No move changes what session it is.** -/
theorem Move.sameSession {record record' : SessionRecord} {h h' : Harness}
    {event : Option SessionEvent} (hm : Move record h event record' h') :
    SameSession record record' := by
  cases hm with
  | still => exact ⟨rfl, rfl, rfl⟩
  | started hs hr => exact sameSession_of_applyDurableEvent hr
  | toolStarted hrun hr => exact sameSession_of_applyDurableEvent hr
  | completed hrun hr =>
    have hs := sameSession_of_applyDurableEvent hr
    exact ⟨hs.id, hs.cwd, hs.createdAt⟩
  | failed hrun hr => exact sameSession_of_applyDurableEvent hr
  | cancelled hrun hr => exact sameSession_of_applyDurableEvent hr
  | settings settings time => exact ⟨rfl, rfl, rfl⟩
  | contextUsage inputTokens time hrun => exact ⟨rfl, rfl, rfl⟩
  | plan plan => exact ⟨rfl, rfl, rfl⟩

/-- The event of a move is not the persistence warning. -/
theorem Move.reduce_persistenceWarning {record record' : SessionRecord} {h h' : Harness}
    {event : SessionEvent} (hm : Move record h (some event) record' h') (p : SessionProjection) :
    (p.reduce event).persistenceWarning = p.persistenceWarning := by
  cases hm <;> rfl

end Moh
