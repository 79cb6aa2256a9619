/-
# The turn of a first prompt

The record of a session that was just materialized has one turn.  Until a client
can send commands to its actor, that turn stays the only one, and the first prompt
stays at the start of the transcript (`Session.firstTurn_step`): the run may go on
and end, the plan and the jobs may change.
-/

import Moh.Session.Actor

namespace Moh

/-- The only turn of the record is that of the first prompt, which is the first
item of its transcript. -/
structure FirstTurn (prompt : String) (record : SessionRecord) : Prop where
  turns : ∃ status, record.turns = [⟨0, 0, 0, status⟩]
  transcript : record.transcript.head? = some (.user prompt)

namespace FirstTurn

variable {prompt : String} {record record' : SessionRecord}

/-- More of the transcript, and the status of a turn that was found. -/
theorem append (hf : FirstTurn prompt record) {runId : ℕ} {f : DurableTurn → DurableTurn}
    {turns : List DurableTurn} (hstatus : ∀ turn, ∃ status, f turn = { turn with status := status })
    (hu : updateRunningTurn runId f record.turns = .ok turns) (more : List TranscriptItem) :
    FirstTurn prompt { record with turns := turns, transcript := record.transcript ++ more } := by
  obtain ⟨status, hturns⟩ := hf.turns
  refine ⟨?_, ?_⟩
  · rw [hturns] at hu
    unfold updateRunningTurn at hu
    split_ifs at hu
    · obtain rfl := Except.ok.inj hu
      obtain ⟨status', hs⟩ := hstatus ⟨0, 0, 0, status⟩
      exact ⟨status', by rw [hs]⟩
    · simp [updateRunningTurn] at hu
  · simp [List.head?_append, hf.transcript]

theorem endTurn (hf : FirstTurn prompt record) {runId : ℕ} {status : TurnStatus}
    {item : TranscriptItem} (h : endTurn record runId status item = .ok record') :
    FirstTurn prompt record' := by
  unfold Moh.endTurn at h
  cases hu : updateRunningTurn runId (fun turn => { turn with status := status }) record.turns with
  | error error => simp [hu] at h
  | ok turns =>
    simp only [hu, Except.ok.injEq] at h
    subst h
    exact hf.append (fun turn => ⟨status, rfl⟩) hu [item]

/-- **An event of the run keeps the turn of the first prompt.** -/
theorem applyDurableEvent (hf : FirstTurn prompt record) {event : SessionEvent}
    (hne : ∀ runId text, event ≠ .started runId text)
    (h : applyDurableEvent record event = .ok record') : FirstTurn prompt record' := by
  cases event with
  | started runId text => exact absurd rfl (hne runId text)
  | toolStarted runId callId name arguments =>
    simp only [Moh.applyDurableEvent] at h
    cases hu : updateRunningTurn runId id record.turns with
    | error error => simp [hu] at h
    | ok turns =>
      have hkept := hf.append (fun turn => ⟨turn.status, rfl⟩) hu
        [.toolStarted runId callId name arguments]
      simp only [hu, Except.ok.injEq] at h
      subst h
      exact ⟨hf.turns, hkept.transcript⟩
  | completed runId response lastActivity =>
    simp only [Moh.applyDurableEvent] at h
    split at h
    · simp at h
    · rename_i record₁ hend
      have hended := hf.endTurn hend
      obtain rfl := Except.ok.inj h
      exact ⟨hended.turns, hended.transcript⟩
  | failed runId failure => exact hf.endTurn h
  | cancelled runId => exact hf.endTurn h
  | _ =>
    obtain rfl := Except.ok.inj h
    exact hf

end FirstTurn

namespace Session

variable {s : Session} {prompt : String}

@[simp] theorem project_record (s : Session) (event : SessionEvent) :
    (s.project event).2.record = s.record := rfl

@[simp] theorem persistenceResult_record (s : Session) (result : Except SessionStoreError Unit) :
    (s.persistenceResult result).2.record = s.record := by
  cases result <;> rfl

@[simp] theorem persistCheckpoint_record (s : Session) (env : Env) :
    (s.persistCheckpoint env).2.record = s.record :=
  persistenceResult_record _ _

theorem firstTurn_persistDurableRunEvent (hf : FirstTurn prompt s.record) (env : Env)
    {event : SessionEvent} (hne : ∀ runId text, event ≠ .started runId text)
    (commitHistory : Bool) :
    FirstTurn prompt (s.persistDurableRunEvent env event commitHistory).record := by
  unfold persistDurableRunEvent
  cases hr : applyDurableEvent s.record event with
  | error error => exact hf
  | ok record =>
    have hf' := hf.applyDurableEvent hne hr
    have hp := project_record s event
    cases hproj : s.project event with
    | mk result t =>
      rw [hproj] at hp
      cases result with
      | error error =>
        simp only
        rwa [hp]
      | ok envelope =>
        simp only [announce, persistCheckpoint_record]
        split_ifs
        · exact ⟨hf'.turns, hf'.transcript⟩
        · exact hf'

theorem firstTurn_passOn (hf : FirstTurn prompt s.record) (event : SessionEvent) :
    FirstTurn prompt (s.passOn event).record := by
  have hp := project_record s event
  unfold passOn
  cases hproj : s.project event with
  | mk result t =>
    rw [hproj] at hp
    simp only at hp
    cases result <;> simpa only [hp] using hf

theorem firstTurn_handleRunEvent (hf : FirstTurn prompt s.record) (env : Env) (event : RunEvent) :
    FirstTurn prompt (s.handleRunEvent env event).record := by
  cases event with
  | started runId => exact hf
  | assistantDelta runId text => exact firstTurn_passOn hf _
  | toolFinished runId callId name => exact firstTurn_passOn hf _
  | toolStarted runId callId name arguments =>
    exact firstTurn_persistDurableRunEvent hf env (by simp) _
  | completed runId response =>
    exact firstTurn_persistDurableRunEvent (s := s.setRun false) hf env (by simp) _
  | failed runId failure =>
    exact firstTurn_persistDurableRunEvent (s := s.setRun false) hf env (by simp) _
  | cancelled runId =>
    exact firstTurn_persistDurableRunEvent (s := s.setRun false) hf env (by simp) _
  | contextUsage runId inputTokens =>
    unfold handleRunEvent
    simp only
    generalize ht : ({ s with
      record :=
        { s.record with
          settings := { s.record.settings with contextTokens := inputTokens }
          lastActivity := env.now } } : Session) = t
    have hf' : FirstTurn prompt t.record := by
      rw [← ht]
      exact ⟨hf.turns, hf.transcript⟩
    have hp := project_record t (.contextUsage runId inputTokens env.now)
    cases hproj : t.project (.contextUsage runId inputTokens env.now) with
    | mk result u =>
      rw [hproj] at hp
      simp only at hp
      cases result with
      | error error => simpa only [hp] using hf'
      | ok envelope =>
        simp only [announce, persistMetadata, persistenceResult_record]
        rwa [hp]

theorem firstTurn_handlePlanUpdate (hf : FirstTurn prompt s.record) (env : Env)
    (plan : List PlanItem) (explanation : Option String) :
    FirstTurn prompt (s.handlePlanUpdate env plan explanation).2.record := by
  unfold handlePlanUpdate
  cases s.stream.projectStrict (.planChanged plan) with
  | mk result stream =>
    cases result with
    | error error => exact hf
    | ok event =>
      simp only [announce, persistCheckpoint_record]
      exact ⟨hf.turns, hf.transcript⟩

theorem handleJobsChanged_record (s : Session) (env : Env) :
    (s.handleJobsChanged env).record = s.record := by
  unfold handleJobsChanged
  split_ifs
  · rfl
  cases jobSnapshots env with
  | error error => rfl
  | ok jobs =>
    have hp := project_record s (.jobsChanged jobs)
    cases hproj : s.project (.jobsChanged jobs) with
    | mk result t =>
      rw [hproj] at hp
      simp only
      rw [hproj]
      cases result <;> exact hp

/-- **Without a command the turn of the first prompt stays the only one.** -/
theorem firstTurn_step (hf : FirstTurn prompt s.record) (env : Env) {input : ActorInput}
    (hi : ∀ c, input ≠ .command c) : FirstTurn prompt (s.step (env, input)).record := by
  unfold step
  cases input with
  | recv token => exact hf
  | closeReceiver token => exact hf
  | command c => exact absurd rfl (hi c)
  | run polled =>
    simp only
    split_ifs
    · exact hf
    · cases s.harness.nextEvent polled with
      | mk event h =>
        cases event with
        | none => exact hf
        | some event => exact firstTurn_handleRunEvent (s := { s with harness := h }) hf env event
  | jobsChanged =>
    simp only
    split_ifs
    · exact hf
    · rwa [handleJobsChanged_record]
  | planUpdate plan explanation =>
    simp only
    split_ifs
    · exact hf
    · exact firstTurn_handlePlanUpdate hf env plan explanation
  | handlesDropped =>
    simp only
    split_ifs
    · exact hf
    · exact hf
    · cases env.jobsShutdown <;> exact hf

/-- An attachment leaves the record alone. -/
theorem attach_record (s : Session) (env : Env) (connectionId : ConnectionId)
    (attachmentId : AttachmentId) :
    (s.attach env connectionId attachmentId).2.record = s.record := by
  unfold attach
  split_ifs
  · rfl
  · cases jobSnapshots env <;> rfl

end Session

end Moh
