/-
# The authoritative reduction of session events

`session/projection.rs`.  `SessionProjection.apply` numbers an event, validates
it against the active run and reduces it.  A rejected event changes nothing
(`apply` returns no projection with an error); an accepted one gets the next
sequence number (`apply_eq_ok_iff`).
-/

import Moh.Session.Types

namespace Moh

/-- An invalid attempt to reduce a session event. -/
inductive ProjectionError where
  | sequenceExhausted
  | noActiveRun (received : ℕ)
  | runIdMismatch (active received : ℕ)
  | runAlreadyActive (active : ℕ)
deriving DecidableEq, Repr

/-- `impl Display for ProjectionError`. -/
def ProjectionError.message : ProjectionError → String
  | .sequenceExhausted => "session event sequence is exhausted"
  | .noActiveRun received =>
    "received run event " ++ toString received ++ " without an active run"
  | .runIdMismatch active received =>
    "received run event " ++ toString received ++ " for active run " ++ toString active
  | .runAlreadyActive active => "received new run while run " ++ toString active ++ " is active"

/-- The complete in-memory state required to make an attachment snapshot. -/
structure SessionProjection where
  summary : SessionSummary
  transcript : List TranscriptItem
  activeRun : Option ActiveRunSnapshot
  settings : SessionSettings
  catalog : ModelCatalogState
  plan : List PlanItem
  persistenceWarning : Option String
  sequence : ℕ

namespace SessionProjection

/-- `SessionProjection::from_record`. -/
def fromRecord (record : SessionRecord) (catalog : ModelCatalogState) : SessionProjection where
  summary :=
    { id := record.id
      title := record.title
      titleRevision := record.titleRevision
      cwd := record.cwd
      cwdDisplay := Utf8.decodeLossy record.cwd
      runningJobs := 0
      running := false
      busy := false
      attachedClients := 0
      lastActivity := record.lastActivity }
  transcript := record.transcript
  activeRun := none
  settings := record.settings
  catalog := catalog
  plan := record.plan
  persistenceWarning := none
  sequence := 0

/-- `SessionProjection::snapshot`. -/
def snapshot (p : SessionProjection) (jobs : List JobSnapshotDto) : SessionSnapshot where
  summary := p.summary
  transcript := p.transcript
  activeRun := p.activeRun
  settings := p.settings
  catalog := p.catalog
  plan := p.plan
  jobs := jobs
  persistenceWarning := p.persistenceWarning
  sequence := p.sequence
  busy := p.activeRun.isSome

/-- `SessionProjection::validate_run_id`. -/
def validateRunId (p : SessionProjection) (received : ℕ) : Except ProjectionError Unit :=
  match p.activeRun with
  | some active =>
    if active.runId = received then .ok ()
    else .error (.runIdMismatch active.runId received)
  | none => .error (.noActiveRun received)

/-- `SessionProjection::validate_event`. -/
def validateEvent (p : SessionProjection) : SessionEvent → Except ProjectionError Unit
  | .started _ _ =>
    match p.activeRun with
    | some active => .error (.runAlreadyActive active.runId)
    | none => .ok ()
  | .assistantDelta runId _ => p.validateRunId runId
  | .contextUsage runId _ _ => p.validateRunId runId
  | .toolStarted runId _ _ _ => p.validateRunId runId
  | .toolFinished runId _ _ => p.validateRunId runId
  | .completed runId _ _ => p.validateRunId runId
  | .failed runId _ => p.validateRunId runId
  | .cancelled runId => p.validateRunId runId
  | .titleChanged _ _ => .ok ()
  | .settingsChanged _ _ => .ok ()
  | .planChanged _ => .ok ()
  | .jobsChanged _ => .ok ()
  | .catalogChanged _ => .ok ()
  | .persistenceWarning _ => .ok ()
  | .deleted _ => .ok ()

/-- `SessionProjection::reduce`.  The delta of a run that is not active, which
`validateEvent` excludes, is where the source panics. -/
def reduce (p : SessionProjection) : SessionEvent → SessionProjection
  | .titleChanged title titleRevision =>
    { p with summary := { p.summary with title := title, titleRevision := titleRevision } }
  | .started runId prompt =>
    { p with
      transcript := p.transcript ++ [.user prompt]
      activeRun := some ⟨runId, prompt, ""⟩
      summary := { p.summary with busy := true } }
  | .assistantDelta _ text =>
    { p with
      activeRun := p.activeRun.map fun active =>
        { active with assistantText := active.assistantText ++ text } }
  | .contextUsage _ inputTokens lastActivity =>
    { p with
      settings := { p.settings with contextTokens := inputTokens }
      summary := { p.summary with lastActivity := lastActivity } }
  | .toolStarted runId callId name arguments =>
    { p with transcript := p.transcript ++ [.toolStarted runId callId name arguments] }
  | .toolFinished _ _ _ => p
  | .completed _ response lastActivity =>
    { p with
      transcript := p.transcript ++ [.assistant response]
      activeRun := none
      summary := { p.summary with busy := false, lastActivity := lastActivity } }
  | .failed runId failure =>
    { p with
      transcript := p.transcript ++ [.failed runId failure]
      activeRun := none
      summary := { p.summary with busy := false } }
  | .cancelled runId =>
    { p with
      transcript := p.transcript ++ [.cancelled runId]
      activeRun := none
      summary := { p.summary with busy := false } }
  | .settingsChanged settings lastActivity =>
    { p with settings := settings, summary := { p.summary with lastActivity := lastActivity } }
  | .planChanged plan => { p with plan := plan }
  | .jobsChanged _ => p
  | .catalogChanged catalog => { p with catalog := catalog }
  | .persistenceWarning warning => { p with persistenceWarning := warning }
  | .deleted _ => p

/-- `SessionProjection::apply`: validates and atomically applies one state
change, assigning its next sequence. -/
def apply (p : SessionProjection) (event : SessionEvent) :
    Except ProjectionError (SessionEventEnvelope × SessionProjection) :=
  match checkedSucc p.sequence with
  | none => .error .sequenceExhausted
  | some sequence =>
    match p.validateEvent event with
    | .error error => .error error
    | .ok () => .ok (⟨sequence, event⟩, { p with sequence := sequence }.reduce event)

/-- `SessionProjection::apply_unsequenced`. -/
def applyUnsequenced (p : SessionProjection) (event : SessionEvent) :
    Except ProjectionError SessionProjection :=
  match p.validateEvent event with
  | .error error => .error error
  | .ok () => .ok (p.reduce event)

/-- `SessionProjection::install_persisted_started`. -/
def installPersistedStarted (p : SessionProjection) (runId : ℕ) (prompt : String) :
    Except ProjectionError SessionProjection :=
  match p.validateEvent (.started runId prompt) with
  | .error error => .error error
  | .ok () =>
    .ok { p with
      activeRun := some ⟨runId, prompt, ""⟩
      summary := { p.summary with busy := true } }

/-! ### What the reduction keeps -/

@[simp] theorem reduce_sequence (p : SessionProjection) (event : SessionEvent) :
    (p.reduce event).sequence = p.sequence := by
  cases event <;> rfl

/-- Numbering an event and reducing it commute. -/
theorem reduce_withSequence (p : SessionProjection) (event : SessionEvent) (n : ℕ) :
    { p with sequence := n }.reduce event = { p.reduce event with sequence := n } := by
  cases event <;> rfl

/-- **An accepted event gets the next sequence number.** -/
theorem apply_eq_ok_iff {p p' : SessionProjection} {event : SessionEvent}
    {envelope : SessionEventEnvelope} :
    p.apply event = .ok (envelope, p') ↔
      p.sequence < u64Max ∧ p.validateEvent event = .ok () ∧
        envelope = ⟨p.sequence + 1, event⟩ ∧
          p' = { p.reduce event with sequence := p.sequence + 1 } := by
  unfold apply
  cases hs : checkedSucc p.sequence with
  | none =>
    have := checkedSucc_eq_none_iff.1 hs
    simp only [reduceCtorEq, false_iff]
    omega
  | some sequence =>
    obtain ⟨hlt, rfl⟩ := checkedSucc_eq_some_iff.1 hs
    cases hv : p.validateEvent event with
    | error error => simp
    | ok u =>
      simp only [Except.ok.injEq, Prod.mk.injEq, reduce_withSequence]
      constructor
      · rintro ⟨rfl, rfl⟩
        exact ⟨hlt, trivial, rfl, rfl⟩
      · rintro ⟨-, -, rfl, rfl⟩
        exact ⟨rfl, rfl⟩

/-- Validation never reports an exhausted sequence. -/
theorem validateEvent_ne_exhausted (p : SessionProjection) (event : SessionEvent) :
    p.validateEvent event ≠ .error .sequenceExhausted := by
  have hid : ∀ runId, p.validateRunId runId ≠ .error .sequenceExhausted := by
    intro runId
    unfold validateRunId
    split
    · split_ifs <;> simp
    · simp
  cases event with
  | started runId prompt =>
    simp only [validateEvent]
    split <;> simp
  | assistantDelta runId text => exact hid runId
  | contextUsage runId tokens time => exact hid runId
  | toolStarted runId callId name arguments => exact hid runId
  | toolFinished runId callId name => exact hid runId
  | completed runId response time => exact hid runId
  | failed runId failure => exact hid runId
  | cancelled runId => exact hid runId
  | _ => simp [validateEvent]

/-- The sequence is exhausted exactly at `u64::MAX`. -/
theorem apply_eq_exhausted_iff {p : SessionProjection} {event : SessionEvent} :
    p.apply event = .error .sequenceExhausted ↔ u64Max ≤ p.sequence := by
  unfold apply
  cases hs : checkedSucc p.sequence with
  | none => simpa using checkedSucc_eq_none_iff.1 hs
  | some sequence =>
    have hlt := (checkedSucc_eq_some_iff.1 hs).1
    have hv := p.validateEvent_ne_exhausted event
    cases hv' : p.validateEvent event with
    | error error =>
      rw [hv'] at hv
      simp only [Except.error.injEq]
      exact ⟨fun h => absurd (by rw [h]) hv, fun h => by omega⟩
    | ok u => simp; omega

end SessionProjection
end Moh
