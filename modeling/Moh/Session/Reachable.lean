/-
# The states a session actor can reach

An actor starts from a loaded record or from the record of a first prompt that
was just materialized (`Spawned`).  In every state it reaches from there the four
representations of its session agree, whatever commands, run events, plan updates
and job changes arrive and whichever repository calls fail (`consistent_of_run`).
-/

import Moh.Library.Run
import Moh.Session.Effect

namespace Moh

/-- **The first states of an actor.**  A loaded record has no running turn; of the
turns of a materialized record only the last one may run. -/
inductive Spawned : Session → Prop where
  | loaded {store : SessionStore} {record : SessionRecord} {catalog : ModelCatalogState}
    {activity : ActivityTracker} (hturns : ∀ turn ∈ record.turns, turn.status ≠ .running) :
    Spawned (.spawn store record (.fromRecord record catalog) activity)
  | materialized {store : SessionStore} {record : SessionRecord} {catalog : ModelCatalogState}
    {firstPrompt : String} {activity : ActivityTracker} {s : Session}
    (hturns : ∀ turn ∈ record.turns.dropLast, turn.status ≠ .running)
    (hs : Session.spawnMaterialized store record (.fromRecord record catalog) firstPrompt activity =
      .ok s) : Spawned s

/-- The number of turns of a record that are running. -/
def SessionRecord.runningTurns (record : SessionRecord) : ℕ :=
  record.turns.countP fun turn => turn.status = .running

namespace Session

/-! ### The representations agree at the start -/

theorem validateMaterializedStart_eq_ok {record : SessionRecord} {runId : ℕ} {firstPrompt : String}
    (hv : validateMaterializedStart record runId firstPrompt = .ok ()) :
    ∃ turn, (record.turns.filter fun turn => turn.status = .running) = [turn] ∧
      turn.runId = runId ∧ record.transcript[turn.promptPosition]? = some (.user firstPrompt) := by
  unfold validateMaterializedStart at hv
  split at hv
  · rename_i turn hturn
    split_ifs at hv with hid
    split at hv
    · rename_i item hitem
      split_ifs at hv with huser
      refine ⟨turn, hturn, not_not.1 hid, ?_⟩
      cases item with
      | user text =>
        have htext : text = firstPrompt := by simpa [TranscriptItem.isUser] using huser
        rw [hitem, htext]
      | _ => simp [TranscriptItem.isUser] at huser
    · simp at hv
  · simp at hv

/-- A running turn that is found once, and not before the last turn, is the last. -/
theorem turns_of_filter {turns : List DurableTurn} {turn : DurableTurn}
    (hlast : ∀ t ∈ turns.dropLast, t.status ≠ .running)
    (hf : (turns.filter fun turn => turn.status = .running) = [turn]) :
    ∃ before, turns = before ++ [turn] ∧ ∀ t ∈ before, t.status ≠ .running := by
  have hmem : turn ∈ turns.filter fun turn => turn.status = .running := by simp [hf]
  obtain ⟨hmem, hstatus⟩ := List.mem_filter.1 hmem
  have hne : turns ≠ [] := List.ne_nil_of_mem hmem
  have hsplit := List.dropLast_concat_getLast hne
  rw [← hsplit] at hmem
  rcases List.mem_append.1 hmem with h | h
  · exact absurd (by simpa using hstatus) (hlast turn h)
  · obtain rfl := List.mem_singleton.1 h
    exact ⟨_, hsplit.symm, hlast⟩

/-- **What a successful `spawn_materialized` starts.** -/
theorem spawnMaterialized_eq_ok {store : SessionStore} {record : SessionRecord}
    {catalog : ModelCatalogState} {firstPrompt : String} {activity : ActivityTracker} {s : Session}
    (hs : spawnMaterialized store record (.fromRecord record catalog) firstPrompt activity = .ok s) :
    ∃ runId h, h.history = record.history ∧
      h.active = some ⟨runId, firstPrompt, ⟨firstPrompt, record.history, ⟨record.cwd, record.plan⟩⟩⟩ ∧
      validateMaterializedStart record runId firstPrompt = .ok () ∧
      s = spawnActor store record
        { SessionProjection.fromRecord record catalog with
          activeRun := some ⟨runId, firstPrompt, ""⟩
          summary :=
            { (SessionProjection.fromRecord record catalog).summary with busy := true } }
        h (activity.setRun record.id true) := by
  unfold spawnMaterialized at hs
  cases hsub : (Harness.withHistory record.history).submit firstPrompt
      ⟨record.cwd, record.plan⟩ with
  | mk result h =>
    cases result with
    | error error => simp [hsub] at hs
    | ok runId =>
      obtain ⟨-, hhistory, hactive⟩ := Harness.submit_eq_ok hsub
      cases hv : validateMaterializedStart record runId firstPrompt with
      | error error => simp [hsub, hv] at hs
      | ok u =>
        simp only [hsub, hv, SessionProjection.installPersistedStarted,
          SessionProjection.validateEvent, SessionProjection.fromRecord, Except.ok.injEq] at hs
        exact ⟨runId, h, hhistory, hactive, hv, hs.symm⟩

/-- **A new actor's representations agree.** -/
theorem agrees_of_spawned {s : Session} (hs : Spawned s) : s.Agrees := by
  cases hs with
  | loaded hturns => exact ⟨rfl, rfl, rfl, rfl, rfl, rfl, rfl, rfl, .idle hturns⟩
  | @materialized store record catalog firstPrompt activity s hlast hs =>
    obtain ⟨runId, h, hhistory, hactive, hv, rfl⟩ := spawnMaterialized_eq_ok hs
    obtain ⟨turn, hf, hid, hposition⟩ := validateMaterializedStart_eq_ok hv
    obtain ⟨before, hturns, hbefore⟩ := turns_of_filter hlast hf
    have hmem : turn ∈ record.turns.filter fun turn => turn.status = .running := by simp [hf]
    have hstatus : turn.status = .running := by simpa using (List.mem_filter.1 hmem).2
    refine ⟨rfl, rfl, rfl, rfl, rfl, rfl, hhistory.symm, rfl, ?_⟩
    simp only [spawnActor, Stream.new, hturns, hactive]
    exact .active hbefore hstatus hid rfl rfl hposition

/-- A new actor has sent nothing. -/
theorem gapless_of_spawned {s : Session} (hs : Spawned s) :
    s.stream.Gapless terminalEventReserve := by
  cases hs with
  | loaded hturns => exact .new rfl
  | materialized hlast hs =>
    obtain ⟨runId, h, -, -, -, rfl⟩ := spawnMaterialized_eq_ok hs
    exact .new rfl

/-! ### Every reachable state -/

theorem agrees_of_run {s : Session} (ha : s.Agrees) (inputs : List (Env × ActorInput)) :
    (Run.run step s inputs).Agrees :=
  Run.run_invariant (I := Agrees)
    (fun s i ha => Core.Agrees.effects (c := s.core) ha (step_effects ha i)) ha inputs

/-- The four representations of a session, as one state of its actor holds them. -/
structure Consistent (s : Session) : Prop where
  transcript : s.record.transcript = s.stream.projection.transcript
  settings : s.record.settings = s.stream.projection.settings
  plan : s.record.plan = s.stream.projection.plan
  title : s.record.title = s.stream.projection.summary.title
  lastActivity : s.record.lastActivity = s.stream.projection.summary.lastActivity
  history : s.record.history = s.harness.history
  /-- One turn runs exactly when the harness has an active run. -/
  harness : s.record.runningTurns = 1 ↔ s.harness.active.isSome = true
  /-- One turn runs exactly when the projection shows an active run. -/
  projection : s.record.runningTurns = 1 ↔ s.stream.projection.activeRun.isSome = true
  /-- The running turn is the last one, it is the run of the harness and of the
  projection, and it points to the prompt of that run. -/
  running : ∀ run, s.harness.active = some run → ∃ turn snapshot,
    s.record.turns.getLast? = some turn ∧ turn.status = .running ∧
      s.stream.projection.activeRun = some snapshot ∧
        turn.runId = run.id ∧ snapshot.runId = run.id ∧
          s.record.transcript[turn.promptPosition]? = some (.user run.prompt)
  /-- Without an active run no turn is running. -/
  idle : s.record.runningTurns ≠ 1 → s.record.runningTurns = 0

/-- Representations that agree are consistent. -/
theorem Consistent.of_agrees {s : Session} (ha : s.Agrees) : s.Consistent := by
  have hidle : s.harness.active = none →
      s.record.runningTurns = 0 ∧ s.stream.projection.activeRun = none := fun h => by
    obtain ⟨hp, hturns⟩ := ha.turns_of_idle h
    exact ⟨List.countP_eq_zero.2 fun turn ht => by simpa using hturns turn ht, hp⟩
  have hactive : ∀ run, s.harness.active = some run →
      s.record.runningTurns = 1 ∧ s.stream.projection.activeRun.isSome = true := fun run h => by
    obtain ⟨turns, turn, snapshot, htr, hp, hturns, hstatus, -⟩ := ha.turns_of_active h
    have hnone : turns.countP (fun turn => turn.status = .running) = 0 :=
      List.countP_eq_zero.2 fun t ht => by simpa using hturns t ht
    exact ⟨by simp [SessionRecord.runningTurns, htr, hnone, hstatus], by rw [hp]; rfl⟩
  refine ⟨ha.transcript, ha.settings, ha.plan, ha.title, ha.lastActivity, ha.history, ?_, ?_,
    fun run h => ?_, ?_⟩
  · cases h : s.harness.active with
    | none => simp [(hidle h).1]
    | some run => simp [(hactive run h).1]
  · cases h : s.harness.active with
    | none => simp [(hidle h).1, (hidle h).2]
    | some run => simp [(hactive run h).1, (hactive run h).2]
  · obtain ⟨turns, turn, snapshot, htr, hp, -, hstatus, hid, hsid, -, hposition⟩ :=
      ha.turns_of_active h
    exact ⟨turn, snapshot, by simp [htr], hstatus, hp, hid, hsid, hposition⟩
  · cases h : s.harness.active with
    | none => exact fun _ => (hidle h).1
    | some run => exact fun hne => absurd (hactive run h).1 hne

/-- **The four representations agree in every reachable state.**  Whatever
commands, run events, plan updates and job changes an actor takes, and whichever
repository calls fail, its record, its projection, its harness and its list of
turns tell the same story. -/
theorem consistent_of_run {s : Session} (hs : Spawned s) (inputs : List (Env × ActorInput)) :
    (Run.run step s inputs).Consistent :=
  .of_agrees (agrees_of_run (agrees_of_spawned hs) inputs)

/-- An outside without failures. -/
def quietEnv : Env := ⟨0, none, .ok [], .ok (), .error (.notFound 0)⟩

/-- A new actor of an empty repository. -/
def idleSession : Session := .spawn ⟨∅, 1⟩ emptyRecord (.fromRecord emptyRecord .loading) .new

/-- `consistent_of_run` on a prompt whose checkpoint fails, while its run goes on. -/
theorem consistent_of_run_submit :
    (Run.run step (.spawn ⟨∅, 1⟩ emptyRecord (.fromRecord emptyRecord .loading) .new)
      [({ quietEnv with fault := some .connectionPoisoned }, .command (.submit "hello")),
        (quietEnv, .run (some (.ok (.toolStarted "call" "read" .null))))]).Consistent :=
  consistent_of_run (.loaded (by simp [emptyRecord])) _

end Session
end Moh
