/-
# The harness: committed history and at most one active run

`harness/state.rs`.  `Harness::submit` numbers a run and starts its engine
stream, `Harness::next_event` polls that stream, `Harness::cancel` drops it.
What the stream yields is an input of `nextEvent`: `none` is the end of the
stream.  `Progress` says what one poll of an active run can do
(`progress_of_nextEvent`): only a completed run extends the history, and the run
is over exactly when its event is terminal.
-/

import Moh.Harness.Types
import Moh.Library.Counter

namespace Moh

/-- The active run: its identifier, its prompt and the request whose stream the
harness polls. -/
structure ActiveRun where
  id : ℕ
  prompt : String
  stream : RunRequest
deriving DecidableEq, Repr

/-- `Harness`: the committed history and the lifecycle of at most one active
model run. -/
structure Harness where
  history : List Message
  active : Option ActiveRun
  nextRunId : ℕ
  idsExhausted : Bool
deriving DecidableEq, Repr

namespace Harness

/-- `Harness::with_history`. -/
def withHistory (history : List Message) : Harness where
  history := history
  active := none
  nextRunId := 0
  idsExhausted := false

/-- `Harness::is_running`. -/
def isRunning (h : Harness) : Bool := h.active.isSome

/-- `Harness::submit`: starts a run and returns its identifier. -/
def submit (h : Harness) (prompt : String) (context : RunContext) :
    Except HarnessError ℕ × Harness :=
  if h.active.isSome then (.error .busy, h)
  else if h.idsExhausted then (.error .runIdExhausted, h)
  else
    let id := h.nextRunId
    let run : ActiveRun := ⟨id, prompt, ⟨prompt, h.history, context⟩⟩
    match checkedSucc h.nextRunId with
    | some nextRunId => (.ok id, { h with nextRunId := nextRunId, active := some run })
    | none => (.ok id, { h with idsExhausted := true, active := some run })

/-- `Harness::cancel`: drops the active run and returns its identifier. -/
def cancel (h : Harness) : Except HarnessError ℕ × Harness :=
  match h.active with
  | none => (.error .notRunning, h)
  | some run => (.ok run.id, { h with active := none })

/-- The failure of an engine that completed with nothing but whitespace. -/
def emptyResponse : RunFailure :=
  ⟨.finalization, .emptyResponse, false, "engine completed with an empty response"⟩

/-- The failure of an engine whose stream ended before it completed. -/
def endedEarly : RunFailure :=
  ⟨.finalization, .protocol, false, "engine stream ended before completion"⟩

/-- `Harness::next_event`, given what polling the active stream yields. -/
def nextEvent (h : Harness) (polled : Option (Except RunFailure EngineEvent)) :
    Option RunEvent × Harness :=
  match h.active with
  | none => (none, h)
  | some run =>
    match polled with
    | some (.ok (.assistantDelta text)) => (some (.assistantDelta run.id text), h)
    | some (.ok (.contextUsage inputTokens)) => (some (.contextUsage run.id inputTokens), h)
    | some (.ok (.toolStarted callId name arguments)) =>
      (some (.toolStarted run.id callId name arguments), h)
    | some (.ok (.toolFinished callId name)) => (some (.toolFinished run.id callId name), h)
    | some (.ok (.completed response)) =>
      if Unicode.isBlank response.toList then
        (some (.failed run.id emptyResponse), { h with active := none })
      else
        (some (.completed run.id response),
          { h with
            active := none
            history := h.history ++ [⟨.user, run.prompt⟩, ⟨.assistant, response⟩] })
    | some (.error failure) => (some (.failed run.id failure), { h with active := none })
    | none => (some (.failed run.id endedEarly), { h with active := none })

/-! ### What each operation does -/

/-- **A submission that is accepted found the harness idle.** -/
theorem submit_eq_ok {h h' : Harness} {prompt : String} {context : RunContext} {id : ℕ}
    (hs : h.submit prompt context = (.ok id, h')) :
    h.active = none ∧ h'.history = h.history ∧
      h'.active = some ⟨id, prompt, ⟨prompt, h.history, context⟩⟩ := by
  unfold submit at hs
  split_ifs at hs with hactive hids
  · simp at hs
  · simp at hs
  have hnone : h.active = none := by simpa using hactive
  cases hn : checkedSucc h.nextRunId with
  | none =>
    simp only [hn, Prod.mk.injEq, Except.ok.injEq] at hs
    obtain ⟨rfl, rfl⟩ := hs
    exact ⟨hnone, rfl, rfl⟩
  | some next =>
    simp only [hn, Prod.mk.injEq, Except.ok.injEq] at hs
    obtain ⟨rfl, rfl⟩ := hs
    exact ⟨hnone, rfl, rfl⟩

/-- A cancellation ends the active run. -/
theorem cancel_eq_ok {h h' : Harness} {id : ℕ} (hc : h.cancel = (.ok id, h')) :
    ∃ run, h.active = some run ∧ id = run.id ∧ h' = { h with active := none } := by
  unfold cancel at hc
  cases ha : h.active with
  | none => simp [ha] at hc
  | some run =>
    simp only [ha, Prod.mk.injEq, Except.ok.injEq] at hc
    exact ⟨run, rfl, hc.1.symm, hc.2.symm⟩

@[simp] theorem cancel_history (h : Harness) : h.cancel.2.history = h.history := by
  unfold cancel
  split <;> rfl

@[simp] theorem cancel_active (h : Harness) : h.cancel.2.active = none := by
  unfold cancel
  split
  · assumption
  · rfl

/-- What one poll of the stream of `run` can do. -/
inductive Progress (h : Harness) (run : ActiveRun) : RunEvent → Harness → Prop where
  | assistantDelta (text : String) : Progress h run (.assistantDelta run.id text) h
  | contextUsage (inputTokens : ℕ) : Progress h run (.contextUsage run.id inputTokens) h
  | toolStarted (callId name : String) (arguments : Value) :
    Progress h run (.toolStarted run.id callId name arguments) h
  | toolFinished (callId name : String) : Progress h run (.toolFinished run.id callId name) h
  | completed (response : String) : Progress h run (.completed run.id response)
      { h with
        active := none
        history := h.history ++ [⟨.user, run.prompt⟩, ⟨.assistant, response⟩] }
  | failed (failure : RunFailure) : Progress h run (.failed run.id failure)
      { h with active := none }

/-- **Every event of the harness is progress of its active run.** -/
theorem progress_of_nextEvent {h h' : Harness} {polled : Option (Except RunFailure EngineEvent)}
    {event : RunEvent} (hn : h.nextEvent polled = (some event, h')) :
    ∃ run, h.active = some run ∧ Progress h run event h' := by
  unfold nextEvent at hn
  cases ha : h.active with
  | none => simp [ha] at hn
  | some run =>
    refine ⟨run, rfl, ?_⟩
    simp only [ha] at hn
    split at hn <;> (try split_ifs at hn) <;>
      (simp only [Prod.mk.injEq, Option.some.injEq] at hn; obtain ⟨rfl, rfl⟩ := hn)
    · exact .assistantDelta _
    · exact .contextUsage _
    · exact .toolStarted _ _ _
    · exact .toolFinished _ _
    · exact .failed _
    · exact .completed _
    · exact .failed _
    · exact .failed _

end Harness
end Moh
