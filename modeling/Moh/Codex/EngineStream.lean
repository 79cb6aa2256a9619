/-
# The engine stream of one run

`runtime/rig/codex.rs`: `RunAttempt::into_stream` starts a provider request, passes on
the events of its stream and, when the provider rejects the credentials, refreshes
them once and starts again; `attempt_stream` translates the items of a response.  The
text of a turn is provisional until the response has ended: it is emitted as a whole,
with the completion right behind it, and only where the transport has seen the
completion.  What has been done is kept in a trace, on which the rules of a run are
stated (`LawfulTrace`).
-/

import Moh.Codex.Errors
import Moh.Library.Run
import Moh.Library.Unicode
import Mathlib.Logic.Function.Iterate

namespace Moh
namespace Codex

/-! ### One attempt -/

/-- `MultiTurnStreamItem`, as far as its forms are told apart. -/
inductive MultiTurnStreamItem where
  | text (text : String)
  | toolCall (callId name : String) (arguments : Value)
  | toolExecutionCommitted (callId name : String)
  | toolResult
  | completionCall (hasValues : Bool) (inputTokens : ℕ)
  | modelTurnRetried
  | finalResponse (output : String)
  | other

/-- What one provider request meets: the model calls that are left, the model that is
built, the items of its response, and what the evidence says when they have ended. -/
structure AttemptScript where
  remainingModelCalls : ℕ
  model : Except CodexModelError Unit
  response : List (Except StreamingError MultiTurnStreamItem)
  evidence : Bool

/-- `AttemptStreamState`. -/
structure AttemptStreamState where
  response : List (Except StreamingError MultiTurnStreamItem)
  completionEvidence : Bool
  provisionalText : String := ""
  finalText : Option String := none
  pendingCompleted : Option String := none
  done : Bool := false

/-- `attempt_stream`. -/
def attemptStream (script : AttemptScript) : Except AttemptError AttemptStreamState :=
  if script.remainingModelCalls = 0 then .error .budgetExhausted
  else match script.model with
    | .error error => .error (.model error)
    | .ok () => .ok { response := script.response, completionEvidence := script.evidence }

namespace AttemptStreamState

/-- The stream behind the last item of the response. -/
def finish (state : AttemptStreamState) :
    Option (Except AttemptError EngineEvent) × AttemptStreamState :=
  let state := { state with response := [] }
  if state.completionEvidence = false then
    (some (.error (.completion
      { kind := .responseError "Codex SSE stream did not contain a completed response"
        status := none
        display := "ResponseError: Codex SSE stream did not contain a completed response" })),
      state)
  else match state.finalText with
    | none => (some (.error .empty), state)
    | some response =>
      let state := { state with finalText := none }
      if (Unicode.trim response.toList).isEmpty then (some (.error .empty), state)
      else (some (.ok (.assistantDelta response)),
        { state with provisionalText := "", pendingCompleted := some response })

/-- The loop over the items, up to the next event. -/
def pull (state : AttemptStreamState) : List (Except StreamingError MultiTurnStreamItem) →
    Option (Except AttemptError EngineEvent) × AttemptStreamState
  | [] => state.finish
  | .error error :: response => (some (.error (.agent error)), { state with response })
  | .ok item :: response =>
    match item with
    | .text text => pull { state with provisionalText := state.provisionalText ++ text } response
    | .toolCall callId name arguments =>
      (some (.ok (.toolStarted callId name arguments)),
        { state with provisionalText := "", response })
    | .toolExecutionCommitted callId name =>
      (some (.ok (.toolFinished callId name)), { state with response })
    | .toolResult => pull { state with provisionalText := "" } response
    | .completionCall hasValues inputTokens =>
      if hasValues then (some (.ok (.contextUsage inputTokens)), { state with response })
      else pull state response
    | .modelTurnRetried => pull { state with provisionalText := "" } response
    | .finalResponse output => pull { state with finalText := some output } response
    | .other => pull state response

/-- One poll of the stream of an attempt. -/
def next (state : AttemptStreamState) :
    Option (Except AttemptError EngineEvent) × AttemptStreamState :=
  if state.done then (none, state)
  else match state.pendingCompleted with
    | some response =>
      (some (.ok (.completed response)), { state with pendingCompleted := none, done := true })
    | none => state.pull state.response

end AttemptStreamState

/-! ### The run -/

/-- `EngineEvent::AssistantDelta(_) | EngineEvent::Completed(_)`. -/
def isTerminalOutput : EngineEvent → Bool
  | .assistantDelta _ | .completed _ => true
  | _ => false

/-- What the engine does in a run. -/
inductive RunAction where
  | request
  | refresh
  | event (event : EngineEvent)
  | failed (failure : RunFailure)
  | ended

/-- `RunStreamState`, and the end of the stream behind a failure or its last event. -/
inductive RunStreamState where
  | start (refreshAttempted : Bool)
  | active (stream : AttemptStreamState) (refreshAttempted terminalOutputStarted : Bool)
  | ended

/-- The provider of one run: what every request and every refresh meets. -/
structure Provider where
  attempts : ℕ → AttemptScript
  refreshes : ℕ → Except CodexModelError Unit

/-- The stream of a run, the number of its requests, and what it has done. -/
structure EngineStream where
  state : RunStreamState := .start false
  requests : ℕ := 0
  trace : List RunAction := []

namespace EngineStream

/-- A failure ends the stream. -/
def fail (engine : EngineStream) (failure : RunFailure) : EngineStream :=
  { engine with state := .ended, trace := engine.trace ++ [.failed failure] }

/-- Refreshes the credentials and starts again. -/
def refresh (provider : Provider) (engine : EngineStream) : EngineStream :=
  match provider.refreshes engine.requests with
  | .ok () => { engine with state := .start true, trace := engine.trace ++ [RunAction.refresh] }
  | .error error =>
    { engine with trace := engine.trace ++ [RunAction.refresh] }.fail (mapModelError error)

/-- One turn of the loop of `into_stream`. -/
def step (provider : Provider) (engine : EngineStream) : EngineStream :=
  match engine.state with
  | .start refreshAttempted =>
    let script := provider.attempts engine.requests
    let engine := { engine with
      requests := engine.requests + 1
      trace := engine.trace ++ [RunAction.request] }
    match attemptStream script with
    | .ok stream => { engine with state := .active stream refreshAttempted false }
    | .error error =>
      if isUnauthorized error && !refreshAttempted then engine.refresh provider
      else engine.fail (mapAttemptError error)
  | .active stream refreshAttempted terminalOutputStarted =>
    match stream.next with
    | (some (.ok event), stream) =>
      { engine with
        state := .active stream refreshAttempted (terminalOutputStarted || isTerminalOutput event)
        trace := engine.trace ++ [.event event] }
    | (some (.error error), _) =>
      if isUnauthorized error && !refreshAttempted && !terminalOutputStarted then
        engine.refresh provider
      else engine.fail (mapAttemptError error)
    | (none, _) => { engine with state := .ended, trace := engine.trace ++ [.ended] }
  | .ended => engine

end EngineStream

/-! ### The rules of a run -/

/-- The texts of the deltas in a trace. -/
def deltaTexts (trace : List RunAction) : List String :=
  trace.filterMap fun
    | .event (.assistantDelta text) => some text
    | _ => none

/-- `.refresh`. -/
def RunAction.isRefresh : RunAction → Bool
  | .refresh => true
  | _ => false

/-- `.event (.completed _)`. -/
def RunAction.isCompleted : RunAction → Bool
  | .event (.completed _) => true
  | _ => false

/-- **The rules of a run:** the credentials are refreshed once at most; no request is
started behind a delta or the completion; and there is one completion at most, the
last event, with a text that is not blank and is that of the deltas together, and only
where the transport of the last request has seen the completion. -/
structure LawfulTrace (provider : Provider) (engine : EngineStream) : Prop where
  refreshes : engine.trace.countP RunAction.isRefresh ≤ 1
  restarts : ∀ before event behind, engine.trace = before ++ .event event :: behind →
    isTerminalOutput event = true → .request ∉ behind
  completions : engine.trace.countP RunAction.isCompleted ≤ 1
  completed : ∀ before response behind,
    engine.trace = before ++ .event (.completed response) :: behind →
    (∀ event, .event event ∉ behind) ∧ Unicode.isBlank response.toList = false ∧
      response = String.join (deltaTexts engine.trace) ∧
      (provider.attempts (engine.requests - 1)).evidence = true

/-! ### What one poll emits -/

/-- What a poll of an attempt that has not emitted its text can return: an event that
is no output, the text of a completed response, or an error. -/
inductive Emits (state : AttemptStreamState) :
    Option (Except AttemptError EngineEvent) × AttemptStreamState → Prop
  | other {event : EngineEvent} {state' : AttemptStreamState} : isTerminalOutput event = false →
      state'.pendingCompleted = state.pendingCompleted → state'.done = state.done →
      state'.completionEvidence = state.completionEvidence →
      Emits state (some (.ok event), state')
  | delta {response : String} {state' : AttemptStreamState} :
      Unicode.isBlank response.toList = false → state.completionEvidence = true →
      state'.pendingCompleted = some response → state'.done = state.done →
      Emits state (some (.ok (.assistantDelta response)), state')
  | error {error : AttemptError} {state' : AttemptStreamState} :
      Emits state (some (.error error), state')

/-- What stays when an item is passed over. -/
theorem Emits.of_eq {state state₁ : AttemptStreamState}
    {result : Option (Except AttemptError EngineEvent) × AttemptStreamState}
    (h : Emits state₁ result) (hpending : state₁.pendingCompleted = state.pendingCompleted)
    (hdone : state₁.done = state.done)
    (hevidence : state₁.completionEvidence = state.completionEvidence) : Emits state result := by
  cases h with
  | other hevent hp hd he =>
    exact .other hevent (hp.trans hpending) (hd.trans hdone) (he.trans hevidence)
  | delta hblank he hp hd => exact .delta hblank (hevidence.symm.trans he) hp (hd.trans hdone)
  | error => exact .error

theorem finish_emits (state : AttemptStreamState) : Emits state state.finish := by
  unfold AttemptStreamState.finish
  dsimp only
  split_ifs with hevidence
  · exact .error
  · cases state.finalText with
    | none => exact .error
    | some response =>
      dsimp only
      split_ifs with hblank
      · exact .error
      · refine .delta ?_ (by simpa using hevidence) rfl rfl
        rw [← Bool.not_eq_true, ← Unicode.trim_eq_nil_iff]
        simpa using hblank

/-- **A poll emits no output but the whole text,** and that only with evidence. -/
theorem pull_emits (state : AttemptStreamState)
    (items : List (Except StreamingError MultiTurnStreamItem)) :
    Emits state (state.pull items) := by
  induction items generalizing state with
  | nil => exact finish_emits state
  | cons item items ih =>
    cases item with
    | error error => exact .error
    | ok item =>
      cases item with
      | text text => exact (ih _).of_eq rfl rfl rfl
      | toolCall callId name arguments => exact .other rfl rfl rfl rfl
      | toolExecutionCommitted callId name => exact .other rfl rfl rfl rfl
      | toolResult => exact (ih _).of_eq rfl rfl rfl
      | completionCall hasValues inputTokens =>
        rw [AttemptStreamState.pull]
        split_ifs
        · exact .other rfl rfl rfl rfl
        · exact ih _
      | modelTurnRetried => exact (ih _).of_eq rfl rfl rfl
      | finalResponse output => exact (ih _).of_eq rfl rfl rfl
      | other => exact ih _

/-! ### Where a run stands -/

/-- Nothing of the text has been emitted. -/
def Quiet (trace : List RunAction) : Prop :=
  ∀ event, .event event ∈ trace → isTerminalOutput event = false

/-- The credentials have been refreshed as often as the flag says. -/
def Refreshed (trace : List RunAction) (refreshAttempted : Bool) : Prop :=
  trace.countP RunAction.isRefresh = if refreshAttempted then 1 else 0

/-- The text of a completed response, and the rest of the trace behind it. -/
structure Answered (provider : Provider) (engine : EngineStream) (response : String)
    (rest : List RunAction) : Prop where
  trace : ∃ pre, Quiet pre ∧
    engine.trace = pre ++ .event (.assistantDelta response) :: rest
  blank : Unicode.isBlank response.toList = false
  evidence : (provider.attempts (engine.requests - 1)).evidence = true

/-- **Where a run stands:** before its text, behind it, behind the completion, or at an
end. -/
inductive Stands (provider : Provider) (engine : EngineStream) : RunStreamState → Prop
  | start {refreshAttempted : Bool} : Quiet engine.trace →
      Refreshed engine.trace refreshAttempted →
      Stands provider engine (.start refreshAttempted)
  | quiet {stream : AttemptStreamState} {refreshAttempted : Bool} : Quiet engine.trace →
      Refreshed engine.trace refreshAttempted → stream.pendingCompleted = none →
      stream.done = false →
      stream.completionEvidence = (provider.attempts (engine.requests - 1)).evidence →
      Stands provider engine (.active stream refreshAttempted false)
  | answered {stream : AttemptStreamState} {refreshAttempted : Bool} {response : String} :
      Answered provider engine response [] → Refreshed engine.trace refreshAttempted →
      stream.pendingCompleted = some response → stream.done = false →
      Stands provider engine (.active stream refreshAttempted true)
  | completed {stream : AttemptStreamState} {refreshAttempted : Bool} {response : String} :
      Answered provider engine response [.event (.completed response)] →
      Refreshed engine.trace refreshAttempted → stream.done = true →
      Stands provider engine (.active stream refreshAttempted true)
  | failed {refreshAttempted : Bool} : Quiet engine.trace →
      Refreshed engine.trace refreshAttempted → Stands provider engine .ended
  | ended {refreshAttempted : Bool} {response : String} :
      Answered provider engine response [.event (.completed response), .ended] →
      Refreshed engine.trace refreshAttempted → Stands provider engine .ended

section
variable {provider : Provider} {engine : EngineStream} {trace : List RunAction}

theorem Quiet.append {more : List RunAction} (h : Quiet trace) (hmore : Quiet more) :
    Quiet (trace ++ more) := fun event hevent =>
  (List.mem_append.1 hevent).elim (h event) (hmore event)

theorem quiet_singleton {action : RunAction}
    (h : ∀ event, action = .event event → isTerminalOutput event = false) : Quiet [action] :=
  fun event hevent => h event (List.mem_singleton.1 hevent).symm

theorem Refreshed.append {refreshAttempted : Bool} {action : RunAction}
    (h : Refreshed trace refreshAttempted) (haction : action.isRefresh = false) :
    Refreshed (trace ++ [action]) refreshAttempted := by
  rw [Refreshed, List.countP_append, List.countP_cons_of_neg (by simp [haction])]
  exact h

theorem Refreshed.refresh (h : Refreshed trace false) : Refreshed (trace ++ [.refresh]) true := by
  have hcount : trace.countP RunAction.isRefresh = 0 := h
  rw [Refreshed, List.countP_append, hcount]
  rfl

theorem fail_stands {refreshAttempted : Bool} (hquiet : Quiet engine.trace)
    (hrefreshed : Refreshed engine.trace refreshAttempted) (failure : RunFailure) :
    Stands provider (engine.fail failure) (engine.fail failure).state :=
  .failed (hquiet.append (quiet_singleton fun _ h => nomatch h)) (hrefreshed.append rfl)

theorem refresh_stands (hquiet : Quiet engine.trace) (hrefreshed : Refreshed engine.trace false) :
    Stands provider (engine.refresh provider) (engine.refresh provider).state := by
  have hquiet' : Quiet (engine.trace ++ [.refresh]) :=
    hquiet.append (quiet_singleton fun _ h => nomatch h)
  unfold EngineStream.refresh
  split
  · exact .start hquiet' hrefreshed.refresh
  · exact fail_stands hquiet' hrefreshed.refresh _

/-- Answers of the engine to an error: a refresh, if there has been none, or the end. -/
theorem error_stands {refreshAttempted unauthorized : Bool} (hquiet : Quiet engine.trace)
    (hrefreshed : Refreshed engine.trace refreshAttempted) (failure : RunFailure) :
    Stands provider
      (if unauthorized && !refreshAttempted then engine.refresh provider else engine.fail failure)
      (if unauthorized && !refreshAttempted then engine.refresh provider
        else engine.fail failure).state := by
  split_ifs with h
  · obtain rfl : refreshAttempted = false := by simpa using (Bool.and_eq_true_iff.1 h).2
    exact refresh_stands hquiet hrefreshed
  · exact fail_stands hquiet hrefreshed failure

/-- A new request stands at its start. -/
theorem step_start_stands {refreshAttempted : Bool} (hstate : engine.state = .start refreshAttempted)
    (hquiet : Quiet engine.trace) (hrefreshed : Refreshed engine.trace refreshAttempted) :
    Stands provider (engine.step provider) (engine.step provider).state := by
  have hquiet' : Quiet (engine.trace ++ [.request]) :=
    hquiet.append (quiet_singleton fun _ h => nomatch h)
  have hrefreshed' : Refreshed (engine.trace ++ [.request]) refreshAttempted :=
    hrefreshed.append rfl
  unfold EngineStream.step
  rw [hstate]
  dsimp only
  cases hstream : attemptStream (provider.attempts engine.requests) with
  | error error => exact error_stands hquiet' hrefreshed' _
  | ok stream =>
    have hnew : stream = { response := (provider.attempts engine.requests).response
                           completionEvidence := (provider.attempts engine.requests).evidence } := by
      unfold attemptStream at hstream
      split_ifs at hstream
      split at hstream
      · cases hstream
      · exact (Except.ok.inj hstream).symm
    subst hnew
    exact .quiet hquiet' hrefreshed' rfl rfl rfl

/-- An attempt that has emitted none of its text emits an event, its text, or an error. -/
theorem step_quiet_stands {stream : AttemptStreamState} {refreshAttempted : Bool}
    (hstate : engine.state = .active stream refreshAttempted false) (hquiet : Quiet engine.trace)
    (hrefreshed : Refreshed engine.trace refreshAttempted)
    (hpending : stream.pendingCompleted = none) (hdone : stream.done = false)
    (hevidence : stream.completionEvidence =
      (provider.attempts (engine.requests - 1)).evidence) :
    Stands provider (engine.step provider) (engine.step provider).state := by
  have hnext : stream.next = stream.pull stream.response := by
    rw [AttemptStreamState.next, hdone, hpending]
    rfl
  have hemits := pull_emits stream stream.response
  rw [← hnext] at hemits
  unfold EngineStream.step
  rw [hstate]
  dsimp only
  generalize stream.next = result at hemits
  cases hemits with
  | @other event stream' hevent hp hd he =>
    have hquiet' : Quiet (engine.trace ++ [.event event]) :=
      hquiet.append (quiet_singleton fun other h => by
        obtain rfl := RunAction.event.inj h
        exact hevent)
    dsimp only
    rw [hevent]
    exact .quiet hquiet' (hrefreshed.append rfl) (hp.trans hpending) (hd.trans hdone)
      (he.trans hevidence)
  | @delta response stream' hblank he hp hd =>
    exact .answered ⟨⟨engine.trace, hquiet, rfl⟩, hblank, hevidence.symm.trans he⟩
      (hrefreshed.append rfl) hp (hd.trans hdone)
  | error =>
    simp only [Bool.not_false, Bool.and_true]
    exact error_stands hquiet hrefreshed _

/-- **One turn of the loop** keeps the run where a run can stand. -/
theorem step_stands (h : Stands provider engine engine.state) :
    Stands provider (engine.step provider) (engine.step provider).state := by
  generalize hstate : engine.state = state at h
  cases h with
  | start hquiet hrefreshed => exact step_start_stands hstate hquiet hrefreshed
  | quiet hquiet hrefreshed hpending hdone hevidence =>
    exact step_quiet_stands hstate hquiet hrefreshed hpending hdone hevidence
  | @answered stream refreshAttempted response hanswered hrefreshed hpending hdone =>
    have hnext : stream.next = (some (.ok (.completed response)),
        { stream with pendingCompleted := none, done := true }) := by
      rw [AttemptStreamState.next, hdone, hpending]
      rfl
    obtain ⟨⟨pre, hpre, htrace⟩, hblank, hevidence⟩ := hanswered
    unfold EngineStream.step
    rw [hstate]
    dsimp only
    rw [hnext]
    refine .completed ⟨⟨pre, hpre, ?_⟩, hblank, hevidence⟩ (hrefreshed.append rfl) rfl
    dsimp only
    rw [htrace, List.append_assoc]
    rfl
  | @completed stream refreshAttempted response hanswered hrefreshed hdone =>
    have hnext : stream.next = (none, stream) := by
      rw [AttemptStreamState.next, hdone]
      rfl
    obtain ⟨⟨pre, hpre, htrace⟩, hblank, hevidence⟩ := hanswered
    unfold EngineStream.step
    rw [hstate]
    dsimp only
    rw [hnext]
    refine @Stands.ended provider _ refreshAttempted response ⟨⟨pre, hpre, ?_⟩, hblank, hevidence⟩
      (hrefreshed.append rfl)
    dsimp only
    rw [htrace, List.append_assoc]
    rfl
  | failed hquiet hrefreshed =>
    unfold EngineStream.step
    rw [hstate]
    dsimp only
    rw [hstate]
    exact .failed hquiet hrefreshed
  | ended hanswered hrefreshed =>
    unfold EngineStream.step
    rw [hstate]
    dsimp only
    rw [hstate]
    exact .ended hanswered hrefreshed

/-! ### The rules hold -/

theorem Refreshed.le_one {refreshAttempted : Bool} (h : Refreshed trace refreshAttempted) :
    trace.countP RunAction.isRefresh ≤ 1 := by
  rw [Refreshed] at h
  rw [h]
  split_ifs <;> omega

/-- An output behind a quiet part of the trace is one of the rest. -/
theorem Quiet.split {pre rest before behind : List RunAction} {event : EngineEvent}
    (hquiet : Quiet pre) (hevent : isTerminalOutput event = true)
    (h : pre ++ rest = before ++ .event event :: behind) :
    ∃ mid, rest = mid ++ .event event :: behind := by
  rcases List.append_eq_append_iff.1 h with ⟨mid, -, hrest⟩ | ⟨mid, hpre, hbehind⟩
  · exact ⟨mid, hrest⟩
  · cases mid with
    | nil => exact ⟨[], hbehind.symm⟩
    | cons action mid =>
      obtain ⟨rfl, -⟩ := List.cons.inj hbehind
      have hfalse := hquiet event (by rw [hpre]; simp)
      rw [hevent] at hfalse
      cases hfalse

theorem Quiet.countP_isCompleted (h : Quiet trace) : trace.countP RunAction.isCompleted = 0 := by
  rw [List.countP_eq_zero]
  intro action haction
  cases action with
  | event event =>
    have hevent := h event haction
    cases event <;> first | exact Bool.false_ne_true | cases hevent
  | request => exact Bool.false_ne_true
  | refresh => exact Bool.false_ne_true
  | failed failure => exact Bool.false_ne_true
  | ended => exact Bool.false_ne_true

theorem Quiet.deltaTexts (h : Quiet trace) : deltaTexts trace = [] := by
  rw [Codex.deltaTexts, List.filterMap_eq_nil_iff]
  intro action haction
  cases action with
  | event event =>
    have hevent := h event haction
    cases event <;> first | rfl | cases hevent
  | request => rfl
  | refresh => rfl
  | failed failure => rfl
  | ended => rfl

theorem lawful_of_quiet {refreshAttempted : Bool} (hquiet : Quiet engine.trace)
    (hrefreshed : Refreshed engine.trace refreshAttempted) : LawfulTrace provider engine := by
  have hnone : ∀ before event behind, engine.trace = before ++ .event event :: behind →
      isTerminalOutput event ≠ true := by
    intro before event behind htrace hevent
    have hfalse := hquiet event (by rw [htrace]; simp)
    rw [hevent] at hfalse
    cases hfalse
  refine ⟨hrefreshed.le_one, fun before event behind htrace hevent =>
    absurd hevent (hnone before event behind htrace), ?_, fun before response behind htrace =>
    absurd rfl (hnone before (.completed response) behind htrace)⟩
  rw [hquiet.countP_isCompleted]
  exact Nat.zero_le 1

theorem lawful_of_answered {refreshAttempted : Bool} {response : String} {rest : List RunAction}
    (h : Answered provider engine response rest)
    (hrefreshed : Refreshed engine.trace refreshAttempted)
    (hrest : rest <+: [.event (.completed response), .ended]) : LawfulTrace provider engine := by
  obtain ⟨⟨pre, hpre, htrace⟩, hblank, hevidence⟩ := h
  have hcases : rest = [] ∨ rest = [.event (.completed response)] ∨
      rest = [.event (.completed response), .ended] := by
    rcases List.prefix_cons_iff.1 hrest with hnil | ⟨tail, htail, hprefix⟩
    · exact .inl hnil
    · rcases List.prefix_cons_iff.1 hprefix with hnil | ⟨last, hlast, hempty⟩
      · exact .inr (.inl (by rw [htail, hnil]))
      · exact .inr (.inr (by rw [htail, hlast, List.prefix_nil.1 hempty]))
  have htexts : deltaTexts engine.trace = [response] := by
    rw [htrace, deltaTexts, List.filterMap_append]
    rw [show pre.filterMap _ = [] from hpre.deltaTexts]
    rcases hcases with rfl | rfl | rfl <;> rfl
  have hsplit : ∀ before event behind, engine.trace = before ++ .event event :: behind →
      isTerminalOutput event = true → event = .assistantDelta response ∧ behind = rest ∨
        event = .completed response ∧ (behind = [] ∨ behind = [.ended]) := by
    intro before event behind hbefore hevent
    rw [htrace] at hbefore
    obtain ⟨mid, hmid⟩ := hpre.split hevent hbefore
    rcases hcases with rfl | rfl | rfl <;>
      rcases mid with _ | ⟨a, _ | ⟨b, _ | ⟨c, mid⟩⟩⟩ <;> simp_all
  refine ⟨hrefreshed.le_one, fun before event behind hbefore hevent => ?_, ?_,
    fun before other behind hbefore => ?_⟩
  · rcases hsplit before event behind hbefore hevent with ⟨-, rfl⟩ | ⟨-, rfl | rfl⟩
    · rcases hcases with rfl | rfl | rfl <;> simp
    · simp
    · simp
  · rw [htrace, List.countP_append, hpre.countP_isCompleted]
    rcases hcases with rfl | rfl | rfl <;> simp [List.countP_cons, RunAction.isCompleted]
  · rcases hsplit before _ behind hbefore rfl with ⟨hdelta, -⟩ | ⟨hcompleted, hbehind⟩
    · cases hdelta
    · obtain rfl := EngineEvent.completed.inj hcompleted
      refine ⟨fun event => ?_, hblank, ?_, hevidence⟩
      · rcases hbehind with rfl | rfl <;> simp
      · rw [htexts]
        simp [String.join]

theorem Stands.lawful {state : RunStreamState} (h : Stands provider engine state) :
    LawfulTrace provider engine := by
  cases h with
  | start hquiet hrefreshed => exact lawful_of_quiet hquiet hrefreshed
  | quiet hquiet hrefreshed => exact lawful_of_quiet hquiet hrefreshed
  | answered hanswered hrefreshed =>
    exact lawful_of_answered hanswered hrefreshed (List.nil_prefix)
  | completed hanswered hrefreshed =>
    exact lawful_of_answered hanswered hrefreshed ⟨[.ended], rfl⟩
  | failed hquiet hrefreshed => exact lawful_of_quiet hquiet hrefreshed
  | ended hanswered hrefreshed =>
    exact lawful_of_answered hanswered hrefreshed (List.prefix_refl _)

/-- **The engine stream of one run is lawful,** whatever the provider does and however
far the stream is polled. -/
theorem lawful_engineStream (provider : Provider) (turns : ℕ) :
    LawfulTrace provider ((EngineStream.step provider)^[turns] {}) := by
  have hstart : Stands provider {} ({} : EngineStream).state :=
    .start (fun event hevent => absurd hevent List.not_mem_nil) rfl
  have hstands : Stands provider ((EngineStream.step provider)^[turns] {})
      ((EngineStream.step provider)^[turns] {}).state :=
    Function.Iterate.rec (fun engine : EngineStream => Stands provider engine engine.state)
      hstart (fun engine h => step_stands h) turns
  exact hstands.lawful

end

end Codex
end Moh
