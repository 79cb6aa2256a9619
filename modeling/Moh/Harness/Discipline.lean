/-
# What the harness promises over any sequence of calls

`harness/state.rs`: `submit`, `next_event` and `cancel` in any order, over an engine
whose streams yield anything at all, also after they completed.  `Record` is a harness
next to what its caller was given: the runs that were started and the events, in order.

A run that is started is active until its terminal event, which a completion, a failure,
the end of the engine's stream or a cancellation brings at once (`step_of_outcome`), and
only the active run has events (`Progress`); so the events of every run are its start, what
happened in it and, once it is over, one outcome (`Lifecycle`).  The history is what the
completed runs committed (`exchanges`), a list of complete exchanges (`Alternates`).
-/

import Mathlib.Data.List.Basic
import Moh.Harness.State
import Moh.Library.Run

namespace Moh

namespace RunEvent

/-- The run that the event is about. -/
def runId : RunEvent → ℕ
  | started id | assistantDelta id _ | contextUsage id _ | toolStarted id .. | toolFinished id ..
  | completed id _ | failed id _ | cancelled id => id

/-- The event starts its run. -/
def isStart : RunEvent → Bool
  | started _ => true
  | _ => false

/-- The event is the outcome of its run. -/
def isTerminal : RunEvent → Bool
  | completed .. | failed .. | cancelled _ => true
  | _ => false

end RunEvent

/-- **A history of complete exchanges:** a user message, then the assistant's. -/
def Alternates : List Message → Prop
  | [] => True
  | [_] => False
  | question :: answer :: rest =>
    question.role = .user ∧ answer.role = .assistant ∧ Alternates rest

theorem Alternates.append {xs ys : List Message} (hx : Alternates xs) (hy : Alternates ys) :
    Alternates (xs ++ ys) := by
  induction xs using Alternates.induct with
  | case1 => exact hy
  | case2 message => exact absurd hx id
  | case3 question answer rest ih => exact ⟨hx.1, hx.2.1, ih hx.2.2⟩

namespace Harness

/-! ### Calls -/

/-- A call of the harness.  What the engine's stream yields to a poll comes with it. -/
inductive Call where
  | submit (prompt : String) (context : RunContext)
  | nextEvent (polled : Option (Except RunFailure EngineEvent))
  | cancel

/-- What a call returns: an event, no event, or an error. -/
def call (h : Harness) : Call → Except HarnessError (Option RunEvent) × Harness
  | .submit prompt context =>
    ((h.submit prompt context).1.map fun id => some (.started id), (h.submit prompt context).2)
  | .nextEvent polled => (.ok (h.nextEvent polled).1, (h.nextEvent polled).2)
  | .cancel => (h.cancel.1.map fun id => some (.cancelled id), h.cancel.2)

/-- The run that a call starts, with its prompt. -/
def startedBy : Call → RunEvent → List (ℕ × String)
  | .submit prompt _, .started id => [(id, prompt)]
  | _, _ => []

/-- A harness and what its caller was given: the runs it started, with their prompts,
and the events. -/
structure Record where
  harness : Harness
  runs : List (ℕ × String)
  events : List RunEvent

namespace Record

/-- A harness with a history, before its first call. -/
def new (history : List Message) : Record := ⟨withHistory history, [], []⟩

/-- One call. -/
def step (r : Record) (c : Call) : Record :=
  match r.harness.call c with
  | (.ok (some event), h) => ⟨h, r.runs ++ startedBy c event, r.events ++ [event]⟩
  | (_, h) => { r with harness := h }

/-- The numbers of the runs that were started. -/
def ids (r : Record) : List ℕ := r.runs.map Prod.fst

/-- The events of one run. -/
def eventsOf (r : Record) (id : ℕ) : List RunEvent := r.events.filter (·.runId = id)

end Record

/-- What the completed runs among the events committed. -/
def exchanges (runs : List (ℕ × String)) (events : List RunEvent) : List Message :=
  events.flatMap fun
    | .completed id response =>
      match runs.lookup id with
      | some prompt => [⟨.user, prompt⟩, ⟨.assistant, response⟩]
      | none => []
    | _ => []

/-- The outcome that a call brings the active run, if it ends it: a completion, a failure or the
end of the engine's stream, or a cancellation. -/
def outcomeOf (run : ActiveRun) : Call → Option RunEvent
  | .nextEvent (some (.ok (.completed response))) =>
    if Unicode.isBlank response.toList then some (.failed run.id emptyResponse)
    else some (.completed run.id response)
  | .nextEvent (some (.error failure)) => some (.failed run.id failure)
  | .nextEvent none => some (.failed run.id endedEarly)
  | .cancel => some (.cancelled run.id)
  | _ => none

/-- The messages that the outcome of a run adds to the history. -/
def committedBy (run : ActiveRun) : RunEvent → List Message
  | .completed _ response => [⟨.user, run.prompt⟩, ⟨.assistant, response⟩]
  | _ => []

/-- **The events of one run:** its start, what happened in it, and one outcome if it is
over. -/
def Lifecycle (id : ℕ) (ended : Prop) (events : List RunEvent) : Prop :=
  ∃ progress : List RunEvent, (∀ e ∈ progress, e.isStart = false ∧ e.isTerminal = false) ∧
    (¬ended ∧ events = .started id :: progress ∨
      ended ∧ ∃ outcome : RunEvent, outcome.isTerminal = true ∧
        events = .started id :: progress ++ [outcome])

/-! ### What one call does -/

variable {h : Harness}

/-- A submission is refused without a change, or numbers a run and starts it. -/
theorem submit_cases (h : Harness) (prompt : String) (context : RunContext) :
    h.submit prompt context = (.error .busy, h) ∧ h.active ≠ none ∨
      h.submit prompt context = (.error .runIdExhausted, h) ∧ h.active = none ∧
        h.idsExhausted = true ∨
      h.active = none ∧ h.idsExhausted = false ∧
        h.submit prompt context = (.ok h.nextRunId,
          { h with
            nextRunId := (checkedSucc h.nextRunId).getD h.nextRunId
            idsExhausted := (checkedSucc h.nextRunId).isNone
            active := some ⟨h.nextRunId, prompt, ⟨prompt, h.history, context⟩⟩ }) := by
  unfold submit
  split_ifs with hactive hids
  · exact .inl ⟨rfl, by simpa [Option.isSome_iff_ne_none] using hactive⟩
  · exact .inr (.inl ⟨rfl, by simpa using hactive, hids⟩)
  · have hids' : h.idsExhausted = false := by simpa using hids
    refine .inr (.inr ⟨by simpa using hactive, hids', ?_⟩)
    cases hn : checkedSucc h.nextRunId with
    | none => simp
    | some next => simp [hids']

/-- A run completes only with a response that is not blank. -/
theorem completed_of_nextEvent {polled : Option (Except RunFailure EngineEvent)} {id : ℕ}
    {response : String} (hn : (h.nextEvent polled).1 = some (.completed id response)) :
    polled = some (.ok (.completed response)) ∧ Unicode.isBlank response.toList = false := by
  unfold nextEvent at hn
  cases ha : h.active with
  | none => simp [ha] at hn
  | some run =>
    simp only [ha] at hn
    split at hn <;> (try split_ifs at hn with hb) <;> simp at hn
    obtain ⟨-, rfl⟩ := hn
    exact ⟨rfl, by simpa using hb⟩

/-- A poll gives no event exactly if no run is active. -/
theorem nextEvent_eq_none {polled : Option (Except RunFailure EngineEvent)}
    (hn : (h.nextEvent polled).1 = none) : (h.nextEvent polled).2 = h := by
  unfold nextEvent at hn ⊢
  cases ha : h.active with
  | none => rfl
  | some run =>
    simp only [ha] at hn
    split at hn <;> (try split_ifs at hn) <;> simp at hn

/-! ### The invariant -/

theorem exchanges_append (runs : List (ℕ × String)) (xs ys : List RunEvent) :
    exchanges runs (xs ++ ys) = exchanges runs xs ++ exchanges runs ys :=
  List.flatMap_append ..

/-- A run that is started later commits nothing of what happened before. -/
theorem exchanges_later {runs : List (ℕ × String)} {events : List RunEvent}
    (he : ∀ e ∈ events, e.runId ∈ runs.map Prod.fst) (run : ℕ × String) :
    exchanges (runs ++ [run]) events = exchanges runs events := by
  refine List.flatMap_congr fun e hmem => ?_
  have hrun := he e hmem
  cases e with
  | completed id response =>
    cases hl : runs.lookup id with
    | some prompt => simp [List.lookup_append, hl]
    | none =>
      obtain ⟨entry, hentry, rfl⟩ := List.mem_map.1 hrun
      have hne := List.lookup_eq_none_iff.1 hl entry hentry
      simp at hne
  | _ => rfl

/-- Only a completed exchange is committed, and it is a complete one. -/
theorem alternates_exchanges (runs : List (ℕ × String)) (events : List RunEvent) :
    Alternates (exchanges runs events) := by
  induction events with
  | nil => exact trivial
  | cons e events ih =>
    show Alternates (_ ++ exchanges runs events)
    refine Alternates.append ?_ ih
    cases e with
    | completed id response =>
      cases hl : runs.lookup id with
      | none => simp [hl, Alternates]
      | some prompt => simp [hl, Alternates]
    | _ => exact trivial

/-- **The invariant of the calls.** -/
structure Record.Sound (start : List Message) (r : Record) : Prop where
  bound : r.harness.nextRunId ≤ u64Max
  numbered : r.harness.idsExhausted = false → ∀ id ∈ r.ids, id < r.harness.nextRunId
  exhausted : r.harness.idsExhausted = true ↔ u64Max ∈ r.ids
  increasing : r.ids.Pairwise (· < ·)
  active : ∀ run, r.harness.active = some run → r.runs.lookup run.id = some run.prompt
  owned : ∀ e ∈ r.events, e.runId ∈ r.ids
  lifecycle : ∀ id ∈ r.ids,
    Lifecycle id (r.harness.active.map ActiveRun.id ≠ some id) (r.eventsOf id)
  committed : r.harness.history = start ++ exchanges r.runs r.events

namespace Record

variable {start : List Message} {r : Record}

theorem sound_new (start : List Message) : (new start).Sound start where
  bound := Nat.zero_le _
  numbered := fun _ => nofun
  exhausted := ⟨nofun, nofun⟩
  increasing := .nil
  active := nofun
  owned := nofun
  lifecycle := nofun
  committed := (List.append_nil start).symm

/-- Events of other runs do not count. -/
theorem eventsOf_append (r : Record) (h : Harness) (runs : List (ℕ × String)) (event : RunEvent)
    (id : ℕ) : eventsOf ⟨h, runs, r.events ++ [event]⟩ id =
      r.eventsOf id ++ if event.runId = id then [event] else [] := by
  simp only [eventsOf, List.filter_append]
  split_ifs with he <;> simp [he]

/-- **The active run has an event**, and is over with it if it is terminal. -/
theorem Sound.happen (hr : r.Sound start) {run : ActiveRun} (ha : r.harness.active = some run)
    (event : RunEvent) (hid : event.runId = run.id) (hstart : event.isStart = false)
    {active : Option ActiveRun} (hactive : active = if event.isTerminal then none else some run) :
    Sound start ⟨{ r.harness with
      active := active
      history := r.harness.history ++ exchanges r.runs [event] }, r.runs,
      r.events ++ [event]⟩ where
  bound := hr.bound
  numbered := hr.numbered
  exhausted := hr.exhausted
  increasing := hr.increasing
  active := by
    rintro run' (rfl : active = some run')
    split_ifs at hactive
    obtain rfl := Option.some.inj hactive
    exact hr.active _ ha
  owned := by
    rintro e hmem
    rcases List.mem_append.1 hmem with hmem | hmem
    · exact hr.owned e hmem
    · obtain rfl := List.mem_singleton.1 hmem
      obtain ⟨l₁, l₂, hruns, -⟩ := List.lookup_eq_some_iff.1 (hr.active run ha)
      show e.runId ∈ r.runs.map Prod.fst
      rw [hid, hruns]
      simp
  lifecycle := by
    intro id hmem
    obtain ⟨progress, hprogress, hlife⟩ := hr.lifecycle id hmem
    rw [eventsOf_append]
    rw [ha] at hlife
    by_cases hrun : run.id = id
    · subst hrun
      have hopen : r.eventsOf run.id = .started run.id :: progress := by
        rcases hlife with ⟨-, h⟩ | ⟨h, -⟩
        · exact h
        · exact absurd rfl h
      rw [hopen, if_pos hid, hactive]
      cases hterminal : event.isTerminal with
      | true => exact ⟨progress, hprogress, .inr ⟨by simp, event, hterminal, rfl⟩⟩
      | false =>
        refine ⟨progress ++ [event], fun e he => ?_, .inl ⟨by simp, rfl⟩⟩
        rcases List.mem_append.1 he with he | he
        · exact hprogress e he
        · obtain rfl := List.mem_singleton.1 he
          exact ⟨hstart, hterminal⟩
    · have hover : active.map ActiveRun.id ≠ some id := by
        subst hactive
        split_ifs <;> simp [hrun]
      rw [if_neg (by rw [hid]; exact hrun), List.append_nil]
      refine ⟨progress, hprogress, .inr ⟨hover, ?_⟩⟩
      rcases hlife with ⟨h, -⟩ | ⟨-, h⟩
      · exact absurd (by simpa using hrun) h
      · exact h
  committed := by
    show r.harness.history ++ _ = _
    rw [hr.committed, List.append_assoc, ← exchanges_append]

/-- The next number is greater than every used one, and there is none once the greatest number
was used. -/
theorem numbering_succ {n : ℕ} {ids : List ℕ} (hn : n ≤ u64Max) (hfresh : ∀ id ∈ ids, id < n) :
    (checkedSucc n).getD n ≤ u64Max ∧
      ((checkedSucc n).isNone = false → ∀ id ∈ ids ++ [n], id < (checkedSucc n).getD n) ∧
      ((checkedSucc n).isNone = true ↔ u64Max ∈ ids ++ [n]) := by
  refine ⟨?_, fun hleft id hmem => ?_, ?_⟩
  · cases hs : checkedSucc n with
    | none => exact hn
    | some next =>
      obtain ⟨hlt, rfl⟩ := checkedSucc_eq_some_iff.1 hs
      exact hlt
  · obtain ⟨next, hs⟩ : ∃ next, checkedSucc n = some next := by
      simpa [Option.isNone_eq_false_iff, Option.isSome_iff_exists] using hleft
    obtain ⟨-, hnext⟩ := checkedSucc_eq_some_iff.1 hs
    rw [hs, Option.getD_some, hnext]
    rcases List.mem_append.1 hmem with hmem | hmem
    · exact Nat.lt_succ_of_lt (hfresh id hmem)
    · rw [List.mem_singleton.1 hmem]
      exact Nat.lt_succ_self _
  · rw [Option.isNone_iff_eq_none, checkedSucc_eq_none_iff, List.mem_append, List.mem_singleton]
    constructor
    · intro h
      exact .inr (Nat.le_antisymm h hn)
    · rintro (h | h)
      · exact absurd (hfresh _ h) (Nat.not_lt.2 hn)
      · exact Nat.le_of_eq h

/-- The new run has begun, and the others are as they were. -/
theorem Sound.lifecycle_started (hr : r.Sound start) (hidle : r.harness.active = none)
    (hnew : r.harness.nextRunId ∉ r.ids) {id : ℕ} (hmem : id ∈ r.ids ++ [r.harness.nextRunId]) :
    Lifecycle id (some r.harness.nextRunId ≠ some id)
      (r.eventsOf id ++ if (RunEvent.started r.harness.nextRunId).runId = id
        then [.started r.harness.nextRunId] else []) := by
  by_cases hid : r.harness.nextRunId = id
  · subst hid
    have hnothing : r.eventsOf r.harness.nextRunId = [] := by
      refine List.filter_eq_nil_iff.2 fun e he => ?_
      have hne : e.runId ≠ r.harness.nextRunId := fun h => hnew (h ▸ hr.owned e he)
      simpa using hne
    have hsame : (RunEvent.started r.harness.nextRunId).runId = r.harness.nextRunId := rfl
    rw [hnothing, if_pos hsame]
    exact ⟨[], nofun, .inl ⟨by simp, rfl⟩⟩
  · have hmem' : id ∈ r.ids := by
      rcases List.mem_append.1 hmem with h | h
      · exact h
      · exact absurd (List.mem_singleton.1 h).symm hid
    obtain ⟨progress, hprogress, hlife⟩ := hr.lifecycle id hmem'
    rw [hidle] at hlife
    have hne : (RunEvent.started r.harness.nextRunId).runId ≠ id := hid
    rw [if_neg hne, List.append_nil]
    rcases hlife with ⟨h, -⟩ | ⟨-, h⟩
    · exact absurd (by simp) h
    · exact ⟨progress, hprogress, .inr ⟨by simpa using hid, h⟩⟩

/-- **A run is started** under a number that no run had. -/
theorem Sound.started (hr : r.Sound start) (hidle : r.harness.active = none)
    (hids : r.harness.idsExhausted = false) (prompt : String) (context : RunContext) :
    Sound start ⟨{ r.harness with
      nextRunId := (checkedSucc r.harness.nextRunId).getD r.harness.nextRunId
      idsExhausted := (checkedSucc r.harness.nextRunId).isNone
      active := some ⟨r.harness.nextRunId, prompt, ⟨prompt, r.harness.history, context⟩⟩ },
      r.runs ++ [(r.harness.nextRunId, prompt)],
      r.events ++ [.started r.harness.nextRunId]⟩ := by
  have hfresh := hr.numbered hids
  have hnew : r.harness.nextRunId ∉ r.ids := fun h => Nat.lt_irrefl _ (hfresh _ h)
  have hnone : r.runs.lookup r.harness.nextRunId = none := by
    rw [List.lookup_eq_none_iff]
    intro p hp
    have hne : r.harness.nextRunId ≠ p.1 := fun h => hnew (h ▸ List.mem_map_of_mem hp)
    simpa using hne
  obtain ⟨hbound, hnumbered, hexhausted⟩ := numbering_succ hr.bound hfresh
  have hidsApp (h : Harness) (events : List RunEvent) :
      ids ⟨h, r.runs ++ [(r.harness.nextRunId, prompt)], events⟩ =
        r.ids ++ [r.harness.nextRunId] := by
    simp [ids]
  constructor
  case bound => exact hbound
  case numbered =>
    intro hleft id hmem
    rw [hidsApp] at hmem
    exact hnumbered hleft id hmem
  case exhausted =>
    rw [hidsApp]
    exact hexhausted
  case increasing =>
    rw [hidsApp, List.pairwise_append]
    refine ⟨hr.increasing, List.pairwise_singleton .., fun a ha b hb => ?_⟩
    rw [List.mem_singleton.1 hb]
    exact hfresh a ha
  case active =>
    rintro run hrun
    obtain rfl := Option.some.inj hrun
    simp [List.lookup_append, hnone]
  case owned =>
    intro e hmem
    rw [hidsApp, List.mem_append]
    rcases List.mem_append.1 hmem with hmem | hmem
    · exact .inl (hr.owned e hmem)
    · exact .inr (by rw [List.mem_singleton.1 hmem]; simp [RunEvent.runId])
  case lifecycle =>
    intro id hmem
    rw [hidsApp] at hmem
    rw [eventsOf_append]
    exact hr.lifecycle_started hidle hnew hmem
  case committed =>
    show r.harness.history = _
    rw [exchanges_append, exchanges_later hr.owned, hr.committed]
    exact congrArg (start ++ ·) (List.append_nil _).symm

/-- What a poll of the active run does is an event of it. -/
theorem Sound.progress (hr : r.Sound start) {run : ActiveRun} (ha : r.harness.active = some run)
    {event : RunEvent} {h : Harness} (hp : Progress r.harness run event h) :
    Sound start ⟨h, r.runs, r.events ++ [event]⟩ := by
  have hrun := hr.active run ha
  have hunchanged : r.harness = { r.harness with
      active := some run, history := r.harness.history ++ [] } := by
    rw [List.append_nil, ← ha]
  cases hp with
  | assistantDelta text =>
    have hs := hr.happen ha (.assistantDelta run.id text) rfl rfl rfl
    exact hunchanged ▸ hs
  | contextUsage tokens =>
    have hs := hr.happen ha (.contextUsage run.id tokens) rfl rfl rfl
    exact hunchanged ▸ hs
  | toolStarted callId name arguments =>
    have hs := hr.happen ha (.toolStarted run.id callId name arguments) rfl rfl rfl
    exact hunchanged ▸ hs
  | toolFinished callId name =>
    have hs := hr.happen ha (.toolFinished run.id callId name) rfl rfl rfl
    exact hunchanged ▸ hs
  | completed response =>
    have hs := hr.happen ha (.completed run.id response) rfl rfl rfl
    have he : exchanges r.runs [.completed run.id response] =
        [⟨.user, run.prompt⟩, ⟨.assistant, response⟩] := by
      simp [exchanges, hrun]
    rwa [he] at hs
  | failed failure =>
    have hs := hr.happen ha (.failed run.id failure) rfl rfl rfl
    have he : exchanges r.runs [.failed run.id failure] = [] := rfl
    rwa [he, List.append_nil] at hs

/-- **Every call keeps the invariant.** -/
theorem Sound.step (hr : r.Sound start) (c : Call) : (r.step c).Sound start := by
  cases c with
  | submit prompt context =>
    simp only [Record.step, call]
    obtain ⟨hs, -⟩ | ⟨hs, -⟩ | ⟨hidle, hids, hs⟩ := submit_cases r.harness prompt context
    · rw [hs]
      exact hr
    · rw [hs]
      exact hr
    · rw [hs]
      exact hr.started hidle hids prompt context
  | nextEvent polled =>
    simp only [Record.step, call]
    cases hn : (r.harness.nextEvent polled).1 with
    | none =>
      simp only
      rw [nextEvent_eq_none hn]
      exact hr
    | some event =>
      obtain ⟨run, ha, hp⟩ := progress_of_nextEvent (Prod.ext hn rfl)
      show Sound start ⟨_, r.runs ++ [], _⟩
      rw [List.append_nil]
      exact hr.progress ha hp
  | cancel =>
    cases ha : r.harness.active with
    | none =>
      have hc : r.harness.cancel = (.error .notRunning, r.harness) := by simp [cancel, ha]
      simp only [Record.step, call, hc]
      exact hr
    | some run =>
      have hc : r.harness.cancel = (.ok run.id, { r.harness with active := none }) := by
        simp [cancel, ha]
      have hs := hr.happen ha (.cancelled run.id) rfl rfl rfl
      have he : exchanges r.runs [.cancelled run.id] = [] := rfl
      rw [he, List.append_nil] at hs
      simp only [Record.step, call, hc, Except.map, startedBy, List.append_nil]
      exact hs

/-! ### What it promises -/

/-- **The discipline of a harness** that began with the history `start`. -/
structure Disciplined (start : List Message) (r : Record) : Prop where
  /-- The numbers of the runs increase, so none is used twice. -/
  increasing : r.ids.Pairwise (· < ·)
  /-- An error changes nothing. -/
  refused : ∀ c error, (r.harness.call c).1 = .error error → r.step c = r
  /-- A harness that runs nothing refuses a prompt exactly if every number was used. -/
  exhausted : r.harness.active = none → ∀ prompt context,
    (r.harness.submit prompt context).1 = .error .runIdExhausted ↔ u64Max ∈ r.ids
  /-- Every event is one of a run that was started. -/
  owned : ∀ e ∈ r.events, e.runId ∈ r.ids
  /-- A run has one outcome, and no event after it, once it is no longer active. -/
  lifecycle : ∀ id ∈ r.ids,
    Lifecycle id (r.harness.active.map ActiveRun.id ≠ some id) (r.eventsOf id)
  /-- A poll of an active run is answered. -/
  answered : r.harness.isRunning = true → ∀ polled, (r.harness.nextEvent polled).1 ≠ none
  /-- A completion, a failure or the end of the stream, or a cancellation ends the active run,
  with the outcome and the two messages of a completion that is not blank. -/
  ends : ∀ run c outcome, r.harness.active = some run → outcomeOf run c = some outcome →
    (r.step c).harness.active = none ∧ (r.step c).events = r.events ++ [outcome] ∧
      (r.step c).harness.history = r.harness.history ++ committedBy run outcome
  /-- No other call ends it. -/
  continues : ∀ run c, r.harness.active = some run → outcomeOf run c = none →
    (r.step c).harness.active = some run ∧ (r.step c).harness.history = r.harness.history
  /-- Only a completion that is not blank changes the history, by the exchange of its run. -/
  commits : ∀ c, (r.step c).harness.history = r.harness.history ∨
    ∃ id prompt response, (id, prompt) ∈ r.runs ∧
      c = .nextEvent (some (.ok (.completed response))) ∧
      Unicode.isBlank response.toList = false ∧
      (r.step c).events = r.events ++ [.completed id response] ∧
      (r.step c).harness.history =
        r.harness.history ++ [⟨.user, prompt⟩, ⟨.assistant, response⟩]
  /-- The history is what the completed runs committed. -/
  committed : r.harness.history = start ++ exchanges r.runs r.events
  /-- It alternates if it did in the beginning. -/
  alternates : Alternates start → Alternates r.harness.history

/-- A call that fails gives no event and no new state. -/
theorem step_of_error {c : Call} {error : HarnessError}
    (he : (r.harness.call c).1 = .error error) : r.step c = r := by
  have hsame : (r.harness.call c).2 = r.harness := by
    cases c with
    | submit prompt context =>
      simp only [call] at he ⊢
      obtain ⟨hs, -⟩ | ⟨hs, -⟩ | ⟨-, -, hs⟩ := submit_cases r.harness prompt context
      · rw [hs]
      · rw [hs]
      · simp [hs, Except.map] at he
    | nextEvent polled => simp [call] at he
    | cancel =>
      simp only [call, cancel] at he ⊢
      cases ha : r.harness.active with
      | none => rfl
      | some run => simp [ha, Except.map] at he
  have hc : r.harness.call c = (.error error, r.harness) := Prod.ext he hsame
  simp only [step, hc]

/-- What a call can do to the history. -/
theorem Sound.commits (hr : r.Sound start) (c : Call) :
    (r.step c).harness.history = r.harness.history ∨
      ∃ id prompt response, (id, prompt) ∈ r.runs ∧
        c = .nextEvent (some (.ok (.completed response))) ∧
        Unicode.isBlank response.toList = false ∧
        (r.step c).events = r.events ++ [.completed id response] ∧
        (r.step c).harness.history =
          r.harness.history ++ [⟨.user, prompt⟩, ⟨.assistant, response⟩] := by
  have hharness : (r.step c).harness = (r.harness.call c).2 := by
    unfold Record.step
    split <;> rename_i hc <;> rw [hc]
  cases c with
  | submit prompt context =>
    left
    rw [hharness]
    obtain ⟨hs, -⟩ | ⟨hs, -⟩ | ⟨-, -, hs⟩ := submit_cases r.harness prompt context <;>
      simp only [call, hs]
  | cancel =>
    left
    rw [hharness]
    exact cancel_history r.harness
  | nextEvent polled =>
    have hnext : (r.step (.nextEvent polled)).harness = (r.harness.nextEvent polled).2 := hharness
    cases hn : (r.harness.nextEvent polled).1 with
    | none =>
      left
      rw [hnext, nextEvent_eq_none hn]
    | some event =>
      have hevents : (r.step (.nextEvent polled)).events = r.events ++ [event] := by
        simp only [Record.step, call, hn]
      have hpair : r.harness.nextEvent polled = (some event, (r.harness.nextEvent polled).2) :=
        Prod.ext hn rfl
      rw [hnext, hevents]
      generalize (r.harness.nextEvent polled).2 = h at hpair ⊢
      obtain ⟨run, ha, hp⟩ := progress_of_nextEvent hpair
      cases hp with
      | completed response =>
        obtain ⟨rfl, hblank⟩ := completed_of_nextEvent hn
        obtain ⟨l₁, l₂, hruns, -⟩ := List.lookup_eq_some_iff.1 (hr.active run ha)
        exact .inr ⟨run.id, run.prompt, response, by simp [hruns], rfl, hblank, rfl, rfl⟩
      | _ => exact .inl rfl

/-- **What ends the active run** has its outcome, and commits what the outcome says. -/
theorem step_of_outcome {run : ActiveRun} {c : Call} {outcome : RunEvent}
    (ha : r.harness.active = some run) (ho : outcomeOf run c = some outcome) :
    (r.step c).harness.active = none ∧ (r.step c).events = r.events ++ [outcome] ∧
      (r.step c).harness.history = r.harness.history ++ committedBy run outcome := by
  cases c with
  | submit prompt context => simp [outcomeOf] at ho
  | cancel =>
    obtain rfl := Option.some.inj ho
    have hc : r.harness.cancel = (.ok run.id, { r.harness with active := none }) := by
      simp [cancel, ha]
    simp only [Record.step, call, hc, Except.map]
    exact ⟨trivial, trivial, (List.append_nil _).symm⟩
  | nextEvent polled =>
    have hover : ∀ h : Harness, r.harness.nextEvent polled = (some outcome, h) →
        h.active = none → h.history = r.harness.history ++ committedBy run outcome →
        (r.step (.nextEvent polled)).harness.active = none ∧
          (r.step (.nextEvent polled)).events = r.events ++ [outcome] ∧
          (r.step (.nextEvent polled)).harness.history =
            r.harness.history ++ committedBy run outcome := by
      rintro h hn hactive hhistory
      simp only [Record.step, call, hn]
      exact ⟨hactive, trivial, hhistory⟩
    cases polled with
    | none =>
      obtain rfl := Option.some.inj ho
      exact hover { r.harness with active := none } (by simp only [nextEvent, ha]) rfl
        (List.append_nil _).symm
    | some item =>
      cases item with
      | error failure =>
        obtain rfl := Option.some.inj ho
        exact hover { r.harness with active := none } (by simp only [nextEvent, ha]) rfl
          (List.append_nil _).symm
      | ok event =>
        cases event with
        | completed response =>
          simp only [outcomeOf] at ho
          split_ifs at ho with hblank
          · obtain rfl := Option.some.inj ho
            exact hover { r.harness with active := none }
              (by simp only [nextEvent, ha, if_pos hblank]) rfl (List.append_nil _).symm
          · obtain rfl := Option.some.inj ho
            exact hover _ (by simp only [nextEvent, ha, if_neg hblank]; rfl) rfl rfl
        | _ => simp [outcomeOf] at ho

/-- **No other call ends the active run,** or changes the history. -/
theorem step_of_no_outcome {run : ActiveRun} {c : Call} (ha : r.harness.active = some run)
    (ho : outcomeOf run c = none) :
    (r.step c).harness.active = some run ∧ (r.step c).harness.history = r.harness.history := by
  cases c with
  | cancel => simp [outcomeOf] at ho
  | submit prompt context =>
    have hbusy : r.harness.submit prompt context = (.error .busy, r.harness) := by
      simp [submit, ha]
    simp only [Record.step, call, hbusy, Except.map]
    exact ⟨ha, trivial⟩
  | nextEvent polled =>
    cases polled with
    | none => simp [outcomeOf] at ho
    | some item =>
      cases item with
      | error failure => simp [outcomeOf] at ho
      | ok event =>
        cases event with
        | completed response =>
          simp only [outcomeOf] at ho
          split_ifs at ho
        | _ =>
          simp only [Record.step, call, nextEvent, ha]
          exact ⟨trivial, trivial⟩

/-- A harness that runs nothing has no number left exactly if the last one was used. -/
theorem Sound.exhausted_iff (hr : r.Sound start) (hidle : r.harness.active = none)
    (prompt : String) (context : RunContext) :
    (r.harness.submit prompt context).1 = .error .runIdExhausted ↔ u64Max ∈ r.ids := by
  rw [← hr.exhausted]
  obtain ⟨-, hbusy⟩ | ⟨hs, -, hids⟩ | ⟨-, hids, hs⟩ := submit_cases r.harness prompt context
  · exact absurd hidle hbusy
  · simp [hs, hids]
  · simp [hs, hids]

theorem Sound.disciplined (hr : r.Sound start) : r.Disciplined start where
  increasing := hr.increasing
  refused := fun _ _ he => step_of_error he
  exhausted := hr.exhausted_iff
  owned := hr.owned
  lifecycle := hr.lifecycle
  answered := by
    intro hrunning polled hn
    obtain ⟨run, ha⟩ := Option.isSome_iff_exists.1 hrunning
    unfold nextEvent at hn
    simp only [ha] at hn
    split at hn <;> (try split_ifs at hn) <;> simp at hn
  ends := fun _ _ _ => step_of_outcome
  continues := fun _ _ => step_of_no_outcome
  commits := hr.commits
  committed := hr.committed
  alternates := fun hs => by
    rw [hr.committed]
    exact hs.append (alternates_exchanges ..)

/-- **The harness keeps its discipline:** over any engine and any sequence of calls. -/
theorem disciplined_of_run (start : List Message) (calls : List Call) :
    (Run.run step (new start) calls).Disciplined start :=
  (Run.run_invariant (I := Sound start) (fun _ c hr => hr.step c) (sound_new start)
    calls).disciplined

/-- A completion after the completion is not polled: the run is over. -/
example : (Run.run step (new []) [.submit "hello" ⟨[], []⟩,
    .nextEvent (some (.ok (.completed "hi"))), .nextEvent (some (.ok (.completed "again"))),
    .cancel]).harness.history = [⟨.user, "hello"⟩, ⟨.assistant, "hi"⟩] := by
  rfl

end Record
end Harness
end Moh
