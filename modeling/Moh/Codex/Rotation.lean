/-
# Credential refreshes that overlap

`providers/codex/auth.rs`: any number of refreshes of one `auth.json`, in one process or in
several, each of which goes through `acquire_credential_lock` and the steps of
`refresh_and_persist`.  Between any two steps of one refresh the others take theirs, a
process may end (`kill`), a runtime may drop the task of a refresh (`cancel`) and another
program may write the file (`edit`).  The blocking replacement of a dropped task goes on
without the lock (`orphaned`).

The server that answers is not part of the repository: it is a function `answer` of its
state and the token that is presented.  Against the steps stands a store that takes one
whole `refreshAndPersist` after another (`take`): a run in which nobody writes the file
while a refresh is between its first reading and its return, and no task is dropped during
its replacement, leaves the same results, the same file and the same server
(`serializable_of_run`).  If the server takes the token that it last gave out, such a run
never presents a token that was spent, as long as no answer is lost (`valid_of_run`).
-/

import Moh.Codex.Document
import Moh.Library.Serial

namespace Moh
namespace Codex
namespace Rotation

variable {σ : Type}

/-! ### The steps of a refresh -/

/-- How far a refresh is. -/
inductive Phase where
  | idle
  | acquiring
  | locked
  | loaded (before : CodexCredentials)
  | answered (before : CodexCredentials) (rotated : Codex.Rotation)
  | replacing (document : AuthDocument)
  | replaced (document : AuthDocument)
  | orphaned (document : AuthDocument)

/-- The phases in which the file lock is held. -/
def Phase.Holds : Phase → Prop
  | .locked | .loaded _ | .answered _ _ | .replacing _ | .replaced _ => True
  | .idle | .acquiring | .orphaned _ => False

/-- How a request goes: no client is built, it does not get to the server, its answer does
not get back, or it does, perhaps without all of its body. -/
inductive Way where
  | noClient
  | unsent
  | lost
  | delivered (complete : Bool)
deriving DecidableEq, Repr

/-- The result of a refresh; there is none where the `expect` fails. -/
abbrev Outcome := Option (Except AuthError AuthDocument)

/-- The file, the server, the holder of the lock, the refreshes, and the results of those
that returned, in order. -/
structure World (σ : Type) where
  file : Contents
  authority : σ
  holder : Option ℕ
  phase : ℕ → Phase
  results : List (ℕ × Outcome)

/-- Nothing has happened. -/
def World.start (file : Contents) (authority : σ) : World σ :=
  ⟨file, authority, none, fun _ => .idle, []⟩

/-- A refresh goes on. -/
def World.enter (w : World σ) (i : ℕ) (p : Phase) : World σ :=
  { w with phase := Function.update w.phase i p }

/-- A refresh lets go of the lock, if it has it, and is over but for `p`. -/
def World.leave (w : World σ) (i : ℕ) (p : Phase) : World σ :=
  { w with
    holder := if w.holder = some i then none else w.holder
    phase := Function.update w.phase i p }

/-- A refresh returns. -/
def World.settle (w : World σ) (i : ℕ) (outcome : Outcome) : World σ :=
  { w.leave i .idle with results := w.results ++ [(i, outcome)] }

/-- What happens: the steps of refresh `i`, the end of its process or of its task, and the
writes of other programs. -/
inductive Move where
  | begin (i : ℕ)
  | tryLock (i : ℕ) (overdue : Bool)
  | lockFails (i : ℕ) (error : AuthError)
  | read (i : ℕ)
  | exchange (i : ℕ) (way : Way)
  | reread (i : ℕ) (now : String)
  | replace (i : ℕ) (failure : Option PersistStep)
  | finish (i : ℕ)
  | cancel (i : ℕ)
  | kill (i : ℕ)
  | edit (contents : Contents)

/-- What gets back of a request, and the server then. -/
def ask (answer : σ → String → Response × σ) (authority : σ) (token : String) :
    Way → Option Response × σ
  | .noClient | .unsent => (none, authority)
  | .lost => (none, (answer authority token).2)
  | .delivered complete =>
    let (response, authority) := answer authority token
    (some (if complete then response else { response with body := none }), authority)

/-- The second reading, and the document that shall replace the file. -/
def reload (current : Contents) (before : CodexCredentials) (rotated : Codex.Rotation)
    (now : String) : Except AuthError (Option AuthDocument) := do
  let document ← load current
  let credentials ← document.credentials
  if credentials.accountId ≠ before.accountId ∨
      credentials.refreshToken ≠ before.refreshToken then
    .error .concurrentCredentialChange
  else .ok (document.rotate rotated now)

/-- A step. -/
def step (answer : σ → String → Response × σ) (w : World σ) : Move → World σ
  | .begin i =>
    match w.phase i with
    | .idle => w.enter i .acquiring
    | _ => w
  | .tryLock i overdue =>
    match w.phase i, w.holder with
    | .acquiring, none => { w.enter i .locked with holder := some i }
    | .acquiring, some _ =>
      if overdue then w.settle i (some (.error .credentialStoreBusy)) else w
    | _, _ => w
  | .lockFails i error =>
    match w.phase i with
    | .acquiring => w.settle i (some (.error error))
    | _ => w
  | .read i =>
    match w.phase i with
    | .locked =>
      match load w.file >>= AuthDocument.credentials with
      | .error error => w.settle i (some (.error error))
      | .ok before => w.enter i (.loaded before)
    | _ => w
  | .exchange i way =>
    match w.phase i with
    | .loaded before =>
      let (response, authority) := ask answer w.authority before.refreshToken way
      let w := { w with authority }
      match response with
      | none => w.settle i (some (.error .refreshTransport))
      | some response =>
        match rotation response with
        | .error error => w.settle i (some (.error error))
        | .ok rotated => w.enter i (.answered before rotated)
    | _ => w
  | .reread i now =>
    match w.phase i with
    | .answered before rotated =>
      match reload w.file before rotated now with
      | .error error => w.settle i (some (.error error))
      | .ok none => w.settle i none
      | .ok (some document) => w.enter i (.replacing document)
    | _ => w
  | .replace i failure =>
    match w.phase i, failure with
    | .replacing _, some _ => w.settle i (some (.error .persist))
    | .replacing document, none =>
      { w.enter i (.replaced document) with file := .text (some (writeAuthDocument document)) }
    | .orphaned _, some _ => w.enter i .idle
    | .orphaned document, none =>
      { w.enter i .idle with file := .text (some (writeAuthDocument document)) }
    | _, _ => w
  | .finish i =>
    match w.phase i with
    | .replaced document => w.settle i (some (.ok document))
    | _ => w
  | .cancel i =>
    match w.phase i with
    -- The replacement runs on a blocking thread, which the task does not take with it.
    | .replacing document | .orphaned document => w.leave i (.orphaned document)
    | _ => w.leave i .idle
  | .kill i => w.leave i .idle
  | .edit contents => { w with file := contents }

/-! ### Whole refreshes, one after another -/

/-- The file, the server and the results. -/
structure Store (σ : Type) where
  file : Contents
  authority : σ
  results : List (ℕ × Outcome)

/-- What happens around a refresh that nothing interleaves with. -/
structure Circumstances where
  lock : Except AuthError Unit
  way : Way
  now : String
  failure : Option PersistStep

/-- A refresh, whose result may not get to anybody, or a write of another program. -/
inductive Turn where
  | refresh (i : ℕ) (circumstances : Circumstances) (reported : Bool)
  | edit (contents : Contents)

/-- The request of a refresh, if it comes to one. -/
def Store.asks (answer : σ → String → Response × σ) (s : Store σ) (c : Circumstances) :
    Option Response × σ :=
  match c.lock, load s.file >>= AuthDocument.credentials with
  | .ok (), .ok before => ask answer s.authority before.refreshToken c.way
  | _, _ => (none, s.authority)

/-- The surroundings of a refresh: nobody else writes the file. -/
def Store.surroundings (answer : σ → String → Response × σ) (s : Store σ) (c : Circumstances) :
    Surroundings where
  lock := c.lock
  before := s.file
  client := c.way ≠ .noClient
  response := (s.asks answer c).1
  current := s.file
  now := c.now
  failure := c.failure

/-- A turn. -/
def take (answer : σ → String → Response × σ) (s : Store σ) : Turn → Store σ
  | .refresh i c reported =>
    let (outcome, file) := refreshAndPersist (s.surroundings answer c)
    { file
      authority := (s.asks answer c).2
      results := if reported then s.results ++ [(i, outcome)] else s.results }
  | .edit contents => { s with file := contents }

/-- The turns that take effect at a move: a refresh takes effect where it returns, or where
its process or its task ends, and nobody learns of it. -/
def Explains : Move → List Turn → Prop
  | .begin _, turns => turns = []
  | .edit contents, turns => turns = [.edit contents]
  | .kill i, turns | .cancel i, turns => turns = [] ∨ ∃ c, turns = [.refresh i c false]
  | .tryLock i _, turns | .lockFails i _, turns | .read i, turns | .exchange i _, turns
  | .reread i _, turns | .replace i _, turns | .finish i, turns =>
    turns = [] ∨ ∃ c, turns = [.refresh i c true]

/-- Nobody writes the file while a refresh is between its first reading and its return, and
no task is dropped while its replacement goes on. -/
def Quiet (w : World σ) : Move → Prop
  | .edit _ =>
    match w.holder.map w.phase with
    | none | some .locked => True
    | _ => False
  | .cancel i =>
    match w.phase i with
    | .replacing _ => False
    | _ => True
  | _ => True

/-! ### What one refresh does -/

variable {answer : σ → String → Response × σ}

/-- The end of a refresh after its second reading. -/
def ending (file : Contents) (failure : Option PersistStep) :
    Except AuthError (Option AuthDocument) → Outcome × Contents
  | .error error => (some (.error error), file)
  | .ok none => (none, file)
  | .ok (some document) =>
    match failure with
    | some _ => (some (.error .persist), file)
    | none => (some (.ok document), .text (some (writeAuthDocument document)))

/-- What the server answered to the request of a refresh. -/
def Answered (answer : σ → String → Response × σ) (authority : σ) (before : CodexCredentials)
    (rotated : Codex.Rotation) (authority' : σ) : Prop :=
  ∃ way response, ask answer authority before.refreshToken way = (some response, authority') ∧
    rotation response = .ok rotated

theorem client_of_ask {authority authority' : σ} {token : String} {way : Way}
    {response : Response} (h : ask answer authority token way = (some response, authority')) :
    decide (way ≠ .noClient) = true := by
  cases way <;> simp_all [ask]

/-- A refresh that does not get the lock. -/
theorem take_of_lock {s : Store σ} {c : Circumstances} {error : AuthError}
    (h : c.lock = .error error) (i : ℕ) : take answer s (.refresh i c true) =
      ⟨s.file, s.authority, s.results ++ [(i, some (.error error))]⟩ := by
  simp [take, refreshAndPersist, Store.surroundings, Store.asks, h]

/-- A refresh whose first reading fails. -/
theorem take_of_read {s : Store σ} {c : Circumstances} {error : AuthError}
    (hlock : c.lock = .ok ()) (h : (load s.file >>= AuthDocument.credentials) = .error error)
    (i : ℕ) : take answer s (.refresh i c true) =
      ⟨s.file, s.authority, s.results ++ [(i, some (.error error))]⟩ := by
  simp [take, refreshAndPersist, Store.surroundings, Store.asks, hlock, h]

section

variable {s : Store σ} {c : Circumstances} {before : CodexCredentials} {authority : σ}

/-- The request of a refresh that can read the file. -/
theorem asks_of_read (answer : σ → String → Response × σ) (hlock : c.lock = .ok ())
    (hread : (load s.file >>= AuthDocument.credentials) = .ok before) :
    s.asks answer c = ask answer s.authority before.refreshToken c.way := by
  simp [Store.asks, hlock, hread]

/-- A refresh that gets no answer. -/
theorem take_of_silence (hlock : c.lock = .ok ())
    (hread : (load s.file >>= AuthDocument.credentials) = .ok before)
    (hask : ask answer s.authority before.refreshToken c.way = (none, authority)) (i : ℕ) :
    take answer s (.refresh i c true) =
      ⟨s.file, authority, s.results ++ [(i, some (.error .refreshTransport))]⟩ := by
  have hasks := asks_of_read answer hlock hread
  simp only [take, refreshAndPersist, Store.surroundings, hlock, hread, hasks, hask]
  simp

/-- A refresh that gets an answer without tokens. -/
theorem take_of_refusal {response : Response} {error : AuthError} (hlock : c.lock = .ok ())
    (hread : (load s.file >>= AuthDocument.credentials) = .ok before)
    (hask : ask answer s.authority before.refreshToken c.way = (some response, authority))
    (hrefused : rotation response = .error error) (i : ℕ) :
    take answer s (.refresh i c true) =
      ⟨s.file, authority, s.results ++ [(i, some (.error error))]⟩ := by
  have hasks := asks_of_read answer hlock hread
  simp only [take, refreshAndPersist, Store.surroundings, hlock, hread, hasks, hask,
    client_of_ask hask, hrefused]
  simp

/-- A refresh that gets tokens. -/
theorem refreshAndPersist_eq_ending {response : Response} {rotated : Codex.Rotation}
    (hlock : c.lock = .ok ())
    (hread : (load s.file >>= AuthDocument.credentials) = .ok before)
    (hask : ask answer s.authority before.refreshToken c.way = (some response, authority))
    (hrotated : rotation response = .ok rotated) :
    refreshAndPersist (s.surroundings answer c) =
      ending s.file c.failure (reload s.file before rotated c.now) := by
  have hasks := asks_of_read answer hlock hread
  obtain ⟨document, hload, hcredentials⟩ := Fallible.bind_eq_ok_iff.1 hread
  simp only [refreshAndPersist, Store.surroundings, hlock, hasks, hask,
    client_of_ask hask, hrotated, hload, hcredentials, reload, bind, Except.bind]
  simp only [ne_eq, not_true_eq_false, or_self, if_false]
  cases document.rotate rotated c.now with
  | none => rfl
  | some replaced => cases c.failure <;> rfl

end

/-- A refresh that gets tokens, with what comes of it. -/
theorem take_of_answered {s : Store σ} {before : CodexCredentials} {rotated : Codex.Rotation}
    {authority : σ} (hread : (load s.file >>= AuthDocument.credentials) = .ok before)
    (h : Answered answer s.authority before rotated authority) (now : String)
    (failure : Option PersistStep) (i : ℕ) (reported : Bool) :
    ∃ c, take answer s (.refresh i c reported) =
      { file := (ending s.file failure (reload s.file before rotated now)).2
        authority
        results := if reported then
            s.results ++ [(i, (ending s.file failure (reload s.file before rotated now)).1)]
          else s.results } := by
  obtain ⟨way, response, hask, hrotated⟩ := h
  let c : Circumstances := ⟨.ok (), way, now, failure⟩
  have hasks : s.asks answer c = (some response, authority) :=
    (asks_of_read answer rfl hread).trans hask
  have hends : refreshAndPersist (s.surroundings answer c) =
      ending s.file failure (reload s.file before rotated now) :=
    refreshAndPersist_eq_ending rfl hread hask hrotated
  refine ⟨c, ?_⟩
  simp only [take, hends, hasks]

/-- A replacement that fails leaves the file. -/
theorem ending_of_failure (file : Contents) (failure : PersistStep)
    (reloaded : Except AuthError (Option AuthDocument)) :
    (ending file (some failure) reloaded).2 = file := by
  cases reloaded with
  | error error => rfl
  | ok document => cases document <;> rfl

/-! ### How the interleaved refreshes stand to the whole ones -/

/-- The phase of the refresh that has the lock. -/
def World.current (w : World σ) : Phase := (w.holder.map w.phase).getD .idle

/-- What the refresh that has the lock has done to the file and the server, of what was
there when it got it. -/
def Pending (answer : σ → String → Response × σ) (s : Store σ) (file : Contents)
    (authority : σ) : Phase → Prop
  | .idle | .acquiring | .locked | .orphaned _ => file = s.file ∧ authority = s.authority
  | .loaded before =>
    file = s.file ∧ authority = s.authority ∧
      (load s.file >>= AuthDocument.credentials) = .ok before
  | .answered before rotated =>
    file = s.file ∧ (load s.file >>= AuthDocument.credentials) = .ok before ∧
      Answered answer s.authority before rotated authority
  | .replacing document =>
    file = s.file ∧ ∃ before rotated now,
      (load s.file >>= AuthDocument.credentials) = .ok before ∧
      Answered answer s.authority before rotated authority ∧
      reload s.file before rotated now = .ok (some document)
  | .replaced document =>
    file = .text (some (writeAuthDocument document)) ∧ ∃ before rotated now,
      (load s.file >>= AuthDocument.credentials) = .ok before ∧
      Answered answer s.authority before rotated authority ∧
      reload s.file before rotated now = .ok (some document)

/-- One refresh has the lock, no replacement goes on without its task, and `P` holds of the
file, the server and the phase of the one that has the lock. -/
structure Held (P : Contents → σ → Phase → Prop) (w : World σ) : Prop where
  exclusive : Serial.Exclusive Phase.Holds w.holder w.phase
  whole : ∀ i document, w.phase i ≠ .orphaned document
  pending : P w.file w.authority w.current

/-- Where no replacement goes on without its task, none does when a refresh moves on. -/
theorem ne_orphaned_update {phase : ℕ → Phase} {i : ℕ} {p : Phase}
    (hphase : ∀ j document, phase j ≠ .orphaned document)
    (hp : ∀ document, p ≠ .orphaned document) (j : ℕ) (document : AuthDocument) :
    Function.update phase i p j ≠ .orphaned document := by
  by_cases hj : j = i
  · subst hj
    rw [Function.update_self]
    exact hp document
  · rw [Function.update_of_ne hj]
    exact hphase j document

namespace Held

variable {P Q : Contents → σ → Phase → Prop} {w : World σ} {i : ℕ} {p : Phase}
  {file : Contents} {authority : σ} {results : List (ℕ × Outcome)}

theorem start (h : P file authority .idle) : Held P (.start file authority) where
  exclusive i := by simp [World.start, Phase.Holds]
  whole i document := by simp [World.start]
  pending := h

/-- A refresh moves on without the lock. -/
theorem pass (h : Held P w) (hi : ¬(w.phase i).Holds) (hp : ¬p.Holds)
    (hwhole : ∀ document, p ≠ .orphaned document) :
    Held P { w.enter i p with results := results } where
  exclusive := h.exclusive.pass hi hp
  whole := ne_orphaned_update h.whole hwhole
  pending := by
    have hcurrent : ({ w.enter i p with results := results } : World σ).current = w.current := by
      simp only [World.current, World.enter]
      cases hholder : w.holder with
      | none => rfl
      | some j =>
        have hj : j ≠ i := by
          rintro rfl
          exact hi ((h.exclusive j).2 hholder)
        simp [Function.update_of_ne hj]
    rw [hcurrent]
    exact h.pending

/-- A refresh gets the lock that nobody has. -/
theorem acquire (h : Held P w) (hfree : w.holder = none)
    (hpending : P w.file w.authority .locked) :
    Held P { w.enter i .locked with holder := some i } where
  exclusive := by
    have hexclusive := h.exclusive
    rw [hfree] at hexclusive
    show Serial.Exclusive _ (some i) (Function.update w.phase i .locked)
    exact hexclusive.acquire trivial
  whole := ne_orphaned_update h.whole (by simp)
  pending := by
    show P w.file w.authority (Function.update w.phase i .locked i)
    rw [Function.update_self]
    exact hpending

/-- The refresh that has the lock moves on. -/
theorem advance (h : Held P w) (hi : (w.phase i).Holds) (hp : p.Holds)
    (hwhole : ∀ document, p ≠ .orphaned document) (hpending : Q file authority p) :
    Held Q { w.enter i p with file := file, authority := authority } where
  exclusive := h.exclusive.keep hi hp
  whole := ne_orphaned_update h.whole hwhole
  pending := by
    show Q file authority ((w.holder.map (Function.update w.phase i p)).getD .idle)
    rw [(h.exclusive i).1 hi, Option.map_some, Option.getD_some, Function.update_self]
    exact hpending

/-- The refresh that has the lock is over. -/
theorem release (h : Held P w) (hi : (w.phase i).Holds) (hpending : Q file authority .idle) :
    Held Q { w.leave i .idle with file := file, authority := authority, results := results } where
  exclusive := by
    show Serial.Exclusive _ (if w.holder = some i then none else w.holder)
      (Function.update w.phase i .idle)
    exact h.exclusive.release id
  whole := ne_orphaned_update h.whole (by simp)
  pending := by
    show Q file authority (((if w.holder = some i then none else w.holder).map
      (Function.update w.phase i .idle)).getD .idle)
    rw [if_pos ((h.exclusive i).1 hi)]
    exact hpending

/-- What is pending, by the phase of the refresh that has the lock. -/
theorem pending_of (h : Held P w) (hphase : w.phase i = p) (hp : p.Holds) :
    (w.phase i).Holds ∧ P w.file w.authority p := by
  have hi : (w.phase i).Holds := hphase ▸ hp
  have hpending := h.pending
  rw [World.current, (h.exclusive i).1 hi, Option.map_some, Option.getD_some, hphase] at hpending
  exact ⟨hi, hpending⟩

/-- A refresh without the lock has no lock to let go of. -/
theorem leave_eq (h : Held P w) (hi : ¬(w.phase i).Holds) : w.leave i p = w.enter i p := by
  have hholder : w.holder ≠ some i := fun hheld => hi ((h.exclusive i).2 hheld)
  simp only [World.leave, World.enter, if_neg hholder]

/-- Another program writes the file while no refresh has read it. -/
theorem edit (h : Held P w) {contents : Contents} (hquiet : Quiet w (.edit contents))
    (hidle : P w.file w.authority .idle → Q contents w.authority .idle)
    (hlocked : P w.file w.authority .locked → Q contents w.authority .locked) :
    Held Q { w with file := contents } where
  exclusive := h.exclusive
  whole := h.whole
  pending := by
    have hpending := h.pending
    show Q contents w.authority w.current
    simp only [Quiet] at hquiet
    simp only [World.current] at hpending ⊢
    split at hquiet
    · rename_i hnone
      rw [hnone] at hpending ⊢
      exact hidle hpending
    · rename_i hheld
      rw [hheld] at hpending ⊢
      exact hlocked hpending
    · exact hquiet.elim

end Held

/-- **The interleaved refreshes and those that were taken as a whole:** the results are the
same, and the refresh that has the lock is as far as its phase says. -/
structure Related (answer : σ → String → Response × σ) (w : World σ) (s : Store σ) : Prop where
  results : w.results = s.results
  held : Held (Pending answer s) w

/-! ### Every step is explained -/

section Moves

variable {w : World σ} {s : Store σ}

/-- A refresh that does not get the lock returns: it is a turn that did not get it. -/
theorem explained_locked_out (h : Related answer w s) {i : ℕ} (hi : ¬(w.phase i).Holds)
    (error : AuthError) :
    ∃ c, Related answer (w.settle i (some (.error error)))
      (Run.run (take answer) s [.refresh i c true]) := by
  let c : Circumstances := ⟨.error error, .unsent, "", none⟩
  have hturn : take answer s (.refresh i c true) = _ := take_of_lock rfl i
  refine ⟨c, ?_⟩
  rw [Run.run_cons, Run.run_nil, hturn, World.settle, h.held.leave_eq hi]
  refine ⟨?_, h.held.pass hi id (by simp)⟩
  show w.results ++ _ = s.results ++ _
  rw [h.results]

/-- A refresh that has the lock returns, and its turn ends as it does. -/
theorem explained_settle (h : Related answer w s) {i : ℕ} (hi : (w.phase i).Holds)
    {c : Circumstances} {outcome : Outcome} {authority : σ}
    (hturn : take answer s (.refresh i c true) =
      ⟨w.file, authority, s.results ++ [(i, outcome)]⟩) :
    Related answer (({ w with authority := authority } : World σ).settle i outcome)
      (Run.run (take answer) s [.refresh i c true]) := by
  rw [Run.run_cons, Run.run_nil, hturn]
  refine ⟨?_, h.held.release hi ⟨rfl, rfl⟩⟩
  show w.results ++ _ = s.results ++ _
  rw [h.results]

/-- A refresh tries to get the lock. -/
theorem explained_tryLock (h : Related answer w s) (i : ℕ) (overdue : Bool) :
    ∃ turns, Explains (.tryLock i overdue) turns ∧
      Related answer (step answer w (.tryLock i overdue)) (Run.run (take answer) s turns) := by
  simp only [step]
  split
  · rename_i hphase hholder
    have hpending := h.held.pending
    rw [World.current, hholder] at hpending
    exact ⟨[], .inl rfl, h.results, h.held.acquire hholder hpending⟩
  · rename_i hphase hholder
    have hi : ¬(w.phase i).Holds := by
      rw [hphase]
      exact id
    split_ifs with hoverdue
    · obtain ⟨c, hrelated⟩ := explained_locked_out h hi .credentialStoreBusy
      exact ⟨_, .inr ⟨c, rfl⟩, hrelated⟩
    · exact ⟨[], .inl rfl, h⟩
  · exact ⟨[], .inl rfl, h⟩

/-- A refresh reads the file. -/
theorem explained_read (h : Related answer w s) (i : ℕ) :
    ∃ turns, Explains (.read i) turns ∧
      Related answer (step answer w (.read i)) (Run.run (take answer) s turns) := by
  simp only [step]
  split
  · rename_i hphase
    obtain ⟨hi, hfile, hauthority⟩ := h.held.pending_of hphase trivial
    split
    · rename_i error hread
      rw [hfile] at hread
      let c : Circumstances := ⟨.ok (), .unsent, "", none⟩
      have hturn : take answer s (.refresh i c true) = _ := take_of_read rfl hread i
      rw [← hfile] at hturn
      refine ⟨_, .inr ⟨c, rfl⟩, ?_⟩
      have hrelated := explained_settle h hi hturn
      rw [← hauthority] at hrelated
      exact hrelated
    · rename_i before hread
      rw [hfile] at hread
      exact ⟨[], .inl rfl, h.results,
        h.held.advance hi (p := .loaded before) trivial (by simp) ⟨hfile, hauthority, hread⟩⟩
  · exact ⟨[], .inl rfl, h⟩

/-- A refresh asks the server. -/
theorem explained_exchange (h : Related answer w s) (i : ℕ) (way : Way) :
    ∃ turns, Explains (.exchange i way) turns ∧
      Related answer (step answer w (.exchange i way)) (Run.run (take answer) s turns) := by
  simp only [step]
  split
  · rename_i before hphase
    obtain ⟨hi, hfile, hauthority, hread⟩ := h.held.pending_of hphase trivial
    rw [hauthority]
    obtain ⟨response, authority, hask⟩ :
        ∃ response authority, ask answer s.authority before.refreshToken way =
          (response, authority) := ⟨_, _, rfl⟩
    let c : Circumstances := ⟨.ok (), way, "", none⟩
    rw [hask]
    cases response with
    | none =>
      have hturn : take answer s (.refresh i c true) = _ := take_of_silence rfl hread hask i
      rw [← hfile] at hturn
      exact ⟨_, .inr ⟨c, rfl⟩, explained_settle h hi hturn⟩
    | some response =>
      simp only
      split
      · rename_i error hrefused
        have hturn : take answer s (.refresh i c true) = _ :=
          take_of_refusal rfl hread hask hrefused i
        rw [← hfile] at hturn
        exact ⟨_, .inr ⟨c, rfl⟩, explained_settle h hi hturn⟩
      · rename_i rotated hrotated
        exact ⟨[], .inl rfl, h.results,
          h.held.advance hi (p := .answered before rotated) trivial (by simp)
            ⟨hfile, hread, way, response, hask, hrotated⟩⟩
  · exact ⟨[], .inl rfl, h⟩

/-- A refresh reads the file again. -/
theorem explained_reread (h : Related answer w s) (i : ℕ) (now : String) :
    ∃ turns, Explains (.reread i now) turns ∧
      Related answer (step answer w (.reread i now)) (Run.run (take answer) s turns) := by
  simp only [step]
  split
  · rename_i before rotated hphase
    obtain ⟨hi, hfile, hread, hanswered⟩ := h.held.pending_of hphase trivial
    obtain ⟨c, hturn⟩ := take_of_answered hread hanswered now none i true
    split
    · rename_i error hreload
      rw [hfile] at hreload
      rw [hreload] at hturn
      refine ⟨_, .inr ⟨c, rfl⟩, explained_settle h hi ?_⟩
      rw [hfile]
      exact hturn
    · rename_i hreload
      rw [hfile] at hreload
      rw [hreload] at hturn
      refine ⟨_, .inr ⟨c, rfl⟩, explained_settle h hi ?_⟩
      rw [hfile]
      exact hturn
    · rename_i document hreload
      rw [hfile] at hreload
      exact ⟨[], .inl rfl, h.results,
        h.held.advance hi (p := .replacing document) trivial (by simp)
          ⟨hfile, before, rotated, now, hread, hanswered, hreload⟩⟩
  · exact ⟨[], .inl rfl, h⟩

/-- A refresh replaces the file, or fails to. -/
theorem explained_replace (h : Related answer w s) (i : ℕ) (failure : Option PersistStep) :
    ∃ turns, Explains (.replace i failure) turns ∧
      Related answer (step answer w (.replace i failure)) (Run.run (take answer) s turns) := by
  simp only [step]
  split
  · rename_i document failure hphase
    obtain ⟨hi, hfile, before, rotated, now, hread, hanswered, hreload⟩ :=
      h.held.pending_of hphase trivial
    obtain ⟨c, hturn⟩ := take_of_answered hread hanswered now (some failure) i true
    rw [hreload] at hturn
    refine ⟨_, .inr ⟨c, rfl⟩, explained_settle h hi ?_⟩
    rw [hfile]
    exact hturn
  · rename_i document hphase
    obtain ⟨hi, -, hpending⟩ := h.held.pending_of hphase trivial
    exact ⟨[], .inl rfl, h.results,
      h.held.advance hi (p := .replaced document) trivial (by simp) ⟨rfl, hpending⟩⟩
  · rename_i hphase
    exact absurd hphase (h.held.whole i _)
  · rename_i hphase
    exact absurd hphase (h.held.whole i _)
  · exact ⟨[], .inl rfl, h⟩

/-- A refresh returns the document that it wrote. -/
theorem explained_finish (h : Related answer w s) (i : ℕ) :
    ∃ turns, Explains (.finish i) turns ∧
      Related answer (step answer w (.finish i)) (Run.run (take answer) s turns) := by
  simp only [step]
  split
  · rename_i document hphase
    obtain ⟨hi, hfile, before, rotated, now, hread, hanswered, hreload⟩ :=
      h.held.pending_of hphase trivial
    obtain ⟨c, hturn⟩ := take_of_answered hread hanswered now none i true
    rw [hreload] at hturn
    refine ⟨_, .inr ⟨c, rfl⟩, explained_settle h hi ?_⟩
    rw [hfile]
    exact hturn
  · exact ⟨[], .inl rfl, h⟩

/-- A refresh ends with its process or its task: what it did stays, and nobody learns of
it. -/
theorem explained_leave (h : Related answer w s) (i : ℕ) :
    ∃ turns, (turns = [] ∨ ∃ c, turns = [.refresh i c false]) ∧
      Related answer (w.leave i .idle) (Run.run (take answer) s turns) := by
  by_cases hi : (w.phase i).Holds
  · obtain ⟨-, hpending⟩ := h.held.pending_of rfl hi
    cases hphase : w.phase i with
    | idle => exact absurd hi (by simp [hphase, Phase.Holds])
    | acquiring => exact absurd hi (by simp [hphase, Phase.Holds])
    | orphaned document => exact absurd hi (by simp [hphase, Phase.Holds])
    | locked =>
      rw [hphase] at hpending
      exact ⟨[], .inl rfl, h.results, h.held.release hi hpending⟩
    | loaded before =>
      rw [hphase] at hpending
      exact ⟨[], .inl rfl, h.results, h.held.release hi ⟨hpending.1, hpending.2.1⟩⟩
    | answered before rotated =>
      rw [hphase] at hpending
      obtain ⟨hfile, hread, hanswered⟩ := hpending
      obtain ⟨c, hturn⟩ := take_of_answered hread hanswered "" (some .rename) i false
      rw [ending_of_failure] at hturn
      refine ⟨_, .inr ⟨c, rfl⟩, ?_⟩
      rw [Run.run_cons, Run.run_nil, hturn]
      exact ⟨h.results, h.held.release hi ⟨hfile, rfl⟩⟩
    | replacing document =>
      rw [hphase] at hpending
      obtain ⟨hfile, before, rotated, now, hread, hanswered, -⟩ := hpending
      obtain ⟨c, hturn⟩ := take_of_answered hread hanswered now (some .rename) i false
      rw [ending_of_failure] at hturn
      refine ⟨_, .inr ⟨c, rfl⟩, ?_⟩
      rw [Run.run_cons, Run.run_nil, hturn]
      exact ⟨h.results, h.held.release hi ⟨hfile, rfl⟩⟩
    | replaced document =>
      rw [hphase] at hpending
      obtain ⟨hfile, before, rotated, now, hread, hanswered, hreload⟩ := hpending
      obtain ⟨c, hturn⟩ := take_of_answered hread hanswered now none i false
      rw [hreload] at hturn
      refine ⟨_, .inr ⟨c, rfl⟩, ?_⟩
      rw [Run.run_cons, Run.run_nil, hturn]
      exact ⟨h.results, h.held.release hi ⟨hfile, rfl⟩⟩
  · refine ⟨[], .inl rfl, ?_⟩
    rw [h.held.leave_eq hi]
    exact ⟨h.results, h.held.pass hi (p := .idle) id (by simp)⟩

/-- **Every step is explained** by the turn that takes effect at it, if there is one. -/
theorem explained_step (w : World σ) (s : Store σ) (m : Move) (h : Related answer w s)
    (hquiet : Quiet w m) :
    ∃ turns, Explains m turns ∧
      Related answer (step answer w m) (Run.run (take answer) s turns) := by
  cases m with
  | begin i =>
    refine ⟨[], rfl, ?_⟩
    simp only [step]
    split
    · rename_i hphase
      exact ⟨h.results, h.held.pass (by simp [hphase, Phase.Holds]) id (by simp)⟩
    · exact h
  | tryLock i overdue => exact explained_tryLock h i overdue
  | lockFails i error =>
    simp only [step]
    split
    · rename_i hphase
      obtain ⟨c, hrelated⟩ :=
        explained_locked_out h (i := i) (by simp [hphase, Phase.Holds]) error
      exact ⟨_, .inr ⟨c, rfl⟩, hrelated⟩
    · exact ⟨[], .inl rfl, h⟩
  | read i => exact explained_read h i
  | exchange i way => exact explained_exchange h i way
  | reread i now => exact explained_reread h i now
  | replace i failure => exact explained_replace h i failure
  | finish i => exact explained_finish h i
  | cancel i =>
    simp only [step]
    split
    · rename_i document hphase
      simp [Quiet, hphase] at hquiet
    · rename_i hphase
      exact absurd hphase (h.held.whole i _)
    · exact explained_leave h i
  | kill i => exact explained_leave h i
  | edit contents =>
    exact ⟨[.edit contents], rfl, h.results, h.held.edit hquiet (fun hidle => ⟨rfl, hidle.2⟩)
      fun hlocked => ⟨rfl, hlocked.2⟩⟩

end Moves

/-- While a refresh has the lock, the file is what it was before, or what the whole refresh
makes of it. -/
theorem Related.file_of_holder {w : World σ} {s : Store σ} (h : Related answer w s) {i : ℕ}
    (hholder : w.holder = some i) :
    ∃ c, w.file = s.file ∨ w.file = (take answer s (.refresh i c false)).file := by
  obtain ⟨turns, hturns, hrelated⟩ := explained_leave h i
  have hpending := hrelated.held.pending
  have hcurrent : (w.leave i .idle).current = .idle := by
    simp [World.current, World.leave, hholder]
  rw [hcurrent] at hpending
  rcases hturns with rfl | ⟨c, rfl⟩
  · exact ⟨⟨.ok (), .unsent, "", none⟩, .inl hpending.1⟩
  · exact ⟨c, .inr hpending.1⟩

/-- **Overlapping refreshes are refreshes one after another.**  Whatever the server is, and
however any number of refreshes, of ends of processes and tasks and of writes of other
programs follow on each other, as long as nobody writes the file while a refresh is between
its first reading and its return and no task is dropped during its replacement: each move
is explained by at most one whole refresh of its own, and these, taken one after another,
return the same results in the same order.  They leave the same file and the same server
whenever nobody has the lock; while somebody has it, the file is theirs, or what the whole
refresh of that one makes of it. -/
theorem serializable_of_run (answer : σ → String → Response × σ) (file : Contents)
    (authority : σ) (moves : List Move)
    (hquiet : Run.Guarded (step answer) Quiet (.start file authority) moves) :
    ∃ turns : List (List Turn), List.Forall₂ Explains moves turns ∧
      let w := Run.run (step answer) (.start file authority) moves
      let s := Run.run (take answer) ⟨file, authority, []⟩ turns.flatten
      w.results = s.results ∧
        (w.holder = none → w.file = s.file ∧ w.authority = s.authority) ∧
        ∀ i, w.holder = some i →
          ∃ c, w.file = s.file ∨ w.file = (take answer s (.refresh i c false)).file := by
  obtain ⟨turns, hturns, hrelated⟩ := Serial.exists_turns
    (fun w s m => explained_step w s m)
    (t := ⟨file, authority, []⟩) ⟨rfl, Held.start ⟨rfl, rfl⟩⟩ hquiet
  refine ⟨turns, hturns, hrelated.results, fun hfree => ?_, fun i => hrelated.file_of_holder⟩
  have hpending := hrelated.held.pending
  rw [World.current, hfree] at hpending
  exact hpending

/-- The two tokens that a server gives out in turn. -/
def turnToken (first : Bool) : String := if first then "refresh" else "refresh-2"

/-- A server that takes the token that it last gave out. -/
def turnAnswer (first : Bool) (token : String) : Response × Bool :=
  if token = turnToken first then
    (⟨200, some (.object [("access_token", .string "rotated"),
      ("refresh_token", .string (turnToken !first))])⟩, !first)
  else (⟨400, some (.object [("code", .string "refresh_token_reused")])⟩, first)

/-- Two refreshes: the second tries to get the lock while the first has asked, and gets it
when the first is over. -/
def overlapping : List Move :=
  [.begin 0, .begin 1, .tryLock 0 false, .read 0, .exchange 0 (.delivered true),
    .tryLock 1 false, .reread 0 "now", .replace 0 none, .finish 0, .tryLock 1 false, .read 1]

/-- The two refreshes of a document are explained by whole ones. -/
theorem serializable_of_run_overlapping :
    ∃ turns : List (List Turn), List.Forall₂ Explains overlapping turns ∧
      (Run.run (step turnAnswer) (.start (.text (some keylessDocument)) true)
        overlapping).results =
      (Run.run (take turnAnswer) ⟨.text (some keylessDocument), true, []⟩
        turns.flatten).results := by
  obtain ⟨turns, hturns, hresults, -⟩ :=
    serializable_of_run turnAnswer (.text (some keylessDocument)) true overlapping
      ⟨trivial, trivial, trivial, trivial, trivial, trivial, trivial, trivial, trivial, trivial,
        trivial, trivial⟩
  exact ⟨turns, hturns, hresults⟩

/-! ### Tokens that are spent -/

/-- The token that a client uses after a response. -/
def following (token : String) (response : Response) : String :=
  match rotation response with
  | .ok rotated => rotated.refreshToken.getD token
  | .error _ => token

/-- **A server that takes the token that it last gave out:** whoever presents it may go on
with the one in the response, or with the same if there is none. -/
def Rotates (answer : σ → String → Response × σ) (valid : σ → String → Prop) : Prop :=
  ∀ authority token, valid authority token →
    valid (answer authority token).2 (following token (answer authority token).1)

/-- The server takes the refresh token in the file, if there is one. -/
def Usable (valid : σ → String → Prop) (authority : σ) (file : Contents) : Prop :=
  ∀ c, (load file >>= AuthDocument.credentials) = .ok c → valid authority c.refreshToken

/-- No answer is lost: it gets back with its body, the replacement does not fail, and nothing
ends a refresh between the answer and the replacement; what other programs write, they
write while no refresh has read the file, and with a token that the server takes. -/
def Lossless (valid : σ → String → Prop) (w : World σ) : Move → Prop
  | .edit contents => Quiet w (.edit contents) ∧ Usable valid w.authority contents
  | .exchange _ way => way ≠ .lost ∧ way ≠ .delivered false
  | .replace _ failure => failure = none
  | .cancel i | .kill i =>
    match w.phase i with
    | .answered _ _ | .replacing _ => False
    | _ => True
  | _ => True

/-- Where the token is that the server takes. -/
def Spendable (valid : σ → String → Prop) (file : Contents) (authority : σ) : Phase → Prop
  | .idle | .acquiring | .locked | .orphaned _ | .replaced _ => Usable valid authority file
  | .loaded before =>
    Usable valid authority file ∧ (load file >>= AuthDocument.credentials) = .ok before
  | .answered before rotated =>
    (load file >>= AuthDocument.credentials) = .ok before ∧ rotated.Sound ∧
      valid authority (before.rotate rotated).refreshToken
  | .replacing document =>
    document.Sorted ∧ ∃ c, document.credentials = .ok c ∧ valid authority c.refreshToken

section Spending

variable {valid : σ → String → Prop} {w : World σ} {file : Contents}

/-- A file that was written with a token that the server takes. -/
theorem usable_written {document : AuthDocument} {authority : σ} {c : CodexCredentials}
    (hsorted : document.Sorted) (hc : document.credentials = .ok c)
    (hvalid : valid authority c.refreshToken) :
    Usable valid authority (.text (some (writeAuthDocument document))) := by
  intro c' hc'
  obtain ⟨document', hload, hsame⟩ := load_written hsorted hc
  rw [hload] at hc'
  have heq : document'.credentials = .ok c := hsame.credentials.trans hc
  obtain rfl : c = c' := Except.ok.inj (heq.symm.trans hc')
  exact hvalid

/-- A file that did not change is read as before. -/
theorem reload_of_read {before : CodexCredentials} {rotated : Codex.Rotation}
    (hread : (load file >>= AuthDocument.credentials) = .ok before) (hsound : rotated.Sound)
    (now : String) :
    ∃ document, reload file before rotated now = .ok (some document) ∧ document.Sorted ∧
      document.credentials = .ok (before.rotate rotated) := by
  obtain ⟨loaded, hload, hcredentials⟩ := Fallible.bind_eq_ok_iff.1 hread
  obtain ⟨v, -, hv⟩ := load_eq_ok hload
  obtain ⟨-, t, ht, -⟩ := credentials_eq_ok hcredentials
  obtain ⟨document, hrotate⟩ : ∃ document, loaded.rotate rotated now = some document := by
    simp [AuthDocument.rotate, ht]
  refine ⟨document, ?_, (sorted_of_read hv).rotate hrotate,
    credentials_rotate hcredentials hsound hrotate⟩
  simp [reload, hload, hcredentials, hrotate, bind, Except.bind]

theorem usable_of_read {authority : σ} {before : CodexCredentials}
    (hread : (load file >>= AuthDocument.credentials) = .ok before)
    (hvalid : valid authority before.refreshToken) : Usable valid authority file := by
  intro c hc
  obtain rfl : before = c := Except.ok.inj (hread.symm.trans hc)
  exact hvalid

/-- A refresh that is over, or ends, where the file has the token. -/
theorem Held.ends (h : Held (Spendable valid) w) {i : ℕ}
    (husable : (w.phase i).Holds → Usable valid w.authority w.file)
    {results : List (ℕ × Outcome)} :
    Held (Spendable valid) { w.leave i .idle with results := results } := by
  by_cases hi : (w.phase i).Holds
  · exact h.release hi (husable hi)
  · rw [h.leave_eq hi]
    exact h.pass hi id (by simp)

/-- A refresh asks the server, and nothing of the answer is lost. -/
theorem spendable_exchange (hrotates : Rotates answer valid) (h : Held (Spendable valid) w)
    (i : ℕ) {way : Way} (hlossless : way ≠ .lost ∧ way ≠ .delivered false) :
    Held (Spendable valid) (step answer w (.exchange i way)) := by
  simp only [step]
  split
  · rename_i before hphase
    obtain ⟨hi, husable, hread⟩ := h.pending_of hphase trivial
    have hvalid : valid w.authority before.refreshToken := husable before hread
    have hunasked : Held (Spendable valid)
        (w.settle i (some (.error .refreshTransport))) := h.release hi husable
    cases way with
    | noClient => exact hunasked
    | unsent => exact hunasked
    | lost => exact absurd rfl hlossless.1
    | delivered complete =>
      have hcomplete : complete = true := by
        cases complete
        · exact absurd rfl hlossless.2
        · rfl
      have hnext := hrotates w.authority before.refreshToken hvalid
      simp only [ask, hcomplete, if_true]
      simp only [following] at hnext
      split at hnext
      · rename_i rotated hrotated
        rw [hrotated]
        exact h.advance hi (p := .answered before rotated) trivial (by simp)
          ⟨hread, sound_of_rotation hrotated, hnext⟩
      · rename_i error hrefused
        rw [hrefused]
        exact h.release hi (usable_of_read hread hnext)
  · exact h

/-- A refresh reads the file again, and finds it as it was. -/
theorem spendable_reread (h : Held (Spendable valid) w) (i : ℕ) (now : String) :
    Held (Spendable valid) (step answer w (.reread i now)) := by
  simp only [step]
  split
  · rename_i before rotated hphase
    obtain ⟨hi, hread, hsound, hvalid⟩ := h.pending_of hphase trivial
    obtain ⟨document, hreload, hsorted, hcredentials⟩ := reload_of_read hread hsound now
    rw [hreload]
    exact h.advance hi (p := .replacing document) trivial (by simp)
      ⟨hsorted, _, hcredentials, hvalid⟩
  · exact h

/-- A refresh that ends where no answer is under way. -/
theorem spendable_leave (h : Held (Spendable valid) w) (i : ℕ)
    (hlossless : Lossless valid w (.kill i)) : Held (Spendable valid) (w.leave i .idle) := by
  show Held (Spendable valid) { w.leave i .idle with results := w.results }
  refine h.ends fun hi => ?_
  obtain ⟨-, hpending⟩ := h.pending_of rfl hi
  simp only [Lossless] at hlossless
  cases hphase : w.phase i with
  | idle => exact absurd hi (by simp [hphase, Phase.Holds])
  | acquiring => exact absurd hi (by simp [hphase, Phase.Holds])
  | orphaned document => exact absurd hphase (h.whole i document)
  | answered before rotated => simp [hphase] at hlossless
  | replacing document => simp [hphase] at hlossless
  | locked =>
    rw [hphase] at hpending
    exact hpending
  | loaded before =>
    rw [hphase] at hpending
    exact hpending.1
  | replaced document =>
    rw [hphase] at hpending
    exact hpending

/-- **A step keeps hold of the token that the server takes.** -/
theorem spendable_step (hrotates : Rotates answer valid) (w : World σ) (m : Move)
    (h : Held (Spendable valid) w) (hlossless : Lossless valid w m) :
    Held (Spendable valid) (step answer w m) := by
  cases m with
  | begin i =>
    simp only [step]
    split
    · rename_i hphase
      show Held (Spendable valid) { w.enter i .acquiring with results := w.results }
      exact h.pass (by simp [hphase, Phase.Holds]) id (by simp)
    · exact h
  | tryLock i overdue =>
    simp only [step]
    split
    · rename_i hphase hholder
      have hpending := h.pending
      rw [World.current, hholder] at hpending
      exact h.acquire hholder hpending
    · rename_i hphase hholder
      split_ifs
      · exact h.ends fun hi => absurd hi (by simp [hphase, Phase.Holds])
      · exact h
    · exact h
  | lockFails i error =>
    simp only [step]
    split
    · rename_i hphase
      exact h.ends fun hi => absurd hi (by simp [hphase, Phase.Holds])
    · exact h
  | read i =>
    simp only [step]
    split
    · rename_i hphase
      obtain ⟨hi, husable⟩ := h.pending_of hphase trivial
      split
      · exact h.release hi husable
      · rename_i before hread
        exact h.advance hi (p := .loaded before) trivial (by simp) ⟨husable, hread⟩
    · exact h
  | exchange i way => exact spendable_exchange hrotates h i hlossless
  | reread i now => exact spendable_reread h i now
  | replace i failure =>
    obtain rfl : failure = none := hlossless
    simp only [step]
    split
    · rename_i hnone
      simp at hnone
    · rename_i document hphase _
      obtain ⟨hi, hsorted, c, hcredentials, hvalid⟩ := h.pending_of hphase trivial
      exact h.advance hi (p := .replaced document) trivial (by simp)
        (usable_written hsorted hcredentials hvalid)
    · rename_i hphase _
      exact absurd hphase (h.whole i _)
    · rename_i hphase _
      exact absurd hphase (h.whole i _)
    · exact h
  | finish i =>
    simp only [step]
    split
    · rename_i document hphase
      exact h.ends fun _ => (h.pending_of hphase trivial).2
    · exact h
  | cancel i =>
    have hleave := spendable_leave h i hlossless
    simp only [Lossless] at hlossless
    simp only [step]
    split
    · rename_i document hphase
      simp [hphase] at hlossless
    · rename_i hphase
      exact absurd hphase (h.whole i _)
    · exact hleave
  | kill i => exact spendable_leave h i hlossless
  | edit contents => exact h.edit hlossless.1 (fun _ => hlossless.2) fun _ => hlossless.2

/-- **No refresh presents a token that was spent.**  If the server takes the token that it
last gave out, and the file has that token at the beginning, then in every run in which no
answer is lost, however the refreshes overlap, whoever is about to present a token has one
that the server takes; and whenever nobody has the lock, the token in the file is one. -/
theorem valid_of_run (answer : σ → String → Response × σ) (valid : σ → String → Prop)
    (hrotates : Rotates answer valid) (file : Contents) (authority : σ)
    (husable : Usable valid authority file) (moves : List Move)
    (hlossless : Run.Guarded (step answer) (Lossless valid) (.start file authority) moves) :
    let w := Run.run (step answer) (.start file authority) moves
    (∀ i before, w.phase i = .loaded before → valid w.authority before.refreshToken) ∧
      (w.holder = none → Usable valid w.authority w.file) := by
  have h := Run.run_invariant_of_guarded (I := Held (Spendable valid))
    (fun w m hw hm => spendable_step hrotates w m hw hm)
    (Held.start (P := Spendable valid) husable) hlossless
  refine ⟨fun i before hphase => ?_, fun hfree => ?_⟩
  · obtain ⟨-, hpending, hread⟩ := h.pending_of hphase trivial
    exact hpending before hread
  · have hpending := h.pending
    rw [World.current, hfree] at hpending
    exact hpending

/-- The second of the two refreshes has the token that the first one got. -/
theorem valid_of_run_overlapping :
    let w := Run.run (step turnAnswer) (.start (.text (some keylessDocument)) true) overlapping
    ∀ i before, w.phase i = .loaded before → before.refreshToken = turnToken w.authority := by
  have hrotates : Rotates turnAnswer fun first token => token = turnToken first := by
    rintro first token rfl
    cases first <;> rfl
  have hread : (load (.text (some keylessDocument)) >>= AuthDocument.credentials) =
      .ok ⟨"access", "refresh", "account-123"⟩ := rfl
  have husable : Usable (fun first token => token = turnToken first) true
      (.text (some keylessDocument)) := usable_of_read hread rfl
  exact (valid_of_run turnAnswer _ hrotates _ true husable overlapping
    ⟨trivial, trivial, trivial, trivial, ⟨by decide, by decide⟩, trivial, trivial, rfl, trivial,
      trivial, trivial, trivial⟩).1

end Spending

end Rotation
end Codex
end Moh
