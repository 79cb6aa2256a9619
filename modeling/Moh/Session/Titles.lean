/-
# Title precedence

The title of a session through its whole life: its row may have a live actor or none,
and a new one may be loaded; clients rename it, title tasks complete late or more than
once, other sessions write their rows, and any call may fail (`Op`).  There is at most
one live actor of the session, which gets its renames; without one they go to the
repository.

One operation keeps the title, renames it, or puts a generated one in its place
(`TitleChange`), so over a run the revision only grows (`revision_le_of_run`): a
generated title whose expected revision is still there finds the title that was there
when its task was dispatched (`title_precedence`).
-/

import Moh.Library.Run
import Moh.Session.TitleFrame
import Moh.Session.Manager

namespace Moh

/-! ### Calls of the repository -/

/-- `SessionRepository`. -/
inductive RepositoryCall where
  | materialize (request : MaterializeSession)
  | load (id : SessionId)
  | list (scope : SessionListScope)
  | rename (id : SessionId) (title : SessionTitle)
  | compareAndSetGeneratedTitle (id : SessionId) (expectedRevision : ℕ) (title : SessionTitle)
  | delete (id : SessionId)
  | checkpoint (record : SessionRecord)
  | updateMetadata (record : SessionRecord)

namespace RepositoryCall

/-- The session whose row is written. -/
def target (store : SessionStore) : RepositoryCall → Option SessionId
  | .materialize _ => some ⟨store.nextId⟩
  | .load id => some id
  | .list _ => none
  | .rename id _ => some id
  | .compareAndSetGeneratedTitle id _ _ => some id
  | .delete id => some id
  | .checkpoint record => some record.id
  | .updateMetadata record => some record.id

/-- The store after a call. -/
def run (fault : Option SessionStoreError) (store : SessionStore) : RepositoryCall → SessionStore
  | .materialize request => (store.materialize fault request).2
  | .load id => (store.load fault id).2
  | .list scope => (store.list fault scope).2
  | .rename id title => (store.rename fault id title).2
  | .compareAndSetGeneratedTitle id expectedRevision title =>
    (store.compareAndSetGeneratedTitle fault id expectedRevision title).2
  | .delete id => (store.delete fault id).2
  | .checkpoint record => (store.checkpoint fault record).2
  | .updateMetadata record => (store.updateMetadata fault record).2

end RepositoryCall

namespace Titles

/-! ### The life of a session -/

/-- The repository, the activity tracker and the live actor of the session. -/
structure State where
  store : SessionStore
  activity : ActivityTracker
  actor : Option SessionActor

/-- What happens to the session, or elsewhere. -/
inductive Op where
  /-- A client renames the session. -/
  | rename (env : Env) (title : SessionTitle)
  /-- A title task completes. -/
  | completed (env : Env) (expectedRevision : ℕ)
    (generated : Except TitleGenerationError String)
  /-- The live actor takes an input. -/
  | input (env : Env) (input : ActorInput)
  /-- The session is loaded, and its actor started unless the factory fails. -/
  | opened (fault : Option SessionStoreError) (create : Except RunFailure Unit)
    (catalog : ModelCatalogState)
  /-- The session is created with its first prompt; a start that fails is recorded, or
  the row is deleted again. -/
  | materialized (fault : Option SessionStoreError) (request : MaterializeSession)
    (create : Except RunFailure Unit) (catalog : ModelCatalogState)
    (checkpointFault compensateFault : Option SessionStoreError)
  /-- The row is deleted, unless a live actor was not prepared for it. -/
  | deleted (fault : Option SessionStoreError)
  /-- A call for another session. -/
  | elsewhere (fault : Option SessionStoreError) (call : RepositoryCall)

/-- The live actor as its handlers see it. -/
def State.session (w : State) (a : SessionActor) : Session :=
  { a with store := w.store, activity := w.activity, exited := none }

/-- What a handler leaves behind: an actor whose loop ended is gone. -/
def settle (s : Session) : State :=
  ⟨s.store, s.activity, if s.exited.isSome then none else some s.toSessionActor⟩

/-- The live actor takes an input, if there is one. -/
def State.deliver (w : State) (env : Env) (input : ActorInput) : State :=
  match w.actor with
  | some a => settle ((w.session a).step (env, input))
  | none => w

/-- `persist_failed_materialization`. -/
def persistFailed (store : SessionStore) (checkpointFault compensateFault : Option SessionStoreError)
    (record : SessionRecord) : SessionStore :=
  match store.checkpoint checkpointFault record with
  | (.ok (), store) => store
  | (.error _, store) => (store.delete compensateFault record.id).2

/-- The actor of a new session, or the failure that is recorded instead. -/
def start (store : SessionStore) (activity : ActivityTracker) (request : MaterializeSession)
    (create : Except RunFailure Unit) (catalog : ModelCatalogState) (record : SessionRecord) :
    Except RunFailureSnapshot Session :=
  match create with
  | .error failure => .error (startupFailure failure.message failure.retryable)
  | .ok () =>
    match Session.spawnMaterialized store record (.fromRecord record catalog) request.prompt
        activity with
    | .error error => .error (startupFailure error.message false)
    | .ok s => .ok s

/-- One operation. -/
def step (id : SessionId) (w : State) : Op → State
  | .rename env title =>
    match w.actor with
    | some _ => w.deliver env (.command (.rename title))
    | none => { w with store := (w.store.rename env.fault id title).2 }
  | .completed env expectedRevision generated =>
    w.deliver env (.command (.applyGeneratedTitle expectedRevision generated))
  | .input env input => w.deliver env input
  | .opened fault create catalog =>
    match w.actor with
    | some _ => w
    | none =>
      match w.store.load fault id with
      | (.error _, store) => { w with store }
      | (.ok record, store) =>
        match create with
        | .error _ => { w with store }
        | .ok () => settle (.spawn store record (.fromRecord record catalog) w.activity)
  | .materialized fault request create catalog checkpointFault compensateFault =>
    if id ≠ ⟨w.store.nextId⟩ then w
    else
      match w.store.materialize fault request with
      | (.error _, store) => { w with store }
      | (.ok record, store) =>
        match start store w.activity request create catalog record with
        | .ok s => settle s
        | .error failure =>
          let failed := failedMaterialization record request.prompt request.runId failure
          { w with store := persistFailed store checkpointFault compensateFault failed }
  | .deleted fault =>
    match w.actor with
    | some a => if a.deleting then { w with store := (w.store.delete fault id).2 } else w
    | none => { w with store := (w.store.delete fault id).2 }
  | .elsewhere fault call =>
    if call.target w.store = some id then w else { w with store := call.run fault w.store }

/-- The row of the session. -/
def State.row (w : State) (id : SessionId) : Option SessionRecord := w.store.rows.lookup id

/-- A manual rename, through the manager or a handle. -/
def Op.isRename : Op → Bool
  | .rename _ _ => true
  | .input _ (.command (.rename _)) => true
  | _ => false

/-- The completion of a title task, with the revision it expects. -/
def Op.expects : Op → Option ℕ
  | .completed _ expectedRevision _ => some expectedRevision
  | .input _ (.command (.applyGeneratedTitle expectedRevision _)) => some expectedRevision
  | _ => none

/-! ### One operation -/

/-- What one operation does to the title of a row. -/
inductive TitleChange (op : Op) (row row' : SessionRecord) : Prop where
  | kept (h : SameTitle row row')
  | renamed (hop : op.isRename = true) (hsource : row'.titleSource = .manual)
    (hrevision : row'.titleRevision = row.titleRevision + 1)
  | generated (hop : op.expects = some row.titleRevision) (hbefore : row.titleSource ≠ .manual)
    (hsource : row'.titleSource = .generated)
    (hrevision : row'.titleRevision = row.titleRevision + 1)

/-- The live actor is in order, and has the title of the row. -/
structure Held (id : SessionId) (store : SessionStore) (a : SessionActor) : Prop where
  key : a.record.id = id
  known : id.value < store.nextId
  agrees : Agreement a.record a.stream.projection a.harness
  pending : ∀ record, a.dirty = some record → record = a.record
  titles : ∀ row, store.rows.lookup id = some row → SameTitle a.record row
  row : a.deleting = false → ∃ row, store.rows.lookup id = some row

/-- The invariant of the life of a session. -/
structure Inv (id : SessionId) (w : State) : Prop where
  store : w.store.InOrder
  actor : ∀ a, w.actor = some a → Held id w.store a

/-- An operation keeps the invariant, and every row it leaves was there with a title
that it may change, or the session is new. -/
structure Good (id : SessionId) (op : Op) (w w' : State) : Prop where
  inv : Inv id w'
  nextId : w.store.nextId ≤ w'.store.nextId
  change : ∀ row', w'.row id = some row' →
    (∃ row, w.row id = some row ∧ TitleChange op row row') ∨ w.store.nextId ≤ id.value

variable {id : SessionId} {w w' : State} {op : Op}

theorem Good.refl (hw : Inv id w) : Good id op w w :=
  ⟨hw, le_rfl, fun row hrow => .inl ⟨row, hrow, .kept (.refl row)⟩⟩

/-- The store changes, but not the title of the session. -/
theorem Held.congr {store store' : SessionStore} {a : SessionActor} (h : Held id store a)
    (hnext : store.nextId ≤ store'.nextId)
    (hrow : store'.rows.lookup id = store.rows.lookup id) : Held id store' a :=
  ⟨h.key, h.known.trans_le hnext, h.agrees, h.pending, fun row hl => h.titles row (hrow ▸ hl),
    fun hd => hrow ▸ h.row hd⟩

/-- **What an input does:** the actor keeps the invariant, and changes the title by the
two commands alone. -/
theorem good_deliver (hw : Inv id w) (env : Env) (input : ActorInput)
    (hrename : ∀ title, input = .command (.rename title) → op.isRename = true)
    (hexpects : ∀ expectedRevision generated,
      input = .command (.applyGeneratedTitle expectedRevision generated) →
        op.expects = some expectedRevision) : Good id op w (w.deliver env input) := by
  unfold State.deliver
  cases hactor : w.actor with
  | none => exact .refl hw
  | some a =>
    have hheld := hw.actor a hactor
    have hagrees : (w.session a).Agrees := hheld.agrees
    have heffects := Session.step_effects hagrees (env, input)
    have hframe := Core.frame_effects (c := (w.session a).core) hheld.pending heffects
    have hentitled := Core.Entitled.effects (c := (w.session a).core)
      ⟨hheld.pending, fun row hrow => hheld.titles row (hheld.key ▸ hrow)⟩ heffects
    have hagrees' := Core.Agrees.effects (c := (w.session a).core) hagrees heffects
    have hid : ((w.session a).step (env, input)).record.id = id :=
      hframe.session.id.trans hheld.key
    have hstore : SessionStore.Frame id w.store ((w.session a).step (env, input)).store := by
      have h := hframe.store
      rwa [show (w.session a).core.record.id = id from hheld.key] at h
    have htitles : ∀ row, ((w.session a).step (env, input)).store.rows.lookup id = some row →
        SameTitle ((w.session a).step (env, input)).record row := by
      intro row hrow
      rw [← hid] at hrow
      exact hentitled.row row hrow
    refine ⟨⟨hw.store.evolves hstore.evolves, fun a' ha' => ?_⟩, hstore.nextId.ge,
      fun row' hrow' => ?_⟩
    · obtain ⟨-, rfl⟩ : _ ∧ ((w.session a).step (env, input)).toSessionActor = a' := by
        simpa [settle] using ha'
      refine ⟨hid, hheld.known.trans_le hstore.nextId.ge, hagrees', hentitled.pending, htitles,
        fun hd => ?_⟩
      have hbefore : a.deleting = false := by
        by_contra hdeleting
        have hmono := hframe.deleting (Bool.not_eq_false _ ▸ hdeleting : a.deleting = true)
        rw [show ((w.session a).step (env, input)).core.deleting = false from hd] at hmono
        exact absurd hmono (by simp)
      obtain ⟨row, hrow⟩ := hheld.row hbefore
      have hsome := hstore.isSome id
      rw [hrow] at hsome
      exact Option.isSome_iff_exists.1 hsome
    · have hrow' : ((w.session a).step (env, input)).store.rows.lookup id = some row' := hrow'
      have hsome := hstore.isSome id
      rw [hrow'] at hsome
      obtain ⟨row, hrow⟩ := Option.isSome_iff_exists.1 hsome.symm
      have hsame := hheld.titles row hrow
      have hsame' := htitles row' hrow'
      have hlookup : (w.session a).store.rows.lookup (w.session a).record.id = some row := by
        rw [show (w.session a).record.id = id from hheld.key]
        exact hrow
      refine .inl ⟨row, hrow, ?_⟩
      by_cases hretitles : input.retitles = true
      · cases input with
        | command command =>
          cases command with
          | rename title =>
            rcases Session.rename_title (w.session a) env title with
              hkept | ⟨row₁, hrow₁, hsource, hrevision⟩
            · exact .kept ((hsame.symm.trans hkept).trans hsame')
            · obtain rfl := Option.some.inj (hlookup.symm.trans hrow₁)
              exact .renamed (hrename title rfl) (hsame'.source.trans hsource)
                (hsame'.revision.trans hrevision)
          | applyGeneratedTitle expectedRevision generated =>
            rcases Session.applyGeneratedTitle_title (w.session a) env expectedRevision generated with
              hkept | ⟨row₁, hrow₁, hbefore, hexpected, hsource, hrevision⟩
            · exact .kept ((hsame.symm.trans hkept).trans hsame')
            · obtain rfl := Option.some.inj (hlookup.symm.trans hrow₁)
              refine .generated ?_ hbefore (hsame'.source.trans hsource)
                (hsame'.revision.trans hrevision)
              rw [hexpected]
              exact hexpects expectedRevision generated rfl
          | _ => simp [ActorInput.retitles, SessionCommand.retitles] at hretitles
        | _ => simp [ActorInput.retitles] at hretitles
      · have hkept := Session.step_sameTitle (w.session a) env (Bool.eq_false_iff.2 hretitles)
        exact .kept ((hsame.symm.trans hkept).trans hsame')

/-! ### The operations without the actor -/

/-- A call that targets another session leaves the row alone. -/
theorem call_elsewhere (fault : Option SessionStoreError) {store : SessionStore}
    {call : RepositoryCall} (h : call.target store ≠ some id) :
    store.Evolves (call.run fault store) ∧
      (call.run fault store).rows.lookup id = store.rows.lookup id := by
  have hframe : ∀ {i : SessionId} {store' : SessionStore}, i ≠ id → SessionStore.Frame i store store' →
      store.Evolves store' ∧ store'.rows.lookup id = store.rows.lookup id :=
    fun hi hf => ⟨hf.evolves, hf.others id (Ne.symm hi)⟩
  cases call with
  | materialize request =>
    rw [RepositoryCall.run]
    cases hm : store.materialize fault request with
    | mk result next =>
      cases result with
      | error error =>
        obtain rfl := SessionStore.attempt_eq_error hm
        exact ⟨(SessionStore.Frame.refl id _).evolves, rfl⟩
      | ok record =>
        obtain ⟨rfl, rfl⟩ := SessionStore.materialize_eq_ok hm
        have hne : id ≠ ⟨store.nextId⟩ := fun he => h (congrArg some he.symm)
        exact ⟨SessionStore.evolves_insert store request, AList.lookup_insert_ne hne⟩
  | load i => exact hframe (fun hi => h (congrArg some hi)) (SessionStore.frame_load i store fault)
  | list scope =>
    rw [RepositoryCall.run]
    rw [SessionStore.list_snd]
    exact ⟨(SessionStore.Frame.refl id _).evolves, rfl⟩
  | rename i title =>
    exact hframe (fun hi => h (congrArg some hi)) (SessionStore.frame_rename i title store fault)
  | compareAndSetGeneratedTitle i expectedRevision title =>
    rw [RepositoryCall.run]
    refine hframe (fun hi => h (congrArg some hi)) (?_ : SessionStore.Frame i store _)
    cases hs : store.compareAndSetGeneratedTitle fault i expectedRevision title with
    | mk result next =>
      cases result with
      | error error =>
        obtain rfl := SessionStore.attempt_eq_error hs
        exact .refl _ _
      | ok persisted =>
        rcases SessionStore.compareAndSetGeneratedTitle_eq_ok hs with ⟨-, rfl⟩ | ⟨record, -, hr⟩
        · exact .refl _ _
        · exact SessionStore.frame_retitled hr
  | delete i =>
    rw [RepositoryCall.run]
    cases hd : store.delete fault i with
    | mk result next =>
      cases result with
      | error error =>
        obtain rfl := SessionStore.attempt_eq_error hd
        exact ⟨(SessionStore.Frame.refl id _).evolves, rfl⟩
      | ok u =>
        obtain rfl := SessionStore.delete_eq_ok hd
        have hne : id ≠ i := fun he => h (congrArg some he.symm)
        exact ⟨SessionStore.evolves_erase store i, AList.lookup_erase_ne hne⟩
  | checkpoint record =>
    exact hframe (fun hi => h (congrArg some hi)) (SessionStore.frame_checkpoint store fault record)
  | updateMetadata record =>
    exact hframe (fun hi => h (congrArg some hi))
      (SessionStore.frame_updateMetadata store fault record)

/-- Another session's call. -/
theorem good_elsewhere (hw : Inv id w) (fault : Option SessionStoreError) (call : RepositoryCall) :
    Good id op w (step id w (.elsewhere fault call)) := by
  rw [step]
  split_ifs with h
  · exact .refl hw
  · obtain ⟨hevolves, hrow⟩ := call_elsewhere fault h
    refine ⟨⟨hw.store.evolves hevolves, fun a ha => (hw.actor a ha).congr hevolves.nextId hrow⟩,
      hevolves.nextId, fun row' hrow' => .inl ⟨row', ?_, .kept (.refl _)⟩⟩
    rw [State.row, ← hrow]
    exact hrow'

/-- The row is deleted. -/
theorem good_delete (hw : Inv id w) (fault : Option SessionStoreError)
    (hprepared : ∀ a, w.actor = some a → a.deleting = true) :
    Good id op w { w with store := (w.store.delete fault id).2 } := by
  cases hd : w.store.delete fault id with
  | mk result next =>
    cases result with
    | error error =>
      obtain rfl := SessionStore.attempt_eq_error hd
      exact .refl hw
    | ok u =>
      obtain rfl := SessionStore.delete_eq_ok hd
      have hgone : (w.store.rows.erase id).lookup id = none := AList.lookup_erase ..
      refine ⟨⟨hw.store.evolves (SessionStore.evolves_erase _ id), fun a ha => ?_⟩, le_rfl,
        fun row' hrow' => ?_⟩
      · have hheld := hw.actor a ha
        refine ⟨hheld.key, hheld.known, hheld.agrees, hheld.pending, fun row hrow => ?_, fun hd => ?_⟩
        · cases hgone.symm.trans hrow
        · rw [hprepared a ha] at hd
          cases hd
      · cases hgone.symm.trans hrow'

/-- A rename without an actor. -/
theorem good_rename (hw : Inv id w) (hactor : w.actor = none) (env : Env) (title : SessionTitle) :
    Good id (.rename env title) w { w with store := (w.store.rename env.fault id title).2 } := by
  have hframe := SessionStore.frame_rename id title w.store env.fault
  refine ⟨⟨hw.store.evolves hframe.evolves, fun a ha => ?_⟩, hframe.nextId.ge, fun row' hrow' => ?_⟩
  · cases hactor.symm.trans ha
  · cases hr : w.store.rename env.fault id title with
    | mk result next =>
      rw [State.row, hr] at hrow'
      cases result with
      | error error =>
        obtain rfl := SessionStore.attempt_eq_error hr
        exact .inl ⟨row', hrow', .kept (.refl _)⟩
      | ok persisted =>
        obtain ⟨⟨⟨row, hrow, hpersisted⟩, rfl⟩, -, hsource⟩ := SessionStore.rename_eq_ok hr
        rw [SessionStore.lookup_setRow] at hrow'
        obtain rfl := Option.some.inj hrow'
        have hrevision := congrArg SessionRecord.titleRevision hpersisted
        exact .inl ⟨row, hrow, .renamed rfl hsource hrevision⟩

/-- A new actor that starts from the row of its session. -/
theorem held_of_spawned {s : Session} (hs : Spawned s) (hkey : s.record.id = id)
    (hknown : id.value < s.store.nextId) (hrow : s.store.rows.lookup id = some s.record) :
    Held id s.store s.toSessionActor := by
  refine ⟨hkey, hknown, Session.agrees_of_spawned hs, fun record hd => ?_, fun row hl => ?_,
    fun _ => ⟨_, hrow⟩⟩
  · cases hs with
    | loaded hturns => cases hd
    | materialized hlast hstart =>
      obtain ⟨runId, h, -, -, -, rfl⟩ := Session.spawnMaterialized_eq_ok hstart
      cases hd
  · obtain rfl := Option.some.inj (hrow.symm.trans hl)
    exact .refl _

/-- An actor in order that goes on, or is gone. -/
theorem inv_settle {s : Session} (hstore : s.store.InOrder)
    (hheld : Held id s.store s.toSessionActor) : Inv id (settle s) := by
  refine ⟨hstore, fun a ha => ?_⟩
  obtain ⟨-, rfl⟩ : _ ∧ s.toSessionActor = a := by simpa [settle] using ha
  exact hheld

/-- The session is loaded. -/
theorem good_opened (hw : Inv id w) (fault : Option SessionStoreError)
    (create : Except RunFailure Unit) (catalog : ModelCatalogState) :
    Good id op w (step id w (.opened fault create catalog)) := by
  obtain ⟨store, activity, _ | a⟩ := w
  · cases hl : store.load fault id with
    | mk result next =>
      cases result with
      | error error =>
        obtain rfl := SessionStore.attempt_eq_error hl
        simp only [step, hl]
        exact .refl hw
      | ok record =>
        have hframe := SessionStore.frame_load id store fault
        rw [hl] at hframe
        obtain ⟨hnext, hturns, row, hrow, hrecord⟩ := SessionStore.load_eq_ok hl
        have hinorder : next.InOrder := hw.store.evolves hframe.evolves
        have hsame : SameTitle row record := by
          rcases hrecord with ⟨-, rfl⟩ | ⟨-, rfl⟩
          · exact .refl _
          · exact ⟨rfl, rfl, rfl⟩
        have hchange : ∀ row', next.rows.lookup id = some row' →
            (∃ row, store.rows.lookup id = some row ∧ TitleChange op row row') ∨
              store.nextId ≤ id.value := by
          intro row' hrow'
          obtain rfl := Option.some.inj (hnext.symm.trans hrow')
          exact .inl ⟨row, hrow, .kept hsame⟩
        cases create with
        | error failure =>
          simp only [step, hl]
          exact ⟨⟨hinorder, fun a ha => absurd ha (by simp)⟩, hframe.nextId.ge, hchange⟩
        | ok u =>
          simp only [step, hl]
          obtain ⟨hkey, hknown⟩ := hinorder id record hnext
          have hspawned : Spawned (.spawn next record (.fromRecord record catalog) activity) :=
            .loaded hturns
          have hheld := held_of_spawned hspawned hkey hknown hnext
          exact ⟨inv_settle hinorder hheld, hframe.nextId.ge, hchange⟩
  · exact .refl hw

/-- What is left of a session that did not start. -/
theorem persistFailed_evolves (store : SessionStore)
    (checkpointFault compensateFault : Option SessionStoreError) (record : SessionRecord) :
    store.Evolves (persistFailed store checkpointFault compensateFault record) := by
  have hframe := store.frame_checkpoint checkpointFault record
  unfold persistFailed
  cases hc : store.checkpoint checkpointFault record with
  | mk result next =>
    rw [hc] at hframe
    cases result with
    | ok u => exact hframe.evolves
    | error error =>
      obtain rfl := SessionStore.attempt_eq_error hc
      cases hd : next.delete compensateFault record.id with
      | mk result' next' =>
        cases result' with
        | error error' =>
          obtain rfl := SessionStore.attempt_eq_error hd
          simp only [hd]
          exact (SessionStore.Frame.refl record.id _).evolves
        | ok u =>
          obtain rfl := SessionStore.delete_eq_ok hd
          simp only [hd]
          exact SessionStore.evolves_erase ..

/-- The session is created. -/
theorem good_materialized (hw : Inv id w) (fault : Option SessionStoreError)
    (request : MaterializeSession) (create : Except RunFailure Unit) (catalog : ModelCatalogState)
    (checkpointFault compensateFault : Option SessionStoreError) :
    Good id op w (step id w
      (.materialized fault request create catalog checkpointFault compensateFault)) := by
  rw [step]
  split_ifs with hid
  · exact .refl hw
  · obtain rfl : id = ⟨w.store.nextId⟩ := not_not.1 hid
    have hactor : ∀ a, w.actor ≠ some a := fun a ha => absurd (hw.actor a ha).known (lt_irrefl _)
    cases hm : w.store.materialize fault request with
    | mk result next =>
      cases result with
      | error error =>
        obtain rfl := SessionStore.attempt_eq_error hm
        exact .refl hw
      | ok record =>
        obtain ⟨hrecord, rfl⟩ := SessionStore.materialize_eq_ok hm
        have hevolves := SessionStore.evolves_insert w.store request
        rw [← hrecord] at hevolves
        have hinorder := hw.store.evolves hevolves
        simp only
        cases hstart : start { rows := w.store.rows.insert ⟨w.store.nextId⟩ record
                               nextId := w.store.nextId + 1 }
            w.activity request create catalog record with
        | error failure =>
          have hfailed := persistFailed_evolves
            { rows := w.store.rows.insert ⟨w.store.nextId⟩ record, nextId := w.store.nextId + 1 }
            checkpointFault compensateFault
            (failedMaterialization record request.prompt request.runId failure)
          exact ⟨⟨hinorder.evolves hfailed, fun a ha => absurd ha (hactor a)⟩,
            hevolves.nextId.trans hfailed.nextId, fun _ _ => .inr le_rfl⟩
        | ok s =>
          have hspawn : Session.spawnMaterialized
              { rows := w.store.rows.insert ⟨w.store.nextId⟩ record, nextId := w.store.nextId + 1 }
              record (.fromRecord record catalog) request.prompt w.activity = .ok s := by
            unfold start at hstart
            cases create with
            | error failure => cases hstart
            | ok u =>
              simp only at hstart
              split at hstart
              · cases hstart
              · rename_i hspawn
                rw [hspawn, Except.ok.inj hstart]
          have hspawned : Spawned s := .materialized (by simp [hrecord,
            SessionStore.materializedRecord]) hspawn
          obtain ⟨runId, h, -, -, -, rfl⟩ := Session.spawnMaterialized_eq_ok hspawn
          have hkey : record.id = ⟨w.store.nextId⟩ := congrArg SessionRecord.id hrecord
          have hheld := held_of_spawned hspawned hkey (Nat.lt_succ_self _) (AList.lookup_insert _)
          exact ⟨inv_settle hinorder hheld, Nat.le_succ _, fun _ _ => .inr le_rfl⟩

/-- **Every operation is good.** -/
theorem good_step (hw : Inv id w) (op : Op) : Good id op w (step id w op) := by
  cases op with
  | rename env title =>
    obtain ⟨store, activity, _ | a⟩ := w
    · exact good_rename hw rfl env title
    · rw [step]
      exact good_deliver hw env _ (fun _ _ => rfl) nofun
  | completed env expectedRevision generated =>
    rw [step]
    refine good_deliver hw env _ nofun fun e g he => ?_
    cases he
    rfl
  | input env input =>
    rw [step]
    refine good_deliver hw env input ?_ ?_
    · rintro title rfl
      rfl
    · rintro expectedRevision generated rfl
      rfl
  | opened fault create catalog => exact good_opened hw fault create catalog
  | materialized fault request create catalog checkpointFault compensateFault =>
    exact good_materialized hw fault request create catalog checkpointFault compensateFault
  | deleted fault =>
    obtain ⟨store, activity, _ | a⟩ := w
    · exact good_delete hw fault fun a ha => absurd ha (by simp)
    · simp only [step]
      split_ifs with hdeleting
      · refine good_delete hw fault fun a' ha' => ?_
        obtain rfl := Option.some.inj ha'
        exact hdeleting
      · exact .refl hw
  | elsewhere fault call => exact good_elsewhere hw fault call

/-! ### Every run -/

theorem inv_of_run (hw : Inv id w) (ops : List Op) : Inv id (Run.run (step id) w ops) :=
  Run.run_invariant (I := Inv id) (fun _ op hw => (good_step hw op).inv) hw ops

theorem nextId_le_of_run (hw : Inv id w) (ops : List Op) :
    w.store.nextId ≤ (Run.run (step id) w ops).store.nextId := by
  induction ops generalizing w with
  | nil => exact le_rfl
  | cons op ops ih => exact (good_step hw op).nextId.trans (ih (good_step hw op).inv)

/-- A change keeps the title, or moves its revision on. -/
theorem TitleChange.sameTitle {row row' : SessionRecord} (h : TitleChange op row row') :
    SameTitle row row' ∨ row'.titleRevision = row.titleRevision + 1 := by
  cases h with
  | kept h => exact .inl h
  | renamed _ _ hrevision => exact .inr hrevision
  | generated _ _ _ hrevision => exact .inr hrevision

/-- A row that is there after a known session's operation was there before it. -/
theorem Good.row (hg : Good id op w w') (hknown : id.value < w.store.nextId) {row' : SessionRecord}
    (hrow' : w'.row id = some row') : ∃ row, w.row id = some row ∧ TitleChange op row row' :=
  (hg.change row' hrow').resolve_right (Nat.not_le.2 hknown)

/-- **Over a run the revision only grows,** and while it stays the title does. -/
theorem revision_le_of_run (hw : Inv id w) (hknown : id.value < w.store.nextId) {ops : List Op}
    {row' : SessionRecord} (hrow' : (Run.run (step id) w ops).row id = some row') :
    ∃ row, w.row id = some row ∧ row.titleRevision ≤ row'.titleRevision ∧
      (row.titleRevision = row'.titleRevision → SameTitle row row') := by
  induction ops generalizing w with
  | nil => exact ⟨row', hrow', le_rfl, fun _ => .refl _⟩
  | cons op ops ih =>
    have hg := good_step hw op
    obtain ⟨row₁, hrow₁, hle, hsame⟩ := ih hg.inv (hknown.trans_le hg.nextId) hrow'
    obtain ⟨row, hrow, hchange⟩ := hg.row hknown hrow₁
    rcases hchange.sameTitle with hkept | hrevision
    · have hrevision := hkept.revision
      exact ⟨row, hrow, by omega, fun he => hkept.trans (hsame (by omega))⟩
    · exact ⟨row, hrow, by omega, fun he => absurd he (by omega)⟩

/-- A session that has a row is known. -/
theorem Inv.known (hw : Inv id w) {row : SessionRecord} (hrow : w.row id = some row) :
    id.value < w.store.nextId :=
  (hw.store id row hrow).2

/-- What is promised of one operation follows from what it does to the title. -/
theorem TitleChange.precedence {row row' : SessionRecord} (hchange : TitleChange op row row') :
    row.titleRevision ≤ row'.titleRevision ∧
      (row'.title ≠ row.title → row.titleRevision < row'.titleRevision) ∧
      (row.titleSource = .manual → row'.titleSource = .manual ∧
        (row'.title ≠ row.title → op.isRename = true)) ∧
      (¬SameTitle row row' → op.isRename = false →
        op.expects = some row.titleRevision ∧ row'.titleSource = .generated) := by
  cases hchange with
  | kept hkept =>
    exact ⟨hkept.revision.ge, fun hne => absurd hkept.title hne,
      fun hmanual => ⟨hkept.source.trans hmanual, fun hne => absurd hkept.title hne⟩,
      fun hne => absurd hkept hne⟩
  | renamed hop hsource hrevision =>
    refine ⟨by omega, fun _ => by omega, fun _ => ⟨hsource, fun _ => hop⟩, fun _ hother => ?_⟩
    rw [hop] at hother
    cases hother
  | generated hop hbefore hsource hrevision =>
    exact ⟨by omega, fun _ => by omega, fun hmanual => absurd hmanual hbefore,
      fun _ _ => ⟨hop, hsource⟩⟩

/-- A title that has its revision at the end of a run had it all along. -/
theorem sameTitle_between (hw : Inv id w) {row₀ row : SessionRecord} (hrow₀ : w.row id = some row₀)
    {before after : List Op} (hrow : (Run.run (step id) w (before ++ after)).row id = some row)
    (hsame : row₀.titleRevision = row.titleRevision) :
    ∃ row₁, (Run.run (step id) w before).row id = some row₁ ∧ SameTitle row₀ row₁ := by
  rw [Run.run_append] at hrow
  have hmiddle := inv_of_run hw before
  have hknown := (hw.known hrow₀).trans_le (nextId_le_of_run hw before)
  obtain ⟨row₁, hrow₁, hle₁, -⟩ := revision_le_of_run hmiddle hknown hrow
  obtain ⟨row', hrow', hle', hsame'⟩ := revision_le_of_run hw (hw.known hrow₀) hrow₁
  obtain rfl := Option.some.inj (hrow₀.symm.trans hrow')
  exact ⟨row₁, hrow₁, hsame' (by omega)⟩

/-- **Title precedence.** In every state that is reached, whatever fails, the record of
the live actor and its projection have one title, which is that of the row, and the row
is there until deletion begins.  An operation never lowers the revision and raises it
when it changes the title; it changes a manual title only by a rename, and puts a generated
title in place of a title only at the revision its task expects.  If that was the
revision when the task was dispatched, the title has been the same ever since. -/
theorem title_precedence (id : SessionId) (store : SessionStore) (hstore : store.InOrder)
    (activity : ActivityTracker) (ops : List Op) :
    let w := Run.run (step id) ⟨store, activity, none⟩ ops
    (∀ a, w.actor = some a →
      a.record.title = a.stream.projection.summary.title ∧
      a.record.titleRevision = a.stream.projection.summary.titleRevision ∧
      (∀ row, w.row id = some row → SameTitle a.record row) ∧
      (a.deleting = false → ∃ row, w.row id = some row)) ∧
    (∀ op row row', w.row id = some row → (step id w op).row id = some row' →
      row.titleRevision ≤ row'.titleRevision ∧
      (row'.title ≠ row.title → row.titleRevision < row'.titleRevision) ∧
      (row.titleSource = .manual → row'.titleSource = .manual ∧
        (row'.title ≠ row.title → op.isRename = true)) ∧
      (¬SameTitle row row' → op.isRename = false →
        op.expects = some row.titleRevision ∧ row'.titleSource = .generated)) ∧
    ∀ later op row₀ row row', w.row id = some row₀ →
      (Run.run (step id) w later).row id = some row →
      (step id (Run.run (step id) w later) op).row id = some row' →
      ¬SameTitle row row' → op.isRename = false → op.expects = some row₀.titleRevision →
      ∀ before after, later = before ++ after →
        ∃ row₁, (Run.run (step id) w before).row id = some row₁ ∧ SameTitle row₀ row₁ := by
  intro w
  have hw : Inv id w := inv_of_run (w := ⟨store, activity, none⟩)
    ⟨hstore, fun a ha => absurd ha (by simp)⟩ ops
  refine ⟨fun a ha => ?_, fun op row row' hrow hrow' => ?_, ?_⟩
  · have hheld := hw.actor a ha
    exact ⟨hheld.agrees.title, hheld.agrees.titleRevision, hheld.titles, hheld.row⟩
  · obtain ⟨row₁, hrow₁, hchange⟩ := (good_step hw op).row (hw.known hrow) hrow'
    obtain rfl := Option.some.inj (hrow.symm.trans hrow₁)
    exact hchange.precedence
  · intro later op row₀ row row' hrow₀ hrow hrow' hne hother hexpects before after hlater
    have hv := inv_of_run hw later
    obtain ⟨row₁, hrow₁, hchange⟩ := (good_step hv op).row (hv.known hrow) hrow'
    obtain rfl := Option.some.inj (hrow.symm.trans hrow₁)
    -- the completion found the revision it expects, so it stayed the same all along
    have hsame : row₀.titleRevision = row.titleRevision := by
      cases hchange with
      | kept hkept => exact absurd hkept hne
      | renamed hop _ _ =>
        rw [hop] at hother
        cases hother
      | generated hop _ _ _ => exact Option.some.inj (hexpects.symm.trans hop)
    rw [hlater] at hrow
    exact sameTitle_between hw hrow₀ hrow hsame

/-- `title_precedence` on a rename of an actor that was just loaded. -/
theorem title_precedence_rename :
    let w := Run.run (step ⟨1⟩) ⟨SessionManager.oneSession, .new, none⟩
      [.opened none (.ok ()) .loading]
    ∃ row row', w.row ⟨1⟩ = some row ∧
      (step ⟨1⟩ w (.rename Session.quietEnv ⟨"Mine", by decide⟩)).row ⟨1⟩ = some row' ∧
      row'.title.text = "Mine" ∧ row.titleRevision < row'.titleRevision :=
  ⟨_, _, rfl, rfl, rfl, ((title_precedence ⟨1⟩ SessionManager.oneSession
    SessionManager.inOrder_oneSession .new [.opened none (.ok ()) .loading]).2.1
    (.rename Session.quietEnv ⟨"Mine", by decide⟩) _ _ rfl rfl).2.1 (by decide)⟩

end Titles
end Moh
