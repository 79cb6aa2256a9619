/-
# What the tools share

The state a tool call of one session works on: the file system and the anchor
store, which it shares with everything else on the machine, and the session's own
observations.  A call is a procedure on that state.  What can fail is an input of
the call, and so is `Drift`, the changes that others make to the file system and
the store between two of its steps.
-/

import Moh.Library.Fallible
import Moh.Tools.Observations

namespace Moh
namespace Tools

open Fallible

/-- `AnchorStore`: the table `snapshots`, by canonical path. -/
structure AnchorStore where
  rows : PathBuf → Option AnchorSnapshot

/-- What the calls of a session have done, as far as statements about them need
it: observations recorded and forgotten, and files replaced and created. -/
inductive ToolEvent where
  | recorded (requestedPath canonicalPath : PathBuf) (bytes : List UInt8)
  | forgot (canonicalPath : PathBuf)
  /-- The file at the place had the bytes `before` at the final check. -/
  | replaced (place : PathBuf) (before after : List UInt8)
  /-- The file that the rename replaced, if there was one, had the bytes `before`. -/
  | created (place : PathBuf) (before : Option (List UInt8)) (after : List UInt8)
deriving DecidableEq

/-- What a tool call reads and changes.  The log is history, newest last: no step
reads it. -/
structure ToolState where
  fs : FileSystem
  anchors : AnchorStore
  observations : FileObservations
  log : List ToolEvent := []

/-- Where the code panics. -/
inductive PanicSite where
  /-- `unreachable!` in `allocate_one`. -/
  | allocate
  /-- The range of `splice` in `edit`. -/
  | splice
deriving DecidableEq, Repr

/-- How a call ends that returns no value. -/
inductive Abort (ε : Type) where
  | error (e : ε)
  | panicked (site : PanicSite)
deriving DecidableEq, Repr

/-- `map_err`: a panic passes through. -/
def Abort.map (f : ε → ε') : Abort ε → Abort ε'
  | .error e => .error (f e)
  | .panicked site => .panicked site

/-- A step of a tool. -/
abbrev Tool (ε α : Type) := Proc ToolState (Abort ε) α

/-- What others do to the file system and to the store between two steps. -/
structure Drift where
  fs : FileSystem → FileSystem := id
  anchors : AnchorStore → AnchorStore := id

/-- Others change the file system only. -/
def Drift.ofFs (fs : FileSystem → FileSystem) : Drift := { fs }

@[simp] theorem Drift.ofFs_id : Drift.ofFs id = {} := rfl

/-- The state after the changes of others. -/
def Drift.apply (d : Drift) (s : ToolState) : ToolState :=
  { s with fs := d.fs s.fs, anchors := d.anchors s.anchors }

@[simp] theorem Drift.apply_none (s : ToolState) : ({} : Drift).apply s = s := rfl

/-- The changes of others respect `P`. -/
def Drift.Keeps (P : ToolState → Prop) (d : Drift) : Prop :=
  ∀ s, P s → P (d.apply s)

/-- Where nobody else changes anything, everything is respected. -/
theorem Drift.keeps_of_none {P : ToolState → Prop} {drifts : List Drift}
    (h : ∀ d ∈ drifts, d = {}) : ∀ d ∈ drifts, d.Keeps P := by
  intro d hd s hs
  rwa [h d hd, Drift.apply_none]

namespace Tool

variable {ε ε' α : Type}

/-- `return Err(..)`. -/
def fail (e : ε) : Tool ε α := Proc.fail (.error e)

/-- A step that fails when its input says so. -/
def check (failed : Bool) (e : ε) : Tool ε Unit :=
  if failed then fail e else pure ()

/-- A result with an error of its own. -/
def ofExcept (x : Except ε' α) (f : ε' → ε) : Tool ε α :=
  match x with
  | .ok a => pure a
  | .error e => fail (f e)

/-- `map_err`. -/
def mapErr (f : ε → ε') (x : Tool ε α) : Tool ε' α :=
  Proc.mapError (Abort.map f) x

/-- Others change the file system and the store. -/
def drift (d : Drift) : Tool ε Unit :=
  Proc.modify d.apply

/-- The state. -/
def state : Tool ε ToolState := Proc.get

/-- The file system after a change of this call. -/
def setFs (fs : FileSystem) : Tool ε Unit :=
  Proc.modify fun s => { s with fs }

/-- The file system after this call has put a file to a place. -/
def setFile (fs : FileSystem) (event : ToolEvent) : Tool ε Unit :=
  Proc.modify fun s => { s with fs, log := s.log ++ [event] }

/-- `FileObservations::get` under the lock. -/
def observed (poisoned : Bool) (e : ε) (path : PathBuf) : Tool ε (Option FileObservation) := do
  check poisoned e
  let s ← state
  pure (s.observations.get path)

/-- `FileObservations::record` under the lock. -/
def recordObservation (H : Hashing) (poisoned : Bool) (e : ε) (requestedPath canonicalPath : PathBuf)
    (bytes : List UInt8) : Tool ε Unit := do
  check poisoned e
  Proc.modify fun s =>
    { s with
      observations := s.observations.record H requestedPath canonicalPath bytes
      log := s.log ++ [.recorded requestedPath canonicalPath bytes] }

/-- `FileObservations::forget` under the lock. -/
def forgetObservation (poisoned : Bool) (e : ε) (observation : FileObservation) : Tool ε Unit := do
  check poisoned e
  Proc.modify fun s =>
    { s with
      observations := s.observations.forget observation
      log := s.log ++ [.forgot observation.canonicalPath] }

/-- `AnchorStore::load`: `failed` is a database that cannot be opened or read. -/
def loadAnchors (failed : Bool) (e : ε) (canonicalPath : PathBuf) :
    Tool ε (Option AnchorSnapshot) := do
  check failed e
  let s ← state
  match s.anchors.rows canonicalPath with
  | none => pure none
  | some row =>
    match validateSnapshot row true with
    | .ok () => pure (some row)
    | .error _ => fail e

/-- `AnchorStore::save`. -/
def saveAnchors (failed : Bool) (e : ε) (canonicalPath : PathBuf) (snapshot : AnchorSnapshot) :
    Tool ε Unit := do
  let () ← ofExcept (validateSnapshot snapshot false) fun _ => e
  check failed e
  Proc.modify fun s =>
    { s with anchors := ⟨Function.update s.anchors.rows canonicalPath (some snapshot)⟩ }

/-! ### Evaluation -/

section
variable {s : ToolState} {e : ε} {d : Drift}

@[simp] theorem fail_apply : (fail e : Tool ε α) s = (.error (.error e), s) := rfl

@[simp] theorem check_false : (check false e) s = (.ok (), s) := rfl

@[simp] theorem check_true : (check true e) s = (.error (.error e), s) := rfl

@[simp] theorem ofExcept_ok {f : ε' → ε} {a : α} : ofExcept (.ok a) f s = (.ok a, s) := rfl

@[simp] theorem ofExcept_error {f : ε' → ε} {e' : ε'} :
    (ofExcept (.error e') f : Tool ε α) s = (.error (.error (f e')), s) := rfl

@[simp] theorem drift_apply : (drift d : Tool ε Unit) s = (.ok (), d.apply s) := rfl

@[simp] theorem state_apply : (state : Tool ε ToolState) s = (.ok s, s) := rfl

@[simp] theorem setFs_apply {fs : FileSystem} :
    (setFs fs : Tool ε Unit) s = (.ok (), { s with fs }) := rfl

@[simp] theorem setFile_apply {fs : FileSystem} {event : ToolEvent} :
    (setFile fs event : Tool ε Unit) s = (.ok (), { s with fs, log := s.log ++ [event] }) := rfl

end

/-- The call returns an error; a panic is none. -/
def Fails (x : Tool ε α) (s : ToolState) : Prop :=
  ∃ e, (x s).1 = .error (.error e)

section
variable {s t : ToolState} {x : Tool ε α} {f : α → Tool ε β} {a : α} {e : ε}

@[simp] theorem not_fails_pure : ¬Fails (pure a : Tool ε α) s := by simp [Fails]

@[simp] theorem fails_fail : Fails (fail e : Tool ε α) s := ⟨e, rfl⟩

theorem fails_bind_of_ok (h : x s = (.ok a, t)) : Fails (x >>= f) s ↔ Fails (f a) t := by
  unfold Fails
  rw [Proc.bind_of_ok h]

theorem Fails.bind (h : Fails x s) : Fails (x >>= f) s := by
  obtain ⟨e, he⟩ := h
  rcases hx : x s with ⟨r, t⟩
  rw [hx] at he
  obtain rfl := he
  exact ⟨e, by rw [Proc.bind_of_error hx]⟩

theorem fails_mapErr {g : ε → ε'} : Fails (mapErr g x) s ↔ Fails x s := by
  unfold Fails mapErr Proc.mapError
  rcases hx : x s with ⟨_ | a, t⟩
  · rename_i abort
    cases abort <;> simp [Abort.map]
  · simp

end

/-! ### What a call preserves -/

/-- However the step ends, `P` holds then if it held before; it panics only where
`S` allows it. -/
def Preserves (S : PanicSite → Prop) (P : ToolState → Prop) (x : Tool ε α) : Prop :=
  Proc.Triple P x (fun _ => P) fun e s => P s ∧ ∀ site, e = .panicked site → S site

/-- What a step that only has to preserve `P` when it fails ends with. -/
abbrev Failing (S : PanicSite → Prop) (P : ToolState → Prop) (x : Tool ε α)
    (Q : α → ToolState → Prop) : Prop :=
  Proc.Triple P x Q fun e s => P s ∧ ∀ site, e = .panicked site → S site

namespace Preserves

variable {S : PanicSite → Prop} {P : ToolState → Prop} {x : Tool ε α} {f : α → Tool ε β} {e : ε}
  {s s' : ToolState}

theorem apply (h : Preserves S P x) (hs : P s) : P (x s).2 := by
  have := h s hs
  rcases hx : x s with ⟨_ | a, t⟩
  · simp only [hx] at this
    exact this.1
  · simpa [hx] using this

/-- Where a run of the step can panic. -/
theorem site (h : Preserves S P x) (hs : P s) {panic : PanicSite}
    (hx : x s = (.error (.panicked panic), s')) : S panic :=
  (h.error hs hx).2 panic rfl

protected theorem pure (a : α) : Preserves S P (pure a : Tool ε α) :=
  Proc.Triple.pure fun _ h => h

protected theorem fail : Preserves S P (fail e : Tool ε α) :=
  Proc.Triple.fail fun _ h => ⟨h, fun _ h => by cases h⟩

/-- A panic where it is allowed. -/
theorem panic {panic : PanicSite} (h : S panic) :
    Preserves S P (Proc.fail (.panicked panic) : Tool ε α) :=
  Proc.Triple.fail fun _ hs => ⟨hs, fun _ hp => by cases hp; exact h⟩

protected theorem state : Preserves S P (state : Tool ε ToolState) :=
  Proc.Triple.get fun _ h => h

theorem check {failed : Bool} : Preserves S P (check failed e) := by
  cases failed
  · exact .pure ()
  · exact .fail

theorem ofExcept {r : Except ε' α} {g : ε' → ε} : Preserves S P (ofExcept r g) := by
  cases r with
  | error e => exact .fail
  | ok a => exact .pure a

theorem drift {d : Drift} (hd : d.Keeps P) : Preserves S P (drift d : Tool ε Unit) :=
  Proc.Triple.modify hd

theorem bind (hx : Preserves S P x) (hf : ∀ a, Preserves S P (f a)) : Preserves S P (x >>= f) :=
  Proc.Triple.bind hx hf

/-- A step that preserves `P`, before one that does so only when it fails. -/
theorem andThen {Q : β → ToolState → Prop} (hx : Preserves S P x)
    (hf : ∀ a, Failing S P (f a) Q) : Failing S P (x >>= f) Q :=
  Proc.Triple.bind hx hf

/-- A step that preserves more than `P`, before one that keeps `P` when it fails. -/
theorem andThenOf {P' : ToolState → Prop} {Q : β → ToolState → Prop} (hsub : ∀ s, P' s → P s)
    (hx : Preserves S P' x) (hf : ∀ a, Proc.Triple P' (f a) Q
      fun e s => P s ∧ ∀ site, e = .panicked site → S site) :
    Proc.Triple P' (x >>= f) Q fun e s => P s ∧ ∀ site, e = .panicked site → S site :=
  Proc.Triple.bind (hx.mono (fun _ h => h) (fun _ _ h => h) fun _ _ h => ⟨hsub _ h.1, h.2⟩) hf

theorem mapErr {g : ε → ε'} (hx : Preserves S P x) : Preserves S P (mapErr g x) := by
  intro s hs
  have := hx s hs
  unfold Tool.mapErr Proc.mapError
  rcases h : x s with ⟨_ | a, t⟩
  · rename_i abort
    simp only [h] at this
    cases abort with
    | error e => exact ⟨this.1, fun _ hp => by cases hp⟩
    | panicked panic => exact ⟨this.1, fun site hp => this.2 site (by cases hp; rfl)⟩
  · simpa [h] using this

theorem observed {poisoned : Bool} {path : PathBuf} : Preserves S P (observed poisoned e path) :=
  check.bind fun _ => Preserves.state.bind fun _ => .pure _

theorem loadAnchors {failed : Bool} {c : PathBuf} : Preserves S P (loadAnchors failed e c) := by
  refine check.bind fun _ => Preserves.state.bind fun s => ?_
  split
  · exact .pure _
  · split
    · exact .pure _
    · exact .fail

end Preserves

/-- `P` withstands the records of observations. -/
structure Stable (H : Hashing) (P : ToolState → Prop) : Prop where
  record : ∀ s path canonical bytes, P s → P { s with
    observations := s.observations.record H path canonical bytes
    log := s.log ++ [.recorded path canonical bytes] }
  forget : ∀ s observation, P s → P { s with
    observations := s.observations.forget observation
    log := s.log ++ [.forgot observation.canonicalPath] }

/-- `P` withstands the saving of anchors. -/
def Saves (P : ToolState → Prop) : Prop :=
  ∀ s c row, P s → P { s with anchors := ⟨Function.update s.anchors.rows c (some row)⟩ }

/-- `P` withstands new directories and files. -/
structure Puts (P : ToolState → Prop) : Prop where
  dirs : ∀ s path fs, P s → s.fs.createDirAll path = .ok fs → P { s with fs }
  file : ∀ s fs event, P s → P { s with fs, log := s.log ++ [event] }

theorem Preserves.saveAnchors {S : PanicSite → Prop} {P : ToolState → Prop} (h : Saves P)
    {failed : Bool} {e : ε} {c : PathBuf} {row : AnchorSnapshot} :
    Preserves S P (saveAnchors failed e c row) :=
  Preserves.ofExcept.bind fun _ => Preserves.check.bind fun _ => Proc.Triple.modify fun s hs =>
    h s c row hs

namespace Stable

variable {H : Hashing} {S : PanicSite → Prop} {P : ToolState → Prop} {e : ε} {locked : Bool}

/-- What only the file system decides. -/
theorem ofFs (I : FileSystem → Prop) : Stable H fun s => I s.fs :=
  ⟨fun _ _ _ _ h => h, fun _ _ h => h⟩

theorem recordObservation (h : Stable H P) {requested canonical : PathBuf} {bytes : List UInt8} :
    Preserves S P (recordObservation H locked e requested canonical bytes) :=
  Preserves.check.bind fun _ => Proc.Triple.modify fun s hs => h.record s _ _ _ hs

theorem forgetObservation (h : Stable H P) {observation : FileObservation} :
    Preserves S P (forgetObservation locked e observation) :=
  Preserves.check.bind fun _ => Proc.Triple.modify fun s hs => h.forget s _ hs

/-- An observation is forgotten, and the call fails. -/
theorem forgetAndFail (h : Stable H P) {observation : FileObservation} {e' : ε}
    {Q : α → ToolState → Prop} :
    Failing S P (Tool.forgetObservation locked e observation >>= fun _ => fail e') Q :=
  (h.forgetObservation (S := S)).andThen fun _ => Proc.Triple.fail fun _ h => ⟨h, nofun⟩

end Stable

/-! ### What single steps do -/

section
variable {s s' : ToolState} {e : ε} {locked : Bool} {path : PathBuf}

theorem drift_eq_ok {d : Drift} :
    (drift d : Tool ε Unit) s = (.ok (), s') ↔ s' = d.apply s := by
  simp [eq_comm]

section
variable {f : α → Tool ε β} {b : β}

/-! A sequence that starts with a single step. -/

theorem bind_drift (d : Drift) (f : Unit → Tool ε β) :
    (drift d >>= f) s = f () (d.apply s) := rfl

theorem bind_state (f : ToolState → Tool ε β) : (state >>= f) s = f s s := rfl

theorem bind_check_eq_ok {failed : Bool} {f : Unit → Tool ε β} :
    (check failed e >>= f) s = (.ok b, s') ↔ failed = false ∧ f () s = (.ok b, s') := by
  cases failed <;> simp [Proc.bind_apply]

theorem bind_ofExcept_eq_ok {x : Except ε' α} {g : ε' → ε} :
    (ofExcept x g >>= f) s = (.ok b, s') ↔ ∃ a, x = .ok a ∧ f a s = (.ok b, s') := by
  cases x <;> simp [Proc.bind_apply]

theorem bind_observed_eq_ok {f : Option FileObservation → Tool ε β} :
    (observed locked e path >>= f) s = (.ok b, s') ↔
      locked = false ∧ f (s.observations.get path) s = (.ok b, s') := by
  cases locked <;> simp [observed, Proc.bind_apply]

end

theorem recordObservation_eq_ok {H : Hashing} {canonical : PathBuf} {bytes : List UInt8} :
    recordObservation H locked e path canonical bytes s = (.ok (), s') ↔
      locked = false ∧ s' = { s with
        observations := s.observations.record H path canonical bytes
        log := s.log ++ [.recorded path canonical bytes] } := by
  cases locked <;> simp [recordObservation, Proc.bind_apply, eq_comm]

theorem loadAnchors_eq_ok {row : Option AnchorSnapshot} :
    loadAnchors locked e path s = (.ok row, s') ↔
      locked = false ∧ row = s.anchors.rows path ∧ s' = s ∧
        ∀ r, row = some r → validateSnapshot r true = .ok () := by
  cases locked with
  | true => simp [loadAnchors, Proc.bind_apply]
  | false =>
    simp only [loadAnchors, Proc.bind_apply, check_false, state_apply, true_and]
    cases hrow : s.anchors.rows path with
    | none =>
      simp only [Proc.pure_apply, Prod.mk.injEq, Except.ok.injEq]
      constructor
      · rintro ⟨rfl, rfl⟩
        simp
      · rintro ⟨rfl, rfl, -⟩
        simp
    | some r =>
      cases hv : validateSnapshot r true with
      | error e' =>
        simp only [hv, fail_apply, Prod.mk.injEq, reduceCtorEq, false_and, false_iff]
        rintro ⟨rfl, -, h⟩
        simpa [hv] using h r rfl
      | ok u =>
        simp only [hv, Proc.pure_apply, Prod.mk.injEq, Except.ok.injEq]
        constructor
        · rintro ⟨rfl, rfl⟩
          refine ⟨rfl, rfl, fun r' hr' => ?_⟩
          rw [← Option.some.inj hr', hv]
        · rintro ⟨rfl, rfl, -⟩
          exact ⟨rfl, rfl⟩

end

end Tool
end Tools
end Moh
