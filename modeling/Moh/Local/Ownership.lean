/-
# Listening backends are reachable

A listening backend is reachable as long as its file is the one at the socket path
(`Owned`).  Every step keeps this, provided that a removal finds the file that is meant
(`RemovesMeant`, `Sound.step`).  A client means the file that it found at first: if that
file is still there and unchanged when the client has been refused with the lock, its
listener is closed (`Harmless`), for the identity of a file changes only once, while the
listener is open.
-/

import Moh.Local.Socket
import Mathlib.Data.Nat.Basic

namespace Moh
namespace Local
namespace World

/-- Every listening backend is reachable, and there is one at most. -/
structure Owned (w : World) : Prop where
  reachable : ∀ i, (w.backends i).listening = true →
    ∃ file, w.path = some file ∧ file.object = (w.backends i).object
  unique : ∀ i j, (w.backends i).listening = true → (w.backends j).listening = true → i = j

/-- The file at the path, if there is one, is the object meant. -/
def FindsOnly (w : World) (object : ℕ) : Prop := ∀ file, w.path = some file → file.object = object

/-- A removal finds the file that is meant: the one the client found at first, and the one
the backend bound. -/
def RemovesMeant (w : World) : Input → Prop
  | .client i _ => ∀ original, w.clients i = .removing original → w.FindsOnly original.object
  | .unlink i =>
    ∀ identity, (w.backends i).phase = .matched identity → w.FindsOnly (w.backends i).object
  | _ => True

/-! ### What a client knows of the file it found -/

/-- No listener of the file is open, nor will one be. -/
def Dead (w : World) (object : ℕ) : Prop :=
  ∀ i, (w.backends i).listening = true → (w.backends i).object ≠ object

/-- The file was there; its identity changes once at most, when its backend restricts it. -/
def Known (w : World) (original : SocketFile) : Prop :=
  original.object < w.objects ∧
    ∀ file, w.path = some file → file.object = original.object →
      file.identity ≠ original.identity →
      ∀ i, (w.backends i).object = original.object → (w.backends i).phase ≠ .bound

/-- If the file is still there and unchanged, it is dead. -/
def Harmless (w : World) (original : SocketFile) : Prop :=
  ∀ file, w.path = some file → file.object = original.object →
    file.identity = original.identity → w.Dead original.object

/-- What holds of a client at each of its calls. -/
def ClientSound (w : World) : ClientPhase → Prop
  | .connecting _ (some original) (.connect candidate) =>
    w.Known original ∧ (candidate = some original.identity ∨ w.Harmless original)
  | .connecting _ (some original) (.verify candidate) =>
    w.Known original ∧ (candidate = some original.identity ∨ w.Harmless original)
  | .connecting _ (some original) _ => w.Known original
  | .locking (some original) => w.Known original
  | .comparing (some original) => w.Known original ∧ w.Harmless original
  | .confirming original => w.Known original ∧ w.Dead original.object
  | .removing original => w.Known original ∧ w.Dead original.object
  | _ => True

/-- The invariant: listeners are reachable, files have one backend, and every client knows
what it should. -/
structure Sound (w : World) : Prop where
  reachable : ∀ i, (w.backends i).listening = true →
    ∃ file, w.path = some file ∧ file.object = (w.backends i).object
  path_lt : ∀ file, w.path = some file → file.object < w.objects
  object_lt : ∀ i, (w.backends i).object < w.objects
  unborn : ∀ i, w.spawned ≤ i → (w.backends i).phase = .unborn
  distinct : ∀ i j, (w.backends i).phase.hasFile = true → (w.backends j).phase.hasFile = true →
    (w.backends i).object = (w.backends j).object → i = j
  clients : ∀ i, w.ClientSound (w.clients i)

variable {w w' : World}

theorem Sound.owned (h : w.Sound) : w.Owned := by
  refine ⟨h.reachable, fun i j hi hj => ?_⟩
  obtain ⟨file, hfile, hobject⟩ := h.reachable i hi
  obtain ⟨other, hother, hobject'⟩ := h.reachable j hj
  obtain rfl : file = other := Option.some.inj (hfile.symm.trans hother)
  exact h.distinct i j (BackendPhase.hasFile_of_listening hi)
    (BackendPhase.hasFile_of_listening hj) (hobject.symm.trans hobject')

/-! ### What changes nothing for the clients -/

/-- The files and listeners of `w'` are among those of `w`, or new. -/
structure Evolves (w w' : World) : Prop where
  objects_le : w.objects ≤ w'.objects
  path : ∀ file, w'.path = some file → w.path = some file ∨ w.objects ≤ file.object
  listening : ∀ i, (w'.backends i).listening = true →
    ((w.backends i).listening = true ∧ (w'.backends i).object = (w.backends i).object) ∨
      w.objects ≤ (w'.backends i).object
  bound : ∀ i, (w'.backends i).phase = .bound →
    ((w.backends i).phase = .bound ∧ (w'.backends i).object = (w.backends i).object) ∨
      w.objects ≤ (w'.backends i).object

/-- What a client knows of a file stays true. -/
structure Keeps (w w' : World) : Prop where
  known : ∀ original, w.Known original → w'.Known original
  harmless : ∀ original, w.Known original → w.Harmless original → w'.Harmless original
  dead : ∀ original, w.Known original → w.Dead original.object → w'.Dead original.object

theorem Evolves.keeps (h : Evolves w w') : Keeps w w' := by
  have hdead : ∀ original, w.Known original → w.Dead original.object → w'.Dead original.object := by
    intro original hknown hdead i hi heq
    rcases h.listening i hi with ⟨hold, hobject⟩ | hnew
    · exact hdead i hold (hobject.symm.trans heq)
    · exact absurd hknown.1 (Nat.not_lt.2 (heq ▸ hnew))
  have hold : ∀ original, w.Known original → ∀ file, w'.path = some file →
      file.object = original.object → w.path = some file := by
    intro original hknown file hfile heq
    exact (h.path file hfile).resolve_right fun hnew =>
      absurd hknown.1 (Nat.not_lt.2 (heq ▸ hnew))
  refine ⟨fun original hknown => ⟨Nat.lt_of_lt_of_le hknown.1 h.objects_le, ?_⟩, ?_, hdead⟩
  · intro file hfile heq hne i hi hbound
    rcases h.bound i hbound with ⟨hphase, hobject⟩ | hnew
    · exact hknown.2 file (hold original hknown file hfile heq) heq hne i (hobject.symm.trans hi) hphase
    · exact absurd hknown.1 (Nat.not_lt.2 (hi ▸ hnew))
  · intro original hknown hharmless file hfile heq hsame
    exact hdead original hknown (hharmless file (hold original hknown file hfile heq) heq hsame)

theorem Keeps.clientSound (h : Keeps w w') {phase : ClientPhase} (hs : w.ClientSound phase) :
    w'.ClientSound phase := by
  unfold ClientSound at hs ⊢
  split <;> simp only at hs
  · exact ⟨h.known _ hs.1, hs.2.imp_right (h.harmless _ hs.1)⟩
  · exact ⟨h.known _ hs.1, hs.2.imp_right (h.harmless _ hs.1)⟩
  · exact h.known _ hs
  · exact h.known _ hs
  · exact ⟨h.known _ hs.1, h.harmless _ hs.1 hs.2⟩
  · exact ⟨h.known _ hs.1, h.dead _ hs.1 hs.2⟩
  · exact ⟨h.known _ hs.1, h.dead _ hs.1 hs.2⟩
  · exact trivial

/-- A backend that was started. -/
theorem Sound.lt_spawned (h : w.Sound) {i : ℕ} {phase : BackendPhase}
    (hphase : (w.backends i).phase = phase) (hborn : phase ≠ .unborn) : i < w.spawned := by
  by_contra hge
  exact hborn (hphase.symm.trans (h.unborn i (Nat.not_lt.1 hge)))

/-- A step of one backend that opens no listener. -/
theorem Sound.setPhase (h : w.Sound) {i : ℕ} {phase : BackendPhase}
    (hspawned : i < w.spawned) (hbound : phase ≠ .bound)
    (hlistening : phase.listening = true → (w.backends i).phase.listening = true)
    (hfile : phase.hasFile = true → (w.backends i).phase.hasFile = true) :
    (w.setPhase i phase).Sound := by
  have hback : ∀ j, ((w.setPhase i phase).backends j).listening = true →
      (w.backends j).listening = true := by
    intro j hj
    rw [Backend.listening, phase_setPhase] at hj
    split_ifs at hj with heq
    · rw [heq]
      exact hlistening hj
    · exact hj
  have hfiles : ∀ j, ((w.setPhase i phase).backends j).phase.hasFile = true →
      (w.backends j).phase.hasFile = true := by
    intro j hj
    rw [phase_setPhase] at hj
    split_ifs at hj with heq
    · rw [heq]
      exact hfile hj
    · exact hj
  have hevolves : Evolves w (w.setPhase i phase) := by
    refine ⟨le_rfl, fun file hpath => .inl hpath, fun j hj => .inl ⟨hback j hj, object_setPhase ..⟩,
      fun j hj => .inl ⟨?_, object_setPhase ..⟩⟩
    rw [phase_setPhase] at hj
    split_ifs at hj
    · exact absurd hj hbound
    · exact hj
  constructor
  case reachable =>
    intro j hj
    rw [object_setPhase]
    exact h.reachable j (hback j hj)
  case path_lt => exact h.path_lt
  case object_lt =>
    intro j
    rw [object_setPhase]
    exact h.object_lt j
  case unborn =>
    intro j hj
    rw [phase_setPhase, if_neg]
    · exact h.unborn j hj
    · rintro rfl
      exact absurd hspawned (Nat.not_lt.2 hj)
  case distinct =>
    intro j k hj hk heq
    rw [object_setPhase, object_setPhase] at heq
    exact h.distinct j k (hfiles j hj) (hfiles k hk) heq
  case clients => exact fun j => hevolves.keeps.clientSound (h.clients j)

/-- The file at the path is gone, and it was dead. -/
theorem Sound.remove (h : w.Sound) (hdead : ∀ file, w.path = some file → w.Dead file.object) :
    ({ w with path := none } : World).Sound := by
  have hevolves : Evolves w { w with path := none } :=
    ⟨le_rfl, fun file hpath => absurd hpath.symm (Option.some_ne_none file),
      fun j hj => .inl ⟨hj, rfl⟩, fun j hj => .inl ⟨hj, rfl⟩⟩
  constructor
  case reachable =>
    intro i hi
    obtain ⟨file, hfile, hobject⟩ := h.reachable i hi
    exact absurd hobject.symm (hdead file hfile i hi)
  case path_lt => exact fun file hpath => by cases hpath
  case object_lt => exact h.object_lt
  case unborn => exact h.unborn
  case distinct => exact h.distinct
  case clients => exact fun i => hevolves.keeps.clientSound (h.clients i)

/-- A backend binds a file that was not there. -/
theorem Sound.bind (h : w.Sound) {i : ℕ} (hstarting : (w.backends i).phase = .starting)
    (hpath : w.path = none) (identity : SocketCandidateIdentity) :
    ({ w with
      path := some ⟨w.objects, identity⟩
      backends := Function.update w.backends i ⟨.bound, w.objects, identity.node⟩
      objects := w.objects + 1 } : World).Sound := by
  have hself : Function.update w.backends i ⟨.bound, w.objects, identity.node⟩ i =
      ⟨.bound, w.objects, identity.node⟩ := Function.update_self ..
  have hother : ∀ j, j ≠ i →
      Function.update w.backends i ⟨.bound, w.objects, identity.node⟩ j = w.backends j :=
    fun j hj => Function.update_of_ne hj ..
  have hclosed : ∀ j, (w.backends j).listening = true → False := by
    intro j hj
    obtain ⟨file, hfile, -⟩ := h.reachable j hj
    rw [hpath] at hfile
    cases hfile
  have hcases : ∀ j, (j = i ∧ Function.update w.backends i ⟨.bound, w.objects, identity.node⟩ j =
        ⟨.bound, w.objects, identity.node⟩) ∨
      (j ≠ i ∧ Function.update w.backends i ⟨.bound, w.objects, identity.node⟩ j = w.backends j) := by
    intro j
    by_cases heq : j = i
    · exact .inl ⟨heq, heq ▸ hself⟩
    · exact .inr ⟨heq, hother j heq⟩
  constructor
  case reachable =>
    intro j hj
    rcases hcases j with ⟨-, hb⟩ | ⟨-, hb⟩
    · exact ⟨_, rfl, (congrArg Backend.object hb).symm⟩
    · dsimp only at hj
      rw [hb] at hj
      exact (hclosed j hj).elim
  case path_lt =>
    intro file hfile
    obtain rfl := Option.some.inj hfile
    exact Nat.lt_succ_self _
  case object_lt =>
    intro j
    show (Function.update w.backends i _ j).object < w.objects + 1
    rcases hcases j with ⟨-, hb⟩ | ⟨-, hb⟩
    · rw [hb]
      exact Nat.lt_succ_self _
    · rw [hb]
      exact Nat.lt_succ_of_lt (h.object_lt j)
  case unborn =>
    intro j hj
    show (Function.update w.backends i _ j).phase = _
    rcases hcases j with ⟨rfl, -⟩ | ⟨-, hb⟩
    · have hunborn := h.unborn j hj
      rw [hstarting] at hunborn
      cases hunborn
    · rw [hb]
      exact h.unborn j hj
  case distinct =>
    intro j k hj hk heq
    dsimp only at hj hk heq
    rcases hcases j with ⟨hji, hb⟩ | ⟨hji, hb⟩ <;> rcases hcases k with ⟨hki, hc⟩ | ⟨hki, hc⟩ <;>
      rw [hb, hc] at heq
    · exact hji.trans hki.symm
    · exact absurd (h.object_lt k) (Nat.not_lt.2 (le_of_eq heq))
    · exact absurd (h.object_lt j) (Nat.not_lt.2 (le_of_eq heq.symm))
    · rw [hb] at hj
      rw [hc] at hk
      exact h.distinct j k hj hk heq
  case clients =>
    have hevolves : Evolves w { w with
        path := some ⟨w.objects, identity⟩
        backends := Function.update w.backends i ⟨.bound, w.objects, identity.node⟩
        objects := w.objects + 1 } := by
      refine ⟨Nat.le_succ _, fun file hfile => .inr ?_, fun j hj => ?_, fun j hj => ?_⟩
      · obtain rfl := Option.some.inj hfile
        exact le_rfl
      · dsimp only at hj ⊢
        rcases hcases j with ⟨-, hb⟩ | ⟨-, hb⟩
        · exact .inr (by rw [hb])
        · rw [hb] at hj ⊢
          exact .inl ⟨hj, rfl⟩
      · dsimp only at hj ⊢
        rcases hcases j with ⟨-, hb⟩ | ⟨-, hb⟩
        · exact .inr (by rw [hb])
        · rw [hb] at hj ⊢
          exact .inl ⟨hj, rfl⟩
    exact fun j => hevolves.keeps.clientSound (h.clients j)

/-- A backend restricts the file it bound: the one change of its identity. -/
theorem Sound.restrict (h : w.Sound) {i : ℕ} (hbound : (w.backends i).phase = .bound)
    {file : SocketFile} (hfile : w.path = some file) (hobject : file.object = (w.backends i).object)
    (identity : SocketCandidateIdentity) :
    ({ w.setPhase i .restricted with path := some { file with identity := identity } } :
      World).Sound := by
  have hlistening : (w.backends i).phase.listening = true := by rw [hbound]; rfl
  have hphase : (w.setPhase i .restricted).Sound := by
    exact h.setPhase (h.lt_spawned hbound nofun) nofun (fun _ => hlistening) fun _ =>
      BackendPhase.hasFile_of_listening hlistening
  have hkeeps : Keeps w { w.setPhase i .restricted with
      path := some { file with identity := identity } } := by
    have hdead : ∀ object, w.Dead object → ({ w.setPhase i .restricted with
        path := some { file with identity := identity } } : World).Dead object := by
      intro object hdead j hj
      show ((w.setPhase i .restricted).backends j).object ≠ object
      rw [object_setPhase]
      refine hdead j ?_
      by_cases heq : j = i
      · exact heq ▸ hlistening
      · have hj : ((w.setPhase i .restricted).backends j).phase.listening = true := hj
        rwa [phase_setPhase, if_neg heq] at hj
    refine ⟨fun original hknown => ⟨hknown.1, fun found hfound heq hne j hj hphase => ?_⟩,
      fun original hknown hharmless found hfound heq hsame => ?_, fun original _ => hdead _⟩
    · -- The one backend of the file is the one that restricts it.
      obtain rfl := Option.some.inj hfound
      have hj : ((w.setPhase i .restricted).backends j).object = original.object := hj
      have hphase : ((w.setPhase i .restricted).backends j).phase = .bound := hphase
      rw [object_setPhase] at hj
      rw [phase_setPhase] at hphase
      split_ifs at hphase with hji
      refine hji (h.distinct j i ?_ (BackendPhase.hasFile_of_listening hlistening) ?_)
      · rw [hphase]
        rfl
      · exact (hj.trans heq.symm).trans hobject
    · -- It was not restricted before, so the client knew it as it was, and it is open.
      obtain rfl := Option.some.inj hfound
      have hsame : file.identity = original.identity := by
        by_contra hne
        exact hknown.2 file hfile heq hne i (hobject.symm.trans heq) hbound
      exact absurd (hobject.symm.trans heq) (hharmless file hfile heq hsame i hlistening)
  constructor
  case reachable =>
    intro j hj
    obtain ⟨found, hfound, heq⟩ := hphase.reachable j hj
    obtain rfl : file = found := Option.some.inj (hfile.symm.trans hfound)
    exact ⟨_, rfl, heq⟩
  case path_lt =>
    intro found hfound
    obtain rfl := Option.some.inj hfound
    exact h.path_lt file hfile
  case object_lt => exact hphase.object_lt
  case unborn => exact hphase.unborn
  case distinct => exact hphase.distinct
  case clients => exact fun j => hkeeps.clientSound (h.clients j)

/-! ### The clients -/

/-- A client goes on, and knows what it should. -/
theorem Sound.setClient (h : w.Sound) (i : ℕ) {phase : ClientPhase} (hphase : w.ClientSound phase) :
    (w.setClient i phase).Sound := by
  refine ⟨h.reachable, h.path_lt, h.object_lt, h.unborn, h.distinct, fun j => ?_⟩
  show w.ClientSound (Function.update w.clients i phase j)
  rw [Function.update_apply]
  split_ifs
  · exact hphase
  · exact h.clients j

/-- Locks do not matter. -/
theorem Sound.withLock (h : w.Sound) (lock : Option ℕ) : ({ w with lock := lock } : World).Sound :=
  ⟨h.reachable, h.path_lt, h.object_lt, h.unborn, h.distinct, h.clients⟩

theorem Sound.leave (h : w.Sound) (i : ℕ) : (w.leave i).Sound := by
  have hdone : (w.setClient i .done).Sound := h.setClient i trivial
  exact hdone.withLock _

theorem Sound.wait (h : w.Sound) (i : ℕ) (observedReset : Bool) : (w.wait i observedReset).Sound :=
  h.setClient i trivial

/-- A client starts a backend. -/
theorem Sound.spawn (h : w.Sound) :
    ({ w with
      backends := Function.update w.backends w.spawned ⟨.starting, 0, ⟨0, 0⟩⟩
      spawned := w.spawned + 1 } : World).Sound := by
  have hother : ∀ j, Function.update w.backends w.spawned ⟨.starting, 0, ⟨0, 0⟩⟩ j =
      w.backends j ∨ Function.update w.backends w.spawned ⟨.starting, 0, ⟨0, 0⟩⟩ j =
        ⟨.starting, 0, ⟨0, 0⟩⟩ := by
    intro j
    rw [Function.update_apply]
    split_ifs
    · exact .inr rfl
    · exact .inl rfl
  constructor
  case reachable =>
    intro j hj
    dsimp only at hj ⊢
    rcases hother j with hb | hb <;> rw [hb] at hj ⊢
    · exact h.reachable j hj
    · cases hj
  case path_lt => exact h.path_lt
  case object_lt =>
    intro j
    dsimp only
    rcases hother j with hb | hb <;> rw [hb]
    · exact h.object_lt j
    · exact Nat.lt_of_le_of_lt (Nat.zero_le _) (h.object_lt 0)
  case unborn =>
    intro j hj
    have hne : j ≠ w.spawned := Nat.ne_of_gt hj
    show (Function.update w.backends w.spawned _ j).phase = _
    rw [Function.update_of_ne hne]
    exact h.unborn j (Nat.le_of_succ_le hj)
  case distinct =>
    intro j k hj hk heq
    dsimp only at hj hk heq
    rcases hother j with hb | hb <;> rw [hb] at hj heq
    · rcases hother k with hc | hc <;> rw [hc] at hk heq
      · exact h.distinct j k hj hk heq
      · cases hk
    · cases hj
  case clients =>
    have hevolves : Evolves w { w with
        backends := Function.update w.backends w.spawned ⟨.starting, 0, ⟨0, 0⟩⟩
        spawned := w.spawned + 1 } := by
      refine ⟨le_rfl, fun file hfile => .inl hfile, fun j hj => .inl ?_, fun j hj => .inl ?_⟩ <;>
        dsimp only at hj ⊢ <;> rcases hother j with hb | hb <;> rw [hb] at hj ⊢
      · exact ⟨hj, rfl⟩
      · cases hj
      · exact ⟨hj, rfl⟩
      · cases hj
    exact fun j => hevolves.keeps.clientSound (h.clients j)

/-- A connection that is refused finds a dead file. -/
theorem Sound.dead_of_refused (h : w.Sound) {object : ℕ} (hrefused : w.listens object = false) :
    w.Dead object := by
  intro i hi heq
  have hspawned : i < w.spawned := by
    by_contra hge
    rw [Backend.listening, h.unborn i (Nat.not_lt.1 hge)] at hi
    cases hi
  rw [listens, List.any_eq_false] at hrefused
  exact hrefused i (List.mem_range.2 hspawned) (by simp [hi, heq])

/-- `Absent` is no news, or good news. -/
theorem Sound.absent (h : w.Sound) (i : ℕ) {original : Option SocketFile} (round : Round)
    (hharmless : ∀ file, original = some file → w.Known file ∧ w.Harmless file) :
    (w.absent i original round).Sound := by
  cases round with
  | first =>
    refine h.setClient i ?_
    cases original with
    | none => exact trivial
    | some file => exact (hharmless file rfl).1
  | second =>
    refine h.setClient i ?_
    cases original with
    | none => exact trivial
    | some file => exact hharmless file rfl
  | wait observedReset => exact h.wait i observedReset

/-- The first inspection: the file is known, and cannot have changed. -/
theorem Sound.known_path (h : w.Sound) {file : SocketFile} (hfile : w.path = some file) :
    w.Known file := by
  refine ⟨h.path_lt file hfile, fun found hfound _ hne => ?_⟩
  rw [hfile] at hfound
  exact absurd (congrArg SocketFile.identity (Option.some.inj hfound)).symm hne

/-- One call of a client. -/
theorem Sound.clientStep (h : w.Sound) (i : ℕ) (handshake : Handshake)
    (hmeans : w.RemovesMeant (.client i handshake)) : (w.clientStep i handshake).Sound := by
  have hclient := h.clients i
  unfold World.clientStep
  split
  · -- The first inspection.
    refine h.setClient i ?_
    cases hfile : w.path with
    | none => exact trivial
    | some file => exact h.known_path hfile
  · -- An inspection: an identity other than the original one will not come back.
    next round original hphase =>
    rw [hphase] at hclient
    refine h.setClient i ?_
    cases original with
    | none => exact trivial
    | some original =>
      refine ⟨hclient, ?_⟩
      by_cases hsame : w.identity = some original.identity
      · exact .inl hsame
      · refine .inr fun file hfile _ heq => absurd ?_ hsame
        rw [World.identity, hfile, ← heq]
        rfl
  · -- A connection.
    next round original candidate hphase =>
    rw [hphase] at hclient
    split_ifs with haccepted
    · refine h.setClient i ?_
      cases original with
      | none => exact trivial
      | some original => exact hclient
    · refine h.absent i round fun file horiginal => ?_
      subst horiginal
      refine ⟨hclient.1, fun found hfound heq _ => heq ▸ h.dead_of_refused ?_⟩
      rw [hfound] at haccepted
      exact Bool.eq_false_iff.2 haccepted
  · -- The inspection behind it: what is not the candidate is not the original one.
    next round original candidate hphase =>
    rw [hphase] at hclient
    split_ifs with hchanged
    · refine h.absent i round fun file horiginal => ?_
      subst horiginal
      refine ⟨hclient.1, ?_⟩
      rcases hclient.2 with hcandidate | hharmless
      · intro found hfound _ heq
        refine absurd ?_ hchanged
        rw [World.identity, hfound, hcandidate, ← heq]
        rfl
      · exact hharmless
    · refine h.setClient i ?_
      cases original with
      | none => exact trivial
      | some original => exact hclient.1
  · -- The handshake.
    next round original hphase =>
    rw [hphase] at hclient
    split
    · refine h.setClient i ?_
      cases original with
      | none => exact trivial
      | some original => exact hclient
    · exact h.wait i true
    · exact h.leave i
  · -- The lock.
    next original hphase =>
    rw [hphase] at hclient
    split_ifs
    · refine Sound.withLock (h.setClient i ?_) _
      cases original with
      | none => exact trivial
      | some original => exact hclient
    · exact h
  · -- `remove_stale_socket`: the file that is found unchanged is dead.
    next original hphase =>
    rw [hphase] at hclient
    split
    · exact h.setClient i trivial
    · exact h.wait i false
    · next original' current hpath =>
      split_ifs with hsame
      · exact h.wait i false
      · have hequal : original'.identity = current.identity := not_not.1 hsame
        refine h.setClient i ⟨hclient.1, fun j hj heq => ?_⟩
        obtain ⟨file, hfile, hobject⟩ := h.reachable j hj
        obtain rfl : current = file := Option.some.inj (hpath.symm.trans hfile)
        exact hclient.2 current hpath (hobject.trans heq) hequal.symm j hj heq
  · next original hphase =>
    rw [hphase] at hclient
    split
    · exact h.leave i
    · split_ifs
      · exact h.wait i false
      · exact h.setClient i hclient
  · next original hphase =>
    rw [hphase] at hclient
    split_ifs
    · exact h.leave i
    · have hspawning : (w.setClient i .spawning).Sound := h.setClient i trivial
      refine hspawning.remove fun file hfile => ?_
      rw [hmeans original hphase file hfile]
      exact hclient.2
  · exact (h.wait i false).spawn
  · exact h

/-! ### Every run -/

theorem Sound.step (h : w.Sound) (input : Input) (hmeans : w.RemovesMeant input) :
    (w.step input).Sound := by
  cases input with
  | client i handshake => exact h.clientStep i handshake hmeans
  | leave i => exact h.leave i
  | bind i identity =>
    rw [World.step]
    split_ifs with hstarting
    · unfold World.bind
      split_ifs with hpath
      · exact h.setPhase (h.lt_spawned hstarting nofun) nofun nofun nofun
      · exact h.bind hstarting (Option.not_isSome_iff_eq_none.1 hpath) identity
      · exact h
    · exact h
  | restrict i seconds nanoseconds =>
    rw [World.step]
    split_ifs with hbound
    · have hlistening : (w.backends i).listening = true := by
        rw [Backend.listening, hbound]
        rfl
      obtain ⟨file, hfile, hobject⟩ := h.reachable i hlistening
      rw [World.restrict, hfile]
      exact h.restrict hbound hfile hobject _
    · exact h
  | identify i =>
    rw [World.step]
    split_ifs with hrestricted
    · split
      · exact h.setPhase (h.lt_spawned hrestricted nofun) nofun nofun nofun
      · exact h.setPhase (h.lt_spawned hrestricted nofun) nofun (fun _ => by rw [hrestricted]; rfl)
          fun _ => by rw [hrestricted]; rfl
    · exact h
  | stop i =>
    rw [World.step]
    split
    · next identity hserving =>
      exact h.setPhase (h.lt_spawned hserving nofun) nofun nofun fun _ => by rw [hserving]; rfl
    · exact h
  | cleanup i =>
    rw [World.step]
    split
    · next identity hclosed =>
      split_ifs
      · exact h.setPhase (h.lt_spawned hclosed nofun) nofun nofun fun _ => by rw [hclosed]; rfl
      · exact h.setPhase (h.lt_spawned hclosed nofun) nofun nofun nofun
    · exact h
  | unlink i =>
    rw [World.step]
    split
    · next identity hmatched =>
      have hgone : (w.setPhase i .gone).Sound :=
        h.setPhase (h.lt_spawned hmatched nofun) nofun nofun nofun
      refine hgone.remove fun file hfile j hj heq => ?_
      have hself : file.object = (w.backends i).object := hmeans identity hmatched file hfile
      rw [Backend.listening, phase_setPhase] at hj
      split_ifs at hj with hji
      · cases hj
      · refine hji (h.distinct j i (BackendPhase.hasFile_of_listening hj) (by rw [hmatched]; rfl) ?_)
        rw [← hself, ← heq, object_setPhase]
    · exact h
  | kill i =>
    rw [World.step]
    split_ifs with hspawned
    · exact h.setPhase hspawned nofun nofun nofun
    · exact h

end World
end Local
end Moh
