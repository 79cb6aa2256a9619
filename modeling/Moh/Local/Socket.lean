/-
# Starting a backend, and its socket file

`local/launch.rs`: `connect_or_spawn` connects to the socket of the local backend; where
that fails it takes a startup lock, tries once more, removes the stale socket file and
starts a backend.  `backend/server.rs`: `run_backend` binds the socket, serves, and when
it stops closes its listener and unlinks the file (`unlink_bound_socket`).  One step of
the model is one call of one process to the system.  Every socket file has the number of
the object it is, which no process sees: a process compares device and inode, which the
system may use again, and a client the time of the last change as well.
-/

import Mathlib.Data.Int.Notation
import Mathlib.Data.List.Basic
import Mathlib.Logic.Function.Basic

namespace Moh
namespace Local

/-! ### The socket file -/

/-- `SocketIdentity`: what a backend remembers of its socket file. -/
structure SocketIdentity where
  device : ℕ
  inode : ℕ
deriving DecidableEq

/-- `SocketCandidateIdentity`: what a client remembers of the one it found. -/
structure SocketCandidateIdentity where
  device : ℕ
  inode : ℕ
  changedAtSeconds : ℤ
  changedAtNanoseconds : ℤ
deriving DecidableEq

/-- The part of the identity that backends compare. -/
def SocketCandidateIdentity.node (identity : SocketCandidateIdentity) : SocketIdentity :=
  ⟨identity.device, identity.inode⟩

/-- A socket file: which object it is, and its metadata. -/
structure SocketFile where
  object : ℕ
  identity : SocketCandidateIdentity
deriving DecidableEq

/-! ### The processes -/

/-- The calls of `try_connect` in `connect_or_spawn`: without the lock, with it, and in
`wait_for_backend`, which tolerates one reset. -/
inductive Round where
  | first
  | second
  | wait (observedReset : Bool)
deriving DecidableEq

/-- Where `try_connect` stands: it inspects the socket file, connects, inspects the file
again, or makes the handshake. -/
inductive Stage where
  | inspect
  | connect (candidate : Option SocketCandidateIdentity)
  | verify (candidate : Option SocketCandidateIdentity)
  | handshake
deriving DecidableEq

/-- Where `connect_or_spawn` stands: from `comparing` to `removing` in
`remove_stale_socket`.  It knows the identity of `original`, not the object. -/
inductive ClientPhase where
  | start
  | connecting (round : Round) (original : Option SocketFile) (stage : Stage)
  | locking (original : Option SocketFile)
  | comparing (original : Option SocketFile)
  | confirming (original : SocketFile)
  | removing (original : SocketFile)
  | spawning
  | done
deriving DecidableEq

/-- Where `run_backend` stands: the listener is open from `bound` to `serving`, and from
`closed` on it cleans up in `unlink_bound_socket`. -/
inductive BackendPhase where
  | unborn
  | starting
  | bound
  | restricted
  | serving (identity : SocketIdentity)
  | closed (identity : SocketIdentity)
  | matched (identity : SocketIdentity)
  | gone
deriving DecidableEq

/-- The listener is open. -/
def BackendPhase.listening : BackendPhase → Bool
  | .bound | .restricted | .serving _ => true
  | _ => false

/-- A file was bound, and the backend is not gone. -/
def BackendPhase.hasFile : BackendPhase → Bool
  | .unborn | .starting | .gone => false
  | _ => true

theorem BackendPhase.hasFile_of_listening {phase : BackendPhase} (h : phase.listening = true) :
    phase.hasFile = true := by
  cases phase <;> first | rfl | cases h

/-- A backend, with the socket file it bound. -/
structure Backend where
  phase : BackendPhase
  object : ℕ
  node : SocketIdentity
deriving DecidableEq

/-- The listener of the backend is open. -/
def Backend.listening (backend : Backend) : Bool := backend.phase.listening

/-- The file at the socket path, the holder of the startup lock, the processes, the
number of backends started so far and of the next object. -/
structure World where
  path : Option SocketFile
  lock : Option ℕ
  clients : ℕ → ClientPhase
  backends : ℕ → Backend
  spawned : ℕ
  objects : ℕ

/-- What the handshake of a client comes to; `failed` is any other error. -/
inductive Handshake where
  | connected
  | reset
  | failed
deriving DecidableEq

/-- One step: a client makes its next call, or leaves because of a time limit, an error or
its death; a backend binds, where the system chooses the metadata of the file, restricts
the file, which changes its time, takes its identity, closes its listener, looks at the
file and removes it, or dies. -/
inductive Input where
  | client (client : ℕ) (handshake : Handshake)
  | leave (client : ℕ)
  | bind (backend : ℕ) (identity : SocketCandidateIdentity)
  | restrict (backend : ℕ) (changedAtSeconds changedAtNanoseconds : ℤ)
  | identify (backend : ℕ)
  | stop (backend : ℕ)
  | cleanup (backend : ℕ)
  | unlink (backend : ℕ)
  | kill (backend : ℕ)
deriving DecidableEq

namespace World

/-- Nothing was started yet; a file may be left of an earlier backend. -/
def start (stale : Option SocketCandidateIdentity) : World where
  path := stale.map fun identity => ⟨0, identity⟩
  lock := none
  clients := fun _ => .start
  backends := fun _ => ⟨.unborn, 0, ⟨0, 0⟩⟩
  spawned := 0
  objects := 1

/-- `socket_candidate_identity`. -/
def identity (w : World) : Option SocketCandidateIdentity := w.path.map SocketFile.identity

/-- Some backend accepts connections to the object. -/
def listens (w : World) (object : ℕ) : Bool :=
  (List.range w.spawned).any fun i =>
    (w.backends i).listening && (w.backends i).object == object

/-- The inode is not in use: no file at the path and no open listener has it. -/
def unused (w : World) (node : SocketIdentity) : Bool :=
  (w.path.all fun file => file.identity.node != node) &&
    (List.range w.spawned).all fun i =>
      !((w.backends i).listening && (w.backends i).node == node)

/-- A client goes on. -/
def setClient (w : World) (i : ℕ) (phase : ClientPhase) : World :=
  { w with clients := Function.update w.clients i phase }

/-- A backend goes on. -/
def setPhase (w : World) (i : ℕ) (phase : BackendPhase) : World :=
  { w with backends := Function.update w.backends i { w.backends i with phase := phase } }

theorem phase_setPhase (w : World) (i : ℕ) (phase : BackendPhase) (j : ℕ) :
    ((w.setPhase i phase).backends j).phase = if j = i then phase else (w.backends j).phase := by
  show (Function.update w.backends i _ j).phase = _
  rw [Function.update_apply]
  split_ifs <;> rfl

@[simp] theorem object_setPhase (w : World) (i : ℕ) (phase : BackendPhase) (j : ℕ) :
    ((w.setPhase i phase).backends j).object = (w.backends j).object := by
  show (Function.update w.backends i _ j).object = _
  rw [Function.update_apply]
  split_ifs with h
  · rw [h]
  · rfl

@[simp] theorem node_setPhase (w : World) (i : ℕ) (phase : BackendPhase) (j : ℕ) :
    ((w.setPhase i phase).backends j).node = (w.backends j).node := by
  show (Function.update w.backends i _ j).node = _
  rw [Function.update_apply]
  split_ifs with h
  · rw [h]
  · rfl

/-- A client returns, which unlocks its lock. -/
def leave (w : World) (i : ℕ) : World :=
  { w.setClient i .done with lock := if w.lock = some i then none else w.lock }

/-- `wait_for_backend`. -/
def wait (w : World) (i : ℕ) (observedReset : Bool) : World :=
  w.setClient i (.connecting (.wait observedReset) none .inspect)

/-- `ConnectAttempt::Absent`. -/
def absent (w : World) (i : ℕ) (original : Option SocketFile) : Round → World
  | .first => w.setClient i (.locking original)
  | .second => w.setClient i (.comparing original)
  | .wait observedReset => w.wait i observedReset

/-- The next call of `connect_or_spawn`. -/
def clientStep (w : World) (i : ℕ) (handshake : Handshake) : World :=
  match w.clients i with
  | .start => w.setClient i (.connecting .first w.path .inspect)
  | .connecting round original .inspect =>
    w.setClient i (.connecting round original (.connect w.identity))
  | .connecting round original (.connect candidate) =>
    if w.path.any fun file => w.listens file.object then
      w.setClient i (.connecting round original (.verify candidate))
    else w.absent i original round
  | .connecting round original (.verify candidate) =>
    if w.identity ≠ candidate then w.absent i original round
    else w.setClient i (.connecting round original .handshake)
  | .connecting round original .handshake =>
    match handshake, round with
    | .reset, .first => w.setClient i (.locking original)
    | .reset, .wait false => w.wait i true
    | _, _ => w.leave i
  | .locking original =>
    if w.lock = none then
      { w.setClient i (.connecting .second original .inspect) with lock := some i }
    else w
  | .comparing original =>
    match original, w.path with
    | _, none => w.setClient i .spawning
    | none, some _ => w.wait i false
    | some original, some current =>
      if original.identity ≠ current.identity then w.wait i false
      else w.setClient i (.confirming original)
  | .confirming original =>
    match w.path with
    | none => w.leave i
    | some current =>
      if current.identity.node ≠ original.identity.node then w.wait i false
      else w.setClient i (.removing original)
  | .removing _ =>
    if w.path = none then w.leave i else { w.setClient i .spawning with path := none }
  | .spawning =>
    { w.wait i false with
      backends := Function.update w.backends w.spawned ⟨.starting, 0, ⟨0, 0⟩⟩
      spawned := w.spawned + 1 }
  | .done => w

/-- `UnixListener::bind`. -/
def bind (w : World) (i : ℕ) (identity : SocketCandidateIdentity) : World :=
  if w.path.isSome then w.setPhase i .gone
  else if w.unused identity.node then
    { w with
      path := some ⟨w.objects, identity⟩
      backends := Function.update w.backends i ⟨.bound, w.objects, identity.node⟩
      objects := w.objects + 1 }
  else w

/-- `set_permissions`. -/
def restrict (w : World) (i : ℕ) (seconds nanoseconds : ℤ) : World :=
  match w.path with
  | none => w.setPhase i .gone
  | some file =>
    { w.setPhase i .restricted with
      path := some { file with
        identity :=
          { file.identity with
            changedAtSeconds := seconds, changedAtNanoseconds := nanoseconds } } }

/-- One step; a process that stands elsewhere does not take it. -/
def step (w : World) : Input → World
  | .client i handshake => w.clientStep i handshake
  | .leave i => w.leave i
  | .bind i identity => if (w.backends i).phase = .starting then w.bind i identity else w
  | .restrict i seconds nanoseconds =>
    if (w.backends i).phase = .bound then w.restrict i seconds nanoseconds else w
  | .identify i =>
    if (w.backends i).phase = .restricted then
      match w.path with
      | none => w.setPhase i .gone
      | some file => w.setPhase i (.serving file.identity.node)
    else w
  | .stop i =>
    match (w.backends i).phase with
    | .serving identity => w.setPhase i (.closed identity)
    | _ => w
  | .cleanup i =>
    match (w.backends i).phase with
    | .closed identity =>
      if w.path.any fun file => file.identity.node == identity then
        w.setPhase i (.matched identity)
      else w.setPhase i .gone
    | _ => w
  | .unlink i =>
    match (w.backends i).phase with
    | .matched _ => { w.setPhase i .gone with path := none }
    | _ => w
  | .kill i => if i < w.spawned then w.setPhase i .gone else w

end World
end Local
end Moh
