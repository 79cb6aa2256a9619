/-
# Who removes the socket file

Both sides check the identity of the socket file before they remove it.  But the check
and the removal are two calls, and an identity may be used again: an old backend that
cleans up can remove the file of a new one (`file_of_new_backend_removed`).  In the runs in
which no backend binds the path between a check and the removal behind it, and none gets
an identity that somebody takes for another file, every removal finds the file that is
meant, and no file of a listening backend is ever removed (`owned_of_undisturbed`).
-/

import Moh.Library.Run
import Moh.Local.Ownership

namespace Moh
namespace Local

/-- The file that the client found at first, while it may still remove it. -/
def ClientPhase.original : ClientPhase → Option SocketFile
  | .connecting _ original _ => original
  | .locking original => original
  | .comparing original => original
  | .confirming original => some original
  | .removing original => some original
  | _ => none

/-- The client stands between its comparison and its removal. -/
def ClientPhase.committed : ClientPhase → Bool
  | .confirming _ | .removing _ => true
  | _ => false

namespace World

/-- The identity is none that a client compares a file with. -/
def Unremembered (w : World) (identity : SocketCandidateIdentity) : Prop :=
  ∀ i original, (w.clients i).original = some original → original.identity ≠ identity

/-- A backend binds the path only while nobody stands between a check and a removal, and
neither a backend that will still clean up nor a client takes the file for another; nor does
the time of a change make a client take it for another. -/
def Undisturbed (w : World) : Input → Prop
  | .bind i identity => (w.backends i).phase = .starting → w.path = none →
    (∀ j own, (w.backends j).phase ≠ .matched own) ∧
      (∀ j, (w.clients j).committed = false) ∧
      (∀ j own, (w.backends j).phase = .closed own → own ≠ identity.node) ∧
      w.Unremembered identity
  | .restrict i seconds nanoseconds => (w.backends i).phase = .bound →
    ∀ file, w.path = some file → ∀ j original, (w.clients j).original = some original →
      original.object ≠ file.object → original.identity ≠
        { file.identity with
          changedAtSeconds := seconds, changedAtNanoseconds := nanoseconds }
  | _ => True

/-- Nobody mistakes the file at the path: a backend remembers the identity of its own file,
and what is recognised, or was, is what is meant. -/
structure Unmistaken (w : World) : Prop where
  identified : ∀ i own, (w.backends i).phase = .serving own ∨ (w.backends i).phase = .closed own →
    own = (w.backends i).node
  nodes : ∀ i, (w.backends i).listening = true → ∀ file, w.path = some file →
    file.identity.node = (w.backends i).node
  closed : ∀ i own, (w.backends i).phase = .closed own → ∀ file, w.path = some file →
    file.identity.node = own → file.object = (w.backends i).object
  matched : ∀ i own, (w.backends i).phase = .matched own → w.FindsOnly (w.backends i).object
  remembered : ∀ i original, (w.clients i).original = some original →
    ∀ file, w.path = some file → file.identity = original.identity →
      file.object = original.object
  committed : ∀ i original, (w.clients i).original = some original →
    (w.clients i).committed = true → w.FindsOnly original.object

variable {w : World}

/-- Who does not mistake the file removes the one that is meant. -/
theorem Unmistaken.removesMeant (h : w.Unmistaken) (input : Input) : w.RemovesMeant input := by
  cases input with
  | client i handshake =>
    intro original hphase
    exact h.committed i original (by rw [hphase]; rfl) (by rw [hphase]; rfl)
  | unlink i => exact h.matched i
  | _ => exact trivial

/-- A step of one backend that leaves the path alone. -/
theorem Unmistaken.setPhase (h : w.Unmistaken) {i : ℕ} {phase : BackendPhase}
    (hidentified : ∀ own, phase = .serving own ∨ phase = .closed own → own = (w.backends i).node)
    (hlistening : phase.listening = true → (w.backends i).phase.listening = true)
    (hclosed : ∀ own, phase = .closed own → ∀ file, w.path = some file →
      file.identity.node = own → file.object = (w.backends i).object)
    (hmatched : ∀ own, phase = .matched own → w.FindsOnly (w.backends i).object) :
    (w.setPhase i phase).Unmistaken := by
  constructor
  case identified =>
    intro j own hj
    rw [phase_setPhase] at hj
    rw [node_setPhase]
    split_ifs at hj with heq
    · exact heq ▸ hidentified own hj
    · exact h.identified j own hj
  case nodes =>
    intro j hj
    rw [Backend.listening, phase_setPhase] at hj
    rw [node_setPhase]
    split_ifs at hj with heq
    · exact heq ▸ h.nodes i (hlistening hj)
    · exact h.nodes j hj
  case closed =>
    intro j own hj
    rw [phase_setPhase] at hj
    rw [object_setPhase]
    split_ifs at hj with heq
    · exact heq ▸ hclosed own hj
    · exact h.closed j own hj
  case matched =>
    intro j own hj
    rw [phase_setPhase] at hj
    rw [object_setPhase]
    split_ifs at hj with heq
    · exact heq ▸ hmatched own hj
    · exact h.matched j own hj
  case remembered => exact h.remembered
  case committed => exact h.committed

/-- A backend comes to a phase in which it relies on no file. -/
theorem Unmistaken.settle (h : w.Unmistaken) {i : ℕ} {phase : BackendPhase}
    (hphase : ∀ own, phase ≠ .serving own ∧ phase ≠ .closed own ∧ phase ≠ .matched own)
    (hlistening : phase.listening = false) : (w.setPhase i phase).Unmistaken := by
  refine h.setPhase (fun own hown => ?_) (fun hl => ?_) (fun own hclosed => ?_) fun own hmatched => ?_
  · exact (hown.elim (hphase own).1 (hphase own).2.1).elim
  · exact absurd (hl.symm.trans hlistening) (by decide)
  · exact absurd hclosed (hphase own).2.1
  · exact absurd hmatched (hphase own).2.2

/-- The path is empty: there is nothing to mistake. -/
theorem Unmistaken.remove (h : w.Unmistaken) : ({ w with path := none } : World).Unmistaken := by
  constructor
  case identified => exact h.identified
  case nodes => exact fun i _ file hfile => by cases hfile
  case closed => exact fun i own _ file hfile => by cases hfile
  case matched => exact fun i own _ file hfile => by cases hfile
  case remembered => exact fun i original _ file hfile => by cases hfile
  case committed => exact fun i original _ _ file hfile => by cases hfile

/-- A client goes on. -/
theorem Unmistaken.setClient (h : w.Unmistaken) (i : ℕ) {phase : ClientPhase}
    (hremembered : ∀ original, phase.original = some original → ∀ file, w.path = some file →
      file.identity = original.identity → file.object = original.object)
    (hcommitted : ∀ original, phase.original = some original → phase.committed = true →
      w.FindsOnly original.object) : (w.setClient i phase).Unmistaken := by
  have hclients : ∀ j, (w.setClient i phase).clients j = phase ∨
      (w.setClient i phase).clients j = w.clients j := by
    intro j
    show Function.update w.clients i phase j = _ ∨ Function.update w.clients i phase j = _
    rw [Function.update_apply]
    split_ifs
    · exact .inl rfl
    · exact .inr rfl
  constructor
  case identified => exact h.identified
  case nodes => exact h.nodes
  case closed => exact h.closed
  case matched => exact h.matched
  case remembered =>
    intro j original
    rcases hclients j with hj | hj <;> rw [hj]
    · exact hremembered original
    · exact h.remembered j original
  case committed =>
    intro j original
    rcases hclients j with hj | hj <;> rw [hj]
    · exact hcommitted original
    · exact h.committed j original

/-- A client that goes on with the file it means, and does not commit itself. -/
theorem Unmistaken.setClient_same (h : w.Unmistaken) (i : ℕ) {phase : ClientPhase}
    (hsame : ∀ original, phase.original = some original →
      (w.clients i).original = some original) (hopen : phase.committed = false) :
    (w.setClient i phase).Unmistaken := by
  refine h.setClient i (fun original ho => h.remembered i original (hsame original ho))
    fun original _ hcommitted => ?_
  rw [hopen] at hcommitted
  cases hcommitted

/-- A client that means no file any more. -/
theorem Unmistaken.setClient_none (h : w.Unmistaken) (i : ℕ) {phase : ClientPhase}
    (hnone : phase.original = none) : (w.setClient i phase).Unmistaken := by
  refine h.setClient i (fun original ho => ?_) fun original ho => ?_ <;>
    · rw [hnone] at ho
      cases ho

theorem Unmistaken.withLock (h : w.Unmistaken) (lock : Option ℕ) :
    ({ w with lock := lock } : World).Unmistaken :=
  ⟨h.identified, h.nodes, h.closed, h.matched, h.remembered, h.committed⟩

theorem Unmistaken.leave (h : w.Unmistaken) (i : ℕ) : (w.leave i).Unmistaken :=
  Unmistaken.withLock (w := w.setClient i .done) (h.setClient_none i rfl) _

theorem Unmistaken.wait (h : w.Unmistaken) (i : ℕ) (observedReset : Bool) :
    (w.wait i observedReset).Unmistaken :=
  h.setClient_none i rfl

theorem Unmistaken.absent (h : w.Unmistaken) (i : ℕ) {original : Option SocketFile} (round : Round)
    (hsame : (w.clients i).original = original) : (w.absent i original round).Unmistaken := by
  cases round with
  | first => exact h.setClient_same i (fun file ho => hsame.trans ho) rfl
  | second => exact h.setClient_same i (fun file ho => hsame.trans ho) rfl
  | wait observedReset => exact h.wait i observedReset

/-- A backend that starts knows no file. -/
theorem Unmistaken.spawn (h : w.Unmistaken) :
    ({ w with
      backends := Function.update w.backends w.spawned ⟨.starting, 0, ⟨0, 0⟩⟩
      spawned := w.spawned + 1 } : World).Unmistaken := by
  have hback : ∀ j phase, (Function.update w.backends w.spawned ⟨.starting, 0, ⟨0, 0⟩⟩ j).phase =
      phase → phase ≠ .starting →
      Function.update w.backends w.spawned ⟨.starting, 0, ⟨0, 0⟩⟩ j = w.backends j := by
    intro j phase hphase hne
    rw [Function.update_apply] at hphase ⊢
    split_ifs at hphase ⊢ with heq
    · exact absurd hphase.symm hne
    · rfl
  constructor
  case identified =>
    rintro j own (hj | hj)
    · have hold := hback j _ hj (by simp)
      dsimp only at hj ⊢
      rw [hold] at hj ⊢
      exact h.identified j own (.inl hj)
    · have hold := hback j _ hj (by simp)
      dsimp only at hj ⊢
      rw [hold] at hj ⊢
      exact h.identified j own (.inr hj)
  case nodes =>
    intro j hj
    have hne : (Function.update w.backends w.spawned ⟨.starting, 0, ⟨0, 0⟩⟩ j).phase ≠ .starting := by
      intro hphase
      rw [Backend.listening] at hj
      dsimp only at hj
      rw [hphase] at hj
      cases hj
    dsimp only at hj ⊢
    rw [hback j _ rfl hne] at hj ⊢
    exact h.nodes j hj
  case closed =>
    intro j own hj
    have hold := hback j _ hj (by simp)
    dsimp only at hj ⊢
    rw [hold] at hj ⊢
    exact h.closed j own hj
  case matched =>
    intro j own hj
    have hold := hback j _ hj (by simp)
    dsimp only at hj ⊢
    rw [hold] at hj ⊢
    exact h.matched j own hj
  case remembered => exact h.remembered
  case committed => exact h.committed

/-- One call of a client. -/
theorem Unmistaken.clientStep (h : w.Unmistaken) (i : ℕ) (handshake : Handshake) :
    (w.clientStep i handshake).Unmistaken := by
  unfold World.clientStep
  split
  · -- The original file is the one at the path.
    refine h.setClient i (fun original ho file hfile _ => ?_) fun original _ hcommitted => ?_
    · exact congrArg SocketFile.object (Option.some.inj (hfile.symm.trans ho))
    · cases hcommitted
  · next hphase => exact h.setClient_same i (fun file ho => by rw [hphase]; exact ho) rfl
  · next hphase =>
    split_ifs
    · exact h.setClient_same i (fun file ho => by rw [hphase]; exact ho) rfl
    · exact h.absent i _ (by rw [hphase]; rfl)
  · next hphase =>
    split_ifs
    · exact h.absent i _ (by rw [hphase]; rfl)
    · exact h.setClient_same i (fun file ho => by rw [hphase]; exact ho) rfl
  · next hphase =>
    split
    · exact h.setClient_same i (fun file ho => by rw [hphase]; exact ho) rfl
    · exact h.wait i true
    · exact h.leave i
  · next hphase =>
    split_ifs
    · refine Unmistaken.withLock (h.setClient_same i ?_ rfl) _
      exact fun file ho => by rw [hphase]; exact ho
    · exact h
  · next hphase =>
    split
    · exact h.setClient_none i rfl
    · exact h.wait i false
    · -- A file that is recognised is the one that is meant.
      next original current hpath =>
      split_ifs with hsame
      · exact h.wait i false
      · have hremembered := h.remembered i original (by rw [hphase]; rfl)
        refine h.setClient i (fun file ho => ?_) fun file ho _ found hfound => ?_ <;>
          obtain rfl := Option.some.inj ho
        · exact hremembered
        · obtain rfl := Option.some.inj (hpath.symm.trans hfound)
          exact hremembered current hpath (not_not.1 hsame).symm
  · next original hphase =>
    have hcommitted := h.committed i original (by rw [hphase]; rfl) (by rw [hphase]; rfl)
    split
    · exact h.leave i
    · split_ifs
      · exact h.wait i false
      · refine h.setClient i (fun file ho found hfound _ => ?_) fun file ho _ => ?_ <;>
          obtain rfl := Option.some.inj ho
        · exact hcommitted found hfound
        · exact hcommitted
  · split_ifs
    · exact h.leave i
    · have hspawning : (w.setClient i .spawning).Unmistaken := h.setClient_none i rfl
      exact hspawning.remove
  · exact (h.wait i false).spawn
  · exact h

/-- A backend binds a file that nobody takes for another. -/
theorem Unmistaken.bind (h : w.Unmistaken) (hsound : w.Sound) {i : ℕ}
    (hpath : w.path = none) {identity : SocketCandidateIdentity}
    (hmatched : ∀ j own, (w.backends j).phase ≠ .matched own)
    (hcommitted : ∀ j, (w.clients j).committed = false)
    (hclosed : ∀ j own, (w.backends j).phase = .closed own → own ≠ identity.node)
    (hfresh : w.Unremembered identity) :
    ({ w with
      path := some ⟨w.objects, identity⟩
      backends := Function.update w.backends i ⟨.bound, w.objects, identity.node⟩
      objects := w.objects + 1 } : World).Unmistaken := by
  have hcases : ∀ j, Function.update w.backends i ⟨.bound, w.objects, identity.node⟩ j =
        ⟨.bound, w.objects, identity.node⟩ ∨
      Function.update w.backends i ⟨.bound, w.objects, identity.node⟩ j = w.backends j := by
    intro j
    rw [Function.update_apply]
    split_ifs
    · exact .inl rfl
    · exact .inr rfl
  constructor
  case identified =>
    intro j own hj
    dsimp only at hj ⊢
    rcases hcases j with hb | hb <;> rw [hb] at hj ⊢
    · rcases hj with hj | hj <;> cases hj
    · exact h.identified j own hj
  case nodes =>
    intro j hj file hfile
    obtain rfl := Option.some.inj hfile
    dsimp only at hj ⊢
    rcases hcases j with hb | hb <;> rw [hb] at hj ⊢
    obtain ⟨found, hfound, -⟩ := hsound.reachable j hj
    rw [hpath] at hfound
    cases hfound
  case closed =>
    intro j own hj file hfile hnode
    obtain rfl := Option.some.inj hfile
    dsimp only at hj ⊢
    rcases hcases j with hb | hb <;> rw [hb] at hj
    · cases hj
    · exact absurd hnode.symm (hclosed j own hj)
  case matched =>
    intro j own hj
    dsimp only at hj
    rcases hcases j with hb | hb <;> rw [hb] at hj
    · cases hj
    · exact absurd hj (hmatched j own)
  case remembered =>
    intro j original ho file hfile hsame
    obtain rfl := Option.some.inj hfile
    exact absurd hsame.symm (hfresh j original ho)
  case committed =>
    intro j original _ hj
    have hopen : (w.clients j).committed = false := hcommitted j
    dsimp only at hj
    rw [hopen] at hj
    cases hj

/-- A backend restricts the file at the path, and nobody takes it for another. -/
theorem Unmistaken.restrict (h : w.Unmistaken) {i : ℕ} (hbound : (w.backends i).phase = .bound)
    {file : SocketFile} (hfile : w.path = some file) {identity : SocketCandidateIdentity}
    (hnode : identity.node = file.identity.node)
    (hfresh : ∀ j original, (w.clients j).original = some original →
      original.object ≠ file.object → original.identity ≠ identity) :
    ({ w.setPhase i .restricted with path := some { file with identity := identity } } :
      World).Unmistaken := by
  have hphase : (w.setPhase i .restricted).Unmistaken := by
    refine h.setPhase nofun (fun _ => ?_) nofun nofun
    rw [hbound]
    rfl
  constructor
  case identified => exact hphase.identified
  case nodes =>
    intro j hj found hfound
    obtain rfl := Option.some.inj hfound
    exact hnode.trans (hphase.nodes j hj file hfile)
  case closed =>
    intro j own hj found hfound heq
    obtain rfl := Option.some.inj hfound
    exact hphase.closed j own hj file hfile (hnode.symm.trans heq)
  case matched =>
    intro j own hj found hfound
    obtain rfl := Option.some.inj hfound
    exact hphase.matched j own hj file hfile
  case remembered =>
    intro j original ho found hfound heq
    obtain rfl := Option.some.inj hfound
    by_contra hne
    exact hfresh j original ho (Ne.symm hne) heq.symm
  case committed =>
    intro j original ho hj found hfound
    obtain rfl := Option.some.inj hfound
    exact hphase.committed j original ho hj file hfile

/-- One step of an undisturbed run. -/
theorem Unmistaken.step (h : w.Unmistaken) (hsound : w.Sound) (input : Input)
    (hquiet : w.Undisturbed input) : (w.step input).Unmistaken := by
  cases input with
  | client i handshake => exact h.clientStep i handshake
  | leave i => exact h.leave i
  | bind i identity =>
    rw [World.step]
    split_ifs with hstarting
    · unfold World.bind
      split_ifs with hpath
      · exact h.settle (by simp) rfl
      · have hnone : w.path = none := Option.not_isSome_iff_eq_none.1 hpath
        obtain ⟨hmatched, hcommitted, hclosed, hfresh⟩ := hquiet hstarting hnone
        exact h.bind hsound hnone hmatched hcommitted hclosed hfresh
      · exact h
    · exact h
  | restrict i seconds nanoseconds =>
    rw [World.step]
    split_ifs with hbound
    · unfold World.restrict
      split
      · exact h.settle (by simp) rfl
      · next file hfile => exact h.restrict hbound hfile rfl (hquiet hbound file hfile)
    · exact h
  | identify i =>
    rw [World.step]
    split_ifs with hrestricted
    · split
      · exact h.settle (by simp) rfl
      · next file hfile =>
        have hlistening : (w.backends i).listening = true := by
          rw [Backend.listening, hrestricted]
          rfl
        refine h.setPhase (fun own hown => ?_) (fun _ => hlistening) (by simp) (by simp)
        have heq := BackendPhase.serving.inj (hown.resolve_right (by simp))
        exact heq.symm.trans (h.nodes i hlistening file hfile)
    · exact h
  | stop i =>
    rw [World.step]
    split
    · next own hserving =>
      have hlistening : (w.backends i).listening = true := by
        rw [Backend.listening, hserving]
        rfl
      refine h.setPhase (fun other hother => ?_) (fun hl => by cases hl)
        (fun other _ file hfile _ => ?_) (by simp)
      · have heq := BackendPhase.closed.inj (hother.resolve_left (by simp))
        exact heq.symm.trans (h.identified i own (.inl hserving))
      · obtain ⟨found, hfound, hobject⟩ := hsound.reachable i hlistening
        obtain rfl := Option.some.inj (hfile.symm.trans hfound)
        exact hobject
    · exact h
  | cleanup i =>
    rw [World.step]
    split
    · next own hclosed =>
      split_ifs with hmatches
      · refine h.setPhase (by simp) (fun hl => by cases hl) (by simp) fun other _ file hfile => ?_
        rw [hfile] at hmatches
        exact h.closed i own hclosed file hfile (beq_iff_eq.1 hmatches)
      · exact h.settle (by simp) rfl
    · exact h
  | unlink i =>
    rw [World.step]
    split
    · have hgone : (w.setPhase i .gone).Unmistaken := h.settle (by simp) rfl
      exact hgone.remove
    · exact h
  | kill i =>
    rw [World.step]
    split_ifs
    · exact h.settle (by simp) rfl
    · exact h

/-! ### Every run -/

theorem sound_start (stale : Option SocketCandidateIdentity) : (start stale).Sound := by
  constructor
  case reachable => exact fun i hi => by cases hi
  case path_lt =>
    intro file hfile
    obtain ⟨identity, -, rfl⟩ := Option.map_eq_some_iff.1 hfile
    exact Nat.zero_lt_one
  case object_lt => exact fun i => Nat.zero_lt_one
  case unborn => exact fun i _ => rfl
  case distinct => exact fun i j hi => by cases hi
  case clients => exact fun i => trivial

theorem unmistaken_start (stale : Option SocketCandidateIdentity) : (start stale).Unmistaken := by
  constructor
  case identified => exact fun i own hi => by rcases hi with hi | hi <;> cases hi
  case nodes => exact fun i hi => by cases hi
  case closed => exact fun i own hi => by cases hi
  case matched => exact fun i own hi => by cases hi
  case remembered => exact fun i original ho => by cases ho
  case committed => exact fun i original ho => by cases ho

/-- **In an undisturbed run listening backends are reachable.**  Whatever number of clients
and backends there are and in whatever order they make their calls, no file of a listening
backend is removed, and there is one such backend at most. -/
theorem owned_of_undisturbed (stale : Option SocketCandidateIdentity) (inputs : List Input)
    (h : Run.Guarded step Undisturbed (start stale) inputs) :
    (Run.run step (start stale) inputs).Owned := by
  have hrun : (Run.run step (start stale) inputs).Sound ∧
      (Run.run step (start stale) inputs).Unmistaken := by
    refine Run.run_invariant_of_guarded (I := fun w : World => w.Sound ∧ w.Unmistaken)
      (fun w input hw hquiet => ?_) ⟨sound_start stale, unmistaken_start stale⟩ h
    exact ⟨hw.1.step input (hw.2.removesMeant input), hw.2.step hw.1 input hquiet⟩
  exact hrun.1.owned

/-! ### Two runs -/

/-- The calls with which a client that finds nothing starts a backend. -/
def launch (client : ℕ) : List Input := List.replicate 8 (.client client .connected)

/-- The calls with which a client removes a stale file and starts a backend. -/
def replace (client : ℕ) : List Input := List.replicate 10 (.client client .connected)

/-- A backend binds its file and the client that started it connects. -/
def serve (backend client inode : ℕ) (time : ℤ) : List Input :=
  [.bind backend ⟨1, inode, time, 0⟩, .restrict backend time 1, .identify backend] ++
    List.replicate 4 (.client client .connected)

/-- What a client does changes no other client. -/
theorem clients_clientStep_of_ne (w : World) {i j : ℕ} (hne : j ≠ i) (handshake : Handshake) :
    (w.clientStep i handshake).clients j = w.clients j := by
  have hset : ∀ (w : World) phase, (w.setClient i phase).clients j = w.clients j :=
    fun w phase => Function.update_of_ne hne ..
  have habsent : ∀ original round, (w.absent i original round).clients j = w.clients j := by
    intro original round
    cases round <;> exact hset ..
  unfold World.clientStep
  split <;> (repeat' split) <;> first | rfl | exact hset .. | exact habsent ..

theorem clients_run_of_ne {i j : ℕ} (hne : j ≠ i) (handshake : Handshake) (n : ℕ) (w : World) :
    (Run.run step w (List.replicate n (.client i handshake))).clients j = w.clients j := by
  induction n generalizing w with
  | zero => rfl
  | succ n ih => exact (ih _).trans (clients_clientStep_of_ne w hne handshake)

/-- A run of one client and one backend is undisturbed. -/
theorem undisturbed_launch : Run.Guarded step Undisturbed (start none)
    (launch 0 ++ serve 0 0 5 10 ++ [.stop 0, .cleanup 0, .unlink 0]) := by
  have hclient : ∀ j, ((Run.run step (start none) (launch 0)).clients j).original = none ∧
      ((Run.run step (start none) (launch 0)).clients j).committed = false := by
    intro j
    by_cases hj : j = 0
    · rw [hj]
      exact ⟨rfl, rfl⟩
    · rw [launch, clients_run_of_ne hj]
      exact ⟨rfl, rfl⟩
  have hbackend : ∀ j,
      ((Run.run step (start none) (launch 0)).backends j).phase.hasFile = false := by
    intro j
    have hbackends : (Run.run step (start none) (launch 0)).backends =
        Function.update (start none).backends 0 ⟨.starting, 0, ⟨0, 0⟩⟩ := rfl
    rw [hbackends, Function.update_apply]
    split_ifs <;> rfl
  have hcalls : ∀ (w : World) n,
      Run.Guarded step Undisturbed w (List.replicate n (.client 0 .connected)) := by
    intro w n
    induction n generalizing w with
    | zero => exact trivial
    | succ n ih => exact ⟨trivial, ih _⟩
  rw [List.append_assoc, Run.guarded_append]
  refine ⟨hcalls _ 8, fun _ _ => ⟨fun j own hj => ?_, fun j => (hclient j).2, fun j own hj => ?_,
    fun j original ho => ?_⟩, fun _ file _ j original ho => ?_, trivial, ?_⟩
  · have hfile := hbackend j
    rw [hj] at hfile
    cases hfile
  · have hfile := hbackend j
    rw [hj] at hfile
    cases hfile
  · rw [(hclient j).1] at ho
    cases ho
  · have hnone : (none : Option SocketFile) = some original := (hclient j).1.symm.trans ho
    cases hnone
  · exact ⟨trivial, trivial, trivial, trivial, trivial, trivial, trivial, trivial⟩

theorem owned_of_undisturbed_launch : (Run.run step (start none)
    (launch 0 ++ serve 0 0 5 10 ++ [.stop 0, .cleanup 0, .unlink 0])).Owned :=
  owned_of_undisturbed none _ undisturbed_launch

/-- **A backend that cleans up removes the file of a new one:** because a client has replaced
its stale file since the check, or because the new file has the inode of the stale one.  The
new backend listens, and nobody can reach it. -/
theorem file_of_new_backend_removed :
    ¬(Run.run step (start none) (launch 0 ++ serve 0 0 5 10 ++ [.stop 0, .cleanup 0] ++
        replace 1 ++ serve 1 1 6 20 ++ [.unlink 0])).Owned ∧
      ¬(Run.run step (start none) (launch 0 ++ serve 0 0 5 10 ++ [.stop 0] ++
        replace 1 ++ serve 1 1 5 20 ++ [.cleanup 0, .unlink 0])).Owned := by
  refine ⟨fun h => ?_, fun h => ?_⟩
  · obtain ⟨file, hfile, -⟩ := h.reachable 1 (by decide)
    cases hfile
  · obtain ⟨file, hfile, -⟩ := h.reachable 1 (by decide)
    cases hfile

end World
end Local
end Moh
