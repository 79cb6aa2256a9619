/-
# File observations

`tools/observations.rs`: the file versions a conversation has seen.  An
observation is kept under two keys, the lexical identity of the path that was
asked for and that of the canonical path (`record`); forgetting one removes every
observation of its canonical path (`forget`).
-/

import Moh.Tools.Anchors

namespace Moh
namespace Tools

/-- `FileObservation`. -/
structure FileObservation where
  canonicalPath : PathBuf
  checksum : UInt64
deriving DecidableEq

/-- `FileObservations`: the entries by lexical identity. -/
structure FileObservations where
  entries : PathBuf → Option FileObservation

/-- One component of `lexical_identity`. -/
def pushComponent (normalized : PathBuf) : Component → PathBuf
  | .curDir => normalized
  | .parentDir => normalized.pop
  | .rootDir => [.rootDir]
  | .normal name => normalized ++ [.normal name]

/-- `lexical_identity`: the path without `.` and `..`, links not followed. -/
def lexicalIdentity (path : PathBuf) : PathBuf :=
  path.foldl pushComponent []

namespace FileObservations

variable {H : Hashing} {observations : FileObservations} {path canonical : PathBuf}
  {bytes : List UInt8} {observation : FileObservation}

/-- Nothing has been seen. -/
def empty : FileObservations := ⟨fun _ => none⟩

/-- `FileObservations::get`. -/
def get (observations : FileObservations) (path : PathBuf) : Option FileObservation :=
  observations.entries (lexicalIdentity path)

/-- `FileObservations::record`. -/
def record (H : Hashing) (observations : FileObservations) (requestedPath canonicalPath : PathBuf)
    (bytes : List UInt8) : FileObservations :=
  let observation : FileObservation := ⟨canonicalPath, H.xxh64 bytes⟩
  ⟨Function.update
    (Function.update observations.entries (lexicalIdentity requestedPath) (some observation))
    (lexicalIdentity canonicalPath) (some observation)⟩

/-- `FileObservations::forget`. -/
def forget (observations : FileObservations) (observation : FileObservation) : FileObservations :=
  ⟨fun key => (observations.entries key).filter fun entry =>
    entry.canonicalPath ≠ observation.canonicalPath⟩

/-- **What is found after recording:** the new observation under both keys,
elsewhere what was there. -/
theorem entries_record (key : PathBuf) :
    (observations.record H path canonical bytes).entries key =
      if key = lexicalIdentity path ∨ key = lexicalIdentity canonical then
        some ⟨canonical, H.xxh64 bytes⟩
      else observations.entries key := by
  unfold record
  by_cases hc : key = lexicalIdentity canonical
  · subst hc
    simp
  · by_cases hp : key = lexicalIdentity path
    · subst hp
      simp [Function.update_of_ne hc]
    · simp [hp, hc]

/-- What is found after forgetting: what was there, of another canonical path. -/
theorem entries_forget {key : PathBuf} {entry : FileObservation} :
    (observations.forget observation).entries key = some entry ↔
      observations.entries key = some entry ∧ entry.canonicalPath ≠ observation.canonicalPath := by
  unfold forget
  rw [Option.filter_eq_some_iff]
  simp

end FileObservations

/-- A settled directory is its own lexical identity. -/
theorem lexicalIdentity_of_settled {fs : FileSystem} {d : PathBuf} (hd : fs.Settled d) :
    lexicalIdentity d = d := by
  unfold lexicalIdentity
  induction hd with
  | root => rfl
  | dir hd he ih => rw [List.foldl_append, ih]; rfl

/-- **A place is its own lexical identity.** -/
theorem lexicalIdentity_of_atPlace {fs : FileSystem} {c : PathBuf} (hc : fs.AtPlace c) :
    lexicalIdentity c = c := by
  cases hc with
  | directory hd => exact lexicalIdentity_of_settled hd
  | file hd he =>
    have := lexicalIdentity_of_settled hd
    unfold lexicalIdentity at this ⊢
    rw [List.foldl_append, this]
    rfl

end Tools
end Moh
