/-
# Interleavings that take effect one after another

A machine whose steps interleave several activities, and one that takes each activity as a
single turn.  A step is explained by the turns that take effect at it, which may be none;
what one step keeps of the relation between the two, a run keeps, with the turns of its
steps in order (`exists_turns`).  An activity that needs what only one may hold at a time
holds it exactly in the phases that need it (`Exclusive`).
-/

import Moh.Library.Run

namespace Moh
namespace Serial

variable {σ τ ι ε : Type*}

/-! ### Turns -/

/-- **If every step is explained by turns, so is a run:** each step by its own turns, and
the states stay related. -/
theorem exists_turns {step : σ → ι → σ} {take : τ → ε → τ} {R : σ → τ → Prop}
    {G : σ → ι → Prop} {E : ι → List ε → Prop}
    (hstep : ∀ s t i, R s t → G s i → ∃ turns, E i turns ∧ R (step s i) (Run.run take t turns))
    {s : σ} {t : τ} (h : R s t) {inputs : List ι} (hG : Run.Guarded step G s inputs) :
    ∃ turns : List (List ε), List.Forall₂ E inputs turns ∧
      R (Run.run step s inputs) (Run.run take t turns.flatten) := by
  induction inputs generalizing s t with
  | nil => exact ⟨[], .nil, h⟩
  | cons i inputs ih =>
    obtain ⟨first, hfirst, hR⟩ := hstep s t i h hG.1
    obtain ⟨rest, hrest, hR⟩ := ih hR hG.2
    refine ⟨first :: rest, .cons hfirst hrest, ?_⟩
    rw [List.flatten_cons, Run.run_append]
    exact hR

/-! ### Phases that exclude each other -/

variable {κ φ : Type*}

/-- The activity that holds the lock is the one whose phase needs it. -/
def Exclusive (holds : φ → Prop) (holder : Option κ) (phase : κ → φ) : Prop :=
  ∀ i, holds (phase i) ↔ holder = some i

namespace Exclusive

variable {holds : φ → Prop} {holder : Option κ} {phase : κ → φ} {i : κ} {p : φ}
  [DecidableEq κ]

/-- An activity moves on and keeps the lock. -/
theorem keep (h : Exclusive holds holder phase) (hi : holds (phase i)) (hp : holds p) :
    Exclusive holds holder (Function.update phase i p) := by
  intro j
  by_cases hj : j = i
  · subst hj
    rw [Function.update_self]
    exact ⟨fun _ => (h j).1 hi, fun _ => hp⟩
  · rw [Function.update_of_ne hj]
    exact h j

/-- An activity moves on without the lock. -/
theorem pass (h : Exclusive holds holder phase) (hi : ¬holds (phase i)) (hp : ¬holds p) :
    Exclusive holds holder (Function.update phase i p) := by
  intro j
  by_cases hj : j = i
  · subst hj
    rw [Function.update_self]
    exact ⟨fun hj => absurd hj hp, fun hj => absurd ((h j).2 hj) hi⟩
  · rw [Function.update_of_ne hj]
    exact h j

/-- An activity takes the lock that nobody has. -/
theorem acquire (h : Exclusive holds none phase) (hp : holds p) :
    Exclusive holds (some i) (Function.update phase i p) := by
  intro j
  by_cases hj : j = i
  · subst hj
    rw [Function.update_self]
    exact ⟨fun _ => rfl, fun _ => hp⟩
  · rw [Function.update_of_ne hj]
    constructor
    · intro hheld
      have hnone : none = some j := (h j).1 hheld
      simp at hnone
    · intro heq
      exact absurd (Option.some.inj heq).symm hj

/-- An activity ends, and leaves the lock if it had it. -/
theorem release (h : Exclusive holds holder phase) (hp : ¬holds p) :
    Exclusive holds (if holder = some i then none else holder) (Function.update phase i p) := by
  split_ifs with hholder
  · intro j
    by_cases hj : j = i
    · subst hj
      rw [Function.update_self]
      exact ⟨fun hj => absurd hj hp, fun hj => by simp at hj⟩
    · rw [Function.update_of_ne hj, h j, hholder]
      constructor
      · intro heq
        exact absurd (Option.some.inj heq).symm hj
      · intro heq
        simp at heq
  · exact h.pass (fun hi => hholder ((h i).1 hi)) hp

end Exclusive

end Serial
end Moh
