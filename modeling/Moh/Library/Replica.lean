/-
# A replica behind a pipe

A producer (`Moh.Library.Run`) changes its state input by input and sends an output for each
change.  A consumer that simulates the producer holds a replica of it, and what is on the way
between the two is a list of outputs.  `Trails` relates them: the replica stands for a state
that the producer passed through, and the outputs on the way lead from there to the producer's
present state.  Where an output determines the step that sent it, a replica of what the first
outputs lead to trails what all of them lead to (`Trails.of_emits`), and a replica with nothing
on the way is related to the producer itself (`Trails.caughtUp`).
-/

import Moh.Library.Run

namespace Moh
namespace Replica

variable {σ τ ι ο ε : Type*}

/-- The producer gets from `s` to `s'` with the outputs `os`. -/
def Emits (produce : σ → ι → Except ε (ο × σ)) (s : σ) (os : List ο) (s' : σ) : Prop :=
  ∃ inputs, Run.produceAll produce s inputs = .ok (os, s')

section Emits

variable {produce : σ → ι → Except ε (ο × σ)} {s s' s'' : σ} {i : ι} {o : ο} {os os' : List ο}

@[simp] theorem emits_nil : Emits produce s [] s' ↔ s = s' := by
  constructor
  · rintro ⟨inputs, h⟩
    cases inputs with
    | nil => simpa [Run.produceAll] using h
    | cons i inputs =>
      simp only [Run.produceAll] at h
      split at h
      · simp at h
      · split at h <;> simp at h
  · rintro rfl
    exact ⟨[], rfl⟩

/-- **The first output** stems from the first input. -/
theorem emits_cons : Emits produce s (o :: os) s'' ↔
    ∃ i s', produce s i = .ok (o, s') ∧ Emits produce s' os s'' := by
  constructor
  · rintro ⟨inputs, h⟩
    cases inputs with
    | nil => simp [Run.produceAll] at h
    | cons i inputs =>
      cases hp : produce s i with
      | error e => simp [Run.produceAll, hp] at h
      | ok r =>
        obtain ⟨o₁, s₁⟩ := r
        cases hq : Run.produceAll produce s₁ inputs with
        | error e => simp [Run.produceAll, hp, hq] at h
        | ok r =>
          obtain ⟨os₁, s₂⟩ := r
          simp only [Run.produceAll, hp, hq, Except.ok.injEq, Prod.mk.injEq,
            List.cons.injEq] at h
          obtain ⟨⟨rfl, rfl⟩, rfl⟩ := h
          exact ⟨i, s₁, hp, inputs, hq⟩
  · rintro ⟨i, s', hp, inputs, h⟩
    exact ⟨i :: inputs, by simp only [Run.produceAll, hp, h]⟩

/-- **Outputs in two parts** lead through the state between them. -/
theorem emits_append :
    Emits produce s (os ++ os') s'' ↔ ∃ s', Emits produce s os s' ∧ Emits produce s' os' s'' := by
  induction os generalizing s with
  | nil => simp
  | cons o os ih =>
    simp only [List.cons_append, emits_cons, ih]
    constructor
    · rintro ⟨i, s₁, hp, s₂, h₁, h₂⟩
      exact ⟨s₂, ⟨i, s₁, hp, h₁⟩, h₂⟩
    · rintro ⟨s₂, ⟨i, s₁, hp, h₁⟩, h₂⟩
      exact ⟨i, s₁, hp, s₂, h₁, h₂⟩

theorem emits_singleton (h : produce s i = .ok (o, s')) : Emits produce s [o] s' :=
  emits_cons.2 ⟨i, s', h, emits_nil.2 rfl⟩

theorem Emits.snoc (h : Emits produce s os s') (hp : produce s' i = .ok (o, s'')) :
    Emits produce s (os ++ [o]) s'' :=
  emits_append.2 ⟨s', h, emits_singleton hp⟩

/-- **Outputs that determine the step** determine the state they lead to. -/
theorem Emits.unique (hdet : ∀ s i j o s₁ s₂, produce s i = .ok (o, s₁) →
    produce s j = .ok (o, s₂) → s₁ = s₂) (h : Emits produce s os s') (h' : Emits produce s os s'') :
    s' = s'' := by
  induction os generalizing s with
  | nil => exact (emits_nil.1 h).symm.trans (emits_nil.1 h')
  | cons o os ih =>
    obtain ⟨i, s₁, hp, h⟩ := emits_cons.1 h
    obtain ⟨j, s₂, hq, h'⟩ := emits_cons.1 h'
    obtain rfl := hdet _ _ _ _ _ _ hp hq
    exact ih h h'

end Emits

/-- **The replica trails the producer:** it is related to the state `p` that the producer
passed through after the outputs `consumed`, and the outputs `pending` lead from `p` to the
present state. -/
def Trails (produce : σ → ι → Except ε (ο × σ)) (R : σ → τ → Prop) (base : σ)
    (consumed pending : List ο) (s : σ) (t : τ) : Prop :=
  ∃ p, Emits produce base consumed p ∧ R p t ∧ Emits produce p pending s

namespace Trails

variable {produce : σ → ι → Except ε (ο × σ)} {R : σ → τ → Prop} {base s : σ} {t : τ}
  {consumed pending : List ο}

/-- A replica of the state after `consumed` trails the state after all of it. -/
theorem of_emits (hdet : ∀ s i j o s₁ s₂, produce s i = .ok (o, s₁) →
    produce s j = .ok (o, s₂) → s₁ = s₂) {p : σ} (hall : Emits produce base (consumed ++ pending) s)
    (hconsumed : Emits produce base consumed p) (hR : R p t) :
    Trails produce R base consumed pending s t := by
  obtain ⟨q, hq, hpending⟩ := emits_append.1 hall
  obtain rfl := hq.unique hdet hconsumed
  exact ⟨q, hconsumed, hR, hpending⟩

/-- **With nothing on the way** the replica is related to the producer. -/
theorem caughtUp (h : Trails produce R base consumed [] s t) : R s t := by
  obtain ⟨p, -, hR, hpending⟩ := h
  obtain rfl := emits_nil.1 hpending
  exact hR

end Trails
end Replica
end Moh
