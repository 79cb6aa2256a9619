/-
# Runs of a state machine

A machine is its step function.  `run` takes one input after another, and what
one step preserves a whole run preserves (`run_invariant`); when only the steps
that meet a condition preserve it, the runs all of whose steps meet it do
(`run_invariant_of_guarded`).  A machine whose steps can be rejected produces an
output per step (`produceAll`), and a consumer that simulates each step
simulates the whole run (`consumeAll_of_produceAll`).  A machine that leaves marks
as it goes (`marksOf`) satisfies a monitor if the monitor accepts the marks of
every step (`accepted_of_marksOf`).
-/

import Mathlib.Data.List.Basic

namespace Moh
namespace Run

variable {σ τ ι ο ε ε' : Type*}

/-! ### Total steps -/

/-- The state after the inputs, taken in order. -/
def run (step : σ → ι → σ) (s : σ) (inputs : List ι) : σ :=
  inputs.foldl step s

@[simp] theorem run_nil (step : σ → ι → σ) (s : σ) : run step s [] = s := rfl

@[simp] theorem run_cons (step : σ → ι → σ) (s : σ) (i : ι) (inputs : List ι) :
    run step s (i :: inputs) = run step (step s i) inputs := rfl

theorem run_append (step : σ → ι → σ) (s : σ) (is js : List ι) :
    run step s (is ++ js) = run step (run step s is) js :=
  List.foldl_append ..

/-- **What every step preserves, a run preserves.** -/
theorem run_invariant {step : σ → ι → σ} {I : σ → Prop} (hstep : ∀ s i, I s → I (step s i))
    {s : σ} (hs : I s) (inputs : List ι) : I (run step s inputs) := by
  induction inputs generalizing s with
  | nil => exact hs
  | cons i inputs ih => exact ih (hstep s i hs)

/-- Every step of the run meets the condition `G` in the state before it. -/
def Guarded (step : σ → ι → σ) (G : σ → ι → Prop) : σ → List ι → Prop
  | _, [] => True
  | s, i :: inputs => G s i ∧ Guarded step G (step s i) inputs

instance decidableGuarded {step : σ → ι → σ} {G : σ → ι → Prop} [∀ s i, Decidable (G s i)] :
    (s : σ) → (inputs : List ι) → Decidable (Guarded step G s inputs)
  | _, [] => .isTrue trivial
  | s, i :: inputs =>
    haveI : Decidable (Guarded step G (step s i) inputs) := decidableGuarded (step s i) inputs
    inferInstanceAs (Decidable (G s i ∧ Guarded step G (step s i) inputs))

/-- A run in two parts meets the condition if both parts do. -/
theorem guarded_append {step : σ → ι → σ} {G : σ → ι → Prop} {s : σ} {is js : List ι} :
    Guarded step G s (is ++ js) ↔ Guarded step G s is ∧ Guarded step G (run step s is) js := by
  induction is generalizing s with
  | nil => simp [Guarded]
  | cons i is ih => simp only [List.cons_append, Guarded, run_cons, ih, and_assoc]

/-- **What every step that meets the condition preserves, a run whose steps all
meet it preserves.** -/
theorem run_invariant_of_guarded {step : σ → ι → σ} {I : σ → Prop} {G : σ → ι → Prop}
    (hstep : ∀ s i, I s → G s i → I (step s i)) {s : σ} (hs : I s) {inputs : List ι}
    (hG : Guarded step G s inputs) : I (run step s inputs) := by
  induction inputs generalizing s with
  | nil => exact hs
  | cons i inputs ih => exact ih (hstep s i hs hG.1) hG.2

/-- **A property that one kind of step breaks.**  If the invariant implies `P`, a step
that meets the condition keeps the invariant, and one that does not breaks `P`, then
`P` holds all along a run exactly if every step of it meets the condition. -/
theorem forall_prefix_iff_guarded {step : σ → ι → σ} {I P : σ → Prop} {G : σ → ι → Prop}
    (hP : ∀ s, I s → P s) (hstep : ∀ s i, I s → G s i → I (step s i))
    (hbreak : ∀ s i, I s → ¬G s i → ¬P (step s i)) {s : σ} (hs : I s) {inputs : List ι} :
    (∀ pre, pre <+: inputs → P (run step s pre)) ↔ Guarded step G s inputs := by
  constructor
  · intro h
    induction inputs generalizing s with
    | nil => exact trivial
    | cons i inputs ih =>
      have hi : G s i := by
        by_contra hG
        exact hbreak s i hs hG (h [i] ⟨inputs, rfl⟩)
      refine ⟨hi, ih (hstep s i hs hi) fun pre hpre => ?_⟩
      exact h (i :: pre) (List.cons_prefix_cons.2 ⟨rfl, hpre⟩)
  · rintro hG pre ⟨behind, rfl⟩
    exact hP _ (run_invariant_of_guarded hstep hs (guarded_append.1 hG).1)

/-! ### Steps that can be rejected -/

/-- The outputs of a producer over the inputs, and the state it ends in; the
first rejected input rejects the run. -/
def produceAll (produce : σ → ι → Except ε (ο × σ)) : σ → List ι → Except ε (List ο × σ)
  | s, [] => .ok ([], s)
  | s, i :: inputs =>
    match produce s i with
    | .error e => .error e
    | .ok (o, s) =>
      match produceAll produce s inputs with
      | .error e => .error e
      | .ok (os, s) => .ok (o :: os, s)

/-- A consumer over the outputs, up to the first one it rejects. -/
def consumeAll (consume : τ → ο → Except ε' Unit × τ) : τ → List ο → Except ε' Unit × τ
  | t, [] => (.ok (), t)
  | t, o :: os =>
    match consume t o with
    | (.error e, t) => (.error e, t)
    | (.ok (), t) => consumeAll consume t os

/-- **A consumer that simulates every step accepts every run,** and ends in a
state related to the producer's. -/
theorem consumeAll_of_produceAll {produce : σ → ι → Except ε (ο × σ)}
    {consume : τ → ο → Except ε' Unit × τ} {G : ι → Prop} {R : σ → τ → Prop}
    (hstep : ∀ {s s' t i o}, R s t → G i → produce s i = .ok (o, s') →
      ∃ t', consume t o = (.ok (), t') ∧ R s' t')
    {s s' : σ} {t : τ} {inputs : List ι} {os : List ο} (hR : R s t) (hG : ∀ i ∈ inputs, G i)
    (h : produceAll produce s inputs = .ok (os, s')) :
    ∃ t', consumeAll consume t os = (.ok (), t') ∧ R s' t' := by
  induction inputs generalizing s t os with
  | nil =>
    simp only [produceAll, Except.ok.injEq, Prod.mk.injEq] at h
    obtain ⟨rfl, rfl⟩ := h
    exact ⟨t, rfl, hR⟩
  | cons i inputs ih =>
    cases hp : produce s i with
    | error e => simp [produceAll, hp] at h
    | ok r =>
      obtain ⟨o, s₁⟩ := r
      obtain ⟨t₁, hc, hR₁⟩ := hstep hR (hG i (by simp)) hp
      cases hq : produceAll produce s₁ inputs with
      | error e => simp [produceAll, hp, hq] at h
      | ok r =>
        obtain ⟨os', s₂⟩ := r
        simp only [produceAll, hp, hq, Except.ok.injEq, Prod.mk.injEq] at h
        obtain ⟨rfl, rfl⟩ := h
        obtain ⟨t', hc', hR'⟩ := ih hR₁ (fun j hj => hG j (by simp [hj])) hq
        exact ⟨t', by simp only [consumeAll, hc, hc'], hR'⟩

/-! ### Steps that leave marks -/

/-- The marks of the steps over the inputs, in order, and the last state. -/
def marksOf (step : σ → ι → List ο × σ) : σ → List ι → List ο × σ
  | s, [] => ([], s)
  | s, i :: inputs =>
    ((step s i).1 ++ (marksOf step (step s i).2 inputs).1, (marksOf step (step s i).2 inputs).2)

/-- A monitor over marks, up to the first one it rejects. -/
def acceptAll (accept : τ → ο → Option τ) : τ → List ο → Option τ
  | t, [] => some t
  | t, o :: os =>
    match accept t o with
    | none => none
    | some t => acceptAll accept t os

theorem acceptAll_append {accept : τ → ο → Option τ} {t t' : τ} {os os' : List ο}
    (h : acceptAll accept t os = some t') :
    acceptAll accept t (os ++ os') = acceptAll accept t' os' := by
  induction os generalizing t with
  | nil =>
    obtain rfl := Option.some.inj h
    rfl
  | cons o os ih =>
    cases ha : accept t o with
    | none => simp [acceptAll, ha] at h
    | some t₁ =>
      simp only [acceptAll, ha] at h
      simp only [List.cons_append, acceptAll, ha]
      exact ih h

/-- **A machine whose every step is defined and keeps an invariant** takes every run, and
keeps it. -/
theorem exists_acceptAll {accept : τ → ο → Option τ} {I : τ → Prop}
    (hstep : ∀ t o, I t → ∃ t', accept t o = some t' ∧ I t') {t : τ} (ht : I t) (os : List ο) :
    ∃ t', acceptAll accept t os = some t' ∧ I t' := by
  induction os generalizing t with
  | nil => exact ⟨t, rfl, ht⟩
  | cons o os ih =>
    obtain ⟨t', hstep', ht'⟩ := hstep t o ht
    obtain ⟨t'', hrun, ht''⟩ := ih ht'
    refine ⟨t'', ?_, ht''⟩
    simp only [acceptAll, hstep']
    exact hrun

/-- **A monitor that accepts the marks of every step accepts the marks of every
run,** and stays related to the machine. -/
theorem accepted_of_marksOf {step : σ → ι → List ο × σ} {accept : τ → ο → Option τ}
    {R : τ → σ → Prop}
    (hstep : ∀ t s i, R t s → ∃ t', acceptAll accept t (step s i).1 = some t' ∧ R t' (step s i).2)
    {t : τ} {s : σ} (hR : R t s) (inputs : List ι) :
    ∃ t', acceptAll accept t (marksOf step s inputs).1 = some t' ∧
      R t' (marksOf step s inputs).2 := by
  induction inputs generalizing t s with
  | nil => exact ⟨t, rfl, hR⟩
  | cons i inputs ih =>
    obtain ⟨t₁, ht₁, hR₁⟩ := hstep t s i hR
    obtain ⟨t', ht', hR'⟩ := ih hR₁
    exact ⟨t', (acceptAll_append ht₁).trans ht', hR'⟩

end Run
end Moh
