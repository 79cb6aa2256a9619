/-
# Fallible computations

Inversion of a sequence of fallible steps: it succeeds iff every step does
(`bind_eq_ok_iff`), so a spec lemma takes a `do` block apart one step at a time.
A procedure changes a state on the way, also when it fails (`Proc`); its triples
have a postcondition for either end (`Proc.Triple`).
-/

import Mathlib.Data.List.Basic

namespace Moh
namespace Fallible

variable {ε α β : Type}

/-- **A sequence succeeds iff both steps do.** -/
theorem bind_eq_ok_iff {x : Except ε α} {f : α → Except ε β} {b : β} :
    (x >>= f) = .ok b ↔ ∃ a, x = .ok a ∧ f a = .ok b := by
  cases x with
  | error e => simp [bind, Except.bind]
  | ok a => simp [bind, Except.bind]

@[simp] theorem mapError_eq_ok_iff {ε' : Type} {x : Except ε α} {f : ε → ε'} {a : α} :
    x.mapError f = .ok a ↔ x = .ok a := by
  cases x <;> simp [Except.mapError]

/-- A list of optional results is there if all of them are. -/
theorem exists_mapM_option {f : α → Option β} {l : List α} (h : ∀ a ∈ l, ∃ b, f a = some b) :
    ∃ bs, l.mapM f = some bs := by
  induction l with
  | nil => exact ⟨[], rfl⟩
  | cons a l ih =>
    obtain ⟨⟨b, hb⟩, hl⟩ := List.forall_mem_cons.1 h
    obtain ⟨bs, hbs⟩ := ih hl
    exact ⟨b :: bs, by rw [List.mapM_cons, hb, hbs]; rfl⟩

/-- The elements from number `n` on, one after the other, up to the first that
fails. -/
def collect (f : ℕ → α → Except ε β) : ℕ → List α → Except ε (List β)
  | _, [] => .ok []
  | n, a :: as => do
    let b ← f n a
    let bs ← collect f (n + 1) as
    .ok (b :: bs)

@[simp] theorem collect_nil (f : ℕ → α → Except ε β) (n : ℕ) : collect f n [] = .ok [] := rfl

/-- **A collection succeeds iff all of its elements do.** -/
theorem collect_cons_eq_ok {f : ℕ → α → Except ε β} {n : ℕ} {a : α} {as : List α} {bs : List β} :
    collect f n (a :: as) = .ok bs ↔
      ∃ b rest, f n a = .ok b ∧ collect f (n + 1) as = .ok rest ∧ bs = b :: rest := by
  rw [collect, bind_eq_ok_iff]
  constructor
  · rintro ⟨b, hb, h⟩
    obtain ⟨rest, hrest, h⟩ := bind_eq_ok_iff.1 h
    exact ⟨b, rest, hb, hrest, (Except.ok.inj h).symm⟩
  · rintro ⟨b, rest, hb, hrest, rfl⟩
    exact ⟨b, hb, bind_eq_ok_iff.2 ⟨rest, hrest, rfl⟩⟩

/-- A collection in two parts. -/
theorem collect_append_eq_ok {f : ℕ → α → Except ε β} {n : ℕ} {as as' : List α} {bs : List β} :
    collect f n (as ++ as') = .ok bs ↔
      ∃ b b', collect f n as = .ok b ∧ collect f (n + as.length) as' = .ok b' ∧ bs = b ++ b' := by
  induction as generalizing n bs with
  | nil => simp
  | cons a as ih =>
    have hlen : n + (a :: as).length = n + 1 + as.length := by
      rw [List.length_cons]
      omega
    rw [List.cons_append, collect_cons_eq_ok, hlen]
    constructor
    · rintro ⟨b, rest, hb, hrest, rfl⟩
      obtain ⟨r, r', hr, hr', rfl⟩ := ih.1 hrest
      exact ⟨b :: r, r', collect_cons_eq_ok.2 ⟨b, r, hb, hr, rfl⟩, hr', rfl⟩
    · rintro ⟨bs', b', hbs, hb', rfl⟩
      obtain ⟨b, rest, hb, hrest, rfl⟩ := collect_cons_eq_ok.1 hbs
      exact ⟨b, rest ++ b', hb, ih.2 ⟨rest, b', hrest, hb', rfl⟩, rfl⟩

/-! ### Procedures on a state -/

/-- A computation that changes a state and may fail; a failure keeps the changes
made before it. -/
def Proc (σ ε α : Type) : Type := σ → Except ε α × σ

namespace Proc

variable {σ ε' : Type}

/-- Fails. -/
def fail (e : ε) : Proc σ ε α := fun s => (.error e, s)

/-- The state. -/
def get : Proc σ ε σ := fun s => (.ok s, s)

/-- Changes the state. -/
def modify (f : σ → σ) : Proc σ ε Unit := fun s => (.ok (), f s)

/-- A computation that does not touch the state. -/
def lift (x : Except ε α) : Proc σ ε α := fun s => (x, s)

/-- `map_err`. -/
def mapError (f : ε → ε') (x : Proc σ ε α) : Proc σ ε' α := fun s =>
  match x s with
  | (.ok a, s) => (.ok a, s)
  | (.error e, s) => (.error (f e), s)

/-- One computation after the other. -/
def andThen (x : Proc σ ε α) (f : α → Proc σ ε β) : Proc σ ε β := fun s =>
  match x s with
  | (.ok a, s) => f a s
  | (.error e, s) => (.error e, s)

instance : Monad (Proc σ ε) where
  pure a := fun s => (.ok a, s)
  bind := andThen

section
variable {s s' : σ} {x : Proc σ ε α} {f : α → Proc σ ε β} {a : α} {b : β} {e : ε}

@[simp] theorem pure_apply : (pure a : Proc σ ε α) s = (.ok a, s) := rfl

@[simp] theorem fail_apply : (fail e : Proc σ ε α) s = (.error e, s) := rfl

@[simp] theorem get_apply : (get : Proc σ ε σ) s = (.ok s, s) := rfl

@[simp] theorem modify_apply {g : σ → σ} : (modify g : Proc σ ε Unit) s = (.ok (), g s) := rfl

@[simp] theorem lift_apply {r : Except ε α} : (lift r : Proc σ ε α) s = (r, s) := rfl

/-- A run of a sequence, for evaluation by `simp`. -/
theorem bind_apply : (x >>= f) s = match x s with
    | (.ok a, s) => f a s
    | (.error e, s) => (.error e, s) := rfl

theorem bind_of_ok (h : x s = (.ok a, s')) : (x >>= f) s = f a s' := by
  change andThen x f s = _
  rw [andThen, h]

theorem bind_of_error (h : x s = (.error e, s')) : (x >>= f) s = (.error e, s') := by
  change andThen x f s = _
  rw [andThen, h]

theorem bind_assoc {γ : Type} (x : Proc σ ε α) (f : α → Proc σ ε β) (g : β → Proc σ ε γ) :
    (x >>= f) >>= g = x >>= fun a => f a >>= g := by
  funext s
  simp only [bind_apply]
  rcases x s with ⟨_ | a, t⟩ <;> rfl

/-- A run either succeeds or fails. -/
theorem apply_cases (x : Proc σ ε α) (s : σ) :
    (∃ a s', x s = (.ok a, s')) ∨ ∃ e s', x s = (.error e, s') := by
  rcases h : x s with ⟨_ | a, s'⟩
  · exact .inr ⟨_, _, rfl⟩
  · exact .inl ⟨_, _, rfl⟩

/-- **A sequence succeeds iff both steps do.** -/
theorem bind_eq_ok : (x >>= f) s = (.ok b, s') ↔
    ∃ a t, x s = (.ok a, t) ∧ f a t = (.ok b, s') := by
  rcases x.apply_cases s with ⟨a, t, h⟩ | ⟨e, t, h⟩
  · rw [bind_of_ok h]
    simp [h]
  · rw [bind_of_error h]
    simp [h]

/-- A sequence fails in its first step, or in its second one. -/
theorem bind_eq_error : (x >>= f) s = (.error e, s') ↔
    x s = (.error e, s') ∨ ∃ a t, x s = (.ok a, t) ∧ f a t = (.error e, s') := by
  rcases x.apply_cases s with ⟨a, t, h⟩ | ⟨e, t, h⟩
  · rw [bind_of_ok h]
    simp [h]
  · rw [bind_of_error h]
    simp [h]

theorem mapError_eq_ok {g : ε → ε'} : x.mapError g s = (.ok a, s') ↔ x s = (.ok a, s') := by
  unfold mapError
  rcases x.apply_cases s with ⟨a, t, h⟩ | ⟨e, t, h⟩ <;> simp [h]

end

/-! ### Triples -/

/-- From a state with `P` the procedure ends with `Q`, or fails with `E`. -/
def Triple (P : σ → Prop) (x : Proc σ ε α) (Q : α → σ → Prop) (E : ε → σ → Prop) : Prop :=
  ∀ s, P s → match x s with
    | (.ok a, s') => Q a s'
    | (.error e, s') => E e s'

namespace Triple

variable {P P' : σ → Prop} {x : Proc σ ε α} {f : α → Proc σ ε β} {Q Q' : α → σ → Prop}
  {R : β → σ → Prop} {E E' : ε → σ → Prop} {s s' : σ} {a : α} {e : ε}

theorem ok (h : Triple P x Q E) (hs : P s) (hx : x s = (.ok a, s')) : Q a s' := by
  have := h s hs
  rwa [hx] at this

theorem error (h : Triple P x Q E) (hs : P s) (hx : x s = (.error e, s')) : E e s' := by
  have := h s hs
  rwa [hx] at this

theorem pure (h : ∀ s, P s → Q a s) : Triple P (Pure.pure a) Q E := fun s hs => h s hs

theorem fail (h : ∀ s, P s → E e s) : Triple P (Proc.fail e : Proc σ ε α) Q E :=
  fun s hs => h s hs

theorem get {Q : σ → σ → Prop} (h : ∀ s, P s → Q s s) : Triple P (Proc.get : Proc σ ε σ) Q E :=
  fun s hs => h s hs

theorem modify {g : σ → σ} {Q : Unit → σ → Prop} (h : ∀ s, P s → Q () (g s)) :
    Triple P (Proc.modify g : Proc σ ε Unit) Q E := fun s hs => h s hs

/-- **Sequence.** -/
theorem bind (hx : Triple P x Q E) (hf : ∀ a, Triple (Q a) (f a) R E) :
    Triple P (x >>= f) R E := by
  intro s hs
  rcases x.apply_cases s with ⟨a, t, h⟩ | ⟨e, t, h⟩
  · rw [bind_of_ok h]
    exact hf a t (hx.ok hs h)
  · rw [bind_of_error h]
    exact hx.error hs h

/-- **Consequence.** -/
theorem mono (h : Triple P x Q E) (hP : ∀ s, P' s → P s) (hQ : ∀ a s, Q a s → Q' a s)
    (hE : ∀ e s, E e s → E' e s) : Triple P' x Q' E' := by
  intro s hs
  have := h s (hP s hs)
  rcases x.apply_cases s with ⟨a, t, hx⟩ | ⟨e, t, hx⟩
  · rw [hx] at this ⊢
    exact hQ a t this
  · rw [hx] at this ⊢
    exact hE e t this

end Triple
end Proc
end Fallible
end Moh
