/-
# Round trips

A writer and a reader that may both fail.  `RoundTrips P write read` says that the
reader gives back every value of `P` that the writer accepts; it carries over to
lists and to optional values.
-/

import Moh.Library.Fallible

namespace Moh

variable {ε ε' α β : Type}

/-- **The reader gives back every value of `P` that the writer accepts.** -/
def RoundTrips (P : α → Prop) (write : α → Except ε β) (read : β → Except ε' α) : Prop :=
  ∀ ⦃a b⦄, P a → write a = .ok b → read b = .ok a

namespace RoundTrips

variable {P : α → Prop} {write : α → Except ε β} {read : β → Except ε' α}

/-- **A list is read element by element, as it was written.** -/
theorem list (h : RoundTrips P write read) :
    RoundTrips (fun as => ∀ a ∈ as, P a) (List.mapM write) (List.mapM read) := by
  intro as
  induction as with
  | nil =>
    rintro bs - hw
    obtain rfl := Except.ok.inj hw
    rfl
  | cons a as ih =>
    intro bs hP hw
    rw [List.mapM_cons] at hw
    obtain ⟨b, hb, hw⟩ := Fallible.bind_eq_ok_iff.1 hw
    obtain ⟨rest, hrest, hw⟩ := Fallible.bind_eq_ok_iff.1 hw
    obtain rfl := Except.ok.inj hw
    rw [List.mapM_cons, h (hP a (by simp)) hb, ih (fun a' ha' => hP a' (by simp [ha'])) hrest]
    rfl

/-- An optional value is read if it was written. -/
theorem option (h : RoundTrips P write read) :
    RoundTrips (fun a => ∀ a' ∈ a, P a') (Option.mapM write) (Option.mapM read) := by
  intro a
  cases a with
  | none =>
    rintro b - hw
    obtain rfl := Except.ok.inj hw
    rfl
  | some a =>
    intro b hP hw
    cases hb : write a with
    | error e => simp [Option.mapM_some, hb, Functor.map, Except.map] at hw
    | ok b' =>
      simp only [Option.mapM_some, hb, Functor.map, Except.map, Except.ok.injEq] at hw
      obtain rfl := hw
      simp [Option.mapM_some, h (hP a rfl) hb, Functor.map, Except.map]

end RoundTrips
end Moh
