/-
# Waiting for a condition that is announced behind its change

A state that operations change, each in one critical section; an operation that changes what
is waited for announces it afterwards, in a step of its own (`notify`).  A waiter first
subscribes to the announcements and then looks; where it finds nothing it waits for an
announcement that it has not seen, and looks again.

Between a change and its announcement a waiter may sleep on what it waits for, but not beyond
(`awake_of_run`): a waiter that has seen all announcements, none of which is under way, would
find nothing.  What it returns it found at some moment of the run (`found_of_run`).
-/

import Mathlib.Logic.Function.Basic
import Moh.Library.Run

namespace Moh
namespace Watch

variable {σ ι κ ρ : Type}

/-- A waiter: what it waits for and the number of announcements it has seen, before its look
and behind it; and what it found, or that its time was up. -/
inductive Waiter (κ ρ : Type) where
  | idle
  | looking (key : κ) (seen : ℕ)
  | waiting (key : κ) (seen : ℕ)
  | found (key : κ) (result : ρ)
  | expired (key : κ)

/-- The state, the announcements made, those under way, and the waiters. -/
structure World (σ κ ρ : Type) where
  state : σ
  sends : ℕ
  notices : ℕ
  waiter : ℕ → Waiter κ ρ

/-- What happens. -/
inductive Move (ι κ : Type) where
  | operate (input : ι)
  | notify
  | subscribe (n : ℕ) (key : κ)
  | look (n : ℕ)
  | wake (n : ℕ)
  | expire (n : ℕ)

/-- The operations, which of them are announced, and what a waiter finds. -/
structure System (σ ι κ ρ : Type) where
  operate : σ → ι → σ
  announces : σ → ι → Bool
  look : σ → κ → Option ρ

/-- Nobody waits. -/
def World.start (s : σ) : World σ κ ρ := ⟨s, 0, 0, fun _ => .idle⟩

/-- A waiter gets on. -/
def World.put (w : World σ κ ρ) (n : ℕ) (waiter : Waiter κ ρ) : World σ κ ρ :=
  { w with waiter := Function.update w.waiter n waiter }

/-- A step.  A waiter whose time is up has seen that there is no announcement. -/
def step (y : System σ ι κ ρ) (w : World σ κ ρ) : Move ι κ → World σ κ ρ
  | .operate input =>
    { w with
      state := y.operate w.state input
      notices := if y.announces w.state input then w.notices + 1 else w.notices }
  | .notify =>
    match w.notices with
    | 0 => w
    | notices + 1 => { w with notices, sends := w.sends + 1 }
  | .subscribe n key =>
    match w.waiter n with
    | .idle => w.put n (.looking key w.sends)
    | _ => w
  | .look n =>
    match w.waiter n with
    | .looking key seen =>
      match y.look w.state key with
      | none => w.put n (.waiting key seen)
      | some result => w.put n (.found key result)
    | _ => w
  | .wake n =>
    match w.waiter n with
    | .waiting key seen => if seen < w.sends then w.put n (.looking key w.sends) else w
    | _ => w
  | .expire n =>
    match w.waiter n with
    | .waiting key seen => if seen < w.sends then w else w.put n (.expired key)
    | _ => w

/-- The condition on the operations of a run. -/
def Meets (G : σ → ι → Prop) (w : World σ κ ρ) : Move ι κ → Prop
  | .operate input => G w.state input
  | _ => True

/-! ### Nobody sleeps through an announcement -/

/-- A waiter has seen no more than was announced; and what it would find now it has to be
told yet. -/
def Told (y : System σ ι κ ρ) (w : World σ κ ρ) : Waiter κ ρ → Prop
  | .waiting key seen =>
    seen ≤ w.sends ∧ (y.look w.state key = none ∨ seen < w.sends ∨ 0 < w.notices)
  | .looking _ seen => seen ≤ w.sends
  | _ => True

variable {y : System σ ι κ ρ} {w : World σ κ ρ}

/-- One waiter gets on, and the others are as before. -/
theorem told_put (h : ∀ n, Told y w (w.waiter n)) {n : ℕ} {x : Waiter κ ρ}
    (hn : Told y w x) (m : ℕ) : Told y (w.put n x) ((w.put n x).waiter m) := by
  show Told y w (Function.update w.waiter n x m)
  by_cases hm : m = n
  · subst hm
    rw [Function.update_self]
    exact hn
  · rw [Function.update_of_ne hm]
    exact h m

/-- **A step tells everybody.**  An operation that is not announced must not change what is
found where nothing was. -/
theorem told_step {P : σ → Prop} {G : σ → ι → Prop}
    (hquiet : ∀ s input key, P s → G s input → y.announces s input = false →
      y.look s key = none → y.look (y.operate s input) key = none)
    (w : World σ κ ρ) (m : Move ι κ) (hw : P w.state) (h : ∀ n, Told y w (w.waiter n))
    (hm : Meets G w m) (n : ℕ) :
    Told y (step y w m) ((step y w m).waiter n) := by
  cases m with
  | operate input =>
    have hn := h n
    simp only [step]
    cases hwaiter : w.waiter n with
    | looking key seen =>
      rw [hwaiter] at hn
      exact hn
    | waiting key seen =>
      rw [hwaiter] at hn
      refine ⟨hn.1, ?_⟩
      show y.look (y.operate w.state input) key = none ∨ seen < w.sends ∨
        0 < if y.announces w.state input then w.notices + 1 else w.notices
      cases hannounces : y.announces w.state input with
      | true => exact .inr (.inr (Nat.succ_pos _))
      | false =>
        rcases hn.2 with hnone | hlater
        · exact .inl (hquiet w.state input key hw hm hannounces hnone)
        · exact .inr hlater
    | idle => exact trivial
    | found key result => exact trivial
    | expired key => exact trivial
  | notify =>
    have hn := h n
    simp only [step]
    cases hnotices : w.notices with
    | zero => exact hn
    | succ notices =>
      cases hwaiter : w.waiter n with
      | looking key seen =>
        rw [hwaiter] at hn
        exact Nat.le_succ_of_le hn
      | waiting key seen =>
        rw [hwaiter] at hn
        exact ⟨Nat.le_succ_of_le hn.1, .inr (.inl (Nat.lt_succ_of_le hn.1))⟩
      | idle => exact trivial
      | found key result => exact trivial
      | expired key => exact trivial
  | subscribe k key =>
    simp only [step]
    split
    · exact told_put h (x := .looking key w.sends) (Nat.le_refl w.sends) n
    · exact h n
  | look k =>
    have hk := h k
    simp only [step]
    split
    · rename_i key seen hwaiter
      rw [hwaiter] at hk
      split
      · rename_i hnone
        exact told_put h (x := .waiting key seen) ⟨hk, .inl hnone⟩ n
      · rename_i result _
        exact told_put h (x := .found key result) trivial n
    · exact h n
  | wake k =>
    simp only [step]
    split
    · rename_i key seen _
      split_ifs
      · exact told_put h (x := .looking key w.sends) (Nat.le_refl w.sends) n
      · exact h n
    · exact h n
  | expire k =>
    simp only [step]
    split
    · rename_i key seen _
      split_ifs
      · exact h n
      · exact told_put h (x := .expired key) trivial n
    · exact h n

theorem told_start {s : σ} (n : ℕ) :
    Told y (.start s) ((World.start s : World σ κ ρ).waiter n) := trivial

/-- Only operations change the state. -/
theorem state_step {P : σ → Prop} {G : σ → ι → Prop}
    (hP : ∀ s input, P s → G s input → P (y.operate s input)) (w : World σ κ ρ) (m : Move ι κ)
    (hw : P w.state) (hm : Meets G w m) : P (step y w m).state := by
  cases m with
  | operate input => exact hP w.state input hw hm
  | notify =>
    simp only [step]
    split <;> exact hw
  | subscribe k key =>
    simp only [step]
    split <;> exact hw
  | look k =>
    simp only [step]
    split
    · split <;> exact hw
    · exact hw
  | wake k =>
    simp only [step]
    split
    · split_ifs <;> exact hw
    · exact hw
  | expire k =>
    simp only [step]
    split
    · split_ifs <;> exact hw
    · exact hw

/-- **Nobody sleeps on what there is:** in every run, a waiter that has seen all
announcements finds nothing, unless an announcement is under way. -/
theorem awake_of_run {P : σ → Prop} {G : σ → ι → Prop}
    (hP : ∀ s input, P s → G s input → P (y.operate s input))
    (hquiet : ∀ s input key, P s → G s input → y.announces s input = false →
      y.look s key = none → y.look (y.operate s input) key = none)
    {s : σ} (hs : P s) {moves : List (Move ι κ)}
    (hmoves : Run.Guarded (step y) (Meets G) (.start s) moves) {n : ℕ} {key : κ} {seen : ℕ}
    (hwaiter : (Run.run (step y) (.start s) moves).waiter n = .waiting key seen)
    (hseen : (Run.run (step y) (.start s) moves).sends = seen)
    (hnotices : (Run.run (step y) (.start s) moves).notices = 0) :
    y.look (Run.run (step y) (.start s) moves).state key = none := by
  have h := (Run.run_invariant_of_guarded
    (I := fun w => P w.state ∧ ∀ n, Told y w (w.waiter n))
    (fun w m hw hm => ⟨state_step hP w m hw.1 hm, told_step hquiet w m hw.1 hw.2 hm⟩)
    ⟨hs, told_start⟩ hmoves).2 n
  rw [hwaiter] at h
  obtain ⟨-, hnone | hlater | hunder⟩ := h
  · exact hnone
  · omega
  · omega

/-! ### What is found -/

/-- What a property of the states keeps of all that is looked up, it keeps of what is
found. -/
theorem found_step {P : σ → Prop} {Q : σ → κ → ρ → Prop}
    (hlook : ∀ s key result, P s → y.look s key = some result → Q s key result)
    (hQ : ∀ s input key result, Q s key result → Q (y.operate s input) key result)
    (w : World σ κ ρ) (m : Move ι κ) (hw : P w.state)
    (h : ∀ n key result, w.waiter n = .found key result → Q w.state key result) :
    ∀ n key result, (step y w m).waiter n = .found key result →
      Q (step y w m).state key result := by
  have hput {k : ℕ} {x : Waiter κ ρ}
      (hk : ∀ key result, x = .found key result → Q w.state key result) :
      ∀ n key result, (w.put k x).waiter n = .found key result → Q w.state key result := by
    intro n key result hn
    by_cases hnk : n = k
    · subst hnk
      exact hk key result (by simpa [World.put] using hn)
    · exact h n key result (by simpa [World.put, Function.update_of_ne hnk] using hn)
  cases m with
  | operate input => exact fun n key result hn => hQ w.state input key result (h n key result hn)
  | notify =>
    simp only [step]
    split <;> exact h
  | subscribe k key =>
    simp only [step]
    split
    · exact hput (by simp)
    · exact h
  | look k =>
    simp only [step]
    split
    · rename_i key seen _
      split
      · exact hput (by simp)
      · rename_i result hresult
        refine hput fun key' result' heq => ?_
        obtain ⟨rfl, rfl⟩ := Waiter.found.inj heq
        exact hlook w.state key result hw hresult
    · exact h
  | wake k =>
    simp only [step]
    split
    · split_ifs
      · exact hput (by simp)
      · exact h
    · exact h
  | expire k =>
    simp only [step]
    split
    · split_ifs
      · exact h
      · exact hput (by simp)
    · exact h

/-- **What a waiter found was there,** and stays what it was. -/
theorem found_of_run {P : σ → Prop} {Q : σ → κ → ρ → Prop} {G : σ → ι → Prop}
    (hP : ∀ s input, P s → G s input → P (y.operate s input))
    (hlook : ∀ s key result, P s → y.look s key = some result → Q s key result)
    (hQ : ∀ s input key result, Q s key result → Q (y.operate s input) key result)
    {s : σ} (hs : P s) {moves : List (Move ι κ)}
    (hmoves : Run.Guarded (step y) (Meets G) (.start s) moves) {n : ℕ} {key : κ} {result : ρ}
    (hwaiter : (Run.run (step y) (.start s) moves).waiter n = .found key result) :
    Q (Run.run (step y) (.start s) moves).state key result :=
  (Run.run_invariant_of_guarded
    (I := fun w => P w.state ∧ ∀ n key result, w.waiter n = .found key result →
      Q w.state key result)
    (fun w m hw hm => ⟨state_step hP w m hw.1 hm, found_step hlook hQ w m hw.1 hw.2⟩)
    ⟨hs, by simp [World.start]⟩ hmoves).2 n key result hwaiter

end Watch
end Moh
