/-
# Checked 64-bit counters

A `u64` counter is a natural number; `u64::checked_add(1)` is `checkedSucc`, and
`i64::try_from` bounds a value by `i64Max`.
-/

import Mathlib.Data.Nat.Notation
import Mathlib.Tactic.SplitIfs

namespace Moh

/-- `u64::MAX`. -/
def u64Max : ℕ := 18446744073709551615

/-- `i64::MAX`. -/
def i64Max : ℕ := 9223372036854775807

/-- `value.checked_add(1)` on `u64`. -/
def checkedSucc (n : ℕ) : Option ℕ :=
  if n < u64Max then some (n + 1) else none

theorem checkedSucc_eq_some_iff {n m : ℕ} : checkedSucc n = some m ↔ n < u64Max ∧ m = n + 1 := by
  unfold checkedSucc
  split_ifs with h
  · exact ⟨fun e => ⟨h, (Option.some.inj e).symm⟩, fun e => by rw [e.2]⟩
  · exact ⟨fun e => by simp at e, fun e => absurd e.1 h⟩

theorem checkedSucc_eq_none_iff {n : ℕ} : checkedSucc n = none ↔ u64Max ≤ n := by
  unfold checkedSucc
  split_ifs with h
  · exact ⟨fun e => by simp at e, fun e => absurd e (Nat.not_le.2 h)⟩
  · exact ⟨fun _ => Nat.not_lt.1 h, fun _ => rfl⟩

end Moh
