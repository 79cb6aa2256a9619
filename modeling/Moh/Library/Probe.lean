/-
# Probing

Open addressing in a table of `size` slots: a search starts at some slot and goes
on by a fixed stride, modulo the size, until it meets a free slot.  When the stride
is coprime to the size, the search passes every slot, so that it fails on a full
table only (`find_eq_none_iff_full`).
-/

import Mathlib.Data.Nat.ModEq
import Mathlib.Data.Finset.Card
import Mathlib.Data.Finset.Range
import Mathlib.Logic.Function.Basic

namespace Moh
namespace Probe

variable {size stride steps slot target : ℕ} {occupied : ℕ → Bool}

/-- The first free slot among the next `steps` of the search. -/
def find (size stride : ℕ) (occupied : ℕ → Bool) : ℕ → ℕ → Option ℕ
  | 0, _ => none
  | steps + 1, slot =>
    if occupied slot then find size stride occupied steps ((slot + stride) % size) else some slot

/-- The slots of the table that are free. -/
def free (size : ℕ) (occupied : ℕ → Bool) : Finset ℕ :=
  (Finset.range size).filter fun slot => occupied slot = false

theorem mem_free : slot ∈ free size occupied ↔ slot < size ∧ occupied slot = false := by
  simp [free]

/-- **A slot that was found is a free one.** -/
theorem mem_free_of_find (hslot : slot < size)
    (h : find size stride occupied steps slot = some target) : target ∈ free size occupied := by
  induction steps generalizing slot with
  | zero => simp [find] at h
  | succ steps ih =>
    unfold find at h
    split_ifs at h with ho
    · exact ih (Nat.mod_lt _ (Nat.zero_lt_of_lt hslot)) h
    · obtain rfl := Option.some.inj h
      exact mem_free.2 ⟨hslot, by simpa using ho⟩

/-- The slot after one step more. -/
theorem step_succ (k : ℕ) :
    ((slot + stride) % size + k * stride) % size = (slot + (k + 1) * stride) % size := by
  rw [Nat.mod_add_mod, Nat.add_assoc, Nat.succ_mul, Nat.add_comm stride]

/-- The search fails iff every slot it passes is occupied. -/
theorem find_eq_none_iff (hslot : slot < size) : find size stride occupied steps slot = none ↔
    ∀ k < steps, occupied ((slot + k * stride) % size) = true := by
  induction steps generalizing slot with
  | zero => simp [find]
  | succ steps ih =>
    have hnext : (slot + stride) % size < size := Nat.mod_lt _ (Nat.zero_lt_of_lt hslot)
    unfold find
    split_ifs with ho
    · rw [ih hnext]
      constructor
      · intro h k hk
        cases k with
        | zero => simpa [Nat.mod_eq_of_lt hslot] using ho
        | succ k =>
          rw [← step_succ]
          exact h k (by omega)
      · intro h k hk
        rw [step_succ]
        exact h (k + 1) (by omega)
    · refine iff_of_false (by simp) fun h => ho ?_
      have := h 0 (by omega)
      simpa [Nat.mod_eq_of_lt hslot] using this

/-- **A search finds the first free slot that it passes.** -/
theorem find_eq_some_iff (hslot : slot < size) :
    find size stride occupied steps slot = some target ↔
      ∃ k < steps, target = (slot + k * stride) % size ∧ occupied target = false ∧
        ∀ j < k, occupied ((slot + j * stride) % size) = true := by
  induction steps generalizing slot with
  | zero => simp [find]
  | succ steps ih =>
    have hnext : (slot + stride) % size < size := Nat.mod_lt _ (Nat.zero_lt_of_lt hslot)
    have hhere : (slot + 0 * stride) % size = slot := by simp [Nat.mod_eq_of_lt hslot]
    unfold find
    split_ifs with ho
    · rw [ih hnext]
      constructor
      · rintro ⟨k, hk, rfl, hfree, hpassed⟩
        refine ⟨k + 1, by omega, step_succ k, hfree, fun j hj => ?_⟩
        rcases j with _ | j
        · rw [hhere, ho]
        · rw [← step_succ]
          exact hpassed j (by omega)
      · rintro ⟨k, hk, rfl, hfree, hpassed⟩
        rcases k with _ | k
        · rw [hhere, ho] at hfree
          cases hfree
        · refine ⟨k, by omega, (step_succ k).symm, hfree, fun j hj => ?_⟩
          rw [step_succ]
          exact hpassed (j + 1) (by omega)
    · rw [Bool.not_eq_true] at ho
      constructor
      · intro h
        obtain rfl := Option.some.inj h
        exact ⟨0, by omega, hhere.symm, ho, fun j hj => by omega⟩
      · rintro ⟨k, hk, rfl, -, hpassed⟩
        rcases k with _ | k
        · rw [hhere]
        · have := hpassed 0 (by omega)
          rw [hhere, ho] at this
          cases this

/-- **Steps of a coprime stride pass every slot.** -/
theorem exists_step_eq (hcoprime : stride.Coprime size) (hslot : slot < size)
    (htarget : target < size) : ∃ k < size, (slot + k * stride) % size = target := by
  have hinj : Set.InjOn (fun k => (slot + k * stride) % size) (Finset.range size) := by
    intro i hi j hj hij
    have hmod : i * stride ≡ j * stride [MOD size] :=
      Nat.ModEq.add_left_cancel' slot hij
    have hij' : i ≡ j [MOD size] :=
      Nat.ModEq.cancel_right_of_coprime (by rwa [Nat.gcd_comm]) hmod
    exact hij'.eq_of_lt_of_lt (Finset.mem_range.1 hi) (Finset.mem_range.1 hj)
  have himage : (Finset.range size).image (fun k => (slot + k * stride) % size) =
      Finset.range size := by
    refine Finset.eq_of_subset_of_card_le (fun t ht => ?_) ?_
    · obtain ⟨k, -, rfl⟩ := Finset.mem_image.1 ht
      exact Finset.mem_range.2 (Nat.mod_lt _ (Nat.zero_lt_of_lt hslot))
    · rw [Finset.card_image_of_injOn hinj]
  have hmem : target ∈ (Finset.range size).image fun k => (slot + k * stride) % size := by
    rw [himage]
    exact Finset.mem_range.2 htarget
  obtain ⟨k, hk, heq⟩ := Finset.mem_image.1 hmem
  exact ⟨k, Finset.mem_range.1 hk, heq⟩

/-- **A search of full length fails iff the table is full.** -/
theorem find_eq_none_iff_full (hcoprime : stride.Coprime size) (hslot : slot < size) :
    find size stride occupied size slot = none ↔ free size occupied = ∅ := by
  rw [find_eq_none_iff hslot, Finset.eq_empty_iff_forall_notMem]
  constructor
  · intro h target hmem
    obtain ⟨htarget, hfree⟩ := mem_free.1 hmem
    obtain ⟨k, hk, rfl⟩ := exists_step_eq hcoprime hslot htarget
    rw [h k hk] at hfree
    cases hfree
  · intro h k hk
    by_contra hfree
    exact h _ (mem_free.2 ⟨Nat.mod_lt _ (Nat.zero_lt_of_lt hslot), by simpa using hfree⟩)

/-- A slot that is taken is no longer free; the others are as they were. -/
theorem free_update_true : free size (Function.update occupied slot true) =
    (free size occupied).erase slot := by
  ext target
  rw [Finset.mem_erase, mem_free, mem_free]
  by_cases h : target = slot
  · subst h
    simp
  · simp [h]

end Probe
end Moh
