/-
# Extents in a row

Items of given sizes lie one behind the other: item `k` goes from `offset sizes k` to
`offset sizes (k + 1)`.  A window from `start` to `stop` holds the items from `first` to
`last` whole (`start_le_iff`, `le_stop_iff`); it begins with an item unless one lies across
its edge (`offset_first_eq_iff`).
-/

import Mathlib.Algebra.BigOperators.Group.List.Basic
import Mathlib.Algebra.GroupWithZero.Nat
import Mathlib.Algebra.Order.BigOperators.Group.List
import Mathlib.Algebra.Order.Group.Nat

namespace Moh
namespace Extents

variable {sizes : List ℕ} {i j k start stop : ℕ}

/-- Where item `k` begins. -/
def offset (sizes : List ℕ) (k : ℕ) : ℕ := (sizes.take k).sum

/-- The first item that does not begin before `start`. -/
def first (sizes : List ℕ) (start : ℕ) : ℕ :=
  (List.range sizes.length).findIdx fun k => decide (start ≤ offset sizes k)

/-- The items up to here end by `stop`. -/
def last (sizes : List ℕ) (stop : ℕ) : ℕ :=
  (List.range sizes.length).findIdx fun k => decide (stop < offset sizes (k + 1))

/-- An item lies across the position. -/
def Straddled (sizes : List ℕ) (position : ℕ) : Prop :=
  ∃ k, offset sizes k < position ∧ position < offset sizes (k + 1)

theorem offset_zero : offset sizes 0 = 0 := by simp [offset]

theorem offset_cons_succ (size k : ℕ) :
    offset (size :: sizes) (k + 1) = size + offset sizes k := by
  simp [offset]

theorem offset_succ (h : k < sizes.length) : offset sizes (k + 1) = offset sizes k + sizes[k] := by
  rw [offset, List.take_succ_eq_append_getElem h, List.sum_append, List.sum_singleton, offset]

theorem offset_length_le (h : sizes.length ≤ k) : offset sizes k = sizes.sum := by
  rw [offset, List.take_of_length_le h]

theorem offset_mono (h : i ≤ j) : offset sizes i ≤ offset sizes j := by
  induction j, h using Nat.le_induction with
  | base => rfl
  | succ j _ ih =>
    rcases Nat.lt_or_ge j sizes.length with hj | hj
    · rw [offset_succ hj]
      omega
    · rwa [offset_length_le (Nat.le_succ_of_le hj), ← offset_length_le hj]

/-- Items that take room begin one behind the other. -/
theorem offset_lt (hpos : ∀ size ∈ sizes, 0 < size) (hij : i < j) (hj : j ≤ sizes.length) :
    offset sizes i < offset sizes j := by
  have hi : i < sizes.length := by omega
  have hsize := hpos _ (List.getElem_mem hi)
  have hle : offset sizes (i + 1) ≤ offset sizes j := offset_mono hij
  rw [offset_succ hi] at hle
  omega

/-- **The items from `i` to `j` fill what is between their begins.** -/
theorem sum_extract (h : i ≤ j) :
    offset sizes i + (sizes.extract i j).sum = offset sizes j := by
  have htake : (sizes.take j).take i = sizes.take i := by rw [List.take_take, Nat.min_eq_left h]
  rw [List.extract_eq_take_drop, ← List.drop_take, offset, ← htake, List.sum_take_add_sum_drop,
    offset]

theorem findIdx_range_le (n : ℕ) (p : ℕ → Bool) : (List.range n).findIdx p ≤ n := by
  conv_rhs => rw [← List.length_range (n := n)]
  exact List.findIdx_le_length

/-- An index is before the one that is searched exactly if no index up to it is found. -/
theorem lt_findIdx_range {n : ℕ} {p : ℕ → Bool} (hk : k < n) :
    k < (List.range n).findIdx p ↔ ∀ j ≤ k, p j = false := by
  rw [List.lt_findIdx_iff]
  constructor
  · rintro ⟨_, h⟩ j hj
    simpa using h j hj
  · intro h
    exact ⟨by rwa [List.length_range], fun j hj => by simpa using h j hj⟩

theorem first_le : first sizes start ≤ sizes.length := findIdx_range_le ..

theorem last_le : last sizes stop ≤ sizes.length := findIdx_range_le ..

/-- **The items from `first` on are those that do not begin before `start`.** -/
theorem start_le_iff (hk : k < sizes.length) : start ≤ offset sizes k ↔ first sizes start ≤ k := by
  refine Iff.trans ?_ Nat.not_lt
  rw [first, lt_findIdx_range hk]
  constructor
  · intro h hbefore
    exact of_decide_eq_false (hbefore k le_rfl) h
  · intro h
    by_contra hstart
    refine h fun j hj => ?_
    have : offset sizes j ≤ offset sizes k := offset_mono hj
    exact decide_eq_false (by omega)

/-- **The items before `last` are those that end by `stop`.** -/
theorem le_stop_iff (hk : k < sizes.length) :
    offset sizes (k + 1) ≤ stop ↔ k < last sizes stop := by
  rw [last, lt_findIdx_range hk]
  constructor
  · intro h j hj
    have : offset sizes (j + 1) ≤ offset sizes (k + 1) := offset_mono (Nat.succ_le_succ hj)
    exact decide_eq_false (by omega)
  · intro hbefore
    exact Nat.not_lt.1 (of_decide_eq_false (hbefore k le_rfl))

/-- What begins at or behind `start` begins with `first` or behind it. -/
theorem first_le_of_le (hk : k ≤ sizes.length) (h : start ≤ offset sizes k) :
    first sizes start ≤ k := by
  rcases Nat.lt_or_eq_of_le hk with hlt | rfl
  · exact (start_le_iff hlt).1 h
  · exact first_le

theorem le_offset_first (hk : k ≤ sizes.length) (h : start ≤ offset sizes k) :
    start ≤ offset sizes (first sizes start) := by
  rcases Nat.lt_or_eq_of_le (first_le_of_le hk h) with hlt | heq
  · exact (start_le_iff (by omega)).2 le_rfl
  · rwa [heq]

/-- What ends by `stop` is before `last`. -/
theorem le_last_of_le (hk : k ≤ sizes.length) (h : offset sizes k ≤ stop) :
    k ≤ last sizes stop := by
  rcases k with _ | k
  · omega
  · exact (le_stop_iff hk).1 h

theorem offset_last_le : offset sizes (last sizes stop) ≤ stop := by
  rcases hlast : last sizes stop with _ | k
  · rw [offset_zero]
    omega
  · have : last sizes stop ≤ sizes.length := last_le
    exact (le_stop_iff (by omega)).2 (by omega)

/-- **An item begins at the edge exactly if none lies across it.** -/
theorem offset_first_eq_iff (hk : k ≤ sizes.length) (h : start ≤ offset sizes k) :
    offset sizes (first sizes start) = start ↔ ¬Straddled sizes start := by
  have hle := le_offset_first hk h
  constructor
  · rintro heq ⟨n, hbefore, hbehind⟩
    rcases Nat.lt_or_ge n (first sizes start) with hn | hn
    · have : offset sizes (n + 1) ≤ offset sizes (first sizes start) := offset_mono hn
      omega
    · have : offset sizes (first sizes start) ≤ offset sizes n := offset_mono hn
      omega
  · intro hstraddled
    rcases hfirst : first sizes start with _ | n
    · rw [hfirst, offset_zero] at hle
      rw [offset_zero]
      omega
    · have hlt : n < sizes.length := by
        have : first sizes start ≤ sizes.length := first_le
        omega
      have hbefore : offset sizes n < start := by
        rw [← Nat.not_le, start_le_iff hlt]
        omega
      rw [hfirst] at hle
      have hbehind : ¬start < offset sizes (n + 1) := fun hb => hstraddled ⟨n, hbefore, hb⟩
      omega

end Extents
end Moh
