/-
# A cursor in a list of rows, seen through a window

Some of the rows can be selected.  The search for the next one goes through a slice of the
list (`sliceFrom`, `sliceTo`, `sliceThrough`, undefined where the bound is not one of the
list) and takes the first (`List.findIdx?`) or the last row of it (`rposition`).  The window
shows `viewport` rows from an offset on, which `scroll` moves as little as it must for the
cursor to be seen.
-/

import Mathlib.Data.List.Basic

namespace Moh
namespace Cursor

variable {α : Type*} {p : α → Bool}

/-! ### Slices -/

/-- `&l[n..]`. -/
def sliceFrom (l : List α) (n : ℕ) : Option (List α) :=
  if n ≤ l.length then some (l.drop n) else none

/-- `&l[..n]`. -/
def sliceTo (l : List α) (n : ℕ) : Option (List α) :=
  if n ≤ l.length then some (l.take n) else none

/-- `&l[..=n]`. -/
def sliceThrough (l : List α) (n : ℕ) : Option (List α) := sliceTo l (n + 1)

/-- `Iterator::rposition`: the last index of an element with the property. -/
def rposition (p : α → Bool) (l : List α) : Option ℕ := (l.findIdxs p).getLast?

/-- The first row of a slice to the end, and that there is none before it. -/
theorem findIdx?_drop_eq_some {l : List α} {n i : ℕ} (h : (l.drop n).findIdx? p = some i) :
    (∃ x, l[n + i]? = some x ∧ p x = true) ∧
      ∀ j, n ≤ j → j < n + i → ∀ x, l[j]? = some x → p x = false := by
  obtain ⟨hi, hp, hbefore⟩ := List.findIdx?_eq_some_iff_getElem.1 h
  rw [List.getElem_drop] at hp
  rw [List.length_drop] at hi
  refine ⟨⟨_, List.getElem?_eq_getElem (by omega), hp⟩, fun j hnj hji x hx => ?_⟩
  have hj := hbefore (j - n) (by omega)
  obtain ⟨hlt, rfl⟩ := List.getElem?_eq_some_iff.1 hx
  simp only [List.getElem_drop, show n + (j - n) = j by omega] at hj
  simpa using hj

/-- There is none in the slice. -/
theorem findIdx?_drop_eq_none {l : List α} {n : ℕ} (h : (l.drop n).findIdx? p = none) :
    ∀ j, n ≤ j → ∀ x, l[j]? = some x → p x = false := by
  intro j hnj x hx
  refine List.findIdx?_eq_none_iff.1 h x (List.mem_of_getElem? (i := j - n) ?_)
  rw [List.getElem?_drop, show n + (j - n) = j by omega, hx]

/-- The last of increasing numbers is the greatest. -/
theorem le_of_getLast? {l : List ℕ} (h : l.Pairwise (· < ·)) {i j : ℕ}
    (hi : l.getLast? = some i) (hj : j ∈ l) : j ≤ i := by
  obtain ⟨front, rfl⟩ := List.getLast?_eq_some_iff.1 hi
  rcases List.mem_append.1 hj with hj | hj
  · exact Nat.le_of_lt ((List.pairwise_append.1 h).2.2 j hj i (List.mem_singleton_self i))
  · exact Nat.le_of_eq (List.mem_singleton.1 hj)

/-- The last row of a slice from the begin, and that there is none behind it. -/
theorem rposition_take_eq_some {l : List α} {n i : ℕ} (h : rposition p (l.take n) = some i) :
    i < n ∧ (∃ x, l[i]? = some x ∧ p x = true) ∧
      ∀ j, i < j → j < n → ∀ x, l[j]? = some x → p x = false := by
  have hmem : ∀ j, j ∈ (l.take n).findIdxs p ↔ j < n ∧ ∃ x, l[j]? = some x ∧ p x = true := by
    intro j
    rw [List.mem_findIdxs_iff_exists_getElem_pos]
    constructor
    · rintro ⟨hlt, hp⟩
      rw [List.length_take] at hlt
      rw [List.getElem_take] at hp
      exact ⟨by omega, _, List.getElem?_eq_getElem (by omega), hp⟩
    · rintro ⟨hjn, x, hx, hp⟩
      obtain ⟨hlt, rfl⟩ := List.getElem?_eq_some_iff.1 hx
      exact ⟨by rw [List.length_take]; omega, by rwa [List.getElem_take]⟩
  obtain ⟨hin, hi⟩ := (hmem i).1 (List.mem_of_getLast? h)
  refine ⟨hin, hi, fun j hij hjn x hx => ?_⟩
  by_contra hp
  have hle := le_of_getLast? List.pairwise_findIdxs h
    ((hmem j).2 ⟨hjn, x, hx, by simpa using hp⟩)
  omega

/-! ### The window -/

/-- The offset of the window after a change: moved to show the cursor, and not behind the
last full window.  (Where the cursor is taken back by the height of the window, it is not
less than that.) -/
def scroll (length viewport cursor offset : ℕ) : ℕ :=
  let offset := min offset (length - viewport)
  let offset :=
    if cursor < offset then cursor
    else if offset + viewport ≤ cursor then cursor + 1 - viewport
    else offset
  min offset (length - viewport)

/-- **The window shows the cursor.** -/
theorem scroll_bounds {length viewport cursor : ℕ} (hviewport : 0 < viewport)
    (hcursor : cursor < length) (offset : ℕ) :
    scroll length viewport cursor offset ≤ cursor ∧
      cursor < scroll length viewport cursor offset + viewport := by
  simp only [scroll]
  split_ifs <;> omega

/-- With the cursor on the first row the window is at the begin. -/
theorem scroll_zero {viewport : ℕ} (hviewport : 0 < viewport) (length offset : ℕ) :
    scroll length viewport 0 offset = 0 := by
  simp only [scroll]
  split_ifs <;> omega

end Cursor
end Moh
