/-
# Segmentation of a text

A segmentation cuts a text into pieces that are not empty, such as words or grapheme
clusters.  It reads the text from the front: whether there is a boundary at a position that
is still inside a prefix does not depend on what follows the prefix.  Whether the prefix
ends at a boundary may depend on it, so that an edit behind the prefix can change its last
piece; but it cannot make the pieces before the edit fewer (`le_length_segment_append`).
-/

import Moh.Library.Extents

namespace Moh

open Extents

variable {α : Type*}

/-- A piece begins or ends at position `q`. -/
def Boundary (pieces : List (List α)) (q : ℕ) : Prop :=
  ∃ k ≤ pieces.length, offset (pieces.map List.length) k = q

/-- **A segmentation:** the pieces make up the text, none is empty, and the boundaries inside
a prefix are determined by the prefix. -/
structure Segmentation (α : Type*) where
  segment : List α → List (List α)
  flatten_segment : ∀ t, (segment t).flatten = t
  length_pos : ∀ t, ∀ piece ∈ segment t, 0 < piece.length
  boundary_congr : ∀ p s s' q, q < p.length →
    (Boundary (segment (p ++ s)) q ↔ Boundary (segment (p ++ s')) q)

namespace Segmentation

variable (S : Segmentation α) {t s : List α} {i j k : ℕ}

/-- The text of the first `k` pieces. -/
def before (t : List α) (k : ℕ) : List α := ((S.segment t).take k).flatten

/-- The text of the others. -/
def behind (t : List α) (k : ℕ) : List α := ((S.segment t).drop k).flatten

/-- The sizes of the pieces. -/
def sizes (t : List α) : List ℕ := (S.segment t).map List.length

theorem before_append_behind (t : List α) (k : ℕ) : S.before t k ++ S.behind t k = t := by
  rw [before, behind, ← List.flatten_append, List.take_append_drop, S.flatten_segment]

theorem before_of_length_le (h : (S.segment t).length ≤ k) : S.before t k = t := by
  rw [before, List.take_of_length_le h, S.flatten_segment]

theorem before_succ {piece : List α} (h : (S.segment t)[k]? = some piece) :
    S.before t (k + 1) = S.before t k ++ piece := by
  rw [before, List.take_add_one, h, List.flatten_append, Option.toList_some, List.flatten_singleton,
    before]

/-- The text between two boundaries. -/
theorem before_append_extract (h : i ≤ j) :
    S.before t i ++ ((S.segment t).extract i j).flatten = S.before t j := by
  have htake : (S.segment t).take i = ((S.segment t).take j).take i := by
    rw [List.take_take, Nat.min_eq_left h]
  rw [before, before, htake, List.extract_eq_take_drop, ← List.drop_take, ← List.flatten_append,
    List.take_append_drop]

theorem length_sizes (t : List α) : (S.sizes t).length = (S.segment t).length := by simp [sizes]

theorem sizes_pos (t : List α) : ∀ size ∈ S.sizes t, 0 < size := by
  intro size hsize
  obtain ⟨piece, hpiece, rfl⟩ := List.mem_map.1 hsize
  exact S.length_pos t piece hpiece

theorem length_before (t : List α) (k : ℕ) : (S.before t k).length = offset (S.sizes t) k := by
  rw [before, List.length_flatten, offset, sizes, List.map_take]

theorem offset_length (t : List α) : offset (S.sizes t) (S.segment t).length = t.length := by
  rw [← length_before, before_of_length_le S le_rfl]

/-- **What follows the first `k` pieces, the boundaries before it stay,** each behind at least
as many pieces. -/
theorem exists_offset_eq (hk : k ≤ (S.segment t).length) (s : List α) (hi : i < k) :
    ∃ j, i ≤ j ∧ j ≤ (S.segment (S.before t k ++ s)).length ∧
      offset (S.sizes (S.before t k ++ s)) j = offset (S.sizes t) i := by
  have hstays : ∀ i < k, ∃ j ≤ (S.segment (S.before t k ++ s)).length,
      offset (S.sizes (S.before t k ++ s)) j = offset (S.sizes t) i := by
    intro i hi
    have hinside : offset (S.sizes t) i < (S.before t k).length := by
      rw [length_before]
      exact offset_lt (S.sizes_pos t) hi (S.length_sizes t ▸ hk)
    refine (S.boundary_congr _ s (S.behind t k) _ hinside).2 ?_
    rw [before_append_behind]
    exact ⟨i, by omega, rfl⟩
  induction i with
  | zero => exact ⟨0, le_rfl, Nat.zero_le _, by rw [offset_zero, offset_zero]⟩
  | succ i ih =>
    obtain ⟨j, hij, -, hj⟩ := ih (by omega)
    obtain ⟨j', hj'le, hj'⟩ := hstays (i + 1) hi
    refine ⟨j', ?_, hj'le, hj'⟩
    have hlt : offset (S.sizes t) i < offset (S.sizes t) (i + 1) :=
      offset_lt (S.sizes_pos t) (Nat.lt_succ_self i) (by rw [length_sizes]; omega)
    by_contra hcontra
    have hle : offset (S.sizes (S.before t k ++ s)) j' ≤ offset (S.sizes (S.before t k ++ s)) j :=
      offset_mono (by omega)
    omega

/-- **The first `k` pieces do not become fewer,** whatever follows them. -/
theorem le_length_segment_append (hk : k ≤ (S.segment t).length) (s : List α) :
    k ≤ (S.segment (S.before t k ++ s)).length := by
  rcases k with _ | k
  · omega
  · obtain ⟨j, hkj, hj, hoffset⟩ := S.exists_offset_eq hk s (Nat.lt_succ_self k)
    rcases Nat.lt_or_eq_of_le hj with hlt | rfl
    · omega
    · -- the last of these boundaries is inside the text, so a piece follows it
      have hinside : offset (S.sizes t) k < offset (S.sizes t) (k + 1) :=
        offset_lt (S.sizes_pos t) (Nat.lt_succ_self k) (by rwa [length_sizes])
      rw [offset_length, List.length_append, length_before] at hoffset
      omega

end Segmentation

/-! ### Elements that join -/

/-- Puts an element before the first piece. -/
def attach (a : α) : List (List α) → List (List α)
  | [] => [[a]]
  | piece :: pieces => (a :: piece) :: pieces

/-- A piece begins at every element but those that join the one before. -/
def joined (joins : α → Bool) : List α → List (List α)
  | [] => []
  | [a] => [[a]]
  | a :: b :: t => if joins b then attach a (joined joins (b :: t)) else [a] :: joined joins (b :: t)

theorem boundary_nil_iff (q : ℕ) : Boundary ([] : List (List α)) q ↔ q = 0 := by
  simp [Boundary, offset, eq_comm]

theorem boundary_zero (pieces : List (List α)) : Boundary pieces 0 :=
  ⟨0, Nat.zero_le _, offset_zero⟩

theorem boundary_cons_iff (piece : List α) (pieces : List (List α)) (q : ℕ) :
    Boundary (piece :: pieces) q ↔
      q = 0 ∨ piece.length ≤ q ∧ Boundary pieces (q - piece.length) := by
  constructor
  · rintro ⟨k, hk, rfl⟩
    rcases k with _ | k
    · exact .inl offset_zero
    · refine .inr ?_
      rw [List.map_cons, offset_cons_succ, Nat.add_sub_cancel_left]
      exact ⟨Nat.le_add_right .., k, by simpa using hk, rfl⟩
  · rintro (rfl | ⟨hle, k, hk, hoffset⟩)
    · exact boundary_zero _
    · refine ⟨k + 1, by simpa using hk, ?_⟩
      rw [List.map_cons, offset_cons_succ]
      omega

theorem boundary_attach_iff (a : α) {pieces : List (List α)} (hpos : ∀ p ∈ pieces, 0 < p.length)
    (q : ℕ) : Boundary (attach a pieces) q ↔ q = 0 ∨ q = 1 ∧ pieces = [] ∨
      1 < q ∧ Boundary pieces (q - 1) := by
  rcases pieces with _ | ⟨piece, pieces⟩
  · rw [attach, boundary_cons_iff, boundary_nil_iff, boundary_nil_iff, List.length_singleton]
    simp only [and_true]
    omega
  · have := hpos piece List.mem_cons_self
    rw [attach, boundary_cons_iff, boundary_cons_iff, List.length_cons, Nat.sub_add_eq,
      Nat.sub_right_comm]
    simp only [List.cons_ne_nil, and_false, false_or]
    refine or_congr_right ?_
    constructor
    · rintro ⟨hle, hboundary⟩
      exact ⟨by omega, .inr ⟨by omega, hboundary⟩⟩
    · rintro ⟨hlt, hzero | ⟨hle, hboundary⟩⟩
      · omega
      · exact ⟨by omega, hboundary⟩

theorem flatten_attach (a : α) (pieces : List (List α)) :
    (attach a pieces).flatten = a :: pieces.flatten := by
  cases pieces <;> rfl

theorem flatten_joined (joins : α → Bool) (t : List α) : (joined joins t).flatten = t := by
  fun_induction joined joins t with
  | case1 => rfl
  | case2 a => rfl
  | case3 a b t _ ih => rw [flatten_attach, ih]
  | case4 a b t _ ih => rw [List.flatten_cons, ih, List.singleton_append]

theorem length_pos_of_mem_joined (joins : α → Bool) (t : List α) :
    ∀ piece ∈ joined joins t, 0 < piece.length := by
  fun_induction joined joins t with
  | case1 => simp
  | case2 a => simp
  | case3 a b t _ ih =>
    intro piece hpiece
    rcases hpieces : joined joins (b :: t) with _ | ⟨first, rest⟩
    · rw [hpieces] at hpiece
      simp [List.mem_singleton.1 hpiece]
    · rw [hpieces] at hpiece ih
      rcases List.mem_cons.1 hpiece with rfl | hrest
      · simp
      · exact ih piece (List.mem_cons_of_mem _ hrest)
  | case4 a b t _ ih =>
    intro piece hpiece
    rcases List.mem_cons.1 hpiece with rfl | hrest
    · simp
    · exact ih piece hrest

theorem joined_cons_ne_nil (joins : α → Bool) (a : α) (t : List α) :
    joined joins (a :: t) ≠ [] := by
  intro h
  have := flatten_joined joins (a :: t)
  rw [h] at this
  cases this

/-- **The boundaries inside a text** are at the elements that do not join. -/
theorem boundary_joined_iff (joins : α → Bool) {t : List α} {q : ℕ} (hq : q < t.length) :
    Boundary (joined joins t) q ↔ q = 0 ∨ joins t[q] = false := by
  fun_induction joined joins t generalizing q with
  | case1 => simp at hq
  | case2 a =>
    obtain rfl : q = 0 := by simpa using hq
    exact iff_of_true (boundary_zero _) (.inl rfl)
  | case3 a b t hjoins ih =>
    rw [boundary_attach_iff a (length_pos_of_mem_joined joins _)]
    rcases q with _ | _ | q
    · simp
    · simp [hjoins, joined_cons_ne_nil]
    · have hrest := @ih (q + 1) (by simpa using hq)
      simpa using hrest
  | case4 a b t hjoins ih =>
    rw [boundary_cons_iff]
    rcases q with _ | q
    · simp
    · have hrest := @ih q (by simpa using hq)
      rcases q with _ | q
      · simp [hjoins, boundary_zero]
      · simpa using hrest

/-- **The segmentation in which some elements join the one before.** -/
def Segmentation.joining (joins : α → Bool) : Segmentation α where
  segment := joined joins
  flatten_segment := flatten_joined joins
  length_pos := length_pos_of_mem_joined joins
  boundary_congr p s s' q hq := by
    rw [boundary_joined_iff joins (by rw [List.length_append]; omega),
      boundary_joined_iff joins (by rw [List.length_append]; omega),
      List.getElem_append_left hq, List.getElem_append_left hq]

end Moh
