/-
# Keyed tables

A table has one row per key, in the order of the keys.  `insert` fails when the key
is taken and `put` replaces its row; `mapRows` changes rows in place and `filterRows`
drops some.  A list is a table by its positions (`ofList`): inserting an element at the
position that follows appends it (`insert_ofList`).  A table of tables keeps the rows of
each owner apart (`Children`).
-/

import Mathlib.Data.List.Basic
import Mathlib.Data.Int.Order.Basic
import Mathlib.Logic.Function.Basic
import Mathlib.Data.Option.Basic
import Mathlib.Order.Lattice

namespace Moh

variable {κ ρ σ : Type} [LinearOrder κ]

/-- One row per key, in ascending order of the keys. -/
@[ext]
structure Table (κ ρ : Type) [LinearOrder κ] where
  rows : List (κ × ρ)
  sorted : rows.Pairwise fun a b => a.1 < b.1

namespace Table

/-- No rows. -/
def empty : Table κ ρ := ⟨[], .nil⟩

@[simp] theorem rows_empty : (empty : Table κ ρ).rows = [] := rfl

/-- The row of a key. -/
def find (t : Table κ ρ) (k : κ) : Option ρ :=
  (t.rows.find? fun x => decide (x.1 = k)).map Prod.snd

/-- A row among sorted rows, unless its key is taken. -/
def insertSorted (k : κ) (r : ρ) : List (κ × ρ) → Option (List (κ × ρ))
  | [] => some [(k, r)]
  | x :: xs =>
    if k < x.1 then some ((k, r) :: x :: xs)
    else if k = x.1 then none
    else (insertSorted k r xs).map (x :: ·)

theorem mem_of_insertSorted {k : κ} {r : ρ} {xs ys : List (κ × ρ)}
    (h : insertSorted k r xs = some ys) (y : κ × ρ) : y ∈ ys ↔ y = (k, r) ∨ y ∈ xs := by
  induction xs generalizing ys with
  | nil =>
    obtain rfl := Option.some.inj h
    simp
  | cons x xs ih =>
    unfold insertSorted at h
    split_ifs at h
    · obtain rfl := Option.some.inj h
      rw [List.mem_cons]
    · obtain ⟨zs, hzs, rfl⟩ := Option.map_eq_some_iff.1 h
      rw [List.mem_cons, List.mem_cons, ih hzs, or_left_comm]

theorem sorted_insertSorted {k : κ} {r : ρ} {xs ys : List (κ × ρ)}
    (hs : xs.Pairwise fun a b => a.1 < b.1) (h : insertSorted k r xs = some ys) :
    ys.Pairwise fun a b => a.1 < b.1 := by
  induction xs generalizing ys with
  | nil =>
    obtain rfl := Option.some.inj h
    exact List.pairwise_singleton ..
  | cons x xs ih =>
    obtain ⟨hx, hxs⟩ := List.pairwise_cons.1 hs
    unfold insertSorted at h
    split_ifs at h with hlt heq
    · obtain rfl := Option.some.inj h
      refine List.pairwise_cons.2 ⟨fun y hy => ?_, hs⟩
      rcases List.mem_cons.1 hy with rfl | hy
      · exact hlt
      · exact lt_trans hlt (hx y hy)
    · obtain ⟨zs, hzs, rfl⟩ := Option.map_eq_some_iff.1 h
      refine List.pairwise_cons.2 ⟨fun y hy => ?_, ih hxs hzs⟩
      rcases (mem_of_insertSorted hzs y).1 hy with rfl | hy
      · exact lt_of_le_of_ne (not_lt.1 hlt) (Ne.symm heq)
      · exact hx y hy

/-- A key behind all others goes to the end. -/
theorem insertSorted_of_lt {k : κ} {r : ρ} {xs : List (κ × ρ)} (h : ∀ x ∈ xs, x.1 < k) :
    insertSorted k r xs = some (xs ++ [(k, r)]) := by
  induction xs with
  | nil => rfl
  | cons x xs ih =>
    obtain ⟨hx, hxs⟩ := List.forall_mem_cons.1 h
    rw [insertSorted, if_neg (lt_asymm hx), if_neg (ne_of_gt hx), ih hxs, Option.map_some,
      List.cons_append]

/-- The table with one row more, unless its key is taken. -/
def insert (t : Table κ ρ) (k : κ) (r : ρ) : Option (Table κ ρ) :=
  match h : insertSorted k r t.rows with
  | none => none
  | some ys => some ⟨ys, sorted_insertSorted t.sorted h⟩

theorem insert_eq_some {t u : Table κ ρ} {k : κ} {r : ρ} :
    t.insert k r = some u ↔ insertSorted k r t.rows = some u.rows := by
  unfold insert
  constructor
  · intro h
    split at h
    · cases h
    · rename_i ys hys
      obtain rfl := Option.some.inj h
      exact hys
  · intro h
    split
    · rename_i hnone
      rw [hnone] at h
      cases h
    · rename_i ys hys
      obtain rfl := Option.some.inj (hys.symm.trans h)
      rfl

theorem insert_of_lt {t : Table κ ρ} {k : κ} {r : ρ} (h : ∀ x ∈ t.rows, x.1 < k) :
    ∃ u, t.insert k r = some u ∧ u.rows = t.rows ++ [(k, r)] := by
  have hs : insertSorted k r t.rows = some (t.rows ++ [(k, r)]) := insertSorted_of_lt h
  exact ⟨⟨_, sorted_insertSorted t.sorted hs⟩, insert_eq_some.2 hs, rfl⟩

/-- The table with its rows changed. -/
def mapRows (f : κ → ρ → σ) (t : Table κ ρ) : Table κ σ where
  rows := t.rows.map fun x => (x.1, f x.1 x.2)
  sorted := List.pairwise_map.2 t.sorted

/-- The table without the rows that fail a test. -/
def filterRows (p : κ → ρ → Bool) (t : Table κ ρ) : Table κ ρ where
  rows := t.rows.filter fun x => p x.1 x.2
  sorted := t.sorted.filter _

theorem find_eq_some_iff {t : Table κ ρ} {k : κ} {r : ρ} : t.find k = some r ↔ (k, r) ∈ t.rows := by
  obtain ⟨rows, sorted⟩ := t
  unfold find
  induction rows with
  | nil => simp
  | cons x xs ih =>
    obtain ⟨hx, hxs⟩ := List.pairwise_cons.1 sorted
    rw [List.mem_cons, List.find?_cons]
    by_cases heq : x.1 = k
    · subst heq
      simp only [decide_true, Option.map_some, Option.some.injEq]
      constructor
      · rintro rfl
        exact .inl rfl
      · rintro (h | h)
        · exact congrArg Prod.snd h.symm
        · exact absurd (hx _ h) (lt_irrefl _)
    · rw [decide_eq_false heq, ih hxs]
      constructor
      · exact .inr
      · rintro (rfl | h)
        · exact absurd rfl heq
        · exact h

theorem find_mapRows (f : κ → ρ → σ) (t : Table κ ρ) (k : κ) :
    (t.mapRows f).find k = (t.find k).map (f k) := by
  ext s
  rw [Option.map_eq_some_iff, find_eq_some_iff]
  constructor
  · intro h
    obtain ⟨x, hx, heq⟩ := List.mem_map.1 h
    obtain ⟨rfl, rfl⟩ := Prod.mk.inj heq
    exact ⟨x.2, find_eq_some_iff.2 hx, rfl⟩
  · rintro ⟨r, hr, rfl⟩
    exact List.mem_map.2 ⟨(k, r), find_eq_some_iff.1 hr, rfl⟩

theorem find_insert {t u : Table κ ρ} {k k' : κ} {r : ρ} (h : t.insert k r = some u) :
    u.find k' = if k' = k then some r else t.find k' := by
  have hmem := mem_of_insertSorted (insert_eq_some.1 h)
  split_ifs with heq
  · subst heq
    exact find_eq_some_iff.2 ((hmem _).2 (.inl rfl))
  · ext s
    rw [find_eq_some_iff, find_eq_some_iff, hmem]
    constructor
    · rintro (hs | hs)
      · exact absurd (congrArg Prod.fst hs) heq
      · exact hs
    · exact .inr

theorem find_filterRows (p : κ → ρ → Bool) (t : Table κ ρ) (k : κ) :
    (t.filterRows p).find k = (t.find k).filter (p k) := by
  ext r
  rw [Option.filter_eq_some_iff, find_eq_some_iff, find_eq_some_iff]
  exact List.mem_filter

/-- The rows of one key that pass a test: one or none. -/
theorem countP_rows (t : Table κ ρ) (k : κ) (p : ρ → Bool) :
    t.rows.countP (fun x => decide (x.1 = k) && p x.2) = ((t.find k).filter p).toList.length := by
  obtain ⟨rows, sorted⟩ := t
  unfold find
  induction rows with
  | nil => rfl
  | cons x xs ih =>
    obtain ⟨hx, hxs⟩ := List.pairwise_cons.1 sorted
    rw [List.countP_cons, List.find?_cons]
    by_cases heq : x.1 = k
    · have hrest : xs.countP (fun x => decide (x.1 = k) && p x.2) = 0 := by
        rw [List.countP_eq_zero]
        intro y hy
        simp [(heq ▸ ne_of_gt (hx y hy) : y.1 ≠ k)]
      rw [hrest]
      cases hp : p x.2 <;> simp [heq, hp, Option.filter]
    · simp [heq, ih hxs]

/-! ### Replacing rows -/

/-- A row among sorted rows, in the place of the one that has its key. -/
def putSorted (k : κ) (r : ρ) : List (κ × ρ) → List (κ × ρ)
  | [] => [(k, r)]
  | x :: xs =>
    if k < x.1 then (k, r) :: x :: xs
    else if k = x.1 then (k, r) :: xs
    else x :: putSorted k r xs

theorem mem_putSorted {k : κ} {r : ρ} {xs : List (κ × ρ)}
    (hs : xs.Pairwise fun a b => a.1 < b.1) (y : κ × ρ) :
    y ∈ putSorted k r xs ↔ y = (k, r) ∨ (y.1 ≠ k ∧ y ∈ xs) := by
  induction xs with
  | nil => simp [putSorted]
  | cons x xs ih =>
    obtain ⟨hx, hxs⟩ := List.pairwise_cons.1 hs
    unfold putSorted
    split_ifs with hlt heq
    · have hne : ∀ z ∈ x :: xs, z.1 ≠ k := by
        intro z hz
        rcases List.mem_cons.1 hz with rfl | hz
        · exact ne_of_gt hlt
        · exact ne_of_gt (lt_trans hlt (hx z hz))
      rw [List.mem_cons]
      exact or_congr_right ⟨fun hy => ⟨hne y hy, hy⟩, fun hy => hy.2⟩
    · rw [List.mem_cons, List.mem_cons]
      refine or_congr_right ⟨fun hy => ⟨heq ▸ ne_of_gt (hx y hy), .inr hy⟩, ?_⟩
      rintro ⟨hne, rfl | hy⟩
      · exact absurd heq.symm hne
      · exact hy
    · rw [List.mem_cons, List.mem_cons, ih hxs]
      constructor
      · rintro (rfl | hy | hy)
        · exact .inr ⟨Ne.symm heq, .inl rfl⟩
        · exact .inl hy
        · exact .inr ⟨hy.1, .inr hy.2⟩
      · rintro (hy | ⟨hne, hy | hy⟩)
        · exact .inr (.inl hy)
        · exact .inl hy
        · exact .inr (.inr ⟨hne, hy⟩)

theorem sorted_putSorted {k : κ} {r : ρ} {xs : List (κ × ρ)}
    (hs : xs.Pairwise fun a b => a.1 < b.1) :
    (putSorted k r xs).Pairwise fun a b => a.1 < b.1 := by
  induction xs with
  | nil => exact List.pairwise_singleton ..
  | cons x xs ih =>
    obtain ⟨hx, hxs⟩ := List.pairwise_cons.1 hs
    unfold putSorted
    split_ifs with hlt heq
    · refine List.pairwise_cons.2 ⟨fun y hy => ?_, hs⟩
      rcases List.mem_cons.1 hy with rfl | hy
      · exact hlt
      · exact lt_trans hlt (hx y hy)
    · exact List.pairwise_cons.2 ⟨fun y hy => heq ▸ hx y hy, hxs⟩
    · refine List.pairwise_cons.2 ⟨fun y hy => ?_, ih hxs⟩
      rcases (mem_putSorted hxs y).1 hy with rfl | ⟨-, hy⟩
      · exact lt_of_le_of_ne (not_lt.1 hlt) (Ne.symm heq)
      · exact hx y hy

/-- The table with the row of a key replaced, or added. -/
def put (t : Table κ ρ) (k : κ) (r : ρ) : Table κ ρ := ⟨putSorted k r t.rows, sorted_putSorted t.sorted⟩

theorem find_put (t : Table κ ρ) (k k' : κ) (r : ρ) :
    (t.put k r).find k' = if k' = k then some r else t.find k' := by
  have hmem : ∀ y, y ∈ (t.put k r).rows ↔ y = (k, r) ∨ (y.1 ≠ k ∧ y ∈ t.rows) :=
    mem_putSorted t.sorted
  split_ifs with heq
  · exact find_eq_some_iff.2 ((hmem _).2 (.inl (by rw [heq])))
  · ext s
    rw [find_eq_some_iff, find_eq_some_iff, hmem]
    constructor
    · rintro (hs | hs)
      · exact absurd (congrArg Prod.fst hs) heq
      · exact hs.2
    · exact fun hs => .inr ⟨heq, hs⟩

/-- A row whose key is behind all others goes to the end. -/
theorem rows_put_of_lt {t : Table κ ρ} {k : κ} {r : ρ} (h : ∀ x ∈ t.rows, x.1 < k) :
    (t.put k r).rows = t.rows ++ [(k, r)] := by
  obtain ⟨rows, sorted⟩ := t
  show putSorted k r rows = rows ++ [(k, r)]
  induction rows with
  | nil => rfl
  | cons x xs ih =>
    obtain ⟨hx, hxs⟩ := List.forall_mem_cons.1 h
    rw [putSorted, if_neg (lt_asymm hx), if_neg (ne_of_gt hx), ih (List.pairwise_cons.1 sorted).2 hxs,
      List.cons_append]

/-- The table with the row of a key changed, if it has one. -/
def modify (t : Table κ ρ) (k : κ) (f : ρ → ρ) : Table κ ρ :=
  t.mapRows fun k' r => if k' = k then f r else r

theorem find_modify (t : Table κ ρ) (k k' : κ) (f : ρ → ρ) :
    (t.modify k f).find k' = if k' = k then (t.find k').map f else t.find k' := by
  rw [modify, find_mapRows]
  split_ifs
  · rfl
  · exact Option.map_id'

/-- The table without the row of a key. -/
def remove (t : Table κ ρ) (k : κ) : Table κ ρ := t.filterRows fun k' _ => decide (k' ≠ k)

theorem find_remove (t : Table κ ρ) (k k' : κ) :
    (t.remove k).find k' = if k' = k then none else t.find k' := by
  rw [remove, find_filterRows]
  split_ifs with heq
  · simp [heq]
  · cases t.find k' <;> simp [heq]

/-! ### Tables by position -/

/-- The elements of a list with their positions from `n` on. -/
def enumerate (n : ℕ) : List ρ → List (ℤ × ρ)
  | [] => []
  | r :: rs => ((n : ℤ), r) :: enumerate (n + 1) rs

theorem enumerate_append (n : ℕ) (rs ss : List ρ) :
    enumerate n (rs ++ ss) = enumerate n rs ++ enumerate (n + rs.length) ss := by
  induction rs generalizing n with
  | nil => rfl
  | cons r rs ih =>
    have hlen : n + (r :: rs).length = n + 1 + rs.length := by
      rw [List.length_cons]
      omega
    rw [List.cons_append, enumerate, enumerate, ih, List.cons_append, hlen]

@[simp] theorem length_enumerate (n : ℕ) (rs : List ρ) : (enumerate n rs).length = rs.length := by
  induction rs generalizing n with
  | nil => rfl
  | cons r rs ih => exact congrArg (· + 1) (ih (n + 1))

theorem bounds_of_mem_enumerate {n : ℕ} {rs : List ρ} {x : ℤ × ρ} (h : x ∈ enumerate n rs) :
    (n : ℤ) ≤ x.1 ∧ x.1 < n + rs.length := by
  induction rs generalizing n with
  | nil => cases h
  | cons r rs ih =>
    rw [List.length_cons]
    rcases List.mem_cons.1 h with rfl | h
    · dsimp only
      omega
    · have := ih h
      push_cast at this ⊢
      omega

/-- Every position up to the length has an element. -/
theorem exists_mem_enumerate {n k : ℕ} {rs : List ρ} (h : k < rs.length) :
    ∃ r, (((n + k : ℕ) : ℤ), r) ∈ enumerate n rs := by
  induction rs generalizing n k with
  | nil => simp at h
  | cons r rs ih =>
    rcases k with _ | k
    · exact ⟨r, List.mem_cons_self⟩
    · have hnum : n + 1 + k = n + (k + 1) := by omega
      obtain ⟨r', hr'⟩ : ∃ r', (((n + 1 + k : ℕ) : ℤ), r') ∈ enumerate (n + 1) rs :=
        ih (Nat.lt_of_succ_lt_succ h)
      rw [hnum] at hr'
      exact ⟨r', List.mem_cons_of_mem _ hr'⟩

theorem sorted_enumerate (n : ℕ) (rs : List ρ) :
    (enumerate n rs).Pairwise fun a b => a.1 < b.1 := by
  induction rs generalizing n with
  | nil => exact .nil
  | cons r rs ih =>
    refine List.pairwise_cons.2 ⟨fun x hx => ?_, ih (n + 1)⟩
    have := (bounds_of_mem_enumerate hx).1
    push_cast at this
    omega

/-- The elements of a list by their positions. -/
def ofList (rs : List ρ) : Table ℤ ρ := ⟨enumerate 0 rs, sorted_enumerate 0 rs⟩

@[simp] theorem rows_ofList (rs : List ρ) : (ofList rs).rows = enumerate 0 rs := rfl

theorem map_snd_enumerate (n : ℕ) (rs : List ρ) : (enumerate n rs).map Prod.snd = rs := by
  induction rs generalizing n with
  | nil => rfl
  | cons r rs ih => exact congrArg (r :: ·) (ih (n + 1))

theorem ofList_injective {rs ss : List ρ} (h : ofList rs = ofList ss) : rs = ss := by
  have hrows : enumerate 0 rs = enumerate 0 ss := congrArg rows h
  rw [← map_snd_enumerate 0 rs, hrows, map_snd_enumerate]

/-- **A row at the position that follows is appended.** -/
theorem insert_ofList (rs : List ρ) (r : ρ) :
    (ofList rs).insert rs.length r = some (ofList (rs ++ [r])) := by
  have hlt : ∀ x ∈ (ofList rs).rows, x.1 < (rs.length : ℤ) := by
    intro x hx
    have := (bounds_of_mem_enumerate hx).2
    simpa using this
  have happend : enumerate 0 (rs ++ [r]) = enumerate 0 rs ++ [((rs.length : ℤ), r)] := by
    rw [enumerate_append, Nat.zero_add]
    rfl
  obtain ⟨u, hu, hrows⟩ := insert_of_lt hlt
  rw [hu]
  exact congrArg some (Table.ext (hrows.trans happend.symm))

end Table

/-! ### Rows of owners -/

/-- For each owner, its rows. -/
abbrev Children (κ ρ : Type) [LinearOrder κ] := κ → Table κ ρ

namespace Children

/-- One row more of an owner, unless its key is taken. -/
def insert (c : Children κ ρ) (owner k : κ) (r : ρ) : Option (Children κ ρ) :=
  ((c owner).insert k r).map (Function.update c owner)

/-- One owner's rows replaced. -/
def set (c : Children κ ρ) (owner : κ) (t : Table κ ρ) : Children κ ρ :=
  Function.update c owner t

theorem insert_eq_set {c : Children κ ρ} {owner k : κ} {r : ρ} {t : Table κ ρ}
    (h : (c owner).insert k r = some t) : c.insert owner k r = some (c.set owner t) := by
  rw [insert, h]
  rfl

@[simp] theorem set_set (c : Children κ ρ) (owner : κ) (t u : Table κ ρ) :
    (c.set owner t).set owner u = c.set owner u := Function.update_idem ..

@[simp] theorem set_eq_self (c : Children κ ρ) (owner : κ) : c.set owner (c owner) = c :=
  Function.update_eq_self ..

@[simp] theorem set_self (c : Children κ ρ) (owner : κ) (t : Table κ ρ) :
    c.set owner t owner = t := Function.update_self ..

theorem set_of_ne (c : Children κ ρ) {owner other : κ} (h : other ≠ owner) (t : Table κ ρ) :
    c.set owner t other = c other := Function.update_of_ne h ..

end Children
end Moh
