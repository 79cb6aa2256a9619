/-
# Maxima and rankings

Of a list with a key for each element, `leaders` are the elements whose key is the greatest,
in the order of the list.  A maximum that is replaced by what is not less is the last leader
(`maxByKey_eq`); a stable descending sort begins with the first one (`head?_sortByKeyDesc`).
So the two agree exactly if the first leader is the last one.
-/

import Mathlib.Order.Lattice

namespace Moh
namespace Ranking

variable {α κ : Type} [LinearOrder κ] (key : α → κ)

/-- The maximum by a key; of several, the last one. -/
def maxByKey : List α → Option α
  | [] => none
  | a :: as => some (as.foldl (fun x y => if key y < key x then x else y) a)

/-- The elements by descending keys, in the order of the list where these are equal. -/
def sortByKeyDesc (l : List α) : List α := l.mergeSort fun a b => decide (key b ≤ key a)

/-- The elements of the greatest key. -/
def leaders (l : List α) : List α := l.filter fun a => ∀ b ∈ l, key b ≤ key a

variable {key}

/-- The maximum stands behind what is not greater and before what is less. -/
theorem foldl_max_eq (as : List α) (a : α) :
    (as.foldl (fun x y => if key y < key x then x else y) a = a ∧ ∀ y ∈ as, key y < key a) ∨
      ∃ xs ys, as = xs ++ as.foldl (fun x y => if key y < key x then x else y) a :: ys ∧
        key a ≤ key (as.foldl (fun x y => if key y < key x then x else y) a) ∧
        (∀ x ∈ xs, key x ≤ key (as.foldl (fun x y => if key y < key x then x else y) a)) ∧
        ∀ y ∈ ys, key y < key (as.foldl (fun x y => if key y < key x then x else y) a) := by
  induction as generalizing a with
  | nil => exact .inl ⟨rfl, nofun⟩
  | cons b as ih =>
    rw [List.foldl_cons]
    split_ifs with hba
    · rcases ih a with ⟨he, hless⟩ | ⟨xs, ys, has, ha, hxs, hys⟩
      · left
        refine ⟨he, fun y hy => ?_⟩
        rcases List.mem_cons.1 hy with rfl | hy
        · exact hba
        · exact hless y hy
      · right
        refine ⟨b :: xs, ys, congrArg (b :: ·) has, ha, fun x hx => ?_, hys⟩
        rcases List.mem_cons.1 hx with rfl | hx
        · exact (le_of_lt hba).trans ha
        · exact hxs x hx
    · right
      have hab : key a ≤ key b := not_lt.1 hba
      rcases ih b with ⟨he, hless⟩ | ⟨xs, ys, has, hb, hxs, hys⟩
      · rw [he]
        exact ⟨[], as, rfl, hab, nofun, hless⟩
      · refine ⟨b :: xs, ys, congrArg (b :: ·) has, hab.trans hb, fun x hx => ?_, hys⟩
        rcases List.mem_cons.1 hx with rfl | hx
        · exact hb
        · exact hxs x hx

/-- A leader stands last if only smaller elements stand behind it. -/
theorem getLast?_leaders (xs ys : List α) {m : α} (hxs : ∀ x ∈ xs, key x ≤ key m)
    (hys : ∀ y ∈ ys, key y < key m) : (leaders key (xs ++ m :: ys)).getLast? = some m := by
  have hm : ∀ b ∈ xs ++ m :: ys, key b ≤ key m := by
    intro b hb
    rcases List.mem_append.1 hb with hb | hb
    · exact hxs b hb
    · rcases List.mem_cons.1 hb with rfl | hb
      · exact le_rfl
      · exact le_of_lt (hys b hb)
  have hnone : ys.filter (fun a => ∀ b ∈ xs ++ m :: ys, key b ≤ key a) = [] := by
    refine List.filter_eq_nil_iff.2 fun y hy hle => ?_
    have hmy := (of_decide_eq_true hle) m (by simp)
    exact absurd (hys y hy) (not_lt.2 hmy)
  rw [leaders, List.filter_append, List.filter_cons_of_pos (by simpa using hm), hnone,
    List.getLast?_concat]

/-- **The maximum is the last leader.** -/
theorem maxByKey_eq (l : List α) : maxByKey key l = (leaders key l).getLast? := by
  cases l with
  | nil => rfl
  | cons a as =>
    rw [maxByKey]
    rcases @foldl_max_eq _ _ _ key as a with ⟨he, hless⟩ | ⟨xs, ys, has, ha, hxs, hys⟩
    · rw [he]
      exact (getLast?_leaders [] as nofun hless).symm
    · generalize as.foldl (fun x y => if key y < key x then x else y) a = m at *
      rw [has]
      refine (getLast?_leaders (a :: xs) ys (fun x hx => ?_) hys).symm
      rcases List.mem_cons.1 hx with rfl | hx
      · exact ha
      · exact hxs x hx

/-- **A stable sort begins with the first leader.** -/
theorem head?_sortByKeyDesc (l : List α) :
    (sortByKeyDesc key l).head? = (leaders key l).head? := by
  have htrans : ∀ a b c : α, decide (key b ≤ key a) = true → decide (key c ≤ key b) = true →
      decide (key c ≤ key a) = true := by
    intro a b c hab hbc
    rw [decide_eq_true_iff] at *
    exact hbc.trans hab
  have htotal : ∀ a b : α, (decide (key b ≤ key a) || decide (key a ≤ key b)) = true := by
    intro a b
    simpa using le_total (key b) (key a)
  have hsorted := List.pairwise_mergeSort htrans htotal l
  have hperm := List.mergeSort_perm l fun a b => decide (key b ≤ key a)
  -- The leaders are in order among themselves, so the sort leaves them in theirs.
  have hleaders : (leaders key l).Pairwise fun a b => decide (key b ≤ key a) = true := by
    refine List.Pairwise.imp_of_mem (R := fun _ _ => True) (fun ha hb _ => ?_)
      (List.pairwise_of_forall fun _ _ => trivial)
    have hmax := of_decide_eq_true (List.mem_filter.1 ha).2
    exact decide_eq_true (hmax _ (List.mem_filter.1 hb).1)
  have hsublist := List.sublist_mergeSort htrans htotal hleaders List.filter_sublist
  have hkept : leaders key l =
      (sortByKeyDesc key l).filter fun a => ∀ b ∈ l, key b ≤ key a := by
    have hfiltered := hsublist.filter fun a => decide (∀ b ∈ l, key b ≤ key a)
    rw [leaders, List.filter_filter] at hfiltered
    simp only [Bool.and_self] at hfiltered
    exact hfiltered.eq_of_length (hperm.filter _).length_eq.symm
  rw [hkept]
  cases hs : sortByKeyDesc key l with
  | nil => rfl
  | cons h t =>
    have hmax : ∀ b ∈ l, key b ≤ key h := by
      intro b hb
      have hmem : b ∈ h :: t := by
        rw [← hs]
        exact hperm.mem_iff.2 hb
      rcases List.mem_cons.1 hmem with rfl | hmem
      · exact le_rfl
      · have hpair : (h :: t).Pairwise fun a b => decide (key b ≤ key a) = true := hs ▸ hsorted
        exact of_decide_eq_true ((List.pairwise_cons.1 hpair).1 b hmem)
    rw [List.filter_cons_of_pos (by simpa using hmax)]
    rfl

end Ranking
end Moh
