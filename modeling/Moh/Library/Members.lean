/-
# Members of an object

An object is read as the list of its members in the order of the text, in which a name may
occur more than once: the last one counts (`last`).  A reader that knows some names keeps
the others in a map (`collect`), from which they are written back (`pairs`); reading them
from there gives what was read before (`lookup_collect`, `last_pairs`).
-/

import Mathlib.Data.List.AList
import Mathlib.Data.List.Induction

namespace Moh
namespace Members

variable {κ ν : Type} [DecidableEq κ]

/-- The value of a name: that of its last member. -/
def last (key : κ) (members : List (κ × ν)) : Option ν := members.reverse.lookup key

/-- A later member replaces an earlier one. -/
theorem last_append_singleton (key : κ) (members : List (κ × ν)) (m : κ × ν) :
    last key (members ++ [m]) = if m.1 = key then some m.2 else last key members := by
  obtain ⟨name, value⟩ := m
  simp only [last, List.reverse_append, List.reverse_singleton, List.singleton_append,
    List.lookup_cons]
  split_ifs with h
  · simp [h]
  · have hne : (key == name) = false := by simpa using fun he => h he.symm
    rw [hne]

theorem last_append (key : κ) (xs ys : List (κ × ν)) :
    last key (xs ++ ys) = (last key ys).or (last key xs) := by
  rw [last, List.reverse_append, List.lookup_append]
  rfl

/-- A name that no member has. -/
theorem last_eq_none {key : κ} {members : List (κ × ν)} (h : ∀ m ∈ members, m.1 ≠ key) :
    last key members = none := by
  refine List.lookup_eq_none_iff.2 fun m hm => ?_
  have hne := h m (List.mem_reverse.1 hm)
  simpa using fun he => hne he.symm

/-- Only the members of the name matter. -/
theorem last_eq_getLast? (key : κ) (members : List (κ × ν)) :
    last key members = ((members.filter fun m => m.1 = key).getLast?).map Prod.snd := by
  induction members using List.reverseRecOn with
  | nil => rfl
  | append_singleton members m ih =>
    rw [last_append_singleton, List.filter_append]
    split_ifs with hm
    · simp [hm]
    · simp [hm, ih]

/-- Without repeated names, the members are the values. -/
theorem lookup_eq_some_iff_mem {members : List (κ × ν)} (hnd : (members.map Prod.fst).Nodup)
    {key : κ} {value : ν} : members.lookup key = some value ↔ (key, value) ∈ members := by
  induction members with
  | nil => simp
  | cons m members ih =>
    obtain ⟨name, first⟩ := m
    rw [List.map_cons, List.nodup_cons] at hnd
    rw [List.lookup_cons, List.mem_cons]
    by_cases hname : key = name
    · subst hname
      have hother : (key, value) ∉ members := fun hmem =>
        hnd.1 (List.mem_map.2 ⟨_, hmem, rfl⟩)
      simp [hother, eq_comm]
    · have hne : (key == name) = false := by simpa using hname
      rw [hne, ih hnd.2]
      simp [hname]

/-! ### The names that a reader does not know -/

/-- The members whose names are kept, in a map. -/
def collect (keep : κ → Bool) (members : List (κ × ν)) : AList fun _ : κ => ν :=
  members.foldl (fun kept m => if keep m.1 then kept.insert m.1 m.2 else kept) ∅

theorem collect_append_singleton (keep : κ → Bool) (members : List (κ × ν)) (m : κ × ν) :
    collect keep (members ++ [m]) =
      if keep m.1 then (collect keep members).insert m.1 m.2 else collect keep members := by
  rw [collect, List.foldl_append]
  rfl

/-- **A kept name has the value it was read with.** -/
theorem lookup_collect {keep : κ → Bool} {key : κ} (hkeep : keep key = true)
    (members : List (κ × ν)) : (collect keep members).lookup key = last key members := by
  induction members using List.reverseRecOn with
  | nil => rfl
  | append_singleton members m ih =>
    rw [collect_append_singleton, last_append_singleton]
    by_cases hm : m.1 = key
    · subst hm
      rw [if_pos hkeep, if_pos rfl, AList.lookup_insert]
    · rw [if_neg hm]
      split_ifs
      · rw [AList.lookup_insert_ne fun he => hm he.symm, ih]
      · exact ih

/-- Other names are not kept. -/
theorem lookup_collect_of_not {keep : κ → Bool} {key : κ} (hkeep : keep key = false)
    (members : List (κ × ν)) : (collect keep members).lookup key = none := by
  induction members using List.reverseRecOn with
  | nil => rfl
  | append_singleton members m ih =>
    rw [collect_append_singleton]
    split_ifs with hm
    · have hne : key ≠ m.1 := fun he => by simp [← he, hkeep] at hm
      rw [AList.lookup_insert_ne hne, ih]
    · exact ih

/-- The members of a map. -/
def pairs (kept : AList fun _ : κ => ν) : List (κ × ν) := kept.entries.map fun e => (e.1, e.2)

/-- **What is written of a map is the map.** -/
theorem last_pairs (key : κ) (kept : AList fun _ : κ => ν) :
    last key (pairs kept) = kept.lookup key := by
  have hkeys : (pairs kept).map Prod.fst = kept.keys := by
    simp [pairs, AList.keys, List.keys, Function.comp_def]
  have hnd : ((pairs kept).reverse.map Prod.fst).Nodup := by
    rw [List.map_reverse, hkeys, List.nodup_reverse]
    exact kept.keys_nodup
  refine Option.ext fun value => ?_
  show (pairs kept).reverse.lookup key = some value ↔ value ∈ kept.lookup key
  rw [lookup_eq_some_iff_mem hnd, AList.mem_lookup_iff, List.mem_reverse]
  constructor
  · intro hmem
    obtain ⟨e, he, heq⟩ := List.mem_map.1 hmem
    obtain ⟨rfl, rfl⟩ := Prod.mk.inj heq
    exact he
  · exact fun hmem => List.mem_map.2 ⟨_, hmem, rfl⟩

end Members
end Moh
