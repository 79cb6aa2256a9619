/-
# Matching lines

`tools/read.rs`: `stable_hashes`.  The lines of a text that is read again are matched
with those of the stored snapshot, content by content (`occurrencePairs`).  All slots
of the old anchors stay occupied, those of removed lines too, so that the
allocation reaches its `unreachable!` when the old anchors and the new lines that
no old one matches are more than `62³` together (`anchorsAllocated_iff`).
-/

import Moh.Tools.Allocation
import Mathlib.Algebra.BigOperators.Group.List.Lemmas

namespace Moh
namespace Tools

variable {H : Hashing} {previous : AnchorSnapshot} {lines newLines : List Line} {content : Line}
  {olds remaining : List ℕ}

/-! ### Pairs of one content -/

theorem nearest_eq_none_iff {old : ℕ} : nearest old remaining = none ↔ remaining = [] := by
  constructor
  · intro h
    unfold nearest at h
    dsimp only at h
    split at h
    · split_ifs at h
    · cases h
    · cases h
    · rename_i hleft hright
      rw [List.getLast?_eq_none_iff, List.filter_eq_nil_iff] at hleft
      rw [List.find?_eq_none] at hright
      refine List.eq_nil_iff_forall_not_mem.2 fun i hi => ?_
      have h₁ := hleft i hi
      have h₂ := hright i hi
      simp only [decide_eq_true_eq] at h₁ h₂
      omega
  · rintro rfl
    rfl

theorem nearest_mem {old new : ℕ} (h : nearest old remaining = some new) : new ∈ remaining := by
  have hleft : ∀ {left}, (remaining.filter (· < old)).getLast? = some left → left ∈ remaining :=
    fun h => List.mem_of_mem_filter (List.mem_of_getLast? h)
  have hright : ∀ {right}, remaining.find? (old ≤ ·) = some right → right ∈ remaining :=
    fun h => List.mem_of_find?_eq_some h
  unfold nearest at h
  dsimp only at h
  split at h
  · split_ifs at h
    · obtain rfl := Option.some.inj h
      exact hleft ‹_›
    · obtain rfl := Option.some.inj h
      exact hright ‹_›
  · obtain rfl := Option.some.inj h
    exact hright ‹_›
  · obtain rfl := Option.some.inj h
    exact hleft ‹_›
  · cases h

/-- **Old positions are matched in order,** as long as new ones remain. -/
theorem fst_nearestOccurrencePairs (olds remaining : List ℕ) :
    (nearestOccurrencePairs olds remaining).map Prod.fst = olds.take remaining.length := by
  induction olds generalizing remaining with
  | nil => simp [nearestOccurrencePairs]
  | cons old olds ih =>
    unfold nearestOccurrencePairs
    split
    · rename_i h
      obtain rfl := nearest_eq_none_iff.1 h
      rfl
    · rename_i new h
      have hmem := nearest_mem h
      have hlen := List.length_erase_of_mem hmem
      have hpos := List.length_pos_of_mem hmem
      rw [List.map_cons, ih, hlen]
      obtain ⟨n, hn⟩ := Nat.exists_eq_add_of_lt hpos
      rw [hn]
      simp

/-- Each new position is matched once. -/
theorem snd_nearestOccurrencePairs (olds : List ℕ) (hnodup : remaining.Nodup) :
    ((nearestOccurrencePairs olds remaining).map Prod.snd).Nodup ∧
      ∀ new ∈ (nearestOccurrencePairs olds remaining).map Prod.snd, new ∈ remaining := by
  induction olds generalizing remaining with
  | nil => simp [nearestOccurrencePairs]
  | cons old olds ih =>
    unfold nearestOccurrencePairs
    split
    · simp
    · rename_i new h
      obtain ⟨hrest, hsub⟩ := ih (hnodup.erase new)
      rw [List.map_cons, List.nodup_cons, List.forall_mem_cons]
      refine ⟨⟨fun hmem => ?_, hrest⟩, nearest_mem h, fun i hi => List.mem_of_mem_erase (hsub i hi)⟩
      exact (hnodup.mem_erase_iff.1 (hsub new hmem)).1 rfl

theorem length_nearestOccurrencePairs :
    (nearestOccurrencePairs olds remaining).length = min remaining.length olds.length := by
  rw [← List.length_map (f := Prod.fst), fst_nearestOccurrencePairs, List.length_take]

/-! ### Positions -/

theorem mem_positions {i : ℕ} :
    i ∈ positions content lines ↔ (lines[i]?).map canonicalLine = some content := by
  unfold positions
  rw [List.mem_filter, List.mem_range, beq_iff_eq, and_iff_right_iff_imp]
  intro h
  by_contra hi
  rw [List.getElem?_eq_none (Nat.not_lt.1 hi)] at h
  cases h

theorem nodup_positions : (positions content lines).Nodup :=
  List.nodup_range.filter _

theorem lt_of_mem_positions {i : ℕ} (h : i ∈ positions content lines) : i < lines.length :=
  List.mem_range.1 (List.mem_of_mem_filter h)

/-- There are as many positions as lines of the content. -/
theorem length_positions :
    (positions content lines).length = (lines.map canonicalLine).count content := by
  induction lines with
  | nil => rfl
  | cons line lines ih =>
    have hshift : (List.map Nat.succ (List.range lines.length)).filter (fun i =>
        ((line :: lines)[i]?).map canonicalLine == some content) =
        (positions content lines).map Nat.succ := by
      rw [List.filter_map]
      rfl
    rw [List.map_cons, List.count_cons, ← ih, positions, List.length_cons,
      List.range_succ_eq_map, List.filter_cons, hshift]
    by_cases h : canonicalLine line = content
    · simp [h]
    · simp [h]

/-! ### All pairs -/

theorem nodup_snd_occurrencePairs : ((occurrencePairs previous newLines).map Prod.snd).Nodup := by
  rw [occurrencePairs, List.map_flatMap, List.nodup_flatMap]
  refine ⟨fun content _ => (snd_nearestOccurrencePairs _ nodup_positions).1, ?_⟩
  refine (List.nodup_dedup _).imp fun {c d} hne => ?_
  intro i hc hd
  have h₁ := mem_positions.1 ((snd_nearestOccurrencePairs _ nodup_positions).2 i hc)
  have h₂ := mem_positions.1 ((snd_nearestOccurrencePairs _ nodup_positions).2 i hd)
  exact hne (Option.some.inj (h₁.symm.trans h₂))

theorem nodup_fst_occurrencePairs : ((occurrencePairs previous newLines).map Prod.fst).Nodup := by
  have hmem : ∀ {c i}, i ∈ (nearestOccurrencePairs (positions c previous.lines)
      (positions c newLines)).map Prod.fst → i ∈ positions c previous.lines := by
    intro c i hi
    rw [fst_nearestOccurrencePairs] at hi
    exact List.mem_of_mem_take hi
  rw [occurrencePairs, List.map_flatMap, List.nodup_flatMap]
  refine ⟨fun content _ => ?_, (List.nodup_dedup _).imp fun {c d} hne => ?_⟩
  · rw [fst_nearestOccurrencePairs]
    exact nodup_positions.sublist (List.take_sublist ..)
  · intro i hc hd
    have h₁ := mem_positions.1 (hmem hc)
    have h₂ := mem_positions.1 (hmem hd)
    exact hne (Option.some.inj (h₁.symm.trans h₂))

theorem mem_occurrencePairs {pair : ℕ × ℕ} : pair ∈ occurrencePairs previous newLines ↔
    ∃ content ∈ newLines.map canonicalLine, pair ∈ nearestOccurrencePairs
      (positions content previous.lines) (positions content newLines) := by
  simp only [occurrencePairs, List.mem_flatMap, List.mem_dedup]

/-- A pair is a position in either list, of lines with the same content. -/
theorem mem_of_mem_occurrencePairs {old new : ℕ}
    (h : (old, new) ∈ occurrencePairs previous newLines) :
    ∃ content, old ∈ positions content previous.lines ∧ new ∈ positions content newLines := by
  obtain ⟨content, -, hpair⟩ := mem_occurrencePairs.1 h
  have hold := List.mem_map_of_mem (f := Prod.fst) hpair
  rw [fst_nearestOccurrencePairs] at hold
  exact ⟨content, List.mem_of_mem_take hold, (snd_nearestOccurrencePairs _ nodup_positions).2 new
    (List.mem_map_of_mem (f := Prod.snd) hpair)⟩

/-- The new lines beyond the old ones of their content. -/
def unmatched (previous : AnchorSnapshot) (newLines : List Line) : ℕ :=
  ((newLines.map canonicalLine).dedup.map fun content =>
    (positions content newLines).length - (positions content previous.lines).length).sum

/-- **Every new line is matched or not.** -/
theorem length_occurrencePairs_add_unmatched (previous : AnchorSnapshot) (newLines : List Line) :
    (occurrencePairs previous newLines).length + unmatched previous newLines =
      newLines.length := by
  rw [occurrencePairs, List.length_flatMap, unmatched, ← List.sum_map_add]
  have hcount : ∀ content, (nearestOccurrencePairs (positions content previous.lines)
      (positions content newLines)).length + ((positions content newLines).length -
        (positions content previous.lines).length) =
      (newLines.map canonicalLine).count content := by
    intro content
    rw [length_nearestOccurrencePairs, ← length_positions]
    omega
  simp only [hcount]
  have htotal := List.sum_map_count_dedup_eq_length (newLines.map canonicalLine)
  rw [List.length_map] at htotal
  rwa [lawful_beq_subsingleton instBEqOfDecidableEq List.instBEq] at htotal

/-! ### Writing at positions -/

section
variable {β : Type} {value : ℕ → Option β} {pairs : List (ℕ × ℕ)} {init : List (Option β)}

theorem length_foldl_set :
    (pairs.foldl (fun l pair => l.set pair.2 (value pair.1)) init).length = init.length := by
  induction pairs generalizing init with
  | nil => rfl
  | cons pair pairs ih => rw [List.foldl_cons, ih, List.length_set]

/-- What no pair writes stays. -/
theorem getElem?_foldl_set_of_notMem {j : ℕ} (h : j ∉ pairs.map Prod.snd) :
    (pairs.foldl (fun l pair => l.set pair.2 (value pair.1)) init)[j]? = init[j]? := by
  induction pairs generalizing init with
  | nil => rfl
  | cons pair pairs ih =>
    rw [List.map_cons, List.mem_cons, not_or] at h
    rw [List.foldl_cons, ih h.2, List.getElem?_set_ne (Ne.symm h.1)]

/-- What one pair writes is there at the end. -/
theorem getElem?_foldl_set_of_mem {i j : ℕ} (hnodup : (pairs.map Prod.snd).Nodup)
    (hmem : (i, j) ∈ pairs) (hj : j < init.length) :
    (pairs.foldl (fun l pair => l.set pair.2 (value pair.1)) init)[j]? = some (value i) := by
  induction pairs generalizing init with
  | nil => simp at hmem
  | cons pair pairs ih =>
    rw [List.map_cons, List.nodup_cons] at hnodup
    rw [List.foldl_cons]
    rcases List.mem_cons.1 hmem with rfl | hmem
    · rw [getElem?_foldl_set_of_notMem hnodup.1, List.getElem?_set_self hj]
    · exact ih hnodup.2 hmem (by rwa [List.length_set])

/-- **Each pair fills one place.** -/
theorem countP_foldl_set (hnodup : (pairs.map Prod.snd).Nodup)
    (hfree : ∀ pair ∈ pairs, init[pair.2]? = some none)
    (hvalue : ∀ pair ∈ pairs, (value pair.1).isSome = true) :
    (pairs.foldl (fun l pair => l.set pair.2 (value pair.1)) init).countP Option.isNone +
      pairs.length = init.countP Option.isNone := by
  induction pairs generalizing init with
  | nil => rfl
  | cons pair pairs ih =>
    rw [List.map_cons, List.nodup_cons] at hnodup
    obtain ⟨hlt, hnone⟩ := List.getElem?_eq_some_iff.1 (hfree pair List.mem_cons_self)
    have hfree' : ∀ p ∈ pairs, (init.set pair.2 (value pair.1))[p.2]? = some none := by
      intro p hp
      have hne : pair.2 ≠ p.2 := fun h => hnodup.1 (h ▸ List.mem_map_of_mem hp)
      rw [List.getElem?_set_ne hne]
      exact hfree p (List.mem_cons_of_mem _ hp)
    have hset : (init.set pair.2 (value pair.1)).countP Option.isNone + 1 =
        init.countP Option.isNone := by
      obtain ⟨v, hv⟩ := Option.isSome_iff_exists.1 (hvalue pair List.mem_cons_self)
      have hpos : 0 < init.countP Option.isNone :=
        List.countP_pos_iff.2 ⟨none, hnone ▸ List.getElem_mem hlt, rfl⟩
      rw [List.countP_set hlt, hnone, hv]
      simp only [Option.isNone_none, Option.isNone_some, if_true]
      simp
      omega
    have := ih hnodup.2 hfree' fun p hp => hvalue p (List.mem_cons_of_mem _ hp)
    rw [List.foldl_cons, List.length_cons]
    omega

end

/-- When a new line is not matched, all old ones of its content are. -/
theorem mem_fst_of_not_mem_snd {old new : ℕ} (hnew : new ∈ positions content newLines)
    (hfree : new ∉ (occurrencePairs previous newLines).map Prod.snd)
    (hold : old ∈ positions content previous.lines) :
    old ∈ (occurrencePairs previous newLines).map Prod.fst := by
  have hcontent : content ∈ newLines.map canonicalLine := by
    rw [← List.count_pos_iff, ← length_positions]
    exact List.length_pos_of_mem hnew
  have hsub : ∀ pair ∈ nearestOccurrencePairs (positions content previous.lines)
      (positions content newLines), pair ∈ occurrencePairs previous newLines :=
    fun pair hpair => mem_occurrencePairs.2 ⟨content, hcontent, hpair⟩
  obtain ⟨hnodup, hmem⟩ := snd_nearestOccurrencePairs (positions content previous.lines)
    (nodup_positions : (positions content newLines).Nodup)
  -- the new line is missing among the matched ones, so these are fewer than all
  have hsubset : (nearestOccurrencePairs (positions content previous.lines)
      (positions content newLines)).map Prod.snd ⊆ (positions content newLines).erase new := by
    intro i hi
    refine (List.mem_erase_of_ne ?_).2 (hmem i hi)
    rintro rfl
    obtain ⟨pair, hpair, rfl⟩ := List.mem_map.1 hi
    exact hfree (List.mem_map_of_mem (hsub pair hpair))
  have hlt := (hnodup.subperm hsubset).length_le
  have hpos := List.length_pos_of_mem hnew
  rw [List.length_erase_of_mem hnew, List.length_map, length_nearestOccurrencePairs] at hlt
  have hall : old ∈ (nearestOccurrencePairs (positions content previous.lines)
      (positions content newLines)).map Prod.fst := by
    rw [fst_nearestOccurrencePairs, List.take_of_length_le (by omega)]
    exact hold
  obtain ⟨pair, hpair, rfl⟩ := List.mem_map.1 hall
  exact List.mem_map_of_mem (hsub pair hpair)

/-! ### The matched anchors -/

/-- The anchors of the lines that were matched. -/
def matched (previous : AnchorSnapshot) (newLines : List Line) : List (Option Anchor) :=
  (occurrencePairs previous newLines).foldl
    (fun hashes pair => hashes.set pair.2 previous.hashes[pair.1]?) (newLines.map fun _ => none)

theorem length_matched (previous : AnchorSnapshot) (newLines : List Line) :
    (matched previous newLines).length = newLines.length := by
  rw [matched, length_foldl_set, List.length_map]

/-- **An anchor that is kept is the old one** of a matched line. -/
theorem matched_eq_some {a : Anchor} {new : ℕ} (h : (matched previous newLines)[new]? = some (some a)) :
    ∃ old, (old, new) ∈ occurrencePairs previous newLines ∧ previous.hashes[old]? = some a := by
  have hlt : new < newLines.length := by
    rw [← length_matched previous]
    exact (List.getElem?_eq_some_iff.1 h).1
  by_cases hmem : new ∈ (occurrencePairs previous newLines).map Prod.snd
  · obtain ⟨⟨old, new⟩, hpair, rfl⟩ := List.mem_map.1 hmem
    rw [matched, getElem?_foldl_set_of_mem nodup_snd_occurrencePairs hpair (by simpa using hlt)] at h
    exact ⟨old, hpair, Option.some.inj h⟩
  · rw [matched, getElem?_foldl_set_of_notMem hmem, List.getElem?_map,
      List.getElem?_eq_getElem hlt] at h
    cases h

theorem mem_of_mem_matched {a : Anchor} (h : some a ∈ matched previous newLines) :
    a ∈ previous.hashes := by
  obtain ⟨i, hi⟩ := List.mem_iff_getElem?.1 h
  obtain ⟨old, -, hold⟩ := matched_eq_some hi
  exact List.mem_of_getElem? hold

theorem nodup_reduceOption {β : Type} {l : List (Option β)}
    (h : ∀ (i j : ℕ) a, l[i]? = some (some a) → l[j]? = some (some a) → i = j) :
    l.reduceOption.Nodup := by
  induction l with
  | nil => exact List.nodup_nil
  | cons x l ih =>
    have hrest : l.reduceOption.Nodup := ih fun i j a hi hj => by
      simpa using h (i + 1) (j + 1) a (by simpa using hi) (by simpa using hj)
    cases x with
    | none => rwa [List.reduceOption_cons_of_none]
    | some a =>
      rw [List.reduceOption_cons_of_some, List.nodup_cons]
      refine ⟨fun hmem => ?_, hrest⟩
      obtain ⟨i, hi⟩ := List.mem_iff_getElem?.1 (List.reduceOption_mem_iff.1 hmem)
      simpa using h 0 (i + 1) a rfl (by simpa using hi)

/-- **The anchors that are kept are different, and their slots occupied.** -/
theorem given_matched (hvalid : ∀ a ∈ previous.hashes, isAnchor a = true)
    (hnodup : previous.hashes.Nodup) :
    Given (occupiedBy previous.hashes) (matched previous newLines) := by
  constructor
  · refine nodup_reduceOption fun i j a hi hj => ?_
    obtain ⟨old, hold, ha⟩ := matched_eq_some hi
    obtain ⟨old', hold', ha'⟩ := matched_eq_some hj
    obtain ⟨hlt, -⟩ := List.getElem?_eq_some_iff.1 ha
    obtain rfl : old = old' := (List.getElem?_inj hlt hnodup).1 (ha.trans ha'.symm)
    have hpairs := List.inj_on_of_nodup_map nodup_fst_occurrencePairs hold hold' rfl
    exact congrArg Prod.snd hpairs
  · intro a ha
    have hmem := mem_of_mem_matched ha
    obtain ⟨slot, -, hslot, -⟩ := exists_hashSlot (hvalid a hmem)
    exact ⟨slot, hslot, occupiedBy_eq_true_iff.2 ⟨a, hmem, hslot⟩⟩

/-- **As many lines have no anchor as are not matched.** -/
theorem countP_matched (hlength : previous.lines.length = previous.hashes.length) :
    (matched previous newLines).countP Option.isNone = unmatched previous newLines := by
  have hcount : (matched previous newLines).countP Option.isNone +
      (occurrencePairs previous newLines).length =
      (newLines.map fun _ => (none : Option Anchor)).countP Option.isNone := by
    refine countP_foldl_set nodup_snd_occurrencePairs (fun pair hpair => ?_) fun pair hpair => ?_
    · obtain ⟨content, -, hnew⟩ := mem_of_mem_occurrencePairs hpair
      rw [List.getElem?_map, List.getElem?_eq_getElem (lt_of_mem_positions hnew)]
      rfl
    · obtain ⟨content, hold, -⟩ := mem_of_mem_occurrencePairs hpair
      have := lt_of_mem_positions hold
      rw [List.getElem?_eq_getElem (by omega)]
      rfl
  have htotal := length_occurrencePairs_add_unmatched previous newLines
  have hall : (newLines.map fun _ => (none : Option Anchor)).countP Option.isNone =
      newLines.length := by
    rw [List.countP_map]
    simp
  omega

/-! ### Removed lines -/

theorem reuseRemoved_eq_self {removed : List (Line × Anchor)} {hashes : List (Option Anchor)}
    (hlength : lines.length = hashes.length)
    (h : ∀ (j : ℕ) line, hashes[j]? = some none → lines[j]? = some line →
      ∀ entry ∈ removed, entry.1 ≠ canonicalLine line) :
    reuseRemoved removed lines hashes = hashes := by
  induction hashes generalizing lines with
  | nil =>
    obtain rfl := List.eq_nil_of_length_eq_zero hlength
    rfl
  | cons hash hashes ih =>
    obtain ⟨line, lines, rfl⟩ := List.exists_cons_of_length_eq_add_one hlength
    have hrest : reuseRemoved removed lines hashes = hashes :=
      ih (by simpa using hlength) fun j l hj hl => h (j + 1) l (by simpa using hj) (by simpa using hl)
    cases hash with
    | some hash => rw [reuseRemoved, hrest]
    | none =>
      have hfind : removed.find? (·.1 == canonicalLine line) = none := by
        refine List.find?_eq_none.2 fun entry hentry => ?_
        simpa using h 0 line rfl rfl entry hentry
      rw [reuseRemoved, hfind, hrest]

theorem getElem?_foldl_set_true {pairs : List (ℕ × ℕ)} {init : List Bool} {i : ℕ}
    (h : i ∈ pairs.map Prod.fst ∨ init[i]? = some true) (hi : i < init.length) :
    (pairs.foldl (fun l pair => l.set pair.1 true) init)[i]? = some true := by
  induction pairs generalizing init with
  | nil => simpa using h
  | cons pair pairs ih =>
    rw [List.foldl_cons]
    refine ih ?_ (by rwa [List.length_set])
    by_cases hpair : pair.1 = i
    · right
      rw [hpair, List.getElem?_set_self hi]
    · rw [List.getElem?_set_ne hpair]
      refine h.imp_left fun hmem => ?_
      exact (List.mem_cons.1 hmem).resolve_left (Ne.symm hpair)

/-- The old lines that were matched. -/
def preserved (previous : AnchorSnapshot) (newLines : List Line) : List Bool :=
  (occurrencePairs previous newLines).foldl (fun preserved pair => preserved.set pair.1 true)
    (previous.lines.map fun _ => false)

/-- The contents and the anchors of the old lines that were not matched. -/
def removedLines (previous : AnchorSnapshot) (newLines : List Line) : List (Line × Anchor) :=
  ((previous.lines.zip previous.hashes).zip (preserved previous newLines)).filterMap fun entry =>
    if entry.2 then none else some (canonicalLine entry.1.1, entry.1.2)

/-- **No removed line has the content of a new one that was not matched,** so that
no anchor is taken from removed lines. -/
theorem ne_of_mem_removedLines (hlength : previous.lines.length = previous.hashes.length)
    {new : ℕ} {line : Line}
    (hnone : (matched previous newLines)[new]? = some none) (hline : newLines[new]? = some line) :
    ∀ entry ∈ removedLines previous newLines, entry.1 ≠ canonicalLine line := by
  intro entry hentry heq
  obtain ⟨⟨⟨oldLine, hash⟩, kept⟩, hzip, hsome⟩ := List.mem_filterMap.1 hentry
  obtain ⟨old, hold⟩ := List.mem_iff_getElem?.1 hzip
  obtain ⟨hboth, hkept⟩ := List.getElem?_zip_eq_some.1 hold
  obtain ⟨hlineOld, -⟩ := List.getElem?_zip_eq_some.1 hboth
  dsimp only at hsome
  split_ifs at hsome with hfalse
  obtain rfl := Option.some.inj hsome
  have hnew : new ∈ positions (canonicalLine line) newLines :=
    mem_positions.2 (by rw [hline, Option.map_some])
  have hpos : old ∈ positions (canonicalLine line) previous.lines :=
    mem_positions.2 (by rw [hlineOld, Option.map_some, ← heq])
  have hfree : new ∉ (occurrencePairs previous newLines).map Prod.snd := by
    intro hmem
    obtain ⟨⟨i, j⟩, hpair, rfl⟩ := List.mem_map.1 hmem
    have hlt : j < newLines.length := (List.getElem?_eq_some_iff.1 hline).1
    rw [matched, getElem?_foldl_set_of_mem nodup_snd_occurrencePairs hpair (by simpa using hlt)]
      at hnone
    obtain ⟨content, hmem, -⟩ := mem_of_mem_occurrencePairs hpair
    have := lt_of_mem_positions hmem
    rw [List.getElem?_eq_getElem (by omega)] at hnone
    cases hnone
  have htrue : (preserved previous newLines)[old]? = some true :=
    getElem?_foldl_set_true (.inl (mem_fst_of_not_mem_snd hnew hfree hpos))
      (by simpa using lt_of_mem_positions hpos)
  rw [htrue] at hkept
  exact hfalse (Option.some.inj hkept).symm

/-- **`stable_hashes`** keeps the matched anchors and allocates the others. -/
theorem stableHashes_eq (hlength : previous.lines.length = previous.hashes.length) :
    stableHashes H previous newLines =
      fillHashes H (occupiedBy previous.hashes) newLines (matched previous newLines) := by
  have hreuse : reuseRemoved (removedLines previous newLines) newLines
      (matched previous newLines) = matched previous newLines :=
    reuseRemoved_eq_self (length_matched previous newLines).symm fun j line hnone hline =>
      ne_of_mem_removedLines hlength hnone hline
  rw [← hreuse]
  rfl

/-! ### The anchors of a text -/

/-- **The anchors of the text are found:** one for each line, well formed and
different, so that the snapshot with them can be saved. -/
def AnchorsFound (H : Hashing) (stored : Option AnchorSnapshot) (checksum : List Char)
    (lines : List Line) : Prop :=
  ∃ hashes, hashesFromSnapshot H stored checksum lines = some hashes ∧
    hashes.length = lines.length ∧ (∀ a ∈ hashes, isAnchor a = true) ∧ hashes.Nodup ∧
    validateSnapshot (snapshot checksum lines hashes) false = .ok ()

/-- The lines are matched with those of the stored snapshot. -/
def Rematched (row : AnchorSnapshot) (checksum : List Char) (lines : List Line) : Prop :=
  ¬(row.checksum = checksum ∧ row.lineCount = lines.length) ∧ row.lines.length = row.lineCount

theorem AnchorsFound.intro {stored : Option AnchorSnapshot} {checksum : List Char}
    {hashes : List Anchor} (h : hashesFromSnapshot H stored checksum lines = some hashes)
    (hlength : hashes.length = lines.length) (hvalid : ∀ a ∈ hashes, isAnchor a = true)
    (hnodup : hashes.Nodup) : AnchorsFound H stored checksum lines :=
  ⟨hashes, h, hlength, hvalid, hnodup, validateSnapshot_eq_ok_iff.2
    ⟨hlength.symm, .inl (List.length_map _), hvalid, hnodup⟩⟩

/-- What a filling returns is as many different valid anchors. -/
theorem anchors_of_fillHashes {occupied : ℕ → Bool} {hashes : List (Option Anchor)}
    {result : List Anchor} (hlength : lines.length = hashes.length)
    (hgiven : Given occupied hashes) (hvalid : ∀ a, some a ∈ hashes → isAnchor a = true)
    (h : fillHashes H occupied lines hashes = some result) :
    result.length = lines.length ∧ (∀ a ∈ result, isAnchor a = true) ∧ result.Nodup := by
  have hfilled := filled_of_fillHashes hlength h
  refine ⟨hfilled.length.trans hlength.symm, fun a ha => ?_, nodup_of_fillHashes hlength hgiven h⟩
  rcases hfilled.mem a ha with hold | ⟨slot, hfree, rfl⟩
  · exact hvalid a hold
  · exact isAnchor_slotHash (Probe.mem_free.1 hfree).1

/-- Without old anchors there is room for every text of the size. -/
theorem allocateHashes_nil (hlines : lines.length ≤ hashSpace) :
    ∃ hashes, allocateHashes H lines [] = some hashes ∧ hashes.length = lines.length ∧
      (∀ a ∈ hashes, isAnchor a = true) ∧ hashes.Nodup := by
  have hlength : lines.length = (lines.map fun _ => (none : Option Anchor)).length :=
    (List.length_map _).symm
  have hnone : ∀ a, some a ∉ lines.map fun _ => (none : Option Anchor) := by simp
  have hgiven : Given (occupiedBy []) (lines.map fun _ => (none : Option Anchor)) := by
    refine ⟨nodup_reduceOption fun i j a hi _ => ?_, fun a ha => absurd ha (hnone a)⟩
    exact absurd (List.mem_of_getElem? hi) (hnone a)
  have hcard := card_free_occupiedBy (List.forall_mem_nil _) List.nodup_nil
  have hsome : (allocateHashes H lines []).isSome = true := by
    rw [allocateHashes, fillHashes_isSome_iff hlength]
    rw [List.length_nil, Nat.add_zero] at hcard
    rw [hcard]
    exact List.countP_le_length.trans (by rwa [List.length_map])
  obtain ⟨hashes, hhashes⟩ := Option.isSome_iff_exists.1 hsome
  exact ⟨hashes, hhashes, anchors_of_fillHashes hlength hgiven (fun a ha => absurd ha (hnone a))
    hhashes⟩

/-- Where the lines are matched, the anchors are found if and only if there is room for those
of the unmatched lines. -/
theorem anchorsFound_matched_iff {row : AnchorSnapshot} {checksum : List Char}
    (hvalid : ∀ a ∈ row.hashes, isAnchor a = true) (hnodup : row.hashes.Nodup)
    (hcount : row.lineCount = row.hashes.length) (hmatched : Rematched row checksum lines) :
    AnchorsFound H (some row) checksum lines ↔
      row.hashes.length + unmatched row lines ≤ hashSpace := by
  obtain ⟨hsame, hids⟩ := hmatched
  have hlength := hids.trans hcount
  have hstable : hashesFromSnapshot H (some row) checksum lines =
      fillHashes H (occupiedBy row.hashes) lines (matched row lines) := by
    simp only [hashesFromSnapshot, if_neg hsame, if_pos (And.intro hids hcount.symm)]
    exact stableHashes_eq hlength
  have hlen := (length_matched row lines).symm
  have hcard := card_free_occupiedBy hvalid hnodup
  have hsome : (fillHashes H (occupiedBy row.hashes) lines (matched row lines)).isSome = true ↔
      unmatched row lines ≤ (Probe.free hashSpace (occupiedBy row.hashes)).card := by
    rw [fillHashes_isSome_iff hlen, countP_matched hlength]
  constructor
  · rintro ⟨hashes, hfound, -⟩
    rw [hstable] at hfound
    have := hsome.1 (by rw [hfound]; rfl)
    omega
  · intro hroom
    obtain ⟨hashes, hhashes⟩ := Option.isSome_iff_exists.1 (hsome.2 (by omega))
    obtain ⟨hlen', hvalid', hnodup'⟩ := anchors_of_fillHashes hlen
      (given_matched hvalid hnodup) (fun a ha => hvalid a (mem_of_mem_matched ha)) hhashes
    exact .intro (hstable.trans hhashes) hlen' hvalid' hnodup'

/-- **Anchors are found for every stored snapshot and every text of the size iff**
the anchors of the snapshot and the unmatched lines, where the lines are matched,
fit into the space together. -/
theorem anchorsFound_iff {stored : Option AnchorSnapshot} {checksum : List Char}
    (hstored : ∀ row ∈ stored, validateSnapshot row true = .ok ())
    (hlines : lines.length ≤ hashSpace) :
    AnchorsFound H stored checksum lines ↔ ∀ row ∈ stored, Rematched row checksum lines →
      row.hashes.length + unmatched row lines ≤ hashSpace := by
  cases stored with
  | none =>
    refine iff_of_true ?_ (by simp)
    obtain ⟨hashes, h, hlength, hvalid, hnodup⟩ := allocateHashes_nil (H := H) hlines
    exact .intro h hlength hvalid hnodup
  | some row =>
    obtain ⟨hcount, -, hvalid, hnodup⟩ := validateSnapshot_eq_ok_iff.1 (hstored row rfl)
    by_cases hsame : row.checksum = checksum ∧ row.lineCount = lines.length
    · refine iff_of_true ?_ fun r hr h => ?_
      · refine .intro ?_ (hcount.symm.trans hsame.2) hvalid hnodup
        simp only [hashesFromSnapshot, if_pos hsame]
      · obtain rfl := Option.some.inj hr
        exact absurd hsame h.1
    · by_cases hids : row.lines.length = row.lineCount
      · rw [anchorsFound_matched_iff hvalid hnodup hcount ⟨hsame, hids⟩]
        constructor
        · rintro hroom r hr -
          obtain rfl := Option.some.inj hr
          exact hroom
        · exact fun h => h row rfl ⟨hsame, hids⟩
      · refine iff_of_true ?_ fun r hr h => ?_
        · obtain ⟨hashes, h, hlength, hvalid, hnodup⟩ := allocateHashes_nil (H := H) hlines
          refine .intro ?_ hlength hvalid hnodup
          simp only [hashesFromSnapshot, if_neg hsame, if_neg fun h : _ ∧ _ => hids h.1, h]
        · obtain rfl := Option.some.inj hr
          exact absurd h.2 hids

/-- The snapshot of the line `a`. -/
def sampleRow : AnchorSnapshot where
  checksum := "fbbde8981eccc855".toList
  lineCount := 1
  hashes := ["Wot".toList]
  lines := [['a']]

theorem anchorsFound_iff_sample :
    AnchorsFound knownHashes (some sampleRow) "afc37974405adf22".toList [['b']] ↔
      ∀ row ∈ some sampleRow, Rematched row "afc37974405adf22".toList [['b']] →
        row.hashes.length + unmatched row [['b']] ≤ hashSpace :=
  anchorsFound_iff (by decide) (by decide)

/-- The snapshot of a text of so many lines `a`, with the first anchors. -/
def uniformRow (n : ℕ) : AnchorSnapshot where
  checksum := List.replicate 16 '0'
  lineCount := n
  hashes := (List.range n).map slotHash
  lines := List.replicate n ['a']

theorem validateSnapshot_uniformRow {n : ℕ} (hn : n ≤ hashSpace) :
    validateSnapshot (uniformRow n) true = .ok () := by
  refine validateSnapshot_eq_ok_iff.2 ⟨?_, .inl ?_, ?_, ?_⟩
  · simp [uniformRow]
  · simp [uniformRow]
  · intro a ha
    obtain ⟨slot, hslot, rfl⟩ := List.mem_map.1 ha
    exact isAnchor_slotHash ((List.mem_range.1 hslot).trans_le hn)
  · refine (List.nodup_map_iff_inj_on List.nodup_range).2 fun i hi j hj hij => ?_
    have hsame : some i = some j := by
      rw [← hashSlot_slotHash ((List.mem_range.1 hi).trans_le hn), hij,
        hashSlot_slotHash ((List.mem_range.1 hj).trans_le hn)]
    exact Option.some.inj hsame

theorem unmatched_uniformRow (n : ℕ) : unmatched (uniformRow n) [['b']] = 1 := by
  have hold : (positions ['b'] (uniformRow n).lines).length = 0 := by
    rw [length_positions, List.count_eq_zero]
    simp only [uniformRow, List.map_replicate, List.mem_replicate]
    rintro ⟨-, h⟩
    exact absurd h (by decide)
  have hcanonical : canonicalLine ['b'] = ['b'] := by decide
  simp only [unmatched, List.map_cons, List.map_nil, hcanonical]
  rw [List.dedup_cons_of_notMem List.not_mem_nil, List.dedup_nil, List.map_cons, List.map_nil,
    hold]
  decide

/-- A snapshot that takes up all of the space leaves no anchor for a new line. -/
theorem hashesFromSnapshot_uniformRow {n : ℕ} (hn : n = hashSpace) :
    hashesFromSnapshot H (some (uniformRow n)) "afc37974405adf22".toList [['b']] = none := by
  obtain ⟨hcount, -, hanchors, hnodup⟩ :=
    validateSnapshot_eq_ok_iff.1 (validateSnapshot_uniformRow hn.le)
  have hids : (uniformRow n).lines.length = (uniformRow n).lineCount := by simp [uniformRow]
  have hsame : ¬((uniformRow n).checksum = "afc37974405adf22".toList ∧
      (uniformRow n).lineCount = [['b']].length) := by
    rintro ⟨h, -⟩
    change List.replicate 16 '0' = "afc37974405adf22".toList at h
    exact absurd h (by decide)
  have hfree : (Probe.free hashSpace (occupiedBy (uniformRow n).hashes)).card = 0 :=
    Nat.add_eq_right.1 ((card_free_occupiedBy hanchors hnodup).trans (hn.symm.trans hcount))
  simp only [hashesFromSnapshot, if_neg hsame, if_pos (And.intro hids hcount.symm)]
  rw [stableHashes_eq (hids.trans hcount), ← Option.not_isSome_iff_eq_none,
    fillHashes_isSome_iff (length_matched _ _).symm, countP_matched (hids.trans hcount),
    unmatched_uniformRow, hfree]
  decide

/-- A file of 238,328 equal lines was read, and is now one other line: the store
accepts the snapshot, and the allocation reaches its `unreachable!`. -/
theorem allocation_unreachable_reached :
    validateSnapshot (uniformRow hashSpace) true = .ok () ∧ [['b']].length ≤ hashSpace ∧
      hashesFromSnapshot knownHashes (some (uniformRow hashSpace)) "afc37974405adf22".toList
        [['b']] = none ∧
      ¬AnchorsFound knownHashes (some (uniformRow hashSpace)) "afc37974405adf22".toList
        [['b']] := by
  have hnone := hashesFromSnapshot_uniformRow (H := knownHashes) (n := hashSpace) rfl
  refine ⟨validateSnapshot_uniformRow le_rfl, by decide, hnone, ?_⟩
  rintro ⟨hashes, hfound, -⟩
  rw [hnone] at hfound
  cases hfound

end Tools
end Moh
