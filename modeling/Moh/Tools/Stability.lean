/-
# Anchors are stable

`tools/read.rs`: `stable_hashes` and the fast path of `hashes_from_snapshot`.  An
anchor never moves to another content: as many lines of a content keep an anchor as
both texts have, and all others get anchors the snapshot does not have
(`anchorsStable_stableHashes`).  On lines that have not changed, the matching is the
identity, however often they repeat (`stableHashes_unchanged`).
-/

import Moh.Tools.Matching

namespace Moh
namespace Tools

variable {H : Hashing} {previous : AnchorSnapshot} {newLines : List Line} {hashes : List Anchor}

/-! ### What stable means -/

/-- The new line has the anchor of an old line of its content. -/
def keepsAnchor (previous : AnchorSnapshot) (newLines : List Line) (hashes : List Anchor)
    (new : ℕ) : Bool :=
  (previous.lines.zip previous.hashes).any fun entry =>
    hashes[new]? == some entry.2 &&
      (newLines[new]?).map canonicalLine == some (canonicalLine entry.1)

/-- **The anchors of a text follow those of its snapshot:** an old anchor labels a
line of the content it had, each content keeps as many as both texts have lines of
it, and every other anchor is a new one. -/
structure AnchorsStable (previous : AnchorSnapshot) (newLines : List Line)
    (hashes : List Anchor) : Prop where
  length : hashes.length = newLines.length
  labels : ∀ (old new : ℕ) a, previous.hashes[old]? = some a → hashes[new]? = some a →
    (previous.lines[old]?).map canonicalLine = (newLines[new]?).map canonicalLine
  kept : ∀ content, ((positions content newLines).filter
    (keepsAnchor previous newLines hashes)).length =
      min ((previous.lines.map canonicalLine).count content)
        ((newLines.map canonicalLine).count content)
  fresh : ∀ (new : ℕ) a, hashes[new]? = some a →
    keepsAnchor previous newLines hashes new = false → a ∉ previous.hashes

theorem keepsAnchor_iff {new : ℕ} : keepsAnchor previous newLines hashes new = true ↔
    ∃ (old : ℕ) (line : Line) (a : Anchor), previous.lines[old]? = some line ∧
      previous.hashes[old]? = some a ∧ hashes[new]? = some a ∧
      (newLines[new]?).map canonicalLine = some (canonicalLine line) := by
  simp only [keepsAnchor, List.any_eq_true, Bool.and_eq_true, beq_iff_eq]
  constructor
  · rintro ⟨⟨line, a⟩, hmem, hhash, hline⟩
    obtain ⟨old, hold⟩ := List.mem_iff_getElem?.1 hmem
    obtain ⟨holdLine, holdHash⟩ := List.getElem?_zip_eq_some.1 hold
    exact ⟨old, line, a, holdLine, holdHash, hhash, hline⟩
  · rintro ⟨old, line, a, holdLine, holdHash, hhash, hline⟩
    have hzip : (previous.lines.zip previous.hashes)[old]? = some (line, a) :=
      List.getElem?_zip_eq_some.2 ⟨holdLine, holdHash⟩
    exact ⟨(line, a), List.mem_of_getElem? hzip, hhash, hline⟩

/-! ### Old and new anchors in the result -/

/-- A snapshot that is not a legacy one has an anchor for each of its lines. -/
theorem length_lines_of_valid (hvalid : validateSnapshot previous false = .ok ()) :
    previous.lines.length = previous.hashes.length := by
  obtain ⟨hcount, hids, -⟩ := validateSnapshot_eq_ok_iff.1 hvalid
  rcases hids with hids | ⟨hfalse, -⟩
  · exact hids.trans hcount
  · cases hfalse

/-- A line that is matched has the anchor of the old line, and any other line that of
a slot no old anchor occupies. -/
structure Labelled (previous : AnchorSnapshot) (newLines : List Line) (hashes : List Anchor) :
    Prop where
  length : hashes.length = newLines.length
  matched : ∀ old new, (old, new) ∈ occurrencePairs previous newLines →
    hashes[new]? = previous.hashes[old]?
  unmatched : ∀ (new : ℕ) a, new ∉ (occurrencePairs previous newLines).map Prod.snd →
    hashes[new]? = some a → a ∉ previous.hashes

theorem labelled_stableHashes (hvalid : validateSnapshot previous false = .ok ())
    (h : stableHashes H previous newLines = some hashes) : Labelled previous newLines hashes := by
  obtain ⟨-, -, hanchors, -⟩ := validateSnapshot_eq_ok_iff.1 hvalid
  have hlength := length_lines_of_valid hvalid
  rw [stableHashes_eq hlength] at h
  have hlen := (length_matched previous newLines).symm
  refine ⟨(filled_of_fillHashes hlen h).length.trans hlen.symm, fun old new hpair => ?_,
    fun new a hfree ha hmem => ?_⟩
  · obtain ⟨content, hold, hnew⟩ := mem_of_mem_occurrencePairs hpair
    have holdlt : old < previous.hashes.length := hlength ▸ lt_of_mem_positions hold
    have hat : (matched previous newLines)[new]? = some previous.hashes[old]? :=
      getElem?_foldl_set_of_mem nodup_snd_occurrencePairs hpair
        (by simpa using lt_of_mem_positions hnew)
    rw [List.getElem?_eq_getElem holdlt] at hat ⊢
    exact (getElem?_of_fillHashes hlen h new).1 _ hat
  · have hlt : new < newLines.length := by
      rw [hlen, ← (filled_of_fillHashes hlen h).length]
      exact (List.getElem?_eq_some_iff.1 ha).1
    have hat : (matched previous newLines)[new]? = some none := by
      rw [matched, getElem?_foldl_set_of_notMem hfree, List.getElem?_map,
        List.getElem?_eq_getElem hlt, Option.map_some]
    obtain ⟨slot, hslot, hnew⟩ := (getElem?_of_fillHashes hlen h new).2 hat
    rw [ha] at hnew
    obtain ⟨taken, -, htaken, -⟩ := exists_hashSlot (hanchors a hmem)
    refine slotHash_ne_of_occupied hslot ⟨taken, htaken, ?_⟩ (Option.some.inj hnew).symm
    exact occupiedBy_eq_true_iff.2 ⟨a, hmem, htaken⟩

/-- The lines of a content that are matched are as many as the pairs of the content. -/
theorem length_filter_matched (content : Line) :
    ((positions content newLines).filter fun new =>
      decide (new ∈ (occurrencePairs previous newLines).map Prod.snd)).length =
      min ((previous.lines.map canonicalLine).count content)
        ((newLines.map canonicalLine).count content) := by
  obtain ⟨hnodup, hsub⟩ := snd_nearestOccurrencePairs (positions content previous.lines)
    (nodup_positions : (positions content newLines).Nodup)
  have hperm : ((positions content newLines).filter fun new =>
      decide (new ∈ (occurrencePairs previous newLines).map Prod.snd)).Perm
      ((nearestOccurrencePairs (positions content previous.lines)
        (positions content newLines)).map Prod.snd) := by
    refine (List.perm_ext_iff_of_nodup (nodup_positions.filter _) hnodup).2 fun new => ?_
    rw [List.mem_filter, decide_eq_true_eq]
    constructor
    · rintro ⟨hnew, hmem⟩
      obtain ⟨⟨old, new⟩, hpair, rfl⟩ := List.mem_map.1 hmem
      obtain ⟨other, -, hpair'⟩ := mem_occurrencePairs.1 hpair
      -- a position has one content, so that the pair is one of this content
      have hother := mem_positions.1 ((snd_nearestOccurrencePairs _ nodup_positions).2 new
        (List.mem_map_of_mem (f := Prod.snd) hpair'))
      obtain rfl : other = content :=
        Option.some.inj (hother.symm.trans (mem_positions.1 hnew))
      exact List.mem_map_of_mem (f := Prod.snd) hpair'
    · intro hmem
      have hnew := hsub new hmem
      obtain ⟨pair, hpair, rfl⟩ := List.mem_map.1 hmem
      have hcontent : content ∈ newLines.map canonicalLine := by
        rw [← List.count_pos_iff, ← length_positions]
        exact List.length_pos_of_mem hnew
      exact ⟨hnew, List.mem_map_of_mem (mem_occurrencePairs.2 ⟨content, hcontent, hpair⟩)⟩
  rw [hperm.length_eq, List.length_map, length_nearestOccurrencePairs, length_positions,
    length_positions, min_comm]

theorem Labelled.labels (h : Labelled previous newLines hashes) (hnodup : previous.hashes.Nodup)
    {old new : ℕ} {a : Anchor} (hold : previous.hashes[old]? = some a)
    (hnew : hashes[new]? = some a) :
    (previous.lines[old]?).map canonicalLine = (newLines[new]?).map canonicalLine := by
  by_cases hmem : new ∈ (occurrencePairs previous newLines).map Prod.snd
  · obtain ⟨⟨other, new⟩, hpair, rfl⟩ := List.mem_map.1 hmem
    have hother := (h.matched other new hpair).symm.trans hnew
    obtain ⟨hlt, -⟩ := List.getElem?_eq_some_iff.1 hold
    obtain rfl : old = other := (List.getElem?_inj hlt hnodup).1 (hold.trans hother.symm)
    obtain ⟨content, holdPos, hnewPos⟩ := mem_of_mem_occurrencePairs hpair
    rw [mem_positions.1 holdPos, mem_positions.1 hnewPos]
  · exact absurd (List.mem_of_getElem? hold) (h.unmatched new a hmem hnew)

/-- A line keeps an old anchor iff it is matched. -/
theorem Labelled.keepsAnchor_iff (h : Labelled previous newLines hashes)
    (hlength : previous.lines.length = previous.hashes.length) {new : ℕ} :
    keepsAnchor previous newLines hashes new = true ↔
      new ∈ (occurrencePairs previous newLines).map Prod.snd := by
  rw [Tools.keepsAnchor_iff]
  constructor
  · rintro ⟨old, line, a, -, holdHash, hhash, -⟩
    by_contra hfree
    exact h.unmatched new a hfree hhash (List.mem_of_getElem? holdHash)
  · intro hmem
    obtain ⟨⟨old, new⟩, hpair, rfl⟩ := List.mem_map.1 hmem
    obtain ⟨content, hold, hnew⟩ := mem_of_mem_occurrencePairs hpair
    have holdlt := lt_of_mem_positions hold
    have holdLine := List.getElem?_eq_getElem holdlt
    have holdHash := List.getElem?_eq_getElem (hlength ▸ holdlt)
    refine ⟨old, _, _, holdLine, holdHash, (h.matched old new hpair).trans holdHash, ?_⟩
    rw [mem_positions.1 hnew, ← mem_positions.1 hold, holdLine, Option.map_some]

/-- **Anchors are stable and never re-pointed.** -/
theorem anchorsStable_stableHashes (hvalid : validateSnapshot previous false = .ok ())
    (h : stableHashes H previous newLines = some hashes) :
    AnchorsStable previous newLines hashes := by
  obtain ⟨-, -, -, hnodup⟩ := validateSnapshot_eq_ok_iff.1 hvalid
  have hlength := length_lines_of_valid hvalid
  have hlabelled := labelled_stableHashes hvalid h
  refine ⟨hlabelled.length, fun old new a => hlabelled.labels hnodup, fun content => ?_,
    fun new a hnew hkeeps => hlabelled.unmatched new a (fun hmem => ?_) hnew⟩
  · rw [← length_filter_matched content]
    refine congrArg List.length (List.filter_congr fun new _ => ?_)
    rw [Bool.eq_iff_iff, hlabelled.keepsAnchor_iff hlength, decide_eq_true_eq]
  · rw [(hlabelled.keepsAnchor_iff hlength).2 hmem] at hkeeps
    cases hkeeps

/-- The line `a` of the snapshot is found behind a line `b` and before another `a`. -/
theorem anchorsStable_stableHashes_sample :
    AnchorsStable sampleRow [['b'], ['a'], ['a']]
      ["rKa".toList, "Wot".toList, "Xpu".toList] :=
  anchorsStable_stableHashes (H := knownHashes) (by decide) (by decide +kernel)

/-! ### Lines that have not changed -/

/-- **On equal positions the nearest one is the same one:** all smaller ones are taken. -/
theorem nearestOccurrencePairs_self {places : List ℕ} (h : places.Pairwise (· < ·)) :
    nearestOccurrencePairs places places = places.map fun i => (i, i) := by
  induction places with
  | nil => rfl
  | cons place places ih =>
    rw [List.pairwise_cons] at h
    have hleft : (place :: places).filter (· < place) = [] := by
      refine List.filter_eq_nil_iff.2 fun i hi => ?_
      rcases List.mem_cons.1 hi with rfl | hi
      · simp
      · have := h.1 i hi
        simp only [decide_eq_true_eq]
        omega
    have hnearest : nearest place (place :: places) = some place := by
      unfold nearest
      rw [hleft]
      simp
    rw [nearestOccurrencePairs, hnearest]
    simp only [List.erase_cons_head, List.map_cons]
    rw [ih h.2]

theorem pairwise_positions (content : Line) (lines : List Line) :
    (positions content lines).Pairwise (· < ·) :=
  List.pairwise_lt_range.filter _

/-- Positions do not depend on what is trimmed. -/
theorem positions_map_canonicalLine (content : Line) (lines : List Line) :
    positions content (lines.map canonicalLine) = positions content lines := by
  have hidem : canonicalLine ∘ canonicalLine = canonicalLine :=
    funext fun line => List.rdropWhile_idempotent _ line
  unfold positions
  rw [List.length_map]
  refine List.filter_congr fun i _ => ?_
  rw [List.getElem?_map, Option.map_map, hidem]

/-- **Lines that have not changed are matched with themselves.** -/
theorem mem_occurrencePairs_unchanged (hlines : newLines.map canonicalLine = previous.lines)
    {i : ℕ} (hi : i < newLines.length) : (i, i) ∈ occurrencePairs previous newLines := by
  have hcontent : canonicalLine newLines[i] ∈ newLines.map canonicalLine :=
    List.mem_map_of_mem (List.getElem_mem hi)
  refine mem_occurrencePairs.2 ⟨canonicalLine newLines[i], hcontent, ?_⟩
  rw [← hlines, positions_map_canonicalLine, nearestOccurrencePairs_self (pairwise_positions _ _)]
  refine List.mem_map.2 ⟨i, mem_positions.2 ?_, rfl⟩
  rw [List.getElem?_eq_getElem hi, Option.map_some]

/-- Where every line has an anchor, nothing is allocated. -/
theorem fillHashes_map_some {occupied : ℕ → Bool} (hlength : newLines.length = hashes.length) :
    fillHashes H occupied newLines (hashes.map some) = some hashes := by
  induction hashes generalizing newLines with
  | nil =>
    obtain rfl := List.eq_nil_of_length_eq_zero hlength
    rfl
  | cons hash hashes ih =>
    obtain ⟨line, lines, rfl⟩ := List.exists_cons_of_length_eq_add_one hlength
    rw [List.map_cons, fillHashes, ih (by simpa using hlength), Option.map_some]

/-- **The matching agrees with the fast path:** on lines that have not changed it
returns the anchors of the snapshot, in order, like `hashes_from_snapshot` where the
checksum has not changed either. -/
theorem stableHashes_unchanged (hvalid : validateSnapshot previous false = .ok ())
    (hlines : newLines.map canonicalLine = previous.lines) :
    stableHashes H previous newLines = some previous.hashes ∧
      hashesFromSnapshot H (some previous) previous.checksum newLines =
        stableHashes H previous newLines := by
  obtain ⟨hcount, -, -, -⟩ := validateSnapshot_eq_ok_iff.1 hvalid
  have hids := length_lines_of_valid hvalid
  have hlength : newLines.length = previous.hashes.length := by
    rw [← hids, ← hlines, List.length_map]
  have hmatched : matched previous newLines = previous.hashes.map some := by
    refine List.ext_getElem? fun i => ?_
    by_cases hi : i < newLines.length
    · rw [matched, getElem?_foldl_set_of_mem nodup_snd_occurrencePairs
        (mem_occurrencePairs_unchanged hlines hi) (by simpa using hi), List.getElem?_map,
        List.getElem?_eq_getElem (hlength ▸ hi), Option.map_some]
    · rw [List.getElem?_eq_none (by rw [length_matched]; omega),
        List.getElem?_eq_none (by rw [List.length_map]; omega)]
  have hstable : stableHashes H previous newLines = some previous.hashes := by
    rw [stableHashes_eq hids, hmatched, fillHashes_map_some hlength]
  refine ⟨hstable, ?_⟩
  rw [hstable, hashesFromSnapshot, if_pos ⟨rfl, hcount.trans hlength.symm⟩]

/-- The snapshot of a text with repeated and empty lines. -/
def repeatedRow : AnchorSnapshot where
  checksum := "0000000000000000".toList
  lineCount := 4
  hashes := ["AAA".toList, "AAB".toList, "AAC".toList, "AAD".toList]
  lines := [[], ['a'], [], ['a']]

theorem stableHashes_unchanged_sample :
    stableHashes knownHashes repeatedRow [[' '], ['a'], [], ['a', ' ']] =
        some repeatedRow.hashes ∧
      hashesFromSnapshot knownHashes (some repeatedRow) repeatedRow.checksum
        [[' '], ['a'], [], ['a', ' ']] =
        stableHashes knownHashes repeatedRow [[' '], ['a'], [], ['a', ' ']] :=
  stableHashes_unchanged (by decide) (by decide)

end Tools
end Moh
