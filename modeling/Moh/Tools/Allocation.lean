/-
# Allocating anchors

`tools/read.rs`: `allocate_one` and what calls it.  An anchor is a slot, a number below
`hashSpace` written in three letters and digits (`hashSlot_slotHash`).  A line begins at the
slot of its hash and probes on around the space in strides that pass every slot, so it takes the
first that is free (`allocateOne_takes_first_free`) and finds none only when all are occupied,
where the source has its `unreachable!`.

A snapshot is filled line by line: the lines that kept an anchor keep it, and the others take
free slots, which is possible iff there are as many of these as such lines
(`fillHashes_isSome_iff`).  The anchors of all lines are then different
(`nodup_of_fillHashes`).
-/

import Moh.Library.Probe
import Moh.Tools.Anchors
import Mathlib.Data.List.ReduceOption

namespace Moh
namespace Tools

variable {H : Hashing} {line : Line} {occupied : ℕ → Bool} {slot : ℕ} {anchor : Anchor}

/-! ### Slots and anchors -/

theorem alphabet_nodup : alphabet.Nodup := by decide +kernel

theorem alphabet_length : alphabet.length = 62 := by decide

theorem toNat_lt_of_isAlphanum {c : Char} (h : c.isAlphanum = true) : c.toNat < 128 := by
  delta Char.isAlphanum Char.isAlpha Char.isUpper Char.isLower Char.isDigit at h
  simp only [Bool.or_eq_true, Bool.and_eq_true, decide_eq_true_eq, UInt32.le_iff_toNat_le] at h
  have hc : c.toNat = c.val.toNat := rfl
  have hZ : 'Z'.val.toNat = 90 := rfl
  have hz : 'z'.val.toNat = 122 := rfl
  have h9 : '9'.val.toNat = 57 := rfl
  omega

/-- The characters of the alphabet are the alphanumeric ones. -/
theorem isAlphanum_iff_mem_alphabet (c : Char) : c.isAlphanum = true ↔ c ∈ alphabet := by
  have hsmall : ∀ n < 128, (Char.ofNat n).isAlphanum = true ↔ Char.ofNat n ∈ alphabet := by
    decide +kernel
  have hall : alphabet.all (fun c => decide (c.toNat < 128)) = true := by decide +kernel
  have hmem : ∀ c ∈ alphabet, c.toNat < 128 := fun c hc =>
    of_decide_eq_true (List.all_eq_true.1 hall c hc)
  by_cases hc : c.toNat < 128
  · simpa using hsmall c.toNat hc
  · exact iff_of_false (fun h => hc (toNat_lt_of_isAlphanum h)) fun h => hc (hmem c h)

/-- The position of a character in the alphabet. -/
theorem alphabetIndex_eq_some_iff {c : Char} {i : ℕ} :
    alphabetIndex c = some i ↔ alphabet[i]? = some c := by
  unfold alphabetIndex
  constructor
  · intro h
    obtain ⟨hi, heq, -⟩ := List.findIdx?_eq_some_iff_getElem.1 h
    rw [List.getElem?_eq_getElem hi, eq_of_beq heq]
  · intro h
    obtain ⟨hi, heq⟩ := List.getElem?_eq_some_iff.1 h
    refine List.findIdx?_eq_some_iff_getElem.2 ⟨hi, by simpa using heq, fun j hj => ?_⟩
    intro hj'
    have hij := (List.Nodup.getElem_inj_iff alphabet_nodup).1 ((eq_of_beq hj').trans heq.symm)
    omega

theorem alphabetIndex_getD {i : ℕ} (hi : i < 62) :
    alphabetIndex (alphabet.getD i 'A') = some i := by
  have hi' : i < alphabet.length := by rwa [alphabet_length]
  rw [alphabetIndex_eq_some_iff, List.getD_eq_getElem?_getD, List.getElem?_eq_getElem hi',
    Option.getD_some]

/-- **The slot of the anchor of a slot is the slot.** -/
theorem hashSlot_slotHash (hslot : slot < hashSpace) : hashSlot (slotHash slot) = some slot := by
  have h₁ : slot / (62 * 62) < 62 := Nat.div_lt_of_lt_mul hslot
  have h₂ : slot / 62 % 62 < 62 := Nat.mod_lt _ (by omega)
  have h₃ : slot % 62 < 62 := Nat.mod_lt _ (by omega)
  rw [hashSlot, if_neg (by simp [slotHash])]
  simp only [slotHash, List.foldlM_cons, List.foldlM_nil, alphabetIndex_getD h₁,
    alphabetIndex_getD h₂, alphabetIndex_getD h₃, Option.map_some, Option.bind_eq_bind,
    Option.bind_some, pure, Option.some.injEq]
  omega

/-- **A valid anchor is that of its slot.** -/
theorem exists_hashSlot (h : isAnchor anchor = true) :
    ∃ slot < hashSpace, hashSlot anchor = some slot ∧ slotHash slot = anchor := by
  simp only [isAnchor, Bool.and_eq_true, beq_iff_eq, List.all_eq_true] at h
  obtain ⟨hlength, hall⟩ := h
  obtain ⟨a, b, c, rfl⟩ := List.length_eq_three.1 hlength
  have hindex : ∀ x ∈ [a, b, c], ∃ i < 62, alphabet[i]? = some x := by
    intro x hx
    obtain ⟨i, hi, heq⟩ := List.getElem_of_mem ((isAlphanum_iff_mem_alphabet x).1 (hall x hx))
    exact ⟨i, by rwa [alphabet_length] at hi, by rw [List.getElem?_eq_getElem hi, heq]⟩
  obtain ⟨i, hi, ha⟩ := hindex a (by simp)
  obtain ⟨j, hj, hb⟩ := hindex b (by simp)
  obtain ⟨k, hk, hc⟩ := hindex c (by simp)
  have hgetD : ∀ {n : ℕ} {x : Char}, alphabet[n]? = some x → alphabet.getD n 'A' = x := by
    intro n x hx
    rw [List.getD_eq_getElem?_getD, hx, Option.getD_some]
  refine ⟨(i * 62 + j) * 62 + k, by unfold hashSpace; omega, ?_, ?_⟩
  · rw [hashSlot, if_neg (by simp)]
    simp only [List.foldlM_cons, List.foldlM_nil, alphabetIndex_eq_some_iff.2 ha,
      alphabetIndex_eq_some_iff.2 hb, alphabetIndex_eq_some_iff.2 hc, Option.map_some,
      Option.bind_eq_bind, Option.bind_some, pure, Option.some.injEq]
    omega
  · have h₁ : ((i * 62 + j) * 62 + k) / (62 * 62) = i := by omega
    have h₂ : ((i * 62 + j) * 62 + k) / 62 % 62 = j := by omega
    have h₃ : ((i * 62 + j) * 62 + k) % 62 = k := by omega
    rw [slotHash, h₁, h₂, h₃, hgetD ha, hgetD hb, hgetD hc]

theorem isAnchor_slotHash (hslot : slot < hashSpace) : isAnchor (slotHash slot) = true := by
  have hmem : ∀ i < 62, (alphabet.getD i 'A').isAlphanum = true := by decide +kernel
  have h₁ := hmem _ (Nat.div_lt_of_lt_mul hslot : slot / (62 * 62) < 62)
  have h₂ := hmem _ (Nat.mod_lt (slot / 62) (by omega) : slot / 62 % 62 < 62)
  have h₃ := hmem _ (Nat.mod_lt slot (by omega) : slot % 62 < 62)
  simp only [isAnchor, slotHash, List.all_cons, List.all_nil, h₁, h₂, h₃]
  rfl

/-- What has a slot is a valid anchor. -/
theorem isAnchor_of_hashSlot (h : hashSlot anchor = some slot) : isAnchor anchor = true := by
  unfold hashSlot at h
  split_ifs at h with hlength
  obtain ⟨a, b, c, rfl⟩ := List.length_eq_three.1 (not_not.1 hlength)
  have hmem : ∀ {x : Char} {i : ℕ}, alphabetIndex x = some i → x.isAlphanum = true := by
    intro x i hx
    rw [isAlphanum_iff_mem_alphabet]
    exact List.mem_of_getElem? (alphabetIndex_eq_some_iff.1 hx)
  simp only [List.foldlM_cons, List.foldlM_nil, Option.bind_eq_bind, Option.bind_eq_some_iff,
    Option.map_eq_some_iff] at h
  obtain ⟨-, ⟨i, ha, -⟩, -, ⟨j, hb, -⟩, -, ⟨k, hc, -⟩, -⟩ := h
  simp [isAnchor, hmem ha, hmem hb, hmem hc]

/-! ### Occupied slots -/

theorem occupied_foldl {hashes : List Anchor} {occupied : ℕ → Bool} :
    hashes.foldl (fun occupied hash =>
      match hashSlot hash with
      | some slot => Function.update occupied slot true
      | none => occupied) occupied slot = true ↔
    occupied slot = true ∨ ∃ hash ∈ hashes, hashSlot hash = some slot := by
  induction hashes generalizing occupied with
  | nil => simp
  | cons hash hashes ih =>
    rw [List.foldl_cons, ih, List.exists_mem_cons_iff, ← or_assoc]
    refine or_congr ?_ Iff.rfl
    cases hs : hashSlot hash with
    | none => simp
    | some taken =>
      by_cases h : slot = taken
      · subst h
        simp
      · simp [Function.update_of_ne h, Ne.symm h]

/-- The slots that a list of anchors occupies are theirs. -/
theorem occupiedBy_eq_true_iff {hashes : List Anchor} :
    occupiedBy hashes slot = true ↔ ∃ hash ∈ hashes, hashSlot hash = some slot := by
  refine occupied_foldl.trans ?_
  simp

/-- **Different valid anchors leave free what is left of the space.** -/
theorem card_free_occupiedBy {hashes : List Anchor} (hvalid : ∀ a ∈ hashes, isAnchor a = true)
    (hnodup : hashes.Nodup) :
    (Probe.free hashSpace (occupiedBy hashes)).card + hashes.length = hashSpace := by
  have htaken : (Finset.range hashSpace).filter (fun slot => ¬occupiedBy hashes slot = false) =
      hashes.toFinset.image fun hash => (hashSlot hash).getD 0 := by
    ext slot
    simp only [Finset.mem_filter, Finset.mem_range, Bool.not_eq_false, occupiedBy_eq_true_iff,
      Finset.mem_image, List.mem_toFinset]
    constructor
    · rintro ⟨-, hash, hmem, hslot⟩
      exact ⟨hash, hmem, by rw [hslot, Option.getD_some]⟩
    · rintro ⟨hash, hmem, rfl⟩
      obtain ⟨slot, hlt, hslot, -⟩ := exists_hashSlot (hvalid hash hmem)
      rw [hslot, Option.getD_some]
      exact ⟨hlt, hash, hmem, hslot⟩
  have hinj : Set.InjOn (fun hash => (hashSlot hash).getD 0) hashes.toFinset := by
    intro a ha b hb hab
    obtain ⟨i, -, hi, rfl⟩ := exists_hashSlot (hvalid a (List.mem_toFinset.1 ha))
    obtain ⟨j, -, hj, rfl⟩ := exists_hashSlot (hvalid b (List.mem_toFinset.1 hb))
    simp only [hi, hj, Option.getD_some] at hab
    rw [hab]
  have hcard := Finset.card_filter_add_card_filter_not (s := Finset.range hashSpace)
    fun slot => occupiedBy hashes slot = false
  rw [htaken, Finset.card_image_of_injOn hinj, List.toFinset_card_of_nodup hnodup,
    Finset.card_range] at hcard
  exact hcard

/-! ### Filling in -/

theorem probe_eq_find (steps slot : ℕ) :
    probe occupied steps slot = Probe.find hashSpace probeStride occupied steps slot := by
  induction steps generalizing slot with
  | zero => rfl
  | succ steps ih => rw [probe, Probe.find, ih]

theorem baseSlot_lt : baseSlot H line < hashSpace := Nat.mod_lt _ (by decide)

theorem probeStride_coprime : probeStride.Coprime hashSpace := by decide

/-- **The allocation of one anchor fails iff no slot is free.** -/
theorem allocateOne_eq_none_iff :
    allocateOne H line occupied = none ↔ Probe.free hashSpace occupied = ∅ := by
  rw [allocateOne, Option.map_eq_none_iff, probe_eq_find]
  exact Probe.find_eq_none_iff_full probeStride_coprime baseSlot_lt

/-- What is allocated is the anchor of a free slot, which is occupied then. -/
theorem allocateOne_eq_some {occupied' : ℕ → Bool}
    (h : allocateOne H line occupied = some (anchor, occupied')) :
    ∃ slot ∈ Probe.free hashSpace occupied, anchor = slotHash slot ∧
      occupied' = Function.update occupied slot true := by
  rw [allocateOne, Option.map_eq_some_iff] at h
  obtain ⟨slot, hfind, heq⟩ := h
  rw [probe_eq_find] at hfind
  obtain ⟨rfl, rfl⟩ := Prod.mk.inj heq
  exact ⟨slot, Probe.mem_free_of_find baseSlot_lt hfind, rfl, rfl⟩

/-- A search of full length finds a slot while one is free. -/
theorem exists_find (H : Hashing) (line : Line) (hslot : slot < hashSpace)
    (hfree : occupied slot = false) :
    ∃ target, Probe.find hashSpace probeStride occupied hashSpace (baseSlot H line) =
      some target := by
  rw [← Option.ne_none_iff_exists']
  intro hnone
  have hempty := (Probe.find_eq_none_iff_full probeStride_coprime baseSlot_lt).1 hnone
  exact Finset.eq_empty_iff_forall_notMem.1 hempty slot (Probe.mem_free.2 ⟨hslot, hfree⟩)

/-- **The probe ends at the first free slot that it passes**, which it takes, and
no other: the anchor that is returned is the one of that slot. -/
theorem allocateOne_takes_first_free (H : Hashing) (line : Line) (occupied : ℕ → Bool)
    (hfree : ∃ slot < hashSpace, occupied slot = false) :
    (∃ k < hashSpace, ∃ anchor occupied', ∃ slot < hashSpace,
      slot = (baseSlot H line + k * probeStride) % hashSpace ∧ occupied slot = false ∧
      (∀ j < k, occupied ((baseSlot H line + j * probeStride) % hashSpace) = true) ∧
      allocateOne H line occupied = some (anchor, occupied') ∧
      hashSlot anchor = some slot ∧ occupied' slot = true ∧
      ∀ other ≠ slot, occupied' other = occupied other) ∧
    (∀ slot < hashSpace, isAnchor (slotHash slot) = true ∧
      hashSlot (slotHash slot) = some slot) ∧
    ∀ anchor, (isAnchor anchor = true →
        ∃ slot < hashSpace, hashSlot anchor = some slot ∧ slotHash slot = anchor) ∧
      ∀ slot, hashSlot anchor = some slot → isAnchor anchor = true := by
  obtain ⟨slot, hslot, hslotFree⟩ := hfree
  refine ⟨?_, fun slot hslot => ⟨isAnchor_slotHash hslot, hashSlot_slotHash hslot⟩,
    fun anchor => ⟨exists_hashSlot, fun slot => isAnchor_of_hashSlot⟩⟩
  obtain ⟨target, hfind⟩ := exists_find H line hslot hslotFree
  obtain ⟨k, hk, htarget, htargetFree, hpassed⟩ := (Probe.find_eq_some_iff baseSlot_lt).1 hfind
  have hlt : target < hashSpace := htarget ▸ Nat.mod_lt _ (by decide)
  refine ⟨k, hk, slotHash target, Function.update occupied target true, target, hlt, htarget,
    htargetFree, hpassed, ?_, hashSlot_slotHash hlt, Function.update_self .., ?_⟩
  · rw [allocateOne, probe_eq_find, hfind, Option.map_some]
  · intro other hother
    exact Function.update_of_ne hother ..

/-- A table with one slot left: it is found, wherever the line begins. -/
theorem allocateOne_takes_last_free :
    (∃ k < hashSpace, ∃ anchor occupied', ∃ slot < hashSpace,
      slot = (baseSlot ⟨fun _ => 7, fun _ => 0⟩ [] + k * probeStride) % hashSpace ∧
      decide (slot ≠ 238327) = false ∧
      (∀ j < k, decide ((baseSlot ⟨fun _ => 7, fun _ => 0⟩ [] + j * probeStride) % hashSpace ≠
        238327) = true) ∧
      allocateOne ⟨fun _ => 7, fun _ => 0⟩ [] (fun slot => decide (slot ≠ 238327)) =
        some (anchor, occupied') ∧
      hashSlot anchor = some slot ∧ occupied' slot = true ∧
      ∀ other ≠ slot, occupied' other = decide (other ≠ 238327)) ∧
    (∀ slot < hashSpace, isAnchor (slotHash slot) = true ∧
      hashSlot (slotHash slot) = some slot) ∧
    ∀ anchor, (isAnchor anchor = true →
        ∃ slot < hashSpace, hashSlot anchor = some slot ∧ slotHash slot = anchor) ∧
      ∀ slot, hashSlot anchor = some slot → isAnchor anchor = true :=
  allocateOne_takes_first_free ⟨fun _ => 7, fun _ => 0⟩ [] (fun slot => decide (slot ≠ 238327))
    ⟨238327, by decide, by decide⟩

/-- **Anchors are found for all lines iff there are as many free slots as lines
without one.** -/
theorem fillHashes_isSome_iff {lines : List Line} {hashes : List (Option Anchor)}
    (hlength : lines.length = hashes.length) : (fillHashes H occupied lines hashes).isSome = true ↔
      hashes.countP Option.isNone ≤ (Probe.free hashSpace occupied).card := by
  induction hashes generalizing lines occupied with
  | nil =>
    obtain rfl := List.eq_nil_of_length_eq_zero hlength
    simp [fillHashes]
  | cons hash hashes ih =>
    obtain ⟨line, lines, rfl⟩ := List.exists_cons_of_length_eq_add_one hlength
    have hrest : lines.length = hashes.length := by simpa using hlength
    cases hash with
    | some hash =>
      rw [fillHashes, Option.isSome_map, ih hrest, List.countP_cons_of_neg (by simp)]
    | none =>
      rw [fillHashes, List.countP_cons_of_pos (by simp)]
      cases halloc : allocateOne H line occupied with
      | none => simp [allocateOne_eq_none_iff.1 halloc]
      | some entry =>
        obtain ⟨anchor, occupied'⟩ := entry
        obtain ⟨slot, hfree, -, rfl⟩ := allocateOne_eq_some halloc
        have hpos := Finset.card_pos.2 ⟨slot, hfree⟩
        rw [Option.isSome_map, ih hrest, Probe.free_update_true, Finset.card_erase_of_mem hfree]
        omega

/-- **A line without an anchor takes a free slot,** and the rest is filled without it. -/
theorem fillHashes_none_eq_some {line : Line} {lines : List Line} {hashes : List (Option Anchor)}
    {result : List Anchor}
    (h : fillHashes H occupied (line :: lines) (none :: hashes) = some result) :
    ∃ slot ∈ Probe.free hashSpace occupied, ∃ rest,
      fillHashes H (Function.update occupied slot true) lines hashes = some rest ∧
        result = slotHash slot :: rest := by
  rw [fillHashes] at h
  cases halloc : allocateOne H line occupied with
  | none => simp [halloc] at h
  | some entry =>
    obtain ⟨anchor, occupied'⟩ := entry
    obtain ⟨slot, hfree, rfl, rfl⟩ := allocateOne_eq_some halloc
    simp only [halloc, Option.map_eq_some_iff] at h
    obtain ⟨rest, hfill, rfl⟩ := h
    exact ⟨slot, hfree, rest, hfill, rfl⟩

/-- What the anchors that are given and found must satisfy. -/
structure Filled (occupied : ℕ → Bool) (hashes : List (Option Anchor)) (result : List Anchor) :
    Prop where
  length : result.length = hashes.length
  mem : ∀ a ∈ result, some a ∈ hashes ∨ ∃ slot ∈ Probe.free hashSpace occupied, a = slotHash slot

theorem filled_of_fillHashes {lines : List Line} {hashes : List (Option Anchor)}
    {result : List Anchor} (hlength : lines.length = hashes.length)
    (h : fillHashes H occupied lines hashes = some result) : Filled occupied hashes result := by
  induction hashes generalizing lines occupied result with
  | nil =>
    obtain rfl := List.eq_nil_of_length_eq_zero hlength
    obtain rfl := Option.some.inj h
    exact ⟨rfl, by simp⟩
  | cons hash hashes ih =>
    obtain ⟨line, lines, rfl⟩ := List.exists_cons_of_length_eq_add_one hlength
    have hrest : lines.length = hashes.length := by simpa using hlength
    cases hash with
    | some hash =>
      rw [fillHashes, Option.map_eq_some_iff] at h
      obtain ⟨rest, hfill, rfl⟩ := h
      obtain ⟨hlen, hmem⟩ := ih hrest hfill
      refine ⟨by simp [hlen], fun a ha => ?_⟩
      rcases List.mem_cons.1 ha with rfl | ha
      · exact .inl List.mem_cons_self
      · exact (hmem a ha).imp_left (List.mem_cons_of_mem _)
    | none =>
      obtain ⟨slot, hfree, rest, hfill, rfl⟩ := fillHashes_none_eq_some h
      obtain ⟨hlen, hmem⟩ := ih hrest hfill
      refine ⟨by simp [hlen], fun a ha => ?_⟩
      rcases List.mem_cons.1 ha with rfl | ha
      · exact .inr ⟨slot, hfree, rfl⟩
      · rcases hmem a ha with hold | ⟨other, hother, rfl⟩
        · exact .inl (List.mem_cons_of_mem _ hold)
        · rw [Probe.free_update_true] at hother
          exact .inr ⟨other, Finset.mem_of_mem_erase hother, rfl⟩

/-- **A filling keeps what is given** and takes free slots for the rest. -/
theorem getElem?_of_fillHashes {lines : List Line} {hashes : List (Option Anchor)}
    {result : List Anchor} (hlength : lines.length = hashes.length)
    (h : fillHashes H occupied lines hashes = some result) (i : ℕ) :
    (∀ a, hashes[i]? = some (some a) → result[i]? = some a) ∧
      (hashes[i]? = some none →
        ∃ slot ∈ Probe.free hashSpace occupied, result[i]? = some (slotHash slot)) := by
  induction hashes generalizing lines occupied result i with
  | nil => simp
  | cons hash hashes ih =>
    obtain ⟨line, lines, rfl⟩ := List.exists_cons_of_length_eq_add_one hlength
    have hrest : lines.length = hashes.length := by simpa using hlength
    cases hash with
    | some hash =>
      rw [fillHashes, Option.map_eq_some_iff] at h
      obtain ⟨rest, hfill, rfl⟩ := h
      cases i with
      | zero => simp
      | succ i => simpa using ih hrest hfill i
    | none =>
      obtain ⟨slot, hfree, rest, hfill, rfl⟩ := fillHashes_none_eq_some h
      cases i with
      | zero => exact ⟨by simp, fun _ => ⟨slot, hfree, rfl⟩⟩
      | succ i =>
        obtain ⟨hgiven, hfound⟩ := ih hrest hfill i
        refine ⟨by simpa using hgiven, fun hnone => ?_⟩
        obtain ⟨other, hother, hat⟩ := hfound (by simpa using hnone)
        rw [Probe.free_update_true] at hother
        exact ⟨other, Finset.mem_of_mem_erase hother, by simpa using hat⟩

/-- The given anchors are different and their slots occupied. -/
structure Given (occupied : ℕ → Bool) (hashes : List (Option Anchor)) : Prop where
  nodup : hashes.reduceOption.Nodup
  occupied : ∀ a, some a ∈ hashes → ∃ slot, hashSlot a = some slot ∧ occupied slot = true

/-- An anchor whose slot is occupied is that of no free slot. -/
theorem slotHash_ne_of_occupied {a : Anchor} (hslot : slot ∈ Probe.free hashSpace occupied)
    (ha : ∃ slot, hashSlot a = some slot ∧ occupied slot = true) : slotHash slot ≠ a := by
  rintro rfl
  obtain ⟨other, hother, htaken⟩ := ha
  obtain ⟨hlt, hfree⟩ := Probe.mem_free.1 hslot
  rw [hashSlot_slotHash hlt] at hother
  obtain rfl := Option.some.inj hother
  rw [hfree] at htaken
  cases htaken

/-- **The anchors that are given and found are different.** -/
theorem nodup_of_fillHashes {lines : List Line} {hashes : List (Option Anchor)}
    {result : List Anchor} (hlength : lines.length = hashes.length)
    (hgiven : Given occupied hashes) (h : fillHashes H occupied lines hashes = some result) :
    result.Nodup := by
  induction hashes generalizing lines occupied result with
  | nil =>
    obtain rfl := List.eq_nil_of_length_eq_zero hlength
    obtain rfl := Option.some.inj h
    exact List.nodup_nil
  | cons hash hashes ih =>
    obtain ⟨line, lines, rfl⟩ := List.exists_cons_of_length_eq_add_one hlength
    have hrest : lines.length = hashes.length := by simpa using hlength
    obtain ⟨hnodup, hocc⟩ := hgiven
    cases hash with
    | some hash =>
      rw [List.reduceOption_cons_of_some, List.nodup_cons] at hnodup
      rw [fillHashes, Option.map_eq_some_iff] at h
      obtain ⟨rest, hfill, rfl⟩ := h
      refine List.nodup_cons.2 ⟨fun hmem => ?_, ih hrest ⟨hnodup.2, fun a ha =>
        hocc a (List.mem_cons_of_mem _ ha)⟩ hfill⟩
      rcases (filled_of_fillHashes hrest hfill).mem hash hmem with hold | ⟨slot, hfree, heq⟩
      · exact hnodup.1 (List.reduceOption_mem_iff.2 hold)
      · exact slotHash_ne_of_occupied hfree (hocc hash List.mem_cons_self) heq.symm
    | none =>
      rw [List.reduceOption_cons_of_none] at hnodup
      obtain ⟨slot, hfree, rest, hfill, rfl⟩ := fillHashes_none_eq_some h
      have hocc' : ∀ a, some a ∈ hashes → ∃ slot, hashSlot a = some slot ∧ occupied slot = true :=
        fun a ha => hocc a (List.mem_cons_of_mem _ ha)
      refine List.nodup_cons.2 ⟨fun hmem => ?_, ih hrest ⟨hnodup, fun a ha => ?_⟩ hfill⟩
      · rcases (filled_of_fillHashes hrest hfill).mem _ hmem with hold | ⟨other, hother, heq⟩
        · exact slotHash_ne_of_occupied hfree (hocc' _ hold) rfl
        · rw [Probe.free_update_true, Finset.mem_erase] at hother
          have hslots : some slot = some other := by
            rw [← hashSlot_slotHash (Probe.mem_free.1 hfree).1, heq,
              hashSlot_slotHash (Probe.mem_free.1 hother.2).1]
          exact hother.1 (Option.some.inj hslots).symm
      · obtain ⟨other, hother, htaken⟩ := hocc' a ha
        refine ⟨other, hother, ?_⟩
        by_cases hne : other = slot
        · rw [hne, Function.update_self]
        · rw [Function.update_of_ne hne, htaken]

end Tools
end Moh
