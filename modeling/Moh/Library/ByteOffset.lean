/-
# Byte offsets in a text

`str::len`, `str::is_char_boundary`, `str::find` and slices of a string by byte
offsets.  A text is its list of scalar values; an offset counts the bytes of their
encodings, and a slice at an offset that is no boundary of a character panics
(`none`).
-/

import Moh.Library.Utf8
import Mathlib.Algebra.GroupWithZero.Nat

namespace Moh
namespace Utf8

/-- `char::len_utf8`. -/
def charLength (c : Char) : ℕ :=
  (encodeChar c).length

/-- `str::len`. -/
def byteLength (cs : List Char) : ℕ :=
  (cs.map charLength).sum

/-- The text before and from an offset: `(&s[..i], &s[i..])`. -/
def splitAt? : List Char → ℕ → Option (List Char × List Char)
  | cs, 0 => some ([], cs)
  | [], _ + 1 => none
  | c :: cs, i + 1 =>
    if charLength c ≤ i + 1 then
      (splitAt? cs (i + 1 - charLength c)).map fun parts => (c :: parts.1, parts.2)
    else none

/-- `&s[..i]`. -/
def sliceTo (cs : List Char) (i : ℕ) : Option (List Char) :=
  (splitAt? cs i).map Prod.fst

/-- `&s[i..]`. -/
def sliceFrom (cs : List Char) (i : ℕ) : Option (List Char) :=
  (splitAt? cs i).map Prod.snd

/-- `&s[i..j]`. -/
def slice (cs : List Char) (i j : ℕ) : Option (List Char) :=
  if i ≤ j then (sliceTo cs j).bind fun pre => sliceFrom pre i else none

/-- `String::insert_str`. -/
def insertStr (cs : List Char) (i : ℕ) (text : List Char) : Option (List Char) :=
  (splitAt? cs i).map fun parts => parts.1 ++ text ++ parts.2

/-- `String::replace_range` by nothing. -/
def removeRange (cs : List Char) (i j : ℕ) : Option (List Char) :=
  if i ≤ j then
    (sliceTo cs i).bind fun pre => (sliceFrom cs j).map fun post => pre ++ post
  else none

/-- `str::is_char_boundary`. -/
def isCharBoundary (cs : List Char) (i : ℕ) : Bool :=
  (splitAt? cs i).isSome

/-- `str::find` of a pattern: the offset of its first occurrence. -/
def find (pattern : List Char) : List Char → Option ℕ
  | [] => if pattern = [] then some 0 else none
  | c :: cs =>
    if pattern.isPrefixOf (c :: cs) then some 0 else (find pattern cs).map (· + charLength c)

/-! ### Lengths -/

theorem charLength_pos (c : Char) : 0 < charLength c :=
  List.length_pos_iff.2 (encodeChar_ne_nil c)

theorem charLength_le (c : Char) : charLength c ≤ 4 := by
  unfold charLength encodeChar
  split_ifs <;> simp

theorem byteLength_cons (c : Char) (cs : List Char) :
    byteLength (c :: cs) = charLength c + byteLength cs := by
  simp [byteLength]

theorem byteLength_append (cs ds : List Char) :
    byteLength (cs ++ ds) = byteLength cs + byteLength ds := by
  simp [byteLength]

/-! ### Slices -/

/-- **A split is at the length of what is before it.** -/
theorem splitAt?_eq_some_iff {cs pre post : List Char} {i : ℕ} :
    splitAt? cs i = some (pre, post) ↔ cs = pre ++ post ∧ byteLength pre = i := by
  induction cs, i using splitAt?.induct generalizing pre with
  | case1 cs =>
    rw [splitAt?, Option.some.injEq, Prod.mk.injEq]
    constructor
    · rintro ⟨rfl, rfl⟩
      exact ⟨rfl, rfl⟩
    · rintro ⟨rfl, hlength⟩
      cases pre with
      | nil => exact ⟨rfl, rfl⟩
      | cons c pre =>
        have := charLength_pos c
        rw [byteLength_cons] at hlength
        omega
  | case2 i =>
    rw [splitAt?]
    refine iff_of_false (by simp) ?_
    rintro ⟨hnil, hlength⟩
    obtain ⟨rfl, rfl⟩ := List.nil_eq_append_iff.1 hnil
    cases hlength
  | case3 c cs i hle ih =>
    rw [splitAt?, if_pos hle, Option.map_eq_some_iff]
    constructor
    · rintro ⟨⟨rest, tail⟩, hsplit, heq⟩
      obtain ⟨rfl, rfl⟩ := Prod.mk.inj heq
      obtain ⟨rfl, hlength⟩ := ih.1 hsplit
      refine ⟨rfl, ?_⟩
      rw [byteLength_cons]
      dsimp only
      omega
    · rintro ⟨heq, hlength⟩
      cases pre with
      | nil => cases hlength
      | cons d pre =>
        obtain ⟨rfl, rfl⟩ := List.cons.inj heq
        rw [byteLength_cons] at hlength
        exact ⟨(pre, post), ih.2 ⟨rfl, by omega⟩, rfl⟩
  | case4 c cs i hlt =>
    rw [splitAt?, if_neg hlt]
    refine iff_of_false (by simp) ?_
    rintro ⟨heq, hlength⟩
    cases pre with
    | nil => cases hlength
    | cons d pre =>
      obtain ⟨rfl, rfl⟩ := List.cons.inj heq
      rw [byteLength_cons] at hlength
      omega

theorem splitAt?_zero (cs : List Char) : splitAt? cs 0 = some ([], cs) :=
  splitAt?_eq_some_iff.2 ⟨rfl, rfl⟩

theorem splitAt?_append (pre post : List Char) :
    splitAt? (pre ++ post) (byteLength pre) = some (pre, post) :=
  splitAt?_eq_some_iff.2 ⟨rfl, rfl⟩

/-- **What is between two boundaries,** and what is left without it. -/
theorem slice_append (pre mid post : List Char) :
    slice (pre ++ mid ++ post) (byteLength pre) (byteLength (pre ++ mid)) = some mid ∧
      removeRange (pre ++ mid ++ post) (byteLength pre) (byteLength (pre ++ mid)) =
        some (pre ++ post) := by
  have hle : byteLength pre ≤ byteLength (pre ++ mid) := by
    rw [byteLength_append]
    omega
  have hpre : splitAt? (pre ++ mid ++ post) (byteLength pre) = some (pre, mid ++ post) := by
    rw [List.append_assoc, splitAt?_append]
  constructor
  · simp only [slice, if_pos hle, sliceTo, sliceFrom, splitAt?_append, Option.map_some,
      Option.bind_some]
  · simp only [removeRange, if_pos hle, sliceTo, sliceFrom, hpre, splitAt?_append,
      Option.map_some, Option.bind_some]

theorem insertStr_append (pre post text : List Char) :
    insertStr (pre ++ post) (byteLength pre) text = some (pre ++ text ++ post) := by
  rw [insertStr, splitAt?_append, Option.map_some]

/-- Behind a boundary, boundaries are those of the rest. -/
theorem isCharBoundary_append (pre post : List Char) (i : ℕ) :
    isCharBoundary (pre ++ post) (byteLength pre + i) = isCharBoundary post i := by
  induction pre with
  | nil => rw [byteLength, List.map_nil, List.sum_nil, Nat.zero_add, List.nil_append]
  | cons c pre ih =>
    have hpos := charLength_pos c
    obtain ⟨n, hn⟩ := Nat.exists_eq_add_of_lt hpos
    rw [byteLength_cons, ← ih, List.cons_append, isCharBoundary,
      show charLength c + byteLength pre + i = (charLength c - 1 + byteLength pre + i) + 1 by omega,
      splitAt?, if_pos (by omega), Option.isSome_map,
      show charLength c - 1 + byteLength pre + i + 1 - charLength c = byteLength pre + i by omega]
    rfl

/-- **Within four bytes there is a boundary.** -/
theorem exists_isCharBoundary {cs : List Char} {i : ℕ} (h : i ≤ byteLength cs) :
    ∃ k < 4, isCharBoundary cs (i + k) = true ∧ i + k ≤ byteLength cs := by
  induction cs generalizing i with
  | nil =>
    obtain rfl : i = 0 := Nat.le_zero.1 h
    exact ⟨0, by omega, rfl, h⟩
  | cons c cs ih =>
    have hlen := charLength_le c
    rw [byteLength_cons] at h ⊢
    have hshift : ∀ j, isCharBoundary (c :: cs) (charLength c + j) = isCharBoundary cs j := by
      intro j
      have happend := isCharBoundary_append [c] cs j
      rwa [byteLength_cons, show byteLength [] = 0 from rfl, Nat.add_zero] at happend
    by_cases hi : charLength c ≤ i
    · obtain ⟨k, hk, hboundary, hle⟩ := ih (i := i - charLength c) (by omega)
      refine ⟨k, hk, ?_, by omega⟩
      rw [show i + k = charLength c + (i - charLength c + k) by omega, hshift]
      exact hboundary
    · by_cases hzero : i = 0
      · subst hzero
        exact ⟨0, by omega, rfl, by omega⟩
      · refine ⟨charLength c - i, by omega, ?_, by omega⟩
        rw [show i + (charLength c - i) = charLength c + 0 by omega, hshift, isCharBoundary,
          splitAt?_zero]
        rfl

end Utf8
end Moh
