/-
# Line anchors

`tools/read.rs`, `tools/anchor_store.rs`.  An anchor is three characters that
stand for one of `62³` slots.  A line takes the slot of its hash or the next free
one of a probe; when a file is read again its lines keep the anchors the stored
snapshot gave to equal lines (`stableHashes`).  The store checks every snapshot
it loads or saves (`validateSnapshot`).
-/

import Moh.Library.FileSystem
import Moh.Tools.Text
import Mathlib.Algebra.Group.Nat.Defs
import Mathlib.Data.List.Dedup

namespace Moh
namespace Tools

/-- The hash functions of the `xxhash_rust` crate, at seed 0. -/
structure Hashing where
  xxh32 : List UInt8 → UInt32
  xxh64 : List UInt8 → UInt64

/-- An anchor, such as `aZ3`. -/
abbrev Anchor := List Char

/-! ### Slots -/

/-- `ALPHABET`. -/
def alphabet : List Char :=
  ("ABCDEFGHIJKLMNOPQRSTUVWXYZ".toList ++ "abcdefghijklmnopqrstuvwxyz".toList) ++
    "0123456789".toList

/-- `HASH_SPACE`. -/
def hashSpace : ℕ := 62 * 62 * 62

/-- `PROBE_STRIDE`. -/
def probeStride : ℕ := 62 * 62 + 62 + 1

/-- `slot_hash`. -/
def slotHash (slot : ℕ) : Anchor :=
  [alphabet.getD (slot / (62 * 62)) 'A', alphabet.getD (slot / 62 % 62) 'A',
    alphabet.getD (slot % 62) 'A']

/-- `ALPHABET.iter().position(..)`. -/
def alphabetIndex (c : Char) : Option ℕ :=
  alphabet.findIdx? (· == c)

/-- `hash_slot`. -/
def hashSlot (hash : Anchor) : Option ℕ :=
  if hash.length ≠ 3 then none
  else hash.foldlM (fun slot c => (alphabetIndex c).map fun index => slot * 62 + index) 0

/-- `base_slot`. -/
def baseSlot (H : Hashing) (line : Line) : ℕ :=
  (H.xxh32 (Utf8.encode (canonicalLine line))).toNat / 2 ^ 14 % hashSpace

/-- The `for` loop of `allocate_one`: the first free slot among the next `steps`
of the probe. -/
def probe (occupied : ℕ → Bool) : ℕ → ℕ → Option ℕ
  | 0, _ => none
  | steps + 1, slot =>
    if occupied slot then probe occupied steps ((slot + probeStride) % hashSpace) else some slot

/-- `allocate_one`: the anchor, and the slots that are occupied then; `none` is
the `unreachable!` behind the loop. -/
def allocateOne (H : Hashing) (line : Line) (occupied : ℕ → Bool) :
    Option (Anchor × (ℕ → Bool)) :=
  (probe occupied hashSpace (baseSlot H line)).map fun slot =>
    (slotHash slot, Function.update occupied slot true)

/-- The slots that a list of anchors occupies. -/
def occupiedBy (hashes : List Anchor) : ℕ → Bool :=
  hashes.foldl (fun occupied hash =>
    match hashSlot hash with
    | some slot => Function.update occupied slot true
    | none => occupied) fun _ => false

/-- Allocates anchors for the lines that have none. -/
def fillHashes (H : Hashing) : (ℕ → Bool) → List Line → List (Option Anchor) →
    Option (List Anchor)
  | occupied, line :: lines, hash :: hashes =>
    match hash with
    | some hash => (fillHashes H occupied lines hashes).map (hash :: ·)
    | none =>
      match allocateOne H line occupied with
      | none => none
      | some (hash, occupied) => (fillHashes H occupied lines hashes).map (hash :: ·)
  | _, _, _ => some []

/-- `allocate_hashes`. -/
def allocateHashes (H : Hashing) (lines : List Line) (prior : List Anchor) :
    Option (List Anchor) :=
  fillHashes H (occupiedBy prior) lines (lines.map fun _ => none)

/-! ### Snapshots -/

/-- `AnchorSnapshot`: a persisted anchor allocation. -/
structure AnchorSnapshot where
  checksum : List Char
  lineCount : ℕ
  hashes : List Anchor
  lines : List Line
deriving DecidableEq

/-- `{:016x}`. -/
def hex16 (value : UInt64) : List Char :=
  (List.range 16).map fun i =>
    "0123456789abcdef".toList.getD (value.toNat / 16 ^ (15 - i) % 16) '0'

/-- The checksum of a normalized text. -/
def textChecksum (H : Hashing) (normalized : List Char) : List Char :=
  hex16 (H.xxh64 (Utf8.encode normalized))

/-- `snapshot`. -/
def snapshot (checksum : List Char) (lines : List Line) (hashes : List Anchor) :
    AnchorSnapshot where
  checksum
  lineCount := lines.length
  hashes
  lines := lines.map canonicalLine

/-- `^[A-Za-z0-9]{3}$`. -/
def isAnchor (anchor : Anchor) : Bool :=
  anchor.length == 3 && anchor.all Char.isAlphanum

/-- The two checks of one anchor in `validate_snapshot`, over all of them. -/
def checkAnchors : List Anchor → List Anchor → Except String Unit
  | _, [] => .ok ()
  | seen, anchor :: rest =>
    if !isAnchor anchor then
      .error "anchors must be three ASCII alphanumeric characters"
    else if anchor ∈ seen then .error "anchors must be unique within a snapshot"
    else checkAnchors (anchor :: seen) rest

/-- `validate_snapshot`; the error is the reason of `InvalidSnapshot`. -/
def validateSnapshot (snapshot : AnchorSnapshot) (allowLegacyLines : Bool) :
    Except String Unit :=
  if snapshot.lineCount ≠ snapshot.hashes.length then
    .error "line count does not match the number of anchors"
  else if snapshot.lines.length ≠ snapshot.lineCount ∧
      ¬(allowLegacyLines ∧ 0 < snapshot.lineCount ∧ snapshot.lines = []) then
    .error "line identity count does not match the number of anchors"
  else checkAnchors [] snapshot.hashes

theorem checkAnchors_eq_ok_iff {seen anchors : List Anchor} :
    checkAnchors seen anchors = .ok () ↔
      (∀ anchor ∈ anchors, isAnchor anchor = true ∧ anchor ∉ seen) ∧ anchors.Nodup := by
  induction anchors generalizing seen with
  | nil => simp [checkAnchors]
  | cons anchor rest ih =>
    unfold checkAnchors
    split_ifs with hvalid hseen
    · simp_all
    · simp_all
    · rw [ih, List.forall_mem_cons, List.nodup_cons]
      simp only [List.mem_cons, not_or]
      constructor
      · rintro ⟨hrest, hnodup⟩
        exact ⟨⟨⟨by simpa using hvalid, hseen⟩, fun a ha => ⟨(hrest a ha).1, (hrest a ha).2.2⟩⟩,
          fun ha => (hrest anchor ha).2.1 rfl, hnodup⟩
      · rintro ⟨⟨-, hrest⟩, hnew, hnodup⟩
        exact ⟨fun a ha => ⟨(hrest a ha).1, fun h => hnew (h ▸ ha), (hrest a ha).2⟩, hnodup⟩

/-- **What the store accepts:** as many anchors as lines, all well formed and
different, and line identities unless the row is a legacy one. -/
theorem validateSnapshot_eq_ok_iff {row : AnchorSnapshot} {allowLegacyLines : Bool} :
    validateSnapshot row allowLegacyLines = .ok () ↔
      row.lineCount = row.hashes.length ∧
      (row.lines.length = row.lineCount ∨
        allowLegacyLines = true ∧ 0 < row.lineCount ∧ row.lines = []) ∧
      (∀ anchor ∈ row.hashes, isAnchor anchor = true) ∧ row.hashes.Nodup := by
  unfold validateSnapshot
  split_ifs with hcount hlines
  · simp [hcount]
  · rw [not_not] at hcount
    simp only [false_iff, not_and]
    rintro - (h | h)
    · exact absurd h hlines.1
    · exact absurd h hlines.2
  · rw [not_not] at hcount
    rw [checkAnchors_eq_ok_iff]
    have hids : row.lines.length = row.lineCount ∨
        allowLegacyLines = true ∧ 0 < row.lineCount ∧ row.lines = [] := by
      by_contra h
      exact hlines ⟨fun h' => h (.inl h'), fun h' => h (.inr h')⟩
    constructor
    · rintro ⟨hvalid, hnodup⟩
      exact ⟨hcount, hids, fun a ha => (hvalid a ha).1, hnodup⟩
    · rintro ⟨-, -, hvalid, hnodup⟩
      exact ⟨fun a ha => ⟨hvalid a ha, by simp⟩, hnodup⟩

/-! ### Matching lines -/

/-- The positions of the lines with a canonical content, in order. -/
def positions (content : Line) (lines : List Line) : List ℕ :=
  (List.range lines.length).filter fun i => (lines[i]?).map canonicalLine == some content

/-- The remaining position an old one is matched with: the nearest, the left one
of two that are equally near. -/
def nearest (old : ℕ) (remaining : List ℕ) : Option ℕ :=
  let right := remaining.find? (old ≤ ·)
  let left := (remaining.filter (· < old)).getLast?
  match left, right with
  | some left, some right => if old - left ≤ right - old then some left else some right
  | none, some right => some right
  | some left, none => some left
  | none, none => none

/-- `nearest_occurrence_pairs`; the ordered set `remaining` is an increasing list. -/
def nearestOccurrencePairs : List ℕ → List ℕ → List (ℕ × ℕ)
  | [], _ => []
  | old :: olds, remaining =>
    match nearest old remaining with
    | none => []
    | some new => (old, new) :: nearestOccurrencePairs olds (remaining.erase new)

/-- The pairs of an old and a new line of all contents.  The source takes the
contents in the order of a hash map; no two of them share a position. -/
def occurrencePairs (previous : AnchorSnapshot) (newLines : List Line) : List (ℕ × ℕ) :=
  (newLines.map canonicalLine).dedup.flatMap fun content =>
    nearestOccurrencePairs (positions content previous.lines) (positions content newLines)

/-- `removed_by_content` and the second loop over the new hashes: a line without
an anchor takes the first anchor that lines of its content have left. -/
def reuseRemoved : List (Line × Anchor) → List Line → List (Option Anchor) →
    List (Option Anchor)
  | removed, line :: lines, hash :: hashes =>
    match hash with
    | some hash => some hash :: reuseRemoved removed lines hashes
    | none =>
      match removed.find? (·.1 == canonicalLine line) with
      | some entry => some entry.2 :: reuseRemoved (removed.erase entry) lines hashes
      | none => none :: reuseRemoved removed lines hashes
  | _, _, _ => []

/-- `stable_hashes`; `none` is the `unreachable!` of `allocate_one`. -/
def stableHashes (H : Hashing) (previous : AnchorSnapshot) (newLines : List Line) :
    Option (List Anchor) :=
  let pairs := occurrencePairs previous newLines
  let newHashes : List (Option Anchor) := pairs.foldl
    (fun hashes pair => hashes.set pair.2 previous.hashes[pair.1]?) (newLines.map fun _ => none)
  let preservedOld := pairs.foldl (fun preserved pair => preserved.set pair.1 true)
    (previous.lines.map fun _ => false)
  let removed := ((previous.lines.zip previous.hashes).zip preservedOld).filterMap fun entry =>
    if entry.2 then none else some (canonicalLine entry.1.1, entry.1.2)
  fillHashes H (occupiedBy previous.hashes) newLines (reuseRemoved removed newLines newHashes)

/-- `hashes_from_snapshot`. -/
def hashesFromSnapshot (H : Hashing) (stored : Option AnchorSnapshot) (checksum : List Char)
    (lines : List Line) : Option (List Anchor) :=
  match stored with
  | some snapshot =>
    if snapshot.checksum = checksum ∧ snapshot.lineCount = lines.length then some snapshot.hashes
    else if snapshot.lines.length = snapshot.lineCount ∧
        snapshot.hashes.length = snapshot.lineCount then
      stableHashes H snapshot lines
    else allocateHashes H lines []
  | none => allocateHashes H lines []

/-! ### Known hashes -/

/-- The values of the crate on a few short inputs, for runs on concrete files. -/
def knownHashes : Hashing where
  xxh32 bytes := (List.lookup bytes
    [([0x61], 0x550d7456), ([0x62], 0xa20cadbf), ([0x63], 0xeeb00f1b), ([0x78], 0x2ec430ea),
      ([0x79], 0xb033a837), ([0x7A], 0xa73026ce), ([], 0x02cc5d05)]).getD 0
  xxh64 bytes := (List.lookup bytes
    [([0x61, 0x0A], 0xfbbde8981eccc855), ([0x62, 0x0A], 0xafc37974405adf22),
      ([0x00, 0x0A], 0xe68ec39ed00f9d45), ([0x78], 0x5c80c09683041123),
      ([0x61, 0x0A, 0x62], 0xa592bad2776c4e8e), ([0x78, 0x0A, 0x79], 0x7207ca3cf73ec176),
      ([0x78, 0x0A, 0x7A], 0x48746029d43d4ebd),
      ([0x61, 0x0A, 0x0A, 0x62], 0xa62bd2bdfe54c26e)]).getD 0

end Tools
end Moh
