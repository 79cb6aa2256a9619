/-
# UTF-8 with replacement of invalid bytes

`str::as_bytes` and `String::from_utf8_lossy`.  The decoder is an automaton over
the bytes: it keeps the code point read so far, the range the next continuation
byte must lie in and the number of bytes after that one.  A byte outside that
range ends the sequence before it as one error, and is then read as the start of
the next sequence, so that every maximal invalid part becomes a single
replacement character.  Decoding inverts encoding (`decode_encode`).
-/

import Mathlib.Tactic.SplitIfs
import Mathlib.Data.Char

namespace Moh
namespace Utf8

/-- The bytes of one scalar value. -/
def encodeChar (c : Char) : List UInt8 :=
  if c.toNat < 0x80 then [UInt8.ofNat c.toNat]
  else if c.toNat < 0x800 then
    [UInt8.ofNat (0xC0 + c.toNat / 0x40), UInt8.ofNat (0x80 + c.toNat % 0x40)]
  else if c.toNat < 0x10000 then
    [UInt8.ofNat (0xE0 + c.toNat / 0x1000), UInt8.ofNat (0x80 + c.toNat / 0x40 % 0x40),
      UInt8.ofNat (0x80 + c.toNat % 0x40)]
  else
    [UInt8.ofNat (0xF0 + c.toNat / 0x40000), UInt8.ofNat (0x80 + c.toNat / 0x1000 % 0x40),
      UInt8.ofNat (0x80 + c.toNat / 0x40 % 0x40), UInt8.ofNat (0x80 + c.toNat % 0x40)]

/-- `str::as_bytes`. -/
def encode (cs : List Char) : List UInt8 :=
  cs.flatMap encodeChar

/-- Where the decoder stands between two bytes: between characters, or after the
part `code` of a sequence whose next byte lies in `lo`–`hi` and is followed by
`more` continuation bytes. -/
inductive State where
  | idle
  | pending (code lo hi more : ℕ)
deriving DecidableEq, Repr

/-- Reads the first byte of a sequence; `none` is an invalid byte. -/
def start (b : UInt8) : List (Option Char) × State :=
  let n := b.toNat
  if n < 0x80 then ([some (Char.ofNat n)], .idle)
  else if 0xC2 ≤ n ∧ n ≤ 0xDF then ([], .pending (n - 0xC0) 0x80 0xBF 0)
  else if n = 0xE0 then ([], .pending 0 0xA0 0xBF 1)
  else if n = 0xED then ([], .pending 0xD 0x80 0x9F 1)
  else if 0xE1 ≤ n ∧ n ≤ 0xEF then ([], .pending (n - 0xE0) 0x80 0xBF 1)
  else if n = 0xF0 then ([], .pending 0 0x90 0xBF 2)
  else if n = 0xF4 then ([], .pending 4 0x80 0x8F 2)
  else if 0xF1 ≤ n ∧ n ≤ 0xF3 then ([], .pending (n - 0xF0) 0x80 0xBF 2)
  else ([none], .idle)

/-- Reads one byte. -/
def feed : State → UInt8 → List (Option Char) × State
  | .idle, b => start b
  | .pending code lo hi more, b =>
    if lo ≤ b.toNat ∧ b.toNat ≤ hi then
      let code := code * 0x40 + (b.toNat - 0x80)
      match more with
      | 0 => ([some (Char.ofNat code)], .idle)
      | more + 1 => ([], .pending code 0x80 0xBF more)
    else (none :: (start b).1, (start b).2)

/-- The end of the bytes: an unfinished sequence is one error. -/
def finish : State → List (Option Char)
  | .idle => []
  | .pending .. => [none]

/-- Decodes the bytes from a state of the decoder. -/
def decodeFrom (s : State) : List UInt8 → List (Option Char)
  | [] => finish s
  | b :: bs => (feed s b).1 ++ decodeFrom (feed s b).2 bs

/-- The characters of a byte string, `none` for each maximal invalid part. -/
def decode (bs : List UInt8) : List (Option Char) :=
  decodeFrom .idle bs

/-- U+FFFD. -/
def replacement : Char := '\uFFFD'

/-- `String::from_utf8_lossy`. -/
def decodeLossy (bs : List UInt8) : List Char :=
  (decode bs).map fun c => c.getD replacement

/-- `std::str::from_utf8(bytes).is_err()`. -/
def hasErrors (bs : List UInt8) : Bool :=
  (decode bs).any Option.isNone

/-! ### Decoding inverts encoding -/

theorem toNat_ofNat_lt {n : ℕ} (h : n < 256) : (UInt8.ofNat n).toNat = n := by
  simpa using Nat.mod_eq_of_lt h

/-- The scalar values: below the surrogates, or above them up to `0x10FFFF`. -/
theorem toNat_valid (c : Char) : c.toNat < 0xD800 ∨ (0xDFFF < c.toNat ∧ c.toNat < 0x110000) :=
  c.valid

/-- A continuation byte within the range of the state extends the code point. -/
theorem decodeFrom_continuation {code lo hi more k : ℕ} (hk : k < 0x40) (hlo : lo ≤ 0x80 + k)
    (hhi : 0x80 + k ≤ hi) (bs : List UInt8) :
    decodeFrom (.pending code lo hi (more + 1)) (UInt8.ofNat (0x80 + k) :: bs) =
      decodeFrom (.pending (code * 0x40 + k) 0x80 0xBF more) bs := by
  have hb : (UInt8.ofNat (0x80 + k)).toNat = 0x80 + k := toNat_ofNat_lt (by omega)
  rw [decodeFrom, feed, hb, if_pos ⟨hlo, hhi⟩, Nat.add_sub_cancel_left]
  rfl

/-- The last continuation byte completes the character. -/
theorem decodeFrom_last {code lo hi k : ℕ} (hk : k < 0x40) (hlo : lo ≤ 0x80 + k)
    (hhi : 0x80 + k ≤ hi) (bs : List UInt8) :
    decodeFrom (.pending code lo hi 0) (UInt8.ofNat (0x80 + k) :: bs) =
      some (Char.ofNat (code * 0x40 + k)) :: decodeFrom .idle bs := by
  have hb : (UInt8.ofNat (0x80 + k)).toNat = 0x80 + k := toNat_ofNat_lt (by omega)
  rw [decodeFrom, feed, hb, if_pos ⟨hlo, hhi⟩, Nat.add_sub_cancel_left]
  rfl

/-- The first byte of a three-byte sequence allows its second byte. -/
theorem start_three {n : ℕ} (h : 0x800 ≤ n) (h' : n < 0x10000) (hv : n < 0xD800 ∨ 0xDFFF < n) :
    ∃ lo hi, start (UInt8.ofNat (0xE0 + n / 0x1000)) = ([], .pending (n / 0x1000) lo hi 1) ∧
      lo ≤ 0x80 + n / 0x40 % 0x40 ∧ 0x80 + n / 0x40 % 0x40 ≤ hi := by
  have ha : (UInt8.ofNat (0xE0 + n / 0x1000)).toNat = 0xE0 + n / 0x1000 := toNat_ofNat_lt (by omega)
  unfold start
  rw [ha, if_neg (by omega), if_neg (by omega), Nat.add_sub_cancel_left]
  split_ifs with h0 hD
  · exact ⟨0xA0, 0xBF, by rw [show n / 0x1000 = 0 by omega], by omega, by omega⟩
  · exact ⟨0x80, 0x9F, by rw [show n / 0x1000 = 0xD by omega], by omega, by omega⟩
  · exact ⟨0x80, 0xBF, rfl, by omega, by omega⟩
  all_goals omega

/-- The first byte of a four-byte sequence allows its second byte. -/
theorem start_four {n : ℕ} (h : 0x10000 ≤ n) (h' : n < 0x110000) :
    ∃ lo hi, start (UInt8.ofNat (0xF0 + n / 0x40000)) = ([], .pending (n / 0x40000) lo hi 2) ∧
      lo ≤ 0x80 + n / 0x1000 % 0x40 ∧ 0x80 + n / 0x1000 % 0x40 ≤ hi := by
  have ha : (UInt8.ofNat (0xF0 + n / 0x40000)).toNat = 0xF0 + n / 0x40000 :=
    toNat_ofNat_lt (by omega)
  unfold start
  rw [ha, if_neg (by omega), if_neg (by omega), if_neg (by omega), if_neg (by omega),
    if_neg (by omega), Nat.add_sub_cancel_left]
  split_ifs with h0 h4
  · exact ⟨0x90, 0xBF, by rw [show n / 0x40000 = 0 by omega], by omega, by omega⟩
  · exact ⟨0x80, 0x8F, by rw [show n / 0x40000 = 4 by omega], by omega, by omega⟩
  · exact ⟨0x80, 0xBF, rfl, by omega, by omega⟩
  all_goals omega

/-- The encoding of a character is decoded to it. -/
theorem decodeFrom_encodeChar (c : Char) (bs : List UInt8) :
    decodeFrom .idle (encodeChar c ++ bs) = some c :: decodeFrom .idle bs := by
  have hv := toNat_valid c
  have hc := Char.ofNat_toNat c
  unfold encodeChar
  generalize c.toNat = n at hv hc
  split_ifs with h1 h2 h3
  · have hn : (UInt8.ofNat n).toNat = n := toNat_ofNat_lt (by omega)
    simp [decodeFrom, feed, start, hn, h1, hc]
  · have ha : (UInt8.ofNat (0xC0 + n / 0x40)).toNat = 0xC0 + n / 0x40 := toNat_ofNat_lt (by omega)
    have hs : start (UInt8.ofNat (0xC0 + n / 0x40)) = ([], .pending (n / 0x40) 0x80 0xBF 0) := by
      unfold start
      rw [ha, if_neg (by omega), if_pos (by omega), Nat.add_sub_cancel_left]
    rw [List.cons_append, decodeFrom, feed, hs, List.nil_append, List.cons_append,
      decodeFrom_last (by omega) (by omega) (by omega), List.nil_append,
      show n / 0x40 * 0x40 + n % 0x40 = n by omega, hc]
  · obtain ⟨lo, hi, hs, hlo, hhi⟩ := start_three (n := n) (by omega) h3 (by omega)
    rw [List.cons_append, decodeFrom, feed, hs, List.nil_append, List.cons_append,
      decodeFrom_continuation (by omega) hlo hhi, List.cons_append,
      decodeFrom_last (by omega) (by omega) (by omega), List.nil_append,
      show (n / 0x1000 * 0x40 + n / 0x40 % 0x40) * 0x40 + n % 0x40 = n by omega, hc]
  · obtain ⟨lo, hi, hs, hlo, hhi⟩ := start_four (n := n) (by omega) (by omega)
    rw [List.cons_append, decodeFrom, feed, hs, List.nil_append, List.cons_append,
      decodeFrom_continuation (by omega) hlo hhi, List.cons_append,
      decodeFrom_continuation (by omega) (by omega) (by omega), List.cons_append,
      decodeFrom_last (by omega) (by omega) (by omega), List.nil_append,
      show ((n / 0x40000 * 0x40 + n / 0x1000 % 0x40) * 0x40 + n / 0x40 % 0x40) * 0x40 + n % 0x40 = n
        by omega, hc]

/-- **Decoding inverts encoding.** -/
theorem decode_encode (cs : List Char) : decode (encode cs) = cs.map some := by
  unfold decode encode
  induction cs with
  | nil => rfl
  | cons c cs ih => rw [List.flatMap_cons, decodeFrom_encodeChar, ih, List.map_cons]

theorem decodeLossy_encode (cs : List Char) : decodeLossy (encode cs) = cs := by
  unfold decodeLossy
  rw [decode_encode, List.map_map]
  exact List.map_id' cs

theorem hasErrors_encode (cs : List Char) : hasErrors (encode cs) = false := by
  unfold hasErrors
  rw [decode_encode]
  simp

/-! ### The bytes of an encoding -/

/-- The bytes of a character stay below `0xF5`. -/
theorem lt_of_mem_encodeChar {c : Char} {b : UInt8} (hb : b ∈ encodeChar c) : b.toNat < 0xF5 := by
  have hv := toNat_valid c
  have hbyte : ∀ n < 0xF5, b = UInt8.ofNat n → b.toNat < 0xF5 := by
    rintro n hn rfl
    rwa [toNat_ofNat_lt (by omega)]
  unfold encodeChar at hb
  split_ifs at hb with h1 h2 h3 <;>
    simp only [List.mem_cons, List.not_mem_nil, or_false] at hb
  · exact hbyte _ (by omega) hb
  · rcases hb with hb | hb <;> exact hbyte _ (by omega) hb
  · rcases hb with hb | hb | hb <;> exact hbyte _ (by omega) hb
  · rcases hb with hb | hb | hb | hb <;> exact hbyte _ (by omega) hb

/-- **The bytes `0xF5`–`0xFF` occur in no encoding.** -/
theorem lt_of_mem_encode {cs : List Char} {b : UInt8} (hb : b ∈ encode cs) : b.toNat < 0xF5 := by
  obtain ⟨c, -, hc⟩ := List.mem_flatMap.1 hb
  exact lt_of_mem_encodeChar hc

/-! ### ASCII -/

theorem encode_cons (c : Char) (cs : List Char) : encode (c :: cs) = encodeChar c ++ encode cs :=
  rfl

theorem encode_append (cs ds : List Char) : encode (cs ++ ds) = encode cs ++ encode ds :=
  List.flatMap_append

theorem encodeChar_of_lt {c : Char} (h : c.toNat < 0x80) :
    encodeChar c = [UInt8.ofNat c.toNat] :=
  if_pos h

theorem encodeChar_ne_nil (c : Char) : encodeChar c ≠ [] := by
  unfold encodeChar
  split_ifs <;> simp

/-- A character beyond ASCII has no ASCII byte. -/
theorem le_of_mem_encodeChar {c : Char} {b : UInt8} (hc : 0x80 ≤ c.toNat) (hb : b ∈ encodeChar c) :
    0x80 ≤ b.toNat := by
  have hv := toNat_valid c
  have hbyte : ∀ n, 0x80 ≤ n → n < 0x100 → b = UInt8.ofNat n → 0x80 ≤ b.toNat := by
    rintro n hn hn' rfl
    rwa [toNat_ofNat_lt hn']
  unfold encodeChar at hb
  rw [if_neg (by omega)] at hb
  split_ifs at hb with h2 h3 <;>
    simp only [List.mem_cons, List.not_mem_nil, or_false] at hb
  · rcases hb with hb | hb <;> exact hbyte _ (by omega) (by omega) hb
  · rcases hb with hb | hb | hb <;> exact hbyte _ (by omega) (by omega) hb
  · rcases hb with hb | hb | hb | hb <;> exact hbyte _ (by omega) (by omega) hb

theorem eq_of_toNat_eq {c d : Char} (h : c.toNat = d.toNat) : c = d := by
  rw [← Char.ofNat_toNat c, h, Char.ofNat_toNat]

/-- **An ASCII byte is the one of its character.** -/
theorem mem_encodeChar_iff {c d : Char} (hd : d.toNat < 0x80) :
    UInt8.ofNat d.toNat ∈ encodeChar c ↔ c = d := by
  have htoNat : (UInt8.ofNat d.toNat).toNat = d.toNat := toNat_ofNat_lt (by omega)
  constructor
  · intro h
    by_cases hc : c.toNat < 0x80
    · rw [encodeChar_of_lt hc, List.mem_singleton] at h
      have hnat := congrArg UInt8.toNat h
      rw [htoNat, toNat_ofNat_lt (by omega)] at hnat
      exact (eq_of_toNat_eq hnat).symm
    · have := le_of_mem_encodeChar (Nat.not_lt.1 hc) h
      omega
  · rintro rfl
    rw [encodeChar_of_lt hd]
    exact List.mem_singleton_self _

theorem mem_encode_iff {cs : List Char} {d : Char} (hd : d.toNat < 0x80) :
    UInt8.ofNat d.toNat ∈ encode cs ↔ d ∈ cs := by
  simp only [encode, List.mem_flatMap, mem_encodeChar_iff hd, exists_eq_right]

/-- The last byte is an ASCII character iff the last character is this one. -/
theorem getLast?_encode_iff {cs : List Char} {d : Char} (hd : d.toNat < 0x80) :
    (encode cs).getLast? = some (UInt8.ofNat d.toNat) ↔ cs.getLast? = some d := by
  rcases List.eq_nil_or_concat cs with rfl | ⟨cs, c, rfl⟩
  · simp [encode]
  · have hlast : (encode (cs ++ [c])).getLast? = (encodeChar c).getLast? := by
      rw [encode_append, show encode [c] = encodeChar c from List.append_nil _,
        List.getLast?_append, Option.or_of_isSome (List.getLast?_isSome.2 (encodeChar_ne_nil c))]
    rw [List.concat_eq_append, hlast, List.getLast?_concat, Option.some_inj]
    constructor
    · intro h
      exact (mem_encodeChar_iff hd).1 (List.mem_of_getLast? h)
    · rintro rfl
      rw [encodeChar_of_lt hd]
      rfl

end Utf8
end Moh
