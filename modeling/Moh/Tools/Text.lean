/-
# The text of a file

`tools/read.rs`, `tools/edit.rs`: how the bytes of a file are read as lines
(`normalizeText`, `logicalLines`), which bytes the reader refuses (`isText`), and
how the editor encodes lines again (`encodeLines`).  The editor writes valid
UTF-8, so that of the reader's refusals only the NUL byte is left
(`isText_encodeLines`).
-/

import Moh.Library.Utf8
import Moh.Library.Unicode
import Mathlib.Data.List.Basic

namespace Moh
namespace Tools

/-- One logical line, without its terminator. -/
abbrev Line := List Char

/-- `MAX_BYTES` of the reader. -/
def maxBytes : ℕ := 100 * 1024 * 1024

/-- `MAX_LINES`. -/
def maxLines : ℕ := 238328

/-- The byte order mark in UTF-8. -/
def utf8Bom : List UInt8 := [0xEF, 0xBB, 0xBF]

/-! ### Reading -/

/-- `text.replace("\r\n", "\n")`. -/
def replaceCrLf : List Char → List Char
  | '\r' :: '\n' :: rest => '\n' :: replaceCrLf rest
  | c :: rest => c :: replaceCrLf rest
  | [] => []

/-- `text.replace('\r', "\n")`. -/
def replaceCr (text : List Char) : List Char :=
  text.map fun c => if c = '\r' then '\n' else c

/-- `text.strip_prefix('\u{feff}').unwrap_or(text)`. -/
def stripBom : List Char → List Char
  | c :: rest => if c = '\uFEFF' then rest else c :: rest
  | [] => []

/-- `normalize_text`: the decoded text with line feeds only, and whether bytes
had to be replaced. -/
def normalizeText (bytes : List UInt8) : List Char × Bool :=
  (replaceCr (replaceCrLf (stripBom (Utf8.decodeLossy bytes))), Utf8.hasErrors bytes)

/-- `text.strip_suffix('\n').unwrap_or(text)`. -/
def stripFinalNewline (text : List Char) : List Char :=
  if text.getLast? = some '\n' then text.dropLast else text

/-- `logical_lines`. -/
def logicalLines (text : List Char) : List Line :=
  if text = [] then [[]] else (stripFinalNewline text).splitOn '\n'

/-- `canonical_line`. -/
def canonicalLine (line : Line) : Line :=
  Unicode.trimEnd line

/-- A file has at least one logical line. -/
theorem logicalLines_ne_nil (text : List Char) : logicalLines text ≠ [] := by
  unfold logicalLines
  split_ifs
  · simp
  · exact List.splitOn_ne_nil '\n' _

/-! ### What the reader refuses -/

/-- `has_utf16_or_utf32_bom`. -/
def hasUtf16OrUtf32Bom (bytes : List UInt8) : Bool :=
  [0xFF, 0xFE, 0x00, 0x00].isPrefixOf bytes || [0x00, 0x00, 0xFE, 0xFF].isPrefixOf bytes ||
    [0xFF, 0xFE].isPrefixOf bytes || [0xFE, 0xFF].isPrefixOf bytes

/-- `u32::from_le_bytes` of the four bytes from `i` on. -/
def u32At (bytes : List UInt8) (i : ℕ) : ℕ :=
  (((bytes.drop i).take 4).foldr (fun b n => n * 0x100 + b.toNat) 0)

/-- `is_binary_image`: the signatures of PNG, JPEG, GIF, WebP and BMP. -/
def isBinaryImage (bytes : List UInt8) : Bool :=
  [0x89, 0x50, 0x4E, 0x47, 0x0D, 0x0A, 0x1A, 0x0A].isPrefixOf bytes ||
    [0xFF, 0xD8, 0xFF].isPrefixOf bytes ||
    (13 ≤ bytes.length && ([0x47, 0x49, 0x46, 0x38, 0x37, 0x61].isPrefixOf bytes ||
      [0x47, 0x49, 0x46, 0x38, 0x39, 0x61].isPrefixOf bytes)) ||
    (16 ≤ bytes.length && bytes.take 4 == [0x52, 0x49, 0x46, 0x46] &&
      (bytes.drop 8).take 4 == [0x57, 0x45, 0x42, 0x50]) ||
    (18 ≤ bytes.length && [0x42, 0x4D].isPrefixOf bytes &&
      [12, 40, 52, 56, 108, 124].contains (u32At bytes 14))

/-- The bytes are none that `read_text_bytes` refuses as `NotText`. -/
def isText (bytes : List UInt8) : Bool :=
  !(bytes.contains 0 || hasUtf16OrUtf32Bom bytes ||
    (Utf8.hasErrors bytes && isBinaryImage bytes))

/-! ### Writing -/

/-- `original.windows(2).any(|pair| pair == b"\r\n")`. -/
def hasCrLf (original : List UInt8) : Bool :=
  (original.zip original.tail).contains (0x0D, 0x0A)

/-- The newline convention of a file. -/
def separator (original : List UInt8) : List Char :=
  if hasCrLf original then ['\r', '\n'] else if original.contains 0x0D then ['\r'] else ['\n']

/-- `had_final_newline`. -/
def hadFinalNewline (original : List UInt8) : Bool :=
  original.getLast? == some 0x0A || original.getLast? == some 0x0D

/-- The text of `encode_lines`, before it is encoded. -/
def encodedText (original : List UInt8) (lines : List Line) : List Char :=
  (separator original).intercalate lines ++
    if hadFinalNewline original && !lines.isEmpty then separator original else []

/-- `encode_lines`. -/
def encodeLines (original : List UInt8) (lines : List Line) : List UInt8 :=
  (if utf8Bom.isPrefixOf original then utf8Bom else []) ++
    Utf8.encode (encodedText original lines)

/-- What the editor writes is the encoding of a text. -/
theorem encodeLines_eq_encode (original : List UInt8) (lines : List Line) :
    ∃ text, encodeLines original lines = Utf8.encode text := by
  unfold encodeLines
  split_ifs
  · exact ⟨'\uFEFF' :: encodedText original lines, rfl⟩
  · exact ⟨encodedText original lines, rfl⟩

/-- UTF-8 never starts like a wider encoding: `0xFE` and `0xFF` do not occur in it. -/
theorem hasUtf16OrUtf32Bom_encode (text : List Char) :
    hasUtf16OrUtf32Bom (Utf8.encode text) = false := by
  have hbyte : ∀ b : UInt8, 0xF5 ≤ b.toNat → b ∉ Utf8.encode text := fun b hb hmem =>
    absurd (Utf8.lt_of_mem_encode hmem) (by omega)
  have hstart : ∀ pre : List UInt8, 0xFE ∈ pre → pre.isPrefixOf (Utf8.encode text) = false := by
    intro pre hpre
    refine Bool.eq_false_iff.2 fun h => hbyte 0xFE (by decide) ?_
    exact (List.isPrefixOf_iff_prefix.1 h).subset hpre
  unfold hasUtf16OrUtf32Bom
  rw [hstart _ (by decide), hstart _ (by decide), hstart _ (by decide), hstart _ (by decide)]
  rfl

/-- **Of the reader's refusals only the NUL byte** can meet what the editor writes. -/
theorem isText_encodeLines (original : List UInt8) (lines : List Line) :
    isText (encodeLines original lines) = true ↔ 0 ∉ encodeLines original lines := by
  obtain ⟨text, htext⟩ := encodeLines_eq_encode original lines
  rw [htext, isText, Utf8.hasErrors_encode, hasUtf16OrUtf32Bom_encode]
  simp

end Tools
end Moh
