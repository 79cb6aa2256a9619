/-
# Character classes and trimming of Unicode text

The two properties of `char` that validate user text, `char::is_whitespace`
(`White_Space`) and `char::is_control` (`Cc`), the string operations that are
defined by them, `str::trim` and `str::split_whitespace`, and `str::lines`.  A
string is its list of scalar values, so that `chars().count()` is the length of
the list.
-/

import Mathlib.Data.List.DropRight

namespace Moh
namespace Unicode

/-- `char::is_whitespace`: the characters with the property `White_Space`. -/
def isWhitespace (c : Char) : Bool :=
  (0x09 ≤ c.toNat && c.toNat ≤ 0x0D) || c.toNat == 0x20 || c.toNat == 0x85 ||
    c.toNat == 0xA0 || c.toNat == 0x1680 || (0x2000 ≤ c.toNat && c.toNat ≤ 0x200A) ||
    c.toNat == 0x2028 || c.toNat == 0x2029 || c.toNat == 0x202F || c.toNat == 0x205F ||
    c.toNat == 0x3000

/-- `char::is_control`: the general category `Cc`. -/
def isControl (c : Char) : Bool :=
  c.toNat ≤ 0x1F || (0x7F ≤ c.toNat && c.toNat ≤ 0x9F)

/-- `str::trim`: the text without its leading and trailing whitespace. -/
def trim (cs : List Char) : List Char :=
  (cs.dropWhile isWhitespace).rdropWhile isWhitespace

/-- `str::trim_end`: the text without its trailing whitespace. -/
def trimEnd (cs : List Char) : List Char :=
  cs.rdropWhile isWhitespace

/-- `value.trim().is_empty()`: there is nothing but whitespace. -/
def isBlank (cs : List Char) : Bool :=
  cs.all isWhitespace

/-- `str::split_whitespace`: the maximal runs of characters that are not
whitespace. -/
def splitWhitespace (cs : List Char) : List (List Char) :=
  (cs.splitOnP isWhitespace).filter fun word => !word.isEmpty

/-- `str::lines`: the lines without their `\n` or `\r\n`; a last line that no `\n`
ends keeps its `\r`. -/
def lines (cs : List Char) : List (List Char) :=
  let parts := cs.splitOn '\n'
  let ended := parts.dropLast.map fun line =>
    if line.getLast? = some '\r' then line.dropLast else line
  ended ++ (parts.getLast?.toList.filter fun line => !line.isEmpty)

/-- **A text is blank iff trimming leaves nothing.** -/
theorem trim_eq_nil_iff (cs : List Char) : trim cs = [] ↔ isBlank cs = true := by
  unfold trim isBlank
  rw [List.rdropWhile_eq_nil_iff, List.all_eq_true]
  constructor
  · intro h
    have hd : cs.dropWhile isWhitespace = [] := by
      by_contra hne
      have hhead := List.head_dropWhile_not isWhitespace hne
      rw [h _ (List.head_mem hne)] at hhead
      exact absurd hhead (by simp)
    exact List.dropWhile_eq_nil_iff.1 hd
  · intro h x hx
    exact h x ((List.dropWhile_sublist _).subset hx)

/-- A text between two characters that are not whitespace is not trimmed. -/
theorem trim_eq_self {cs : List Char} (hhead : ∀ c ∈ cs.head?, isWhitespace c = false)
    (hlast : ∀ c ∈ cs.getLast?, isWhitespace c = false) : trim cs = cs := by
  have hdrop : cs.dropWhile isWhitespace = cs := by
    cases cs with
    | nil => rfl
    | cons c cs => exact List.dropWhile_cons_of_neg (by simp [hhead c rfl])
  rw [trim, hdrop, List.rdropWhile_eq_self_iff]
  intro hne
  simp [hlast _ (List.getLast?_eq_some_getLast hne)]

/-- The characters of a part are characters of the text that do not separate. -/
theorem of_mem_splitOnP {p : Char → Bool} {cs part : List Char} (h : part ∈ cs.splitOnP p) :
    ∀ c ∈ part, c ∈ cs ∧ p c = false := by
  induction cs generalizing part with
  | nil =>
    obtain rfl : part = [] := by simpa using h
    simp
  | cons c cs ih =>
    rw [List.splitOnP_cons_eq_if_modifyHead] at h
    split_ifs at h with hc
    · rcases List.mem_cons.1 h with rfl | h
      · simp
      · exact fun x hx => ⟨List.mem_cons_of_mem _ (ih h x hx).1, (ih h x hx).2⟩
    · obtain ⟨first, parts, hparts⟩ := List.exists_cons_of_ne_nil (List.splitOnP_ne_nil p cs)
      rw [hparts] at h ih
      rcases List.mem_cons.1 h with rfl | h
      · intro x hx
        rcases List.mem_cons.1 hx with rfl | hx
        · exact ⟨List.mem_cons_self, by simpa using hc⟩
        · have hx := ih List.mem_cons_self x hx
          exact ⟨List.mem_cons_of_mem _ hx.1, hx.2⟩
      · have hpart := ih (List.mem_cons_of_mem _ h)
        exact fun x hx => ⟨List.mem_cons_of_mem _ (hpart x hx).1, (hpart x hx).2⟩

/-- A word has a character, and none that is whitespace. -/
theorem of_mem_splitWhitespace {cs word : List Char} (h : word ∈ splitWhitespace cs) :
    word ≠ [] ∧ ∀ c ∈ word, c ∈ cs ∧ isWhitespace c = false := by
  obtain ⟨hmem, hne⟩ := List.mem_filter.1 h
  exact ⟨by simpa using hne, of_mem_splitOnP hmem⟩

end Unicode
end Moh
