/-
# UTF-8 in pieces

`std::str::from_utf8` and its `Utf8Error`.  The decoder is an automaton that can stop
after any byte (`decodeRun`, `decodeRun_append`), and `from_utf8` says where its first
character, its first invalid part or its last unfinished sequence ends
(`fromUtf8_spec`).
-/

import Moh.Library.Utf8

namespace Moh
namespace Utf8

/-- `Utf8Error`: the length of the valid prefix, and that of the invalid part behind
it, none if the bytes end within a sequence. -/
structure Utf8Error where
  validUpTo : ℕ
  errorLen : Option ℕ
deriving DecidableEq, Repr

/-- `from_utf8` on the bytes from a state of the decoder, behind a valid prefix and
the read part of a sequence. -/
def fromUtf8From (s : State) (valid read : ℕ) : List UInt8 → Except Utf8Error (List Char)
  | [] => if s = .idle then .ok [] else .error ⟨valid, none⟩
  | b :: bs =>
    match feed s b with
    | ([], next) => fromUtf8From next valid (read + 1) bs
    | (some c :: _, next) => (fromUtf8From next (valid + read + 1) 0 bs).map (c :: ·)
    | (none :: _, _) => .error ⟨valid, some (max read 1)⟩

/-- `std::str::from_utf8`. -/
def fromUtf8 (bs : List UInt8) : Except Utf8Error (List Char) :=
  fromUtf8From .idle 0 0 bs

/-! ### The decoder as an automaton -/

/-- What the decoder puts out on the bytes, and where it stands then. -/
def decodeRun (s : State) : List UInt8 → List (Option Char) × State
  | [] => ([], s)
  | b :: bs => ((feed s b).1 ++ (decodeRun (feed s b).2 bs).1, (decodeRun (feed s b).2 bs).2)

theorem decodeRun_append (s : State) (bs cs : List UInt8) :
    decodeRun s (bs ++ cs) =
      ((decodeRun s bs).1 ++ (decodeRun (decodeRun s bs).2 cs).1,
        (decodeRun (decodeRun s bs).2 cs).2) := by
  induction bs generalizing s with
  | nil => rfl
  | cons b bs ih =>
    rw [List.cons_append, decodeRun, ih, decodeRun, List.append_assoc]

theorem decodeFrom_eq_decodeRun (s : State) (bs : List UInt8) :
    decodeFrom s bs = (decodeRun s bs).1 ++ finish (decodeRun s bs).2 := by
  induction bs generalizing s with
  | nil => rfl
  | cons b bs ih => rw [decodeFrom, ih, decodeRun, List.append_assoc]

/-- The characters with replacements for the invalid parts. -/
def lossy (parts : List (Option Char)) : List Char :=
  parts.map fun c => c.getD replacement

theorem lossy_append (parts more : List (Option Char)) :
    lossy (parts ++ more) = lossy parts ++ lossy more :=
  List.map_append

theorem lossy_map_some (text : List Char) : lossy (text.map some) = text := by
  rw [lossy, List.map_map]
  exact List.map_id' text

theorem decodeLossy_eq_lossy (bs : List UInt8) :
    decodeLossy bs = lossy ((decodeRun .idle bs).1 ++ finish (decodeRun .idle bs).2) := by
  rw [decodeLossy, decode, decodeFrom_eq_decodeRun]
  rfl

/-! ### What a byte does -/

/-- The first byte of a sequence puts out at most one part, and only where it ends
there. -/
theorem start_cases (b : UInt8) :
    (∃ code lo hi more, start b = ([], .pending code lo hi more)) ∨
      ∃ part, start b = ([part], .idle) := by
  unfold start
  dsimp only
  split_ifs
  · exact .inr ⟨_, rfl⟩
  all_goals first | exact .inl ⟨_, _, _, _, rfl⟩ | exact .inr ⟨_, rfl⟩

/-- **A byte extends a sequence, ends a character, or ends an invalid part** and
starts again. -/
theorem feed_cases (s : State) (b : UInt8) :
    (∃ code lo hi more, feed s b = ([], .pending code lo hi more)) ∨
      (∃ c, feed s b = ([some c], .idle)) ∨
      (s = .idle ∧ feed s b = ([none], .idle)) ∨
      (s ≠ .idle ∧ feed s b = (none :: (feed .idle b).1, (feed .idle b).2)) := by
  cases s with
  | idle =>
    rcases start_cases b with h | ⟨_ | c, h⟩
    · exact .inl h
    · exact .inr (.inr (.inl ⟨rfl, h⟩))
    · exact .inr (.inl ⟨c, h⟩)
  | pending code lo hi more =>
    by_cases hb : lo ≤ b.toNat ∧ b.toNat ≤ hi
    · cases more with
      | zero => exact .inr (.inl ⟨_, by rw [feed, if_pos hb]⟩)
      | succ more => exact .inl ⟨_, _, _, _, by rw [feed, if_pos hb]⟩
    · exact .inr (.inr (.inr ⟨by simp, by cases more <;> simp [feed, hb]⟩))

/-! ### What `from_utf8` says -/

/-- What a result of `from_utf8` at an offset says about the bytes from there on: they
are characters; or characters and the start of a sequence; or characters, an invalid
part and whatever follows it. -/
inductive Scanned (valid : ℕ) (bs : List UInt8) : Except Utf8Error (List Char) → Prop
  | ok {text : List Char} : decodeRun .idle bs = (text.map some, .idle) → Scanned valid bs (.ok text)
  | unfinished {good rest : List UInt8} {text : List Char} {s : State} : bs = good ++ rest →
      decodeRun .idle good = (text.map some, .idle) → decodeRun .idle rest = ([], s) → s ≠ .idle →
      Scanned valid bs (.error ⟨valid + good.length, none⟩)
  | invalid {good bad rest : List UInt8} {text : List Char} : bs = good ++ (bad ++ rest) →
      decodeRun .idle good = (text.map some, .idle) → bad ≠ [] →
      decodeRun .idle (bad ++ rest) =
        (none :: (decodeRun .idle rest).1, (decodeRun .idle rest).2) →
      Scanned valid bs (.error ⟨valid + good.length, some bad.length⟩)

/-- A character before the bytes. -/
theorem Scanned.cons {valid : ℕ} {pre bs : List UInt8} {c : Char}
    {result : Except Utf8Error (List Char)} (hpre : decodeRun .idle pre = ([some c], .idle))
    (h : Scanned (valid + pre.length) bs result) :
    Scanned valid (pre ++ bs) (result.map (c :: ·)) := by
  have hgood : ∀ {good : List UInt8} {text : List Char},
      decodeRun .idle good = (text.map some, .idle) →
      decodeRun .idle (pre ++ good) = ((c :: text).map some, .idle) := by
    intro good text hgood
    rw [decodeRun_append, hpre, hgood]
    rfl
  cases h with
  | ok htext => exact .ok (hgood htext)
  | unfinished hbs htext hrest hs =>
    rw [Nat.add_assoc, ← List.length_append]
    exact .unfinished (by rw [hbs, List.append_assoc]) (hgood htext) hrest hs
  | invalid hbs htext hbad hrest =>
    rw [Nat.add_assoc, ← List.length_append]
    exact .invalid (by rw [hbs, List.append_assoc]) (hgood htext) hbad hrest

theorem fromUtf8From_spec {s : State} {pre : List UInt8} (hpre : decodeRun .idle pre = ([], s))
    (hidle : s = .idle → pre = []) (valid : ℕ) (bs : List UInt8) :
    Scanned valid (pre ++ bs) (fromUtf8From s valid pre.length bs) := by
  induction bs generalizing s pre valid with
  | nil =>
    rw [fromUtf8From, List.append_nil]
    split_ifs with hs
    · obtain rfl := hidle hs
      exact .ok rfl
    · exact @Scanned.unfinished valid pre [] pre [] s rfl rfl hpre hs
  | cons b bs ih =>
    have hstep : decodeRun .idle (pre ++ [b]) = feed s b := by
      rw [decodeRun_append, hpre, decodeRun, decodeRun, List.append_nil, List.nil_append]
    have hassoc : pre ++ b :: bs = (pre ++ [b]) ++ bs := by rw [List.append_assoc]; rfl
    have hlength : (pre ++ [b]).length = pre.length + 1 := List.length_append
    rcases feed_cases s b with ⟨code, lo, hi, more, hfeed⟩ | ⟨c, hfeed⟩ | ⟨rfl, hfeed⟩ | ⟨hs, hfeed⟩
    · rw [fromUtf8From, hfeed, hassoc, ← hlength]
      exact ih (hstep.trans hfeed) (by simp) valid
    · have hrest : Scanned (valid + (pre ++ [b]).length) ([] ++ bs)
          (fromUtf8From .idle (valid + (pre ++ [b]).length) 0 bs) :=
        ih rfl (fun _ => rfl) _
      rw [fromUtf8From, hfeed, hassoc, Nat.add_assoc, ← hlength]
      exact .cons (hstep.trans hfeed) hrest
    · obtain rfl := hidle rfl
      rw [fromUtf8From, hfeed]
      refine @Scanned.invalid valid _ [] [b] bs [] rfl rfl (by simp) ?_
      rw [List.singleton_append, decodeRun, hfeed]
      rfl
    · have hne : pre ≠ [] := by
        rintro rfl
        exact hs (Prod.mk.inj hpre).2.symm
      have hmax : max pre.length 1 = pre.length := Nat.max_eq_left (List.length_pos_iff.2 hne)
      rw [fromUtf8From, hfeed]
      dsimp only
      rw [hmax]
      refine @Scanned.invalid valid _ [] pre (b :: bs) [] rfl rfl hne ?_
      rw [decodeRun_append, hpre, decodeRun, hfeed, decodeRun]
      rfl

/-- **What `from_utf8` says is what the decoder does.** -/
theorem fromUtf8_spec (bs : List UInt8) : Scanned 0 bs (fromUtf8 bs) :=
  @fromUtf8From_spec .idle [] rfl (fun _ => rfl) 0 bs

theorem decodeLossy_of_decodeRun {bs : List UInt8} {text : List Char}
    (h : decodeRun .idle bs = (text.map some, .idle)) : decodeLossy bs = text := by
  rw [decodeLossy_eq_lossy, h, lossy_append, lossy_map_some]
  exact List.append_nil _

theorem decodeRun_of_ok {bs : List UInt8} {text : List Char} (h : fromUtf8 bs = .ok text) :
    decodeRun .idle bs = (text.map some, .idle) := by
  have hspec := fromUtf8_spec bs
  rw [h] at hspec
  cases hspec with
  | ok htext => exact htext

/-- Bytes that end within a sequence: the valid prefix is decoded, and the rest puts
nothing out. -/
theorem decodeRun_of_unfinished {bs : List UInt8} {valid : ℕ}
    (h : fromUtf8 bs = .error ⟨valid, none⟩) :
    lossy (decodeRun .idle bs).1 = decodeLossy (bs.take valid) ∧
      decodeRun .idle (bs.drop valid) = ([], (decodeRun .idle bs).2) := by
  have hspec := fromUtf8_spec bs
  rw [h] at hspec
  cases hspec with
  | @unfinished good rest text s hbs hgood hrest hs =>
    subst hbs
    rw [Nat.zero_add, List.take_left, List.drop_left, decodeRun_append, hgood, hrest,
      decodeLossy_of_decodeRun hgood, List.append_nil, lossy_map_some]
    exact ⟨rfl, rfl⟩

/-- Bytes with an invalid part: the valid prefix and a replacement, and then what the
rest is decoded to. -/
theorem decodeRun_of_invalid {bs : List UInt8} {valid length : ℕ}
    (h : fromUtf8 bs = .error ⟨valid, some length⟩) :
    lossy (decodeRun .idle bs).1 = decodeLossy (bs.take valid) ++ [replacement] ++
        lossy (decodeRun .idle (bs.drop (valid + length))).1 ∧
      (decodeRun .idle bs).2 = (decodeRun .idle (bs.drop (valid + length))).2 := by
  have hspec := fromUtf8_spec bs
  rw [h] at hspec
  cases hspec with
  | @invalid good bad rest text hbs hgood hbad hrun =>
    have hdrop : (good ++ (bad ++ rest)).drop (good.length + bad.length) = rest := by
      rw [← List.append_assoc, ← List.length_append, List.drop_left]
    subst hbs
    rw [Nat.zero_add, hdrop, List.take_left, decodeRun_append, hgood, hrun,
      decodeLossy_of_decodeRun hgood, lossy_append, lossy_map_some, List.append_assoc]
    exact ⟨rfl, rfl⟩

/-- An invalid part has bytes, so that fewer are left behind it. -/
theorem length_drop_of_invalid {bs : List UInt8} {valid length : ℕ}
    (h : fromUtf8 bs = .error ⟨valid, some length⟩) :
    (bs.drop (valid + length)).length < bs.length := by
  have hspec := fromUtf8_spec bs
  rw [h] at hspec
  cases hspec with
  | @invalid good bad rest _ hbs _ hbad _ =>
    have hpos := List.length_pos_iff.2 hbad
    have hlength := congrArg List.length hbs
    rw [List.length_append, List.length_append] at hlength
    rw [List.length_drop]
    omega

end Utf8
end Moh
