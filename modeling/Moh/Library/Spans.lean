/-
# Spans that follow each other

A text is laid out in rows: a row is a span of positions, both ends of which a cursor can
stand at.  A row either begins at the end of the one before, where that was broken (`wrap`),
or one further, behind a separator (`gap`).  So a position is in one row, except that the
border of a break is in two (`findIdx?_span`, `findIdx?_border`).
-/

import Mathlib.Data.List.Chain

namespace Moh
namespace Spans

/-- The positions from `start` to `stop`, both included. -/
structure Span where
  start : ℕ
  stop : ℕ
deriving DecidableEq, Repr

/-- The position is in the span. -/
def Span.contains (s : Span) (i : ℕ) : Bool := s.start ≤ i && i ≤ s.stop

/-- The second span follows the first one: at a break, which leaves neither of them empty,
or behind a separator. -/
inductive Follows (a b : Span) : Prop where
  | wrap (border : a.stop = b.start) (left : a.start < a.stop) (right : b.start < b.stop)
  | gap (border : a.stop + 1 = b.start)

/-- **Spans in order**, none of which ends before it begins. -/
structure Chained (spans : List Span) : Prop where
  valid : ∀ s ∈ spans, s.start ≤ s.stop
  follows : spans.IsChain Follows

/-- Span number `t` begins at a break. -/
def Broken (spans : List Span) (t : ℕ) : Prop :=
  ∃ n a b, t = n + 1 ∧ spans[n]? = some a ∧ spans[n + 1]? = some b ∧ a.stop = b.start

variable {spans : List Span}

theorem chained_singleton {s : Span} (hs : s.start ≤ s.stop) : Chained [s] :=
  ⟨by simpa using hs, .singleton s⟩

theorem Chained.cons {a b : Span} (hc : Chained (b :: spans)) (ha : a.start ≤ a.stop)
    (hf : Follows a b) : Chained (a :: b :: spans) := by
  refine ⟨?_, List.isChain_cons_cons.2 ⟨hf, hc.follows⟩⟩
  rintro s hs
  rcases List.mem_cons.1 hs with rfl | hs
  · exact ha
  · exact hc.valid s hs

theorem Chained.le (hc : Chained spans) {t : ℕ} {s : Span} (ht : spans[t]? = some s) :
    s.start ≤ s.stop :=
  hc.valid s (List.mem_of_getElem? ht)

theorem Chained.next (hc : Chained spans) {t : ℕ} {a b : Span} (ha : spans[t]? = some a)
    (hb : spans[t + 1]? = some b) : Follows a b := by
  obtain ⟨hlt, rfl⟩ := List.getElem?_eq_some_iff.1 hb
  obtain ⟨_, rfl⟩ := List.getElem?_eq_some_iff.1 ha
  exact List.isChain_iff_getElem.1 hc.follows t hlt

/-- A span ends before every later one begins. -/
theorem Chained.stop_le (hc : Chained spans) {t : ℕ} {a : Span} (ha : spans[t]? = some a)
    {d : ℕ} {b : Span} (hb : spans[t + d + 1]? = some b) : a.stop ≤ b.start := by
  induction d generalizing b with
  | zero =>
    cases hc.next ha hb with
    | wrap border => omega
    | gap border => omega
  | succ d ih =>
    have hlt : t + d + 1 < spans.length := by
      have := (List.getElem?_eq_some_iff.1 hb).1
      omega
    have hm : spans[t + d + 1]? = some spans[t + d + 1] := List.getElem?_eq_getElem hlt
    have hle := ih hm
    have hvalid := hc.le hm
    cases hc.next hm hb with
    | wrap border => omega
    | gap border => omega

/-- A span that an earlier one shares a position with begins at a break, right behind it. -/
theorem Chained.broken_of_shared (hc : Chained spans) {t d : ℕ} {a b : Span}
    (ha : spans[t]? = some a) (hb : spans[t + d + 1]? = some b) (hshared : a.stop = b.start) :
    d = 0 ∧ Broken spans (t + d + 1) := by
  cases d with
  | zero => exact ⟨rfl, t, a, b, rfl, ha, hb, hshared⟩
  | succ d =>
    exfalso
    have hlt : t + d + 1 < spans.length := by
      have := (List.getElem?_eq_some_iff.1 hb).1
      omega
    have hm : spans[t + d + 1]? = some spans[t + d + 1] := List.getElem?_eq_getElem hlt
    have hle := hc.stop_le ha hm
    have hvalid := hc.le hm
    cases hc.next hm hb with
    | wrap border left => omega
    | gap border => omega

/-- **A position is found in its span,** unless it is the border of a break. -/
theorem Chained.findIdx?_span (hc : Chained spans) {t : ℕ} {s : Span} (ht : spans[t]? = some s)
    {i : ℕ} (hstart : s.start ≤ i) (hstop : i ≤ s.stop) (hborder : Broken spans t → i ≠ s.start) :
    spans.findIdx? (·.contains i) = some t := by
  obtain ⟨hlt, rfl⟩ := List.getElem?_eq_some_iff.1 ht
  rw [List.findIdx?_eq_some_iff_getElem]
  refine ⟨hlt, by simp [Span.contains, hstart, hstop], fun j hj hcontains => ?_⟩
  have hj' : spans[j]? = some spans[j] := List.getElem?_eq_getElem (by omega)
  obtain ⟨d, rfl⟩ : ∃ d, t = j + d + 1 := ⟨t - j - 1, by omega⟩
  have hle := hc.stop_le hj' ht
  have hin : i ≤ (spans[j]).stop := by
    simp only [Span.contains, Bool.and_eq_true, decide_eq_true_eq] at hcontains
    exact hcontains.2
  obtain ⟨-, hbroken⟩ := hc.broken_of_shared hj' ht (by omega)
  exact hborder hbroken (by omega)

/-- **The border of a break is found in the span before it.** -/
theorem Chained.findIdx?_border (hc : Chained spans) {t : ℕ} {s : Span}
    (ht : spans[t + 1]? = some s) (hbroken : Broken spans (t + 1)) :
    spans.findIdx? (·.contains s.start) = some t := by
  obtain ⟨n, a, b, hn, ha, hb, hborder⟩ := hbroken
  obtain rfl : t = n := by omega
  obtain rfl : s = b := Option.some.inj (ht.symm.trans hb)
  have hvalid := hc.le ha
  refine hc.findIdx?_span ha (by omega) (by omega) fun _ => ?_
  cases hc.next ha hb with
  | wrap border left => omega
  | gap border => omega

end Spans
end Moh
