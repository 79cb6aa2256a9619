/-
# Frames of a stream that arrives in pieces

A framer takes one frame at a time from the front of a buffer, or waits.  It is stable
if what it has found stays found when more arrives behind it.  Draining the buffer
after every piece then finds the frames of the whole stream, wherever it was cut
(`feedAll_eq`).
-/

import Mathlib.Data.List.Basic

namespace Moh

/-- Takes a frame from the front of a buffer and says what is left, which is less. -/
structure Framer (α ε : Type) where
  next : List α → Option (ε × List α)
  shrinks : ∀ {buffer frame rest}, next buffer = some (frame, rest) → rest.length < buffer.length

namespace Framer

variable {α ε : Type} (F : Framer α ε) {buffer rest : List α} {frame : ε}

/-- Takes frames until there is none: the frames, and the buffer that is left. -/
def drain (buffer : List α) : List ε × List α :=
  match h : F.next buffer with
  | none => ([], buffer)
  | some (frame, rest) => (frame :: (drain rest).1, (drain rest).2)
termination_by buffer.length
decreasing_by all_goals exact F.shrinks h

/-- What is found stays found when more arrives. -/
def Stable : Prop :=
  ∀ buffer frame rest more, F.next buffer = some (frame, rest) →
    F.next (buffer ++ more) = some (frame, rest ++ more)

/-- Appends a piece to the buffer and drains it. -/
def feed (found : List ε × List α) (piece : List α) : List ε × List α :=
  (found.1 ++ (F.drain (found.2 ++ piece)).1, (F.drain (found.2 ++ piece)).2)

/-- All pieces in turn, from an empty buffer. -/
def feedAll (pieces : List (List α)) : List ε × List α :=
  pieces.foldl F.feed ([], [])

theorem drain_of_none (h : F.next buffer = none) : F.drain buffer = ([], buffer) := by
  rw [drain]
  split
  · rfl
  · rename_i hsome
    rw [h] at hsome
    cases hsome

theorem drain_of_some (h : F.next buffer = some (frame, rest)) :
    F.drain buffer = (frame :: (F.drain rest).1, (F.drain rest).2) := by
  rw [drain]
  split
  · rename_i hnone
    rw [h] at hnone
    cases hnone
  · rename_i hsome
    rw [h] at hsome
    obtain ⟨rfl, rfl⟩ := Prod.mk.inj (Option.some.inj hsome)
    rfl

/-- **A drained buffer has no frame.** -/
theorem next_drain (buffer : List α) : F.next (F.drain buffer).2 = none := by
  fun_induction F.drain buffer with
  | case1 buffer h => exact h
  | case2 buffer frame rest h ih => exact ih

variable {F}

/-- **More behind a buffer** is more behind what draining leaves of it. -/
theorem drain_append (hF : F.Stable) (buffer more : List α) :
    F.drain (buffer ++ more) =
      ((F.drain buffer).1 ++ (F.drain ((F.drain buffer).2 ++ more)).1,
        (F.drain ((F.drain buffer).2 ++ more)).2) := by
  fun_induction F.drain buffer with
  | case1 buffer h => rfl
  | case2 buffer frame rest h ih =>
    rw [F.drain_of_some (hF _ _ _ more h), ih]
    rfl

theorem foldl_feed (hF : F.Stable) (pieces : List (List α)) (found : List ε)
    (hnone : F.next buffer = none) :
    pieces.foldl F.feed (found, buffer) =
      (found ++ (F.drain (buffer ++ pieces.flatten)).1, (F.drain (buffer ++ pieces.flatten)).2) := by
  induction pieces generalizing found buffer with
  | nil => rw [List.flatten_nil, List.append_nil, F.drain_of_none hnone, List.append_nil]; rfl
  | cons piece pieces ih =>
    rw [List.foldl_cons, feed, ih _ (F.next_drain _), List.flatten_cons, ← List.append_assoc,
      drain_append hF (buffer ++ piece), List.append_assoc]

/-- **The frames do not depend on the pieces.** -/
theorem feedAll_eq (hF : F.Stable) (hnil : F.next [] = none) (pieces : List (List α)) :
    F.feedAll pieces = F.drain pieces.flatten :=
  foldl_feed hF pieces [] hnil

end Framer
end Moh
