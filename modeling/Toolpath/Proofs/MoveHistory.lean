/-
**Moves that are judged one after another.**

A move is judged by the segments that are remembered from the moves before it.  Since looking up
goes by the first segment that answers, and remembered segments are never forgotten, a segment that
was judged once is answered by the same line ever after; and since nothing in the judgement depends
on which end of a segment comes first, neither does anything that is reported, the coordinates in
the messages apart.

Main definitions:

* `Toolpath.Move` — a move along a segment, at a line;
* `Toolpath.SegmentIndex.check` — what is reported about a move, and the index after it;
* `Toolpath.SegmentIndex.afterMoves` — the index after moves that are checked one after another;
* `Toolpath.Outline`, `Toolpath.SegmentIndex.outlines` — what is said about moves, apart from
  coordinates.

Main results:

* `Toolpath.SegmentIndex.firstLine?_foldl` — a line that answers a segment answers it ever after;
* `Toolpath.SegmentIndex.repeat_reported` — **a segment that comes again is reported, and always
  with the same line**;
* `Toolpath.SegmentIndex.outlines_turnedAt` — **directions make no difference**.
-/

import Toolpath.Proofs.DiagnosticKind
import Toolpath.Proofs.SegmentIndex

set_option relaxedAutoImplicit false
set_option autoImplicit false

namespace Toolpath

variable {tolerance : Binary64}

/-! ### Moves -/

/-- A move along a segment, at a line. -/
structure Move where
  segment : Segment
  line : Int
  deriving DecidableEq

/-- The move in the other direction. -/
def Move.turned (move : Move) : Move := ⟨move.segment.reverse, move.line⟩

/-- The moves with those turned whose places are chosen. -/
def turnedAt (places : Nat → Bool) (moves : List Move) : List Move :=
  moves.mapIdx fun place move => if places place then move.turned else move

namespace SegmentIndex

/-- What is reported about a move, and the index after it. -/
def check (tolerance : Binary64) (index : SegmentIndex) (move : Move) :
    Option Diagnostic × SegmentIndex :=
  match index.judge tolerance move.segment move.line with
  | (verdict, after) => ((verdict.cause? move.segment).map (Diagnostic.mk move.line), after)

section Check

variable {index : SegmentIndex} {move : Move}

/-- A move without length is redundant. -/
theorem check_of_near
    (hnear : move.segment.start.near tolerance move.segment.finish = true) :
    index.check tolerance move =
      (some ⟨move.line, .redundantMove move.segment.finish⟩, index) := by
  rw [check, judge, if_pos hnear]
  rfl

/-- A move along a segment that was cut before is a duplicate. -/
theorem check_of_some {first : Int}
    (hfar : move.segment.start.near tolerance move.segment.finish = false)
    (hfirst : index.firstLine? tolerance move.segment = some first) :
    index.check tolerance move =
      (some ⟨move.line, .duplicateToolpath move.segment.start move.segment.finish first⟩,
        index) := by
  rw [check, judge, if_neg (Bool.not_eq_true _ ▸ hfar), hfirst]
  rfl

/-- The segment of any other move is remembered. -/
theorem check_of_none
    (hfar : move.segment.start.near tolerance move.segment.finish = false)
    (hnone : index.firstLine? tolerance move.segment = none) :
    index.check tolerance move = (none, index.insert tolerance ⟨move.segment, move.line⟩) := by
  rw [check, judge, if_neg (Bool.not_eq_true _ ▸ hfar), hnone]
  rfl

/-- A move that is not reported as redundant has a length. -/
theorem near_eq_false_of_check
    (h : ∀ d ∈ (index.check tolerance move).1, d.isRedundantMove = false) :
    move.segment.start.near tolerance move.segment.finish = false := by
  rw [← Bool.not_eq_true]
  intro hnear
  have hkind := h ⟨move.line, .redundantMove move.segment.finish⟩ (by rw [check_of_near hnear]; rfl)
  rw [Diagnostic.isRedundantMove_mk] at hkind
  cases hkind

end Check

/-- The index after moves that are checked one after another. -/
def afterMoves (tolerance : Binary64) (moves : List Move) : SegmentIndex :=
  moves.foldl (fun index move => (index.check tolerance move).2) empty

/-! ### Repeats -/

/-- A line that answers a segment answers it after any other move too. -/
theorem firstLine?_check {index : SegmentIndex} {s : Segment} {first : Int} (move : Move)
    (h : index.firstLine? tolerance s = some first) :
    (index.check tolerance move).2.firstLine? tolerance s = some first := by
  cases hnear : move.segment.start.near tolerance move.segment.finish with
  | true =>
      rw [check_of_near hnear]
      exact h
  | false =>
      cases hfirst : index.firstLine? tolerance move.segment with
      | some other =>
          rw [check_of_some hnear hfirst]
          exact h
      | none => rw [check_of_none hnear hfirst, firstLine?_insert, h, Option.some_or]

/-- A line that answers a segment answers it ever after. -/
theorem firstLine?_foldl {s : Segment} {first : Int} (moves : List Move) (index : SegmentIndex)
    (h : index.firstLine? tolerance s = some first) :
    (moves.foldl (fun index move => (index.check tolerance move).2) index).firstLine? tolerance s =
      some first := by
  induction moves generalizing index with
  | nil => exact h
  | cons move rest ih => exact ih _ (firstLine?_check move h)

/-- The line that answers the segment of a move after it: its own if nothing is reported about the
move, and else the line that it is reported with. -/
theorem firstLine?_check_self (hpos : 0 < tolerance) (index : SegmentIndex) {move : Move}
    (hfinite : move.segment.IsFinite)
    (hfar : move.segment.start.near tolerance move.segment.finish = false) :
    ∃ first, (index.check tolerance move).2.firstLine? tolerance move.segment = some first ∧
      ((index.check tolerance move).1 = none → first = move.line) ∧
      ∀ d ∈ (index.check tolerance move).1, d.related? = some first := by
  cases hfirst : index.firstLine? tolerance move.segment with
  | some first =>
      rw [check_of_some hfar hfirst]
      refine ⟨first, hfirst, nofun, fun d hd => ?_⟩
      obtain rfl := Option.some.inj hd
      rfl
  | none =>
      have hown : Entry.answers tolerance move.segment ⟨move.segment, move.line⟩ = true :=
        Entry.answers_self hpos hfinite
      rw [check_of_none hfar hfirst]
      refine ⟨move.line, ?_, fun _ => rfl, by simp⟩
      rw [firstLine?_insert, hfirst, hown]
      rfl

/-- **A segment that comes again is reported, and always with the same line**: in either direction,
whatever moves are checked in between, and without being remembered again.  The line is that of its
first move, or the one that this move was itself reported with. -/
theorem repeat_reported (hpos : 0 < tolerance) (before between : List Move) {move again : Move}
    (hfinite : move.segment.IsFinite)
    (hlong : ∀ d ∈ ((afterMoves tolerance before).check tolerance move).1,
      d.isRedundantMove = false)
    (hagain : again.segment = move.segment ∨ again.segment = move.segment.reverse) :
    ∃ d first, (afterMoves tolerance (before ++ move :: between)).check tolerance again =
        (some d, afterMoves tolerance (before ++ move :: between)) ∧
      d.line = again.line ∧ d.isDuplicateToolpath = true ∧ d.related? = some first ∧
      (((afterMoves tolerance before).check tolerance move).1 = none → first = move.line) ∧
      ∀ own ∈ ((afterMoves tolerance before).check tolerance move).1,
        own.related? = some first := by
  have hfar := near_eq_false_of_check hlong
  obtain ⟨first, hfirst, hown⟩ :=
    firstLine?_check_self hpos (afterMoves tolerance before) hfinite hfar
  have hlater : (afterMoves tolerance (before ++ move :: between)).firstLine? tolerance
      move.segment = some first := by
    rw [afterMoves, List.foldl_append]
    exact firstLine?_foldl between _ hfirst
  -- neither the length nor the answer depends on the direction
  have hfar' : again.segment.start.near tolerance again.segment.finish = false := by
    rcases hagain with h | h
    · rw [h, hfar]
    · rw [h, Segment.reverse, Point.near_comm, hfar]
  have hlater' : (afterMoves tolerance (before ++ move :: between)).firstLine? tolerance
      again.segment = some first := by
    rcases hagain with h | h
    · rw [h, hlater]
    · rw [h, firstLine?_reverse, hlater]
  exact ⟨_, first, check_of_some hfar' hlater', rfl, Diagnostic.isDuplicateToolpath_mk _ _ _ _, rfl,
    hown⟩

/-- A move along a segment. -/
def wayThere : Move := ⟨⟨⟨0, 0, 0⟩, ⟨1, 0, 0⟩⟩, 2⟩

/-- A move along nearly the same segment. -/
def wayBeside : Move := ⟨⟨⟨0.00001, 0, 0⟩, ⟨1, 0, 0⟩⟩, 3⟩

/-- A move along another segment. -/
def wayOn : Move := ⟨⟨⟨1, 0, 0⟩, ⟨1, 5, 0⟩⟩, 4⟩

/-- The segment beside the first one is absorbed by it, and its way back is answered by the first
line. -/
theorem repeat_reported_absorbed :
    ∃ d, ((afterMoves 0.0001 [wayThere, wayBeside, wayOn]).check 0.0001
        ⟨wayBeside.segment.reverse, 7⟩).1 = some d ∧
      d.isDuplicateToolpath = true ∧ d.related? = some 2 := by
  have hfinite : wayBeside.segment.IsFinite := by
    intro axis
    cases axis <;> decide +kernel
  have hreport : ((afterMoves 0.0001 [wayThere]).check 0.0001 wayBeside).1 =
      some ⟨3, .duplicateToolpath ⟨0.00001, 0, 0⟩ ⟨1, 0, 0⟩ 2⟩ := by
    decide +kernel
  have hlong : ∀ d ∈ ((afterMoves 0.0001 [wayThere]).check 0.0001 wayBeside).1,
      d.isRedundantMove = false := by
    decide +kernel
  obtain ⟨d, first, hcheck, -, hkind, hrelated, -, hown⟩ :=
    @repeat_reported 0.0001 (by decide +kernel) [wayThere] [wayOn] wayBeside
      ⟨wayBeside.segment.reverse, 7⟩ hfinite hlong (.inr rfl)
  exact ⟨d, congrArg Prod.fst hcheck, hkind, hrelated.trans (hown _ hreport).symm⟩

end SegmentIndex

/-! ### Outlines -/

/-- The cause with its coordinates at the origin. -/
def Cause.withoutCoordinates : Cause → Cause
  | redundantMove _ => redundantMove Point.origin
  | duplicateToolpath _ _ first => duplicateToolpath Point.origin Point.origin first
  | cause => cause

/-- What a diagnostic says apart from coordinates. -/
structure Outline where
  line : Int
  redundant : Bool
  duplicate : Bool
  /-- The other line that the diagnostic is about. -/
  related? : Option Int
  /-- The cause, which tells the wording, without its coordinates. -/
  cause : Cause
  deriving DecidableEq

namespace Diagnostic

/-- What a diagnostic says apart from coordinates. -/
def outline (d : Diagnostic) : Outline :=
  ⟨d.line, d.isRedundantMove, d.isDuplicateToolpath, d.related?, d.cause.withoutCoordinates⟩

theorem outline_redundantMove (line : Int) (p q : Point Binary64) :
    outline ⟨line, .redundantMove p⟩ = outline ⟨line, .redundantMove q⟩ := by
  rw [outline, outline, isRedundantMove_mk, isRedundantMove_mk,
    isDuplicateToolpath_eq_false rfl (by simp), isDuplicateToolpath_eq_false rfl (by simp)]
  rfl

theorem outline_duplicateToolpath (line first : Int) (p q p' q' : Point Binary64) :
    outline ⟨line, .duplicateToolpath p q first⟩ =
      outline ⟨line, .duplicateToolpath p' q' first⟩ := by
  rw [outline, outline, isDuplicateToolpath_mk, isDuplicateToolpath_mk,
    isRedundantMove_eq_false rfl (by simp), isRedundantMove_eq_false rfl (by simp)]
  rfl

end Diagnostic

namespace SegmentIndex

/-- What is said, coordinates apart, about moves that are checked one after another, and how many
segments are remembered after each. -/
def outlines (tolerance : Binary64) (index : SegmentIndex) : List Move → List (Option Outline × Nat)
  | [] => []
  | move :: rest =>
      match index.check tolerance move with
      | (reported, after) =>
          (reported.map Diagnostic.outline, after.size) :: outlines tolerance after rest

/-! ### Directions -/

/-- Two indices remember equally many segments and have the same answers. -/
structure Agrees (tolerance : Binary64) (index other : SegmentIndex) : Prop where
  size_eq : index.size = other.size
  firstLine?_eq : ∀ s, index.firstLine? tolerance s = other.firstLine? tolerance s

namespace Agrees

variable {index other : SegmentIndex}

theorem refl (tolerance : Binary64) (index : SegmentIndex) : Agrees tolerance index index :=
  ⟨rfl, fun _ => rfl⟩

/-- Indices that agree say the same about a move and about the move in the other direction, and they
agree after it. -/
theorem check (h : Agrees tolerance index other) {move turned : Move}
    (hturned : turned = move ∨ turned = move.turned) :
    (index.check tolerance turned).1.map Diagnostic.outline =
        (other.check tolerance move).1.map Diagnostic.outline ∧
      Agrees tolerance (index.check tolerance turned).2 (other.check tolerance move).2 := by
  have hline : turned.line = move.line := by
    rcases hturned with rfl | rfl <;> rfl
  have hlength : turned.segment.start.near tolerance turned.segment.finish =
      move.segment.start.near tolerance move.segment.finish := by
    rcases hturned with rfl | rfl
    · rfl
    · exact Point.near_comm _ _ _
  have hlines : index.firstLine? tolerance turned.segment =
      other.firstLine? tolerance move.segment := by
    rcases hturned with rfl | rfl
    · exact h.firstLine?_eq _
    · exact (firstLine?_reverse _ _ _).trans (h.firstLine?_eq _)
  have hanswers : ∀ s, Entry.answers tolerance s ⟨turned.segment, turned.line⟩ =
      Entry.answers tolerance s ⟨move.segment, move.line⟩ := by
    intro s
    rcases hturned with rfl | rfl
    · rfl
    · exact Entry.answers_of_reverse _ _ _
  cases hnear : move.segment.start.near tolerance move.segment.finish with
  | true =>
      rw [check_of_near hnear, check_of_near (hlength.trans hnear), hline]
      exact ⟨congrArg some (Diagnostic.outline_redundantMove _ _ _), h⟩
  | false =>
      cases hfirst : other.firstLine? tolerance move.segment with
      | some first =>
          rw [check_of_some hnear hfirst,
            check_of_some (hlength.trans hnear) (hlines.trans hfirst), hline]
          exact ⟨congrArg some (Diagnostic.outline_duplicateToolpath _ _ _ _ _ _), h⟩
      | none =>
          rw [check_of_none hnear hfirst,
            check_of_none (hlength.trans hnear) (hlines.trans hfirst)]
          refine ⟨rfl, ?_, fun s => ?_⟩
          · rw [size_insert, size_insert, h.size_eq]
          · rw [firstLine?_insert, firstLine?_insert, h.firstLine?_eq, hanswers, hline]

/-- Indices that agree say the same about any moves, whichever of them are turned. -/
theorem outlines (h : Agrees tolerance index other) (places : Nat → Bool) (moves : List Move) :
    index.outlines tolerance (turnedAt places moves) = other.outlines tolerance moves := by
  induction moves generalizing index other places with
  | nil => rfl
  | cons move rest ih =>
      have hturned : (if places 0 then move.turned else move) = move ∨
          (if places 0 then move.turned else move) = move.turned := by
        cases places 0
        · exact .inl rfl
        · exact .inr rfl
      obtain ⟨hreport, hafter⟩ := h.check hturned
      rw [turnedAt, List.mapIdx_cons, SegmentIndex.outlines, SegmentIndex.outlines]
      refine congrArg₂ List.cons (Prod.ext hreport hafter.size_eq) ?_
      exact ih hafter fun place => places (place + 1)

end Agrees

/-- **Directions make no difference**: if some of the moves are turned round, the same is said about
all of them, coordinates apart, and equally many segments are remembered after each. -/
theorem outlines_turnedAt (tolerance : Binary64) (places : Nat → Bool) (moves : List Move) :
    empty.outlines tolerance (turnedAt places moves) = empty.outlines tolerance moves :=
  (Agrees.refl tolerance empty).outlines places moves

end SegmentIndex

end Toolpath
