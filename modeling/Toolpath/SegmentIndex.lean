/-
**The segments that have been cut.**

The index remembers the first line of every segment.  A segment is found again through its
fingerprint: of the segments with the same fingerprint the first one that it retraces counts.

Main definitions:

* `Toolpath.SegmentIndex` — the remembered segments, by fingerprint and in order of arrival;
* `Toolpath.SegmentIndex.firstLine?` — the line where a segment was cut first;
* `Toolpath.Verdict`, `Toolpath.SegmentIndex.judge` — what a move is, and the index after it.

Main results:

* `Toolpath.SegmentIndex.bucket_insert` — a segment joins those of its fingerprint at their end.
-/

import Std.Data.TreeMap.Lemmas
import Toolpath.Diagnostic
import Toolpath.Segment

set_option relaxedAutoImplicit false
set_option autoImplicit false

namespace Toolpath

/-- A remembered segment, and the line where it was cut first. -/
structure Entry where
  segment : Segment
  line : Int
  deriving DecidableEq

/-- The remembered segments by their fingerprint, and their number. -/
structure SegmentIndex where
  buckets : Std.TreeMap UInt64 (List Entry) := ∅
  size : Nat := 0

namespace SegmentIndex

/-- No segments. -/
def empty : SegmentIndex := {}

/-- The remembered segments with a fingerprint, in order of arrival. -/
def bucket (index : SegmentIndex) (fingerprint : UInt64) : List Entry :=
  index.buckets.getD fingerprint []

@[simp] theorem bucket_empty (fingerprint : UInt64) : empty.bucket fingerprint = [] := by
  simp [empty, bucket]

/-- The index with one more segment.  A segment without fingerprint is counted, but it is not
found again. -/
def insert (tolerance : Binary64) (index : SegmentIndex) (entry : Entry) : SegmentIndex where
  buckets :=
    match entry.segment.fingerprint? tolerance with
    | some fingerprint =>
        index.buckets.insert fingerprint (index.bucket fingerprint ++ [entry])
    | none => index.buckets
  size := index.size + 1

@[simp] theorem size_insert (tolerance : Binary64) (index : SegmentIndex) (entry : Entry) :
    (index.insert tolerance entry).size = index.size + 1 := rfl

/-- A segment joins those of its fingerprint at their end. -/
theorem bucket_insert (tolerance : Binary64) (index : SegmentIndex) (entry : Entry)
    (fingerprint : UInt64) :
    (index.insert tolerance entry).bucket fingerprint =
      if entry.segment.fingerprint? tolerance = some fingerprint then
        index.bucket fingerprint ++ [entry]
      else index.bucket fingerprint := by
  cases h : entry.segment.fingerprint? tolerance with
  | none => simp [insert, bucket, h]
  | some own =>
      simp only [insert, bucket, h, Std.TreeMap.getD_insert, Option.some.injEq,
        Std.LawfulEqOrd.compare_eq_iff_eq]
      split
      · rename_i heq
        subst heq
        rfl
      · rfl

/-- The line where a segment was cut first. -/
def firstLine? (tolerance : Binary64) (index : SegmentIndex) (s : Segment) : Option Int :=
  match s.fingerprint? tolerance with
  | some fingerprint =>
      ((index.bucket fingerprint).find? fun entry => entry.segment.retraces tolerance s).map
        Entry.line
  | none => none

end SegmentIndex

/-! ### Verdicts -/

/-- What a move is. -/
inductive Verdict where
  /-- It cuts a segment for the first time. -/
  | fresh
  /-- It ends where it starts. -/
  | redundant
  /-- It retraces a segment that was cut at an earlier line. -/
  | duplicate (first : Int)
  deriving DecidableEq

/-- What there is to report about a move along a segment. -/
def Verdict.cause? (verdict : Verdict) (s : Segment) : Option Cause :=
  match verdict with
  | fresh => none
  | redundant => some (.redundantMove s.finish)
  | duplicate first => some (.duplicateToolpath s.start s.finish first)

/-- What the move along a segment at a line is, and the index after it: a segment that is cut for
the first time is remembered. -/
def SegmentIndex.judge (tolerance : Binary64) (index : SegmentIndex) (s : Segment) (line : Int) :
    Verdict × SegmentIndex :=
  if s.start.near tolerance s.finish then (.redundant, index)
  else
    match index.firstLine? tolerance s with
    | some first => (.duplicate first, index)
    | none => (.fresh, index.insert tolerance ⟨s, line⟩)

end Toolpath
