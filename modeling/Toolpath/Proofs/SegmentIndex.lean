/-
**The remembered segments as a list.**

An index keeps segments in buckets by their fingerprints.  Seen from outside it is a list of
entries in order of arrival, and looking up a segment is a search through this list from its start.

Main definitions:

* `Toolpath.Entry.answers` — an entry is what a segment is looked up for;
* `Toolpath.SegmentIndex.Holds` — an index holds a list of entries.

Main results:

* `Toolpath.Entry.answers_self` — a finite segment is answered by its own entry;
* `Toolpath.SegmentIndex.Holds.insert` — one more entry comes after the others;
* `Toolpath.SegmentIndex.Holds.firstLine?_eq` — **looking up is searching the list**;
* `Toolpath.SegmentIndex.firstLine?_insert` — a new segment answers where no other one does;
* `Toolpath.SegmentIndex.firstLine?_reverse` — both directions of a segment have one answer.
-/

import Toolpath.Proofs.Box
import Toolpath.SegmentIndex

set_option relaxedAutoImplicit false
set_option autoImplicit false

namespace Toolpath

variable {tolerance : Binary64}

/-! ### Fingerprints -/

theorem exists_coordinateCode? {c : Binary64} (h : c.isNaN = false) :
    ∃ code, coordinateCode? c = some code := by
  cases c with
  | nan => cases h
  | infinite => exact ⟨_, rfl⟩
  | finite => exact ⟨_, rfl⟩

/-- The cell of a finite point has a code. -/
theorem exists_cellCode? (hpos : 0 < tolerance) {p : Point Binary64}
    (hp : ∀ axis, (p.on axis).isFinite = true) :
    ∃ code, cellCode? (cell tolerance p) = some code := by
  have hcode : ∀ axis, ∃ code,
      coordinateCode? ((p.on axis / tolerance).roundToWhole) = some code := fun axis =>
    exists_coordinateCode? (Binary64.isNaN_roundToWhole (Binary64.isNaN_div (hp axis) hpos))
  obtain ⟨x, hx⟩ := hcode .x
  obtain ⟨y, hy⟩ := hcode .y
  obtain ⟨z, hz⟩ := hcode .z
  refine ⟨mixCodes x y z, ?_⟩
  simp only [Point.on] at hx hy hz
  simp only [cellCode?, cell, Point.map, hx, hy, hz]

namespace Segment

/-- Both ends of a segment are at finite coordinates. -/
def IsFinite (s : Segment) : Prop :=
  ∀ axis, (s.start.on axis).isFinite = true ∧ (s.finish.on axis).isFinite = true

theorem exists_fingerprint? (hpos : 0 < tolerance) {s : Segment} (h : s.IsFinite) :
    ∃ fingerprint, s.fingerprint? tolerance = some fingerprint := by
  obtain ⟨a, ha⟩ := exists_cellCode? hpos fun axis => (h axis).1
  obtain ⟨b, hb⟩ := exists_cellCode? hpos fun axis => (h axis).2
  exact ⟨mixPair a b, by rw [fingerprint?, ha, hb]⟩

/-- A finite segment retraces itself. -/
theorem retraces_self (hpos : 0 < tolerance) {s : Segment} (h : s.IsFinite) :
    s.retraces tolerance s = true := by
  have hstart : s.start.near tolerance s.start = true :=
    Point.near_iff.2 fun axis => within_self (h axis).1 hpos
  have hfinish : s.finish.near tolerance s.finish = true :=
    Point.near_iff.2 fun axis => within_self (h axis).2 hpos
  rw [retraces, hstart, hfinish]
  rfl

/-- A segment and its reverse are matched by the same segments. -/
theorem reverse_retraces (tolerance : Binary64) (s t : Segment) :
    s.reverse.retraces tolerance t = s.retraces tolerance t := by
  rw [retraces, retraces, reverse, Bool.or_comm, Bool.and_comm, Bool.and_comm (s.finish.near _ _)]

end Segment

/-! ### Answers -/

/-- The entry is what a segment is looked up for: their fingerprints are the same, and the segments
match. -/
def Entry.answers (tolerance : Binary64) (s : Segment) (entry : Entry) : Bool :=
  entry.segment.sameFingerprint tolerance s && entry.segment.retraces tolerance s

namespace Entry

/-- An entry answers the same segments if its own is reversed. -/
theorem answers_of_reverse (s t : Segment) (line : Int) :
    answers tolerance t ⟨s.reverse, line⟩ = answers tolerance t ⟨s, line⟩ := by
  rw [answers, answers, Segment.sameFingerprint, Segment.sameFingerprint,
    Segment.fingerprint?_reverse, Segment.reverse_retraces]

/-- An entry answers its own segment. -/
theorem answers_self (hpos : 0 < tolerance) {entry : Entry} (h : entry.segment.IsFinite) :
    entry.answers tolerance entry.segment = true := by
  obtain ⟨fingerprint, hfingerprint⟩ := Segment.exists_fingerprint? hpos h
  rw [answers, Segment.sameFingerprint, hfingerprint, Segment.retraces_self hpos h]
  simp

end Entry

namespace SegmentIndex

variable {index : SegmentIndex} {entries : List Entry}

/-- The index holds these entries, in order of arrival: it counts all of them, and it finds those
that have a fingerprint. -/
structure Holds (tolerance : Binary64) (index : SegmentIndex) (entries : List Entry) : Prop where
  size_eq : index.size = entries.length
  bucket_eq (fingerprint : UInt64) : index.bucket fingerprint =
    entries.filter fun entry => entry.segment.fingerprint? tolerance = some fingerprint

namespace Holds

theorem empty (tolerance : Binary64) : Holds tolerance SegmentIndex.empty [] :=
  ⟨rfl, fun fingerprint => bucket_empty fingerprint⟩

theorem insert (h : Holds tolerance index entries) (entry : Entry) :
    Holds tolerance (index.insert tolerance entry) (entries ++ [entry]) := by
  refine ⟨?_, fun fingerprint => ?_⟩
  · rw [size_insert, h.size_eq, List.length_append, List.length_singleton]
  · rw [bucket_insert, List.filter_append, ← h.bucket_eq]
    by_cases hown : entry.segment.fingerprint? tolerance = some fingerprint
    · rw [if_pos hown]
      simp [hown]
    · rw [if_neg hown]
      simp [hown]

/-- **Looking up is searching the list**: of all entries that answer the first one counts. -/
theorem firstLine?_eq (h : Holds tolerance index entries) (s : Segment) :
    index.firstLine? tolerance s =
      (entries.find? fun entry => entry.answers tolerance s).map Entry.line := by
  unfold firstLine?
  cases hs : s.fingerprint? tolerance with
  | none =>
      have hnone : (entries.find? fun entry => entry.answers tolerance s) = none := by
        refine List.find?_eq_none.2 fun entry _ => ?_
        simp [Entry.answers, Segment.sameFingerprint, hs]
      rw [hnone]
      rfl
  | some fingerprint =>
      -- searching a bucket is searching the list for the fingerprint and the match at once
      dsimp only
      rw [h.bucket_eq, List.find?_filter]
      congr 2
      funext entry
      cases hown : entry.segment.fingerprint? tolerance with
      | none => simp [Entry.answers, Segment.sameFingerprint, hown]
      | some own =>
          by_cases hsame : own = fingerprint <;>
            simp [Entry.answers, Segment.sameFingerprint, hown, hs, hsame]

/-- A line that is found is that of an entry that answers, and no entry at a smaller line does. -/
theorem exists_entry (h : Holds tolerance index entries)
    (hsorted : entries.Pairwise fun e f => e.line < f.line) {s : Segment} {first : Int}
    (hfirst : index.firstLine? tolerance s = some first) :
    ∃ entry ∈ entries, entry.line = first ∧ entry.answers tolerance s = true ∧
      ∀ other ∈ entries, other.line < first → other.answers tolerance s = false := by
  rw [h.firstLine?_eq] at hfirst
  obtain ⟨entry, hfind, hline⟩ := Option.map_eq_some_iff.1 hfirst
  obtain ⟨hanswers, before, later, hsplit, hbefore⟩ := List.find?_eq_some_iff_append.1 hfind
  refine ⟨entry, List.mem_of_find?_eq_some hfind, hline, hanswers, ?_⟩
  intro other hother hless
  rw [hsplit] at hother hsorted
  rcases List.mem_append.1 hother with hother | hother
  · simpa using hbefore other hother
  · -- an entry that is not before the one that was found is at no smaller line
    have hlater := (List.pairwise_append.1 hsorted).2.1
    rcases List.mem_cons.1 hother with rfl | hother
    · omega
    · have := List.rel_of_pairwise_cons hlater hother
      omega

/-- If no line is found, no entry answers. -/
theorem answers_eq_false (h : Holds tolerance index entries) {s : Segment}
    (hnone : index.firstLine? tolerance s = none) {entry : Entry} (hentry : entry ∈ entries) :
    entry.answers tolerance s = false := by
  rw [h.firstLine?_eq, Option.map_eq_none_iff, List.find?_eq_none] at hnone
  simpa using hnone entry hentry

end Holds

/-! ### Looking up -/

/-- Both directions of a segment have one answer. -/
theorem firstLine?_reverse (tolerance : Binary64) (index : SegmentIndex) (s : Segment) :
    index.firstLine? tolerance s.reverse = index.firstLine? tolerance s := by
  rw [firstLine?, firstLine?, Segment.fingerprint?_reverse]
  simp only [Segment.retraces_reverse]

/-- A new segment answers where no other one does. -/
theorem firstLine?_insert (tolerance : Binary64) (index : SegmentIndex) (entry : Entry)
    (s : Segment) :
    (index.insert tolerance entry).firstLine? tolerance s =
      (index.firstLine? tolerance s).or
        (if entry.answers tolerance s then some entry.line else none) := by
  rw [firstLine?, firstLine?]
  cases hs : s.fingerprint? tolerance with
  | none =>
      have hanswers : entry.answers tolerance s = false := by
        simp [Entry.answers, Segment.sameFingerprint, hs]
      rw [hanswers]
      rfl
  | some fingerprint =>
      dsimp only
      rw [bucket_insert]
      by_cases hown : entry.segment.fingerprint? tolerance = some fingerprint
      · have hanswers : entry.answers tolerance s = entry.segment.retraces tolerance s := by
          simp [Entry.answers, Segment.sameFingerprint, hs, hown]
        rw [if_pos hown, List.find?_append, hanswers, List.find?_singleton]
        cases (index.bucket fingerprint).find? fun entry => entry.segment.retraces tolerance s <;>
          cases entry.segment.retraces tolerance s <;> rfl
      · -- the segment goes into another bucket
        have hanswers : entry.answers tolerance s = false := by
          cases hentry : entry.segment.fingerprint? tolerance with
          | none => simp [Entry.answers, Segment.sameFingerprint, hentry]
          | some own =>
              rw [hentry, Option.some.injEq] at hown
              simp [Entry.answers, Segment.sameFingerprint, hentry, hs, hown]
        rw [if_neg hown, hanswers]
        simp

end SegmentIndex

end Toolpath
