/-
**Segments of the toolpath.**

A segment is a straight piece between two points.  Two segments *match* when their ends agree
within the tolerance, in the same or in the reverse direction.  Looking up a segment among many
goes by its *fingerprint*, a number of 64 bits mixed from the unordered pair of the grid cells that
its ends lie in.  All segments with both ends in one cell have the same fingerprint, and other
segments can have the same one by chance.  Segments that match but whose ends lie in different
cells have different fingerprints, but for such chance.

Main definitions:

* `Toolpath.Segment`, `Toolpath.Segment.retraces` — segments, and when one retraces another;
* `Toolpath.cell` — the grid cell of a point;
* `Toolpath.Segment.fingerprint?` — the pair of cells mixed into one number.

Main results:

* `Toolpath.Segment.fingerprint?_reverse` — a segment and its reverse have one fingerprint.
-/

import Toolpath.Point

set_option relaxedAutoImplicit false
set_option autoImplicit false

namespace Toolpath

/-- A straight piece between two points. -/
structure Segment where
  start : Point Binary64
  finish : Point Binary64
  deriving DecidableEq

/-! ### Grid cells -/

/-- The grid cell of a point: its coordinates in tolerances, rounded to whole numbers and a tie to
the even one. -/
def cell (tolerance : Binary64) (p : Point Binary64) : Point Binary64 :=
  p.map fun c => (c / tolerance).roundToWhole

/-- The bits of a reduced cell coordinate. -/
def cellBits : Nat := 61

/-- The modulus that cell coordinates are reduced by. -/
def cellModulus : Nat := 2 ^ cellBits - 1

/-- The number that stands for an infinite cell coordinate. -/
def infiniteCode : Nat := 314159

/-- The number that stands for a cell coordinate: its remainder, with its sign.  Minus one is
counted as minus two, and a coordinate that is no number has no code. -/
def coordinateCode? : Binary64 → Option Int
  | .nan => none
  | .infinite negative => some (Binary64.signed negative infiniteCode)
  | .finite negative units _ =>
      let code := Binary64.signed negative (units / Binary64.one % cellModulus)
      some (if code = -1 then -2 else code)

/-- What the mixing of codes starts from. -/
def mixStart : UInt64 := 2870177450012600261

/-- A number of 64 bits with one more code mixed into it. -/
def mixIn (mixed : UInt64) (code : Int) : UInt64 :=
  let sum := mixed + UInt64.ofInt code * 14029467366897019727
  (sum <<< 31 ||| sum >>> 33) * 11400714785074694791

/-- The codes of three coordinates mixed into one number.  Different codes rarely give the same
number, but they can.  A number of ones only is replaced. -/
def mixCodes (x y z : Int) : UInt64 :=
  let mixed := mixIn (mixIn (mixIn mixStart x) y) z + (3 ^^^ mixStart ^^^ 3527539)
  if mixed = -1 then 1546275796 else mixed

/-- The number that stands for a grid cell. -/
def cellCode? (c : Point Binary64) : Option UInt64 :=
  match coordinateCode? c.x, coordinateCode? c.y, coordinateCode? c.z with
  | some x, some y, some z => some (mixCodes x y z)
  | _, _, _ => none

/-- An unordered pair of numbers as one number: where they differ in their bits.  It is zero for a
number paired with itself, and again there is none of ones only. -/
def mixPair (a b : UInt64) : UInt64 :=
  if a ^^^ b = -1 then -2 else a ^^^ b

theorem mixPair_comm (a b : UInt64) : mixPair a b = mixPair b a := by
  simp [mixPair, UInt64.xor_comm]

namespace Segment

/-- The segment in the other direction. -/
def reverse (s : Segment) : Segment := ⟨s.finish, s.start⟩

/-- The ends of two segments agree within the tolerance, in the same or in the reverse
direction. -/
def retraces (tolerance : Binary64) (s t : Segment) : Bool :=
  (s.start.near tolerance t.start && s.finish.near tolerance t.finish) ||
    (s.start.near tolerance t.finish && s.finish.near tolerance t.start)

/-- The unordered pair of the cells of both ends; none where a cell coordinate is no number. -/
def fingerprint? (tolerance : Binary64) (s : Segment) : Option UInt64 :=
  match cellCode? (cell tolerance s.start), cellCode? (cell tolerance s.finish) with
  | some a, some b => some (mixPair a b)
  | _, _ => none

/-- Two segments have fingerprints, and these are equal. -/
def sameFingerprint (tolerance : Binary64) (s t : Segment) : Bool :=
  match s.fingerprint? tolerance, t.fingerprint? tolerance with
  | some a, some b => a == b
  | _, _ => false

/-- A segment and its reverse have one fingerprint. -/
theorem fingerprint?_reverse (tolerance : Binary64) (s : Segment) :
    s.reverse.fingerprint? tolerance = s.fingerprint? tolerance := by
  unfold fingerprint? reverse
  cases cellCode? (cell tolerance s.start) <;> cases cellCode? (cell tolerance s.finish) <;>
    simp [mixPair_comm]

/-- A segment and its reverse match the same segments. -/
theorem retraces_reverse (tolerance : Binary64) (s t : Segment) :
    s.retraces tolerance t.reverse = s.retraces tolerance t := by
  simp [Segment.retraces, reverse, Bool.or_comm]

/-- The segment with its ends in the fewest digits that read back. -/
def text (s : Segment) : String :=
  "PathSegment(start=" ++ s.start.listed Binary64.shortest ++ ", end=" ++
    s.finish.listed Binary64.shortest ++ ")"

end Segment

end Toolpath
