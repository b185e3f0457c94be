/-
**The box around the points that the tool reaches.**

The box is kept as its two corners.  A box around no points has its corners at the infinities the
wrong way round, so that the first point replaces both.

Main definitions:

* `Toolpath.Bounds` — the corners of a box;
* `Toolpath.Bounds.grow` — the box with one more point in it;
* `Toolpath.Bounds.around` — the box around a list of points.

Main results:

* `Toolpath.Bounds.around_append` — points can be taken in one part after another.
-/

import Toolpath.Point

set_option relaxedAutoImplicit false
set_option autoImplicit false

namespace Toolpath

/-- The corners of a box: the least and the greatest coordinate on every axis. -/
structure Bounds where
  least : Point Binary64
  greatest : Point Binary64
  deriving DecidableEq

namespace Bounds

/-- The box around no points. -/
def empty : Bounds where
  least := Point.diagonal (.infinite false)
  greatest := Point.diagonal (.infinite true)

/-- The box with one more point in it.  A coordinate that is no number moves no corner. -/
def grow (bounds : Bounds) (p : Point Binary64) : Bounds where
  least := Point.zipWith Binary64.least bounds.least p
  greatest := Point.zipWith Binary64.greatest bounds.greatest p

/-- The box around a list of points. -/
def around (points : List (Point Binary64)) : Bounds := points.foldl grow empty

@[simp] theorem around_nil : around [] = empty := rfl

/-- Points can be taken in one part after another. -/
theorem around_append (ps qs : List (Point Binary64)) :
    around (ps ++ qs) = qs.foldl grow (around ps) := by
  simp [around]

/-- The extent of the box along every axis. -/
def size (bounds : Bounds) : Point Binary64 :=
  Point.zipWith (fun high low => high - low) bounds.greatest bounds.least

end Bounds

end Toolpath
