/-
**Points of the machine's space.**

Main definitions:

* `Toolpath.Point` — the coordinates of a point on the three axes;
* `Toolpath.Point.near` — two points agree on every axis within a tolerance.
-/

import Toolpath.Binary64.Decimal

set_option relaxedAutoImplicit false
set_option autoImplicit false

namespace Toolpath

/-- The coordinates of a point on the three axes. -/
structure Point (α : Type) where
  x : α
  y : α
  z : α
  deriving DecidableEq

namespace Point

/-- The point with every coordinate replaced by its image. -/
def map {α β : Type} (f : α → β) (p : Point α) : Point β := ⟨f p.x, f p.y, f p.z⟩

/-- The point whose coordinates are combined from those of two points, axis by axis. -/
def zipWith {α β γ : Type} (f : α → β → γ) (p : Point α) (q : Point β) : Point γ :=
  ⟨f p.x q.x, f p.y q.y, f p.z q.z⟩

/-- The same coordinate on all axes. -/
def diagonal {α : Type} (c : α) : Point α := ⟨c, c, c⟩

/-- The point where the machine starts. -/
def origin : Point Binary64 := diagonal 0

end Point

/-- Two numbers differ by less than a tolerance. -/
def within (tolerance a b : Binary64) : Bool := decide ((a - b).abs < tolerance)

namespace Point

/-- Two points agree on every axis within a tolerance. -/
def near (tolerance : Binary64) (p q : Point Binary64) : Bool :=
  within tolerance p.x q.x && within tolerance p.y q.y && within tolerance p.z q.z

/-- The coordinates in parentheses, as some text for each. -/
def listed (text : Binary64 → String) (p : Point Binary64) : String :=
  "(" ++ text p.x ++ ", " ++ text p.y ++ ", " ++ text p.z ++ ")"

end Point

end Toolpath
