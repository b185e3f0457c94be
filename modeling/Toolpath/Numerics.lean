/-
**Numerical routines.**

How long a vector is, at which angle a direction lies and what many numbers add up to is computed by
routines that all round in ways of their own.  Lengths, distances and times are defined with any
such routines.  The standard ones are what the programs run with: they round a root and an angle
once, and add pairwise.

Main definitions:

* `Toolpath.Numerics` — the routines;
* `Toolpath.Numerics.scalar` — doubles, to compute lengths with;
* `Toolpath.Numerics.standard` — the standard routines.
-/

import Toolpath.Binary64.Angle
import Toolpath.Binary64.Sum
import Toolpath.Scalar

set_option relaxedAutoImplicit false
set_option autoImplicit false

namespace Toolpath

/-- Routines over doubles that round in ways of their own. -/
class Numerics where
  /-- The length of a vector. -/
  norm : Point Binary64 → Binary64
  /-- The length of the longest side of a right triangle with these two other sides. -/
  hypotenuse : Binary64 → Binary64 → Binary64
  /-- The angle of the direction with the given ordinate and abscissa. -/
  angle : Binary64 → Binary64 → Binary64
  /-- The sum of a list. -/
  sum : List Binary64 → Binary64

namespace Numerics

/-- Lengths over doubles are computed with the routines. -/
instance scalar [Numerics] : Scalar Binary64 where
  zero := 0
  decideLT := inferInstance
  magnitude := Binary64.abs
  norm := norm
  hypotenuse := hypotenuse
  angle := angle
  turn := Binary64.fullTurn

/-- The root of the sum of the squares. -/
def rootOfSquares (p : Point Binary64) : Binary64 := (p.x * p.x + p.y * p.y + p.z * p.z).sqrt

/-- The standard routines. -/
@[reducible] def standard : Numerics where
  norm := rootOfSquares
  hypotenuse := Binary64.hypot
  angle := Binary64.angle
  sum := Binary64.sumHalves

end Numerics

end Toolpath
