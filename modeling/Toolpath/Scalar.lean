/-
**What lengths are computed with.**

The length of a move is the same formula over any numbers that have these operations.

Main definitions:

* `Toolpath.Scalar` — the operations that lengths need.
-/

import Toolpath.Point

set_option relaxedAutoImplicit false
set_option autoImplicit false

namespace Toolpath

/-- The operations that lengths need. -/
class Scalar (α : Type) extends Zero α, Add α, Sub α, Mul α, LT α where
  /-- Whether a number is less than another can be told. -/
  decideLT : DecidableLT α
  /-- The magnitude of a number. -/
  magnitude : α → α
  /-- The length of a vector with these coordinates. -/
  norm : Point α → α
  /-- The length of the longest side of a right triangle with these two other sides. -/
  hypotenuse : α → α → α
  /-- The angle of the direction with the given ordinate and abscissa. -/
  angle : α → α → α
  /-- A full turn. -/
  turn : α

instance Scalar.instDecidableLT {α : Type} [Scalar α] : DecidableLT α := Scalar.decideLT

end Toolpath
