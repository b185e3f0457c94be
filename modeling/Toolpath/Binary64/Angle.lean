/-
**The angle of a direction in the plane.**

The angle of the direction `(x, y)` is computed from the exact quotient of the two coordinates in
fixed point and rounded once at the end.  The quotient of the smaller coordinate to the larger is
kept to more than 128 significant bits; the arc tangent of a quotient up to two fifths is its
alternating series, and larger quotients are turned back by an eighth of a turn first.

Main definitions:

* `Toolpath.Binary64.pi`, `Toolpath.Binary64.fullTurn` — half a turn and a full turn;
* `Toolpath.Binary64.arctanFixed` — the arc tangent of a small quotient, in fixed point;
* `Toolpath.Binary64.angle` — the angle of a direction, between minus half a turn and half a turn.
-/

import Toolpath.Binary64.Basic

set_option relaxedAutoImplicit false
set_option autoImplicit false

namespace Toolpath

namespace Binary64

/-! ### Turns -/

/-- The bits after the point of `piFixed`. -/
def piBits : Nat := 256

/-- Half a turn in radians, with `piBits` bits after the point, rounded down. -/
def piFixed : Nat :=
  363771576891766324280234942777729862653393377328392429958772151117938894466185

/-- Half a turn in radians. -/
def pi : Binary64 := ofRatio false (piFixed * one) (2 ^ piBits)

/-- A full turn in radians. -/
def fullTurn : Binary64 := 2 * pi

/-! ### The arc tangent in fixed point -/

/-- `1 / (2k+1) - s / (2k+3) + s² / (2k+5) - …` with the given number of terms, where `s` is
`square` and all numbers have `bits` bits after the point. -/
def arctanSeries (bits square : Nat) : Nat → Nat → Nat
  | 0, _ => 0
  | terms + 1, k =>
      2 ^ bits / (2 * k + 1) - square * arctanSeries bits square terms (k + 1) / 2 ^ bits

/-- The arc tangent of `t`, both with `bits` bits after the point.  For `t` up to two fifths the
sixty terms leave less than `2^(-160)` of it. -/
def arctanFixed (bits t : Nat) : Nat :=
  t * arctanSeries bits (t * t / 2 ^ bits) 60 0 / 2 ^ bits

/-- The arc tangent of `a / b` for `a ≤ b`, as a quotient whose denominator is a power of two. -/
def arctanRatio (a b : Nat) : Nat × Nat :=
  let bits := 192 + (b.log2 - a.log2)
  if 5 * a ≤ 2 * b then (arctanFixed bits (a * 2 ^ bits / b), 2 ^ bits)
  else
    let back := arctanFixed bits ((b - a) * 2 ^ bits / (b + a))
    (piFixed * 2 ^ bits - back * 2 ^ (piBits + 2), 2 ^ (bits + piBits + 2))

/-- The angle of a direction in the first quadrant, as a quotient. -/
def quadrantRatio (x y : Nat) : Nat × Nat :=
  if y ≤ x then arctanRatio y x
  else
    let rest := arctanRatio x y
    (piFixed * rest.2 - rest.1 * 2 ^ (piBits + 1), 2 ^ (piBits + 1) * rest.2)

/-! ### The angle -/

/-- The sign and the magnitude of a coordinate, where all infinities count as one and, beside an
infinity, all other magnitudes as none; none for a not-a-number. -/
def extent? (besideInfinity : Bool) : Binary64 → Option (Bool × Nat)
  | finite negative units _ => some (negative, if besideInfinity then 0 else units)
  | infinite negative => some (negative, 1)
  | nan => none

/-- The double is an infinity. -/
def isInfinite : Binary64 → Bool
  | infinite _ => true
  | _ => false

/-- The angle of the direction with ordinate `y` and abscissa `x`, with the sign of `y`.  A
direction without extent lies on the horizontal axis, on the side that the sign of `x` tells. -/
def angle (y x : Binary64) : Binary64 :=
  let besideInfinity := x.isInfinite || y.isInfinite
  match y.extent? besideInfinity, x.extent? besideInfinity with
  | some (below, rise), some (left, run) =>
      let acute := if rise = 0 then (0, 1) else quadrantRatio run rise
      let ratio :=
        if left then
          (piFixed * acute.2 - acute.1 * 2 ^ piBits, 2 ^ piBits * acute.2)
        else acute
      ofRatio below (ratio.1 * one) ratio.2
  | _, _ => nan

end Binary64

end Toolpath
