/-
**Doubles written in decimal.**

Three ways to write a double, all from its exact value: with a fixed number of places, with a
fixed number of significant digits and an exponent, and with the fewest digits that read back as
the same double.

Main definitions:

* `Toolpath.Binary64.fixed` — a fixed number of places, a tie going to the even digit;
* `Toolpath.Binary64.scientific` — a fixed number of significant digits, with an exponent;
* `Toolpath.Binary64.shortest` — the fewest digits that read back, positional from a
  ten-thousandth up to below ten to the sixteenth, scientific outside.

A zero, and a magnitude that rounds to zero, keeps its minus sign.
-/

import Toolpath.Binary64.Basic

set_option relaxedAutoImplicit false
set_option autoImplicit false

namespace Toolpath

/-! ### Digits of a natural number -/

/-- The last `width` decimal digits of a number, with leading zeros. -/
def paddedDigits : Nat → Nat → List Char
  | 0, _ => []
  | width + 1, n => paddedDigits width (n / 10) ++ [Nat.digitChar (n % 10)]

@[simp] theorem length_paddedDigits (width n : Nat) : (paddedDigits width n).length = width := by
  induction width generalizing n with
  | zero => rfl
  | succ width ih => simp [paddedDigits, ih]

/-- A number of `10^(-places)` parts with a point before its last `places` digits; without a
point if there are no places. -/
def pointedDigits (places n : Nat) : List Char :=
  Nat.toDigits 10 (n / 10 ^ places) ++
    if places = 0 then [] else '.' :: paddedDigits places (n % 10 ^ places)

namespace Binary64

/-- The minus sign of a negative number. -/
def signText (negative : Bool) : List Char := if negative then ['-'] else []

/-! ### A fixed number of places -/

/-- The double with `places` digits after the point, rounded from its exact value and a tie to
the even digit. -/
def fixed (places : Nat) : Binary64 → String
  | nan => "nan"
  | infinite negative => String.ofList (signText negative ++ ['i', 'n', 'f'])
  | finite negative units _ =>
      String.ofList (signText negative ++
        pointedDigits places (roundHalfEven (units * 10 ^ places) one))

/-! ### Decimal exponents -/

/-- The decimal exponent of a positive number of units: the greatest `e` such that ten to the
`e` is no larger. -/
def decimalExponent (units : Nat) : Int :=
  if one ≤ units then ((Nat.toDigits 10 (units / one)).length : Int) - 1
  else -((Nat.toDigits 10 ((one + units - 1) / units - 1)).length : Int)

/-- The exact value of `units` times ten to the `places`, as a quotient. -/
def scaledRatio (units : Nat) (places : Int) : Nat × Nat :=
  if places < 0 then (units, one * 10 ^ places.natAbs) else (units * 10 ^ places.natAbs, one)

/-- An exponent with its sign and at least two digits. -/
def exponentText (exponent : Int) : List Char :=
  'e' :: (if exponent < 0 then '-' else '+') ::
    if exponent.natAbs < 10 then paddedDigits 2 exponent.natAbs
    else Nat.toDigits 10 exponent.natAbs

/-- The first digit, a point and the other digits if there are any, and the exponent. -/
def scientificLayout (digits : List Char) (exponent : Int) : List Char :=
  digits.take 1 ++ (if digits.length ≤ 1 then [] else '.' :: digits.drop 1) ++
    exponentText exponent

/-! ### A fixed number of significant digits -/

/-- The double as one digit, a point, `places` digits and an exponent, rounded from its exact
value and a tie to the even digit. -/
def scientific (places : Nat) : Binary64 → String
  | nan => "nan"
  | infinite negative => String.ofList (signText negative ++ ['i', 'n', 'f'])
  | finite negative units _ =>
      if units = 0 then
        String.ofList (signText negative ++ scientificLayout (paddedDigits (places + 1) 0) 0)
      else
        let exponent := decimalExponent units
        let ratio := scaledRatio units (places - exponent)
        let digits := Nat.toDigits 10 (roundHalfEven ratio.1 ratio.2)
        -- a carry out of the first digit adds a digit and moves the exponent
        String.ofList (signText negative ++ scientificLayout (digits.take (places + 1))
          (exponent + (digits.length - (places + 1) : Nat)))

/-! ### The fewest digits that read back -/

/-- The decimal `digits * 10^(-places)` reads back as the double with this magnitude. -/
def readsBack (units digits : Nat) (places : Int) : Bool :=
  if places < 0 then nearestUnits (digits * 10 ^ places.natAbs * one) 1 == units
  else nearestUnits (digits * one) (10 ^ places.natAbs) == units

/-- The decimal of `count` digits that reads back, if there is one: of the two neighbours with
that many digits the nearer is tried first. -/
def readingBack? (units : Nat) (exponent : Int) (count : Nat) : Option Nat :=
  let places : Int := (count : Int) - 1 - exponent
  let ratio := scaledRatio units places
  let below := ratio.1 / ratio.2
  let near := roundHalfEven ratio.1 ratio.2
  let far := if near = below then below + 1 else below
  if readsBack units near places then some near
  else if readsBack units far places then some far
  else none

/-- The digits that read back from the first of the given digit counts that has any, with that
count. -/
def firstReadingBack (units : Nat) (exponent : Int) : List Nat → Nat × Nat
  | [] => (0, 1)
  | count :: counts =>
      match readingBack? units exponent count with
      | some digits => (digits, count)
      | none => firstReadingBack units exponent counts

/-- Digits in positional notation, with at least one digit on both sides of the point; the first
digit counts ten to the `exponent`. -/
def positionalLayout (digits : List Char) (exponent : Int) : List Char :=
  if exponent < 0 then
    '0' :: '.' :: List.replicate (exponent.natAbs - 1) '0' ++ digits
  else
    let whole := digits.take (exponent.natAbs + 1)
    let fraction := digits.drop (exponent.natAbs + 1)
    whole ++ List.replicate (exponent.natAbs + 1 - digits.length) '0' ++
      '.' :: if fraction.isEmpty then ['0'] else fraction

/-- The double with the fewest digits that read back.  Seventeen digits always do. -/
def shortest : Binary64 → String
  | nan => "nan"
  | infinite negative => String.ofList (signText negative ++ ['i', 'n', 'f'])
  | finite negative units _ =>
      if units = 0 then String.ofList (signText negative ++ ['0', '.', '0'])
      else
        let found := firstReadingBack units (decimalExponent units) (List.range' 1 17)
        let digits := Nat.toDigits 10 found.1
        let exponent := decimalExponent units + (digits.length - found.2 : Nat)
        let digits := (digits.reverse.dropWhile (· == '0')).reverse
        String.ofList (signText negative ++
          if -4 ≤ exponent ∧ exponent < 16 then positionalLayout digits exponent
          else scientificLayout digits exponent)

end Binary64

end Toolpath
