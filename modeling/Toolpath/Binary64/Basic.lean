/-
**IEEE 754 doubles as exact whole numbers of the smallest positive double.**

Every finite double is a whole multiple of `2^(-1074)`, the smallest positive one.  A finite
`Toolpath.Binary64` therefore holds its sign and the number of those *units*, together with the
proof that the units have at most 53 significant bits.  Sums, differences, products and
quotients are taken exactly on whole numbers and rounded once, to the nearest double and a tie to
the one with even significand; so equality of values of this type is identity of doubles, with
one not-a-number, and every operation computes in the kernel.

Main definitions:

* `Toolpath.Binary64` — doubles: finite, infinite, or not a number;
* `Toolpath.Binary64.nearestUnits` — the units nearest an exact quotient of units;
* `Toolpath.Binary64.ofRatio` — the double nearest an exact quotient of units;
* `Toolpath.Binary64.rank?` — the place of a double in the order, which a not-a-number has not.

Main results:

* `Toolpath.Binary64.nearestUnits_dvd` — what rounding yields has at most 53 significant bits.
-/

import Toolpath.Rounding

set_option relaxedAutoImplicit false
set_option autoImplicit false

namespace Toolpath

namespace Binary64

/-! ### Units -/

/-- The binary exponent of one, in units. -/
def unitExponent : Nat := 1074

/-- The binary exponent of the least magnitude that no finite double has, in units. -/
def limitExponent : Nat := 2098

/-- The number of units in one. -/
def one : Nat := 2 ^ unitExponent

/-- The least number of units that no finite double has. -/
def limit : Nat := 2 ^ limitExponent

theorem one_pos : 0 < one := Nat.two_pow_pos unitExponent

theorem limit_pos : 0 < limit := Nat.two_pow_pos limitExponent

/-- The binary exponent of the distance between neighbouring doubles around `units`: the 53 bits
of a significand reach that far down. -/
def spacing (units : Nat) : Nat := units.log2 - 52

/-- A finite double has this number of units: 53 significant bits hold it, and it is in range. -/
def Representable (units : Nat) : Prop :=
  2 ^ spacing units ∣ units ∧ units < limit

instance (units : Nat) : Decidable (Representable units) :=
  inferInstanceAs (Decidable (_ ∧ _))

/-- The units nearest the exact quotient `num / den` among the multiples of the distance between
doubles there; a tie goes to the even multiple. -/
def nearestUnits (num den : Nat) : Nat :=
  let step := 2 ^ spacing (num / den)
  roundHalfEven num (den * step) * step

/-- Doubles are no further apart than `2^s` around a multiple of `2^s` below `2^(53+s)`. -/
theorem spacing_mul_le {s m : Nat} (h : m < 2 ^ (53 : Nat)) : spacing (m * 2 ^ s) ≤ s := by
  unfold spacing
  rcases Nat.eq_zero_or_pos m with rfl | hpos
  · simp
  · have hlt : m * 2 ^ s < 2 ^ (53 + s) := by
      rw [Nat.pow_add]
      exact Nat.mul_lt_mul_of_pos_right h (Nat.two_pow_pos s)
    have hne : m * 2 ^ s ≠ 0 := Nat.ne_of_gt (Nat.mul_pos hpos (Nat.two_pow_pos s))
    have := (Nat.log2_lt hne).2 hlt
    omega

theorem spacing_two_pow (s : Nat) : spacing (2 ^ (53 : Nat) * 2 ^ s) = s + 1 := by
  rw [← Nat.pow_add, spacing, Nat.log2_two_pow]
  omega

/-- Multiples of `2^s` of at most `2^(53+s)` have no more than 53 significant bits. -/
theorem spacing_mul_dvd {s m : Nat} (h : m ≤ 2 ^ (53 : Nat)) :
    2 ^ spacing (m * 2 ^ s) ∣ m * 2 ^ s := by
  rcases Nat.lt_or_ge m (2 ^ (53 : Nat)) with hm | hm
  · exact Nat.dvd_trans (Nat.pow_dvd_pow 2 (spacing_mul_le hm)) (Nat.dvd_mul_left _ _)
  · rw [Nat.le_antisymm h hm, spacing_two_pow, ← Nat.pow_add]
    exact Nat.pow_dvd_pow 2 (by omega)

/-- A quotient rounds to at most `2^53` times the distance between doubles there. -/
theorem roundHalfEven_spacing_le (num : Nat) {den : Nat} (hden : 0 < den) :
    roundHalfEven num (den * 2 ^ spacing (num / den)) ≤ 2 ^ (53 : Nat) := by
  refine roundHalfEven_le (Nat.mul_pos hden (Nat.two_pow_pos _)) ?_
  have hlt : num / den < 2 ^ ((num / den).log2 + 1) := Nat.lt_log2_self
  have hpow : (num / den).log2 + 1 ≤ 53 + spacing (num / den) := by
    unfold spacing; omega
  have hlt' : num / den < 2 ^ (53 + spacing (num / den)) :=
    Nat.lt_of_lt_of_le hlt (Nat.pow_le_pow_right (by decide) hpow)
  rw [Nat.pow_add] at hlt'
  have := (Nat.div_lt_iff_lt_mul hden).1 hlt'
  calc num ≤ 2 ^ (53 : Nat) * 2 ^ spacing (num / den) * den := Nat.le_of_lt this
    _ = 2 ^ (53 : Nat) * (den * 2 ^ spacing (num / den)) := by
      rw [Nat.mul_comm den, Nat.mul_assoc]

/-- What rounding yields has at most 53 significant bits. -/
theorem nearestUnits_dvd (num : Nat) {den : Nat} (hden : 0 < den) :
    2 ^ spacing (nearestUnits num den) ∣ nearestUnits num den :=
  spacing_mul_dvd (roundHalfEven_spacing_le num hden)

theorem representable_zero : Representable 0 :=
  ⟨Nat.dvd_zero _, limit_pos⟩

end Binary64

/-! ### The type -/

/-- An IEEE 754 double.  A finite one has a sign, which a zero has too, and a magnitude in units
of the smallest positive double. -/
inductive Binary64 where
  | finite (negative : Bool) (units : Nat) (representable : Binary64.Representable units)
  | infinite (negative : Bool)
  | nan
  deriving DecidableEq

namespace Binary64

/-- The zero of a sign. -/
def signedZero (negative : Bool) : Binary64 :=
  finite negative 0 representable_zero

/-- The double nearest `num / den` units, with the given sign; an infinity when the nearest
number of units is out of range. -/
def ofRatio (negative : Bool) (num den : Nat) : Binary64 :=
  if hden : 0 < den then
    if hlimit : nearestUnits num den < limit then
      finite negative (nearestUnits num den) ⟨nearestUnits_dvd num hden, hlimit⟩
    else infinite negative
  else nan

/-- The double nearest a whole number. -/
def ofInt (n : Int) : Binary64 := ofRatio (decide (n < 0)) (n.natAbs * one) 1

instance (n : Nat) : OfNat Binary64 n := ⟨ofInt n⟩

instance : Inhabited Binary64 := ⟨signedZero false⟩

/-- The double nearest a decimal fraction: `digits`, with the last `places` of them after the
point. -/
def ofDecimal (negative : Bool) (digits places : Nat) : Binary64 :=
  ofRatio negative (digits * one) (10 ^ places)

/-- The most digits before the point that a finite double has, or more. -/
def mostDigits : Int := 310

/-- The fewest zeros right after the point that a double rounded to zero has, or more. -/
def mostZeros : Int := 330

/-- The double nearest `digits` times ten to the `exponent`.  What is out of range by its number
of digits alone is not computed. -/
def ofPowerOfTen (negative : Bool) (digits : Nat) (exponent : Int) : Binary64 :=
  let place := (Nat.toDigits 10 digits).length + exponent
  if digits = 0 then signedZero negative
  else if mostDigits < place then infinite negative
  else if place < -mostZeros then signedZero negative
  else if exponent < 0 then ofDecimal negative digits exponent.natAbs
  else ofDecimal negative (digits * 10 ^ exponent.natAbs) 0

instance : OfScientific Binary64 where
  ofScientific digits small exponent :=
    if small then ofDecimal false digits exponent else ofInt (digits * 10 ^ exponent)

/-- The double is a finite number. -/
def isFinite : Binary64 → Bool
  | finite .. => true
  | _ => false

/-- The double is not a number. -/
def isNaN : Binary64 → Bool
  | nan => true
  | _ => false

/-- The number of units of a finite double without its sign; none for the others. -/
def magnitude : Binary64 → Nat
  | finite _ units _ => units
  | _ => 0

/-- A magnitude with a sign, as a whole number. -/
def signed (negative : Bool) (magnitude : Nat) : Int :=
  if negative then -(magnitude : Int) else magnitude

/-! ### Order -/

/-- The place of a double in the order: its signed units, an infinity lying just out of range.
Both zeros have one place, and a not-a-number has none. -/
def rank? : Binary64 → Option Int
  | finite negative units _ => some (signed negative units)
  | infinite negative => some (signed negative limit)
  | nan => none

/-- The first double is smaller.  A not-a-number is neither smaller nor larger than any. -/
def lt (a b : Binary64) : Bool :=
  match a.rank?, b.rank? with
  | some p, some q => decide (p < q)
  | _, _ => false

instance : LT Binary64 := ⟨fun a b => a.lt b = true⟩

instance (a b : Binary64) : Decidable (a < b) := inferInstanceAs (Decidable (a.lt b = true))

/-- The smaller of two doubles; the first where neither is smaller. -/
def least (a b : Binary64) : Binary64 := if b < a then b else a

/-- The larger of two doubles; the first where neither is larger. -/
def greatest (a b : Binary64) : Binary64 := if a < b then b else a

/-! ### Arithmetic -/

/-- The double with its sign changed. -/
def neg : Binary64 → Binary64
  | finite negative units h => finite (!negative) units h
  | infinite negative => infinite (!negative)
  | nan => nan

instance : Neg Binary64 := ⟨neg⟩

/-- The double without its sign. -/
def abs : Binary64 → Binary64
  | finite _ units h => finite false units h
  | infinite _ => infinite false
  | nan => nan

/-- The sum, rounded once.  Opposite infinities have no sum, and a sum of zero is negative only
if both summands are. -/
def add : Binary64 → Binary64 → Binary64
  | nan, _ => nan
  | _, nan => nan
  | infinite s, infinite t => if s = t then infinite s else nan
  | infinite s, _ => infinite s
  | _, infinite t => infinite t
  | finite s u _, finite t v _ =>
      let total := signed s u + signed t v
      if total = 0 then signedZero (s && t)
      else ofRatio (decide (total < 0)) total.natAbs 1

instance : Add Binary64 := ⟨add⟩

/-- The difference, rounded once. -/
def sub (a b : Binary64) : Binary64 := a + -b

instance : Sub Binary64 := ⟨sub⟩

/-- The product, rounded once.  An infinity times zero is not a number. -/
def mul : Binary64 → Binary64 → Binary64
  | nan, _ => nan
  | _, nan => nan
  | infinite s, infinite t => infinite (s != t)
  | infinite s, finite t v _ => if v = 0 then nan else infinite (s != t)
  | finite s u _, infinite t => if u = 0 then nan else infinite (s != t)
  | finite s u _, finite t v _ => ofRatio (s != t) (u * v) one

instance : Mul Binary64 := ⟨mul⟩

/-- The quotient, rounded once.  Division by zero gives an infinity, or no number for zero
itself; two infinities have no quotient. -/
def div : Binary64 → Binary64 → Binary64
  | nan, _ => nan
  | _, nan => nan
  | infinite _, infinite _ => nan
  | infinite s, finite t _ _ => infinite (s != t)
  | finite s _ _, infinite t => signedZero (s != t)
  | finite s u _, finite t v _ =>
      if v = 0 then (if u = 0 then nan else infinite (s != t))
      else ofRatio (s != t) (u * one) v

instance : Div Binary64 := ⟨div⟩

/-- The double nearest the square root of `n` square units.  A root that is no whole number lies
strictly between two halves of a unit, and one quarter between them stands for it. -/
def ofRoot (n : Nat) : Binary64 :=
  let halves := squareRoot (4 * n)
  ofRatio false (2 * halves + if halves * halves = 4 * n then 0 else 1) 4

/-- The square root, rounded once.  Negative numbers have none, and a zero keeps its sign. -/
def sqrt : Binary64 → Binary64
  | nan => nan
  | infinite negative => if negative then nan else infinite false
  | finite negative units h =>
      if units = 0 then finite negative units h
      else if negative then nan
      else ofRoot (units * one)

/-- The square root of the sum of two squares, rounded once and without overflow on the way.  An
infinite side makes it infinite, whatever the other side is. -/
def hypot : Binary64 → Binary64 → Binary64
  | infinite _, _ => infinite false
  | _, infinite _ => infinite false
  | nan, _ => nan
  | _, nan => nan
  | finite _ u _, finite _ v _ => ofRoot (u * u + v * v)

/-! ### Whole numbers -/

/-- The nearest whole number, as a double with the sign kept; a tie goes to the even one. -/
def roundToWhole : Binary64 → Binary64
  | finite negative units _ => ofRatio negative (roundHalfEven units one * one) 1
  | x => x

/-- The least whole number that is no smaller; none for an infinity or a not-a-number. -/
def ceil? : Binary64 → Option Int
  | finite negative units _ =>
      let whole : Int := units / one
      if negative then some (-whole)
      else some (if units % one = 0 then whole else whole + 1)
  | _ => none

end Binary64

end Toolpath
