/-
**How near a rounded result is to the exact one.**

A sum, a product or a quotient of doubles is rounded once.  Apart from the largest numbers, that
takes it away from the exact result by no more than `2^(-53)` of its magnitude, and by hardly more
near zero.  One bound is enough for numbers of the size of a workpiece: the magnitude and one more,
over `2^53`.

Main definitions:

* `Toolpath.Binary64.value` — the number that a double stands for;
* `Toolpath.Binary64.Rounded` — a double is as near to a number as one rounding leaves it.

Main results:

* `Toolpath.Binary64.dist_nearestUnits_le` — the error of rounding a quotient of units;
* `Toolpath.Binary64.rounded_add`, `Toolpath.Binary64.rounded_mul`, `Toolpath.Binary64.rounded_div`,
  `Toolpath.Binary64.rounded_ofParts` — **what is computed or read is near to what is meant**;
* `Toolpath.Binary64.toleranceUnits_le` — how large the tolerance is.
-/

import Mathlib.Tactic.Linarith
import Mathlib.Tactic.Positivity
import Toolpath.Proofs.FixedPlaces
import Toolpath.Proofs.Order

set_option relaxedAutoImplicit false
set_option autoImplicit false

namespace Toolpath

namespace Binary64

/-! ### Quotients of units -/

/-- **The error of rounding a quotient of units**: half the distance between doubles, which is one
unit near zero and small beside the quotient elsewhere. -/
theorem dist_nearestUnits_le (num : Nat) {den : Nat} (hden : 0 < den) :
    2 ^ 53 * Nat.dist (nearestUnits num den * den) num ≤ num + 2 ^ 52 * den := by
  have hstep : 0 < den * 2 ^ spacing (num / den) := Nat.mul_pos hden (Nat.two_pow_pos _)
  have hgrid : nearestUnits num den * den =
      roundHalfEven num (den * 2 ^ spacing (num / den)) * (den * 2 ^ spacing (num / den)) := by
    rw [nearestUnits]
    ring
  have hhalf := two_mul_dist_roundHalfEven_le num hstep
  rw [← hgrid] at hhalf
  rcases Nat.eq_zero_or_pos (spacing (num / den)) with hzero | hpos
  · rw [hzero, Nat.pow_zero, Nat.mul_one] at hhalf
    omega
  · have hquotient := (Nat.le_div_iff_mul_le hden).1 (le_of_spacing_pos hpos)
    have hnum : 2 ^ 52 * (den * 2 ^ spacing (num / den)) ≤ num := by
      calc 2 ^ 52 * (den * 2 ^ spacing (num / den))
          = 2 ^ 52 * 2 ^ spacing (num / den) * den := by ring
        _ ≤ num := hquotient
    omega

/-! ### Values -/

/-- The number that a finite double stands for. -/
def value (c : Binary64) : ℚ := c.place / one

/-- A double is finite, and as near to a number as one rounding leaves it. -/
structure Rounded (c : Binary64) (q : ℚ) : Prop where
  isFinite : c.isFinite = true
  error_le : |c.value - q| ≤ (|q| + 1) / 2 ^ 53

/-- The factor of a sign. -/
def signFactor (negative : Bool) : ℚ := if negative then -1 else 1

theorem cast_signed (negative : Bool) (n : Nat) :
    ((signed negative n : Int) : ℚ) = signFactor negative * n := by
  cases negative <;> simp [signed, signFactor]

theorem abs_signFactor (negative : Bool) : |signFactor negative| = 1 := by
  cases negative <;> simp [signFactor]

/-- A whole number is its magnitude with its sign. -/
theorem signFactor_mul_natAbs (n : Int) : signFactor (decide (n < 0)) * n.natAbs = (n : ℚ) := by
  have hcast : ((n.natAbs : Nat) : ℚ) = |(n : ℚ)| := by
    rw [Nat.cast_natAbs, Int.cast_abs]
  rcases lt_or_ge n 0 with h | h
  · rw [hcast, decide_eq_true h, abs_of_neg (Int.cast_lt_zero.2 h), signFactor, if_pos rfl]
    ring
  · rw [hcast, decide_eq_false (not_lt.2 h), abs_of_nonneg (Int.cast_nonneg h), signFactor,
      if_neg Bool.false_ne_true, one_mul]

theorem signFactor_bne (s t : Bool) : signFactor (s != t) = signFactor s * signFactor t := by
  cases s <;> cases t <;> simp [signFactor]

theorem value_finite (negative : Bool) (units : Nat) (h : Representable units) :
    (finite negative units h).value = signFactor negative * unitsValue units := by
  rw [value, place_finite, cast_signed, unitsValue, mul_div_assoc]

theorem value_signedZero (negative : Bool) : (signedZero negative).value = 0 := by
  rw [signedZero, value_finite, unitsValue, Nat.cast_zero, zero_div, mul_zero]

/-- The order of doubles is that of their values. -/
theorem place_lt_iff_value {a b : Binary64} : a.place < b.place ↔ a.value < b.value := by
  rw [value, value, div_lt_div_iff_of_pos_right cast_one_pos, Int.cast_lt]

/-! ### Rounding once -/

/-- A number is in range that is far below the largest double. -/
def safe : ℚ := 2 ^ 60

/-- The bound of the range is itself a double. -/
theorem representable_safe : Representable (2 ^ (60 : Nat) * one) := by
  rw [one, ← Nat.pow_add]
  refine ⟨?_, Nat.pow_lt_pow_right (by decide) (by decide)⟩
  rw [spacing, Nat.log2_two_pow]
  exact Nat.pow_dvd_pow 2 (Nat.sub_le _ _)

/-- A quotient in range is rounded to a finite double. -/
theorem ofRatio_eq_finite (negative : Bool) {num den : Nat} (hden : 0 < den)
    (h : Representable (nearestUnits num den)) :
    ofRatio negative num den = finite negative (nearestUnits num den) h := by
  rw [ofRatio, dif_pos hden, dif_pos h.2]

/-- **A quotient is rounded to a double that is near to it.** -/
theorem rounded_ofRatio (negative : Bool) (num : Nat) {den : Nat} (hden : 0 < den)
    (hsafe : (num : ℚ) / (den * one) ≤ safe) :
    Rounded (ofRatio negative num den) (signFactor negative * (num / (den * one))) := by
  have hone := cast_one_pos
  have hden' : (0 : ℚ) < den := Nat.cast_pos.2 hden
  have hscale : (0 : ℚ) < den * one := mul_pos hden' hone
  have hnum : num ≤ 2 ^ (60 : Nat) * one * den := by
    rw [div_le_iff₀ hscale, safe] at hsafe
    have hcast : ((2 ^ (60 : Nat) * one * den : Nat) : ℚ) = 2 ^ 60 * (den * one) := by
      rw [Nat.cast_mul, Nat.cast_mul, Nat.cast_pow, Nat.cast_ofNat]
      ring
    rw [← Nat.cast_le (α := ℚ), hcast]
    exact hsafe
  have hunits : Representable (nearestUnits num den) :=
    ⟨nearestUnits_dvd num hden,
      Nat.lt_of_le_of_lt (nearestUnits_le hden representable_safe.1 hnum) representable_safe.2⟩
  rw [ofRatio_eq_finite negative hden hunits]
  refine ⟨rfl, ?_⟩
  rw [value_finite, ← mul_sub, abs_mul, abs_mul, abs_signFactor, one_mul, one_mul,
    abs_unitsValue_sub _ num hden, abs_of_nonneg (div_nonneg (Nat.cast_nonneg num) hscale.le)]
  have hdist : (2 : ℚ) ^ 53 * (Nat.dist (nearestUnits num den * den) num : Nat) ≤
      num + 2 ^ 52 * den := by
    exact_mod_cast dist_nearestUnits_le num hden
  have hbig : (2 : ℚ) ^ 52 ≤ one := by
    rw [one, Nat.cast_pow, Nat.cast_ofNat]
    exact pow_le_pow_right₀ (by norm_num) (by decide)
  have hunit := mul_le_mul_of_nonneg_left hbig hden'.le
  rw [div_le_div_iff₀ hscale (by positivity), add_mul, div_mul_cancel₀ _ hscale.ne', one_mul]
  linarith

/-- **A count of parts is read as a double near to it.** -/
theorem rounded_ofParts (places : Nat) (parts : Int)
    (hsafe : |(parts : ℚ) / 10 ^ places| ≤ safe) :
    Rounded (ofParts places parts) (parts / 10 ^ places) := by
  have hpow : (0 : ℚ) < 10 ^ places := by positivity
  have hratio : ((parts.natAbs * one : Nat) : ℚ) / ((10 ^ places : Nat) * one) =
      parts.natAbs / 10 ^ places := by
    rw [Nat.cast_mul, mul_div_mul_right _ _ cast_one_pos.ne', Nat.cast_pow, Nat.cast_ofNat]
  have hsign : signFactor (decide (parts < 0)) * ((parts.natAbs : ℚ) / 10 ^ places) =
      parts / 10 ^ places := by
    rw [← mul_div_assoc, signFactor_mul_natAbs]
  rw [← hsign, ← hratio]
  refine rounded_ofRatio _ _ (Nat.pow_pos (by decide)) ?_
  rw [hratio]
  rwa [abs_div, abs_of_pos hpow, ← Int.cast_abs, ← Nat.cast_natAbs] at hsafe

section Arithmetic

variable {a b : Binary64}

/-- **A product is near to that of the values.** -/
theorem rounded_mul (ha : a.isFinite = true) (hb : b.isFinite = true)
    (hsafe : |a.value * b.value| ≤ safe) : Rounded (a * b) (a.value * b.value) := by
  cases a with
  | nan => cases ha
  | infinite => cases ha
  | finite s u hu =>
      cases b with
      | nan => cases hb
      | infinite => cases hb
      | finite t v hv =>
          have hratio : ((u * v : Nat) : ℚ) / ((one : Nat) * one) =
              unitsValue u * unitsValue v := by
            rw [Nat.cast_mul, unitsValue, unitsValue, div_mul_div_comm]
          have hvalue : (finite s u hu).value * (finite t v hv).value =
              signFactor (s != t) * (((u * v : Nat) : ℚ) / ((one : Nat) * one)) := by
            rw [value_finite, value_finite, hratio, signFactor_bne]
            ring
          rw [hvalue, abs_mul, abs_signFactor, one_mul] at hsafe
          rw [finite_mul_finite, hvalue]
          exact rounded_ofRatio _ _ one_pos ((le_abs_self _).trans hsafe)

/-- **A sum is near to that of the values.** -/
theorem rounded_add (ha : a.isFinite = true) (hb : b.isFinite = true)
    (hsafe : |a.value + b.value| ≤ safe) : Rounded (a + b) (a.value + b.value) := by
  cases a with
  | nan => cases ha
  | infinite => cases ha
  | finite s u hu =>
      cases b with
      | nan => cases hb
      | infinite => cases hb
      | finite t v hv =>
          have hvalue : (finite s u hu).value + (finite t v hv).value =
              ((signed s u + signed t v : Int) : ℚ) / one := by
            rw [value, value, place_finite, place_finite, Int.cast_add, add_div]
          rw [hvalue] at hsafe ⊢
          rw [finite_add_finite]
          generalize signed s u + signed t v = total at *
          split
          · rename_i hzero
            refine ⟨rfl, ?_⟩
            rw [hzero, value_signedZero, Int.cast_zero, zero_div, sub_zero, abs_zero]
            norm_num
          · have hsign : signFactor (decide (total < 0)) *
                ((total.natAbs : ℚ) / ((1 : Nat) * one)) = total / one := by
              rw [← mul_div_assoc, signFactor_mul_natAbs, Nat.cast_one, one_mul]
            rw [← hsign] at hsafe ⊢
            rw [abs_mul, abs_signFactor, one_mul] at hsafe
            exact rounded_ofRatio _ _ Nat.one_pos ((le_abs_self _).trans hsafe)

/-- **A quotient is near to that of the values.** -/
theorem rounded_div (ha : a.isFinite = true) (hb : b.isFinite = true) (hne : b.value ≠ 0)
    (hsafe : |a.value / b.value| ≤ safe) : Rounded (a / b) (a.value / b.value) := by
  cases a with
  | nan => cases ha
  | infinite => cases ha
  | finite s u hu =>
      cases b with
      | nan => cases hb
      | infinite => cases hb
      | finite t v hv =>
          have hv0 : v ≠ 0 := by
            rintro rfl
            exact hne (value_signedZero t)
          have hdiv : finite s u hu / finite t v hv = ofRatio (s != t) (u * one) v := by
            change (if v = 0 then (if u = 0 then nan else infinite (s != t))
              else ofRatio (s != t) (u * one) v) = _
            rw [if_neg hv0]
          have hratio : ((u * one : Nat) : ℚ) / ((v : Nat) * one) =
              unitsValue u / unitsValue v := by
            rw [Nat.cast_mul, mul_div_mul_right _ _ cast_one_pos.ne', unitsValue, unitsValue,
              div_div_div_cancel_right₀ cast_one_pos.ne']
          have hinverse : (signFactor t)⁻¹ = signFactor t := by
            cases t <;> norm_num [signFactor]
          have hvalue : (finite s u hu).value / (finite t v hv).value =
              signFactor (s != t) * (((u * one : Nat) : ℚ) / ((v : Nat) * one)) := by
            rw [value_finite, value_finite, hratio, signFactor_bne, mul_div_mul_comm,
              div_eq_mul_inv (signFactor s), hinverse]
          rw [hvalue, abs_mul, abs_signFactor, one_mul] at hsafe
          rw [hdiv, hvalue]
          exact rounded_ofRatio _ _ (Nat.pos_of_ne_zero hv0) ((le_abs_self _).trans hsafe)

end Arithmetic

/-! ### Signs and the smaller of two -/

theorem place_neg (a : Binary64) : (-a).place = -a.place := by
  cases a with
  | nan => rfl
  | infinite s => exact signed_not s limit
  | finite s u hu => exact signed_not s u

theorem value_neg (a : Binary64) : (-a).value = -a.value := by
  rw [value, place_neg, Int.cast_neg, neg_div, value]

theorem isFinite_neg (a : Binary64) : (-a).isFinite = a.isFinite := by
  cases a <;> rfl

/-! ### The tolerance -/

/-- The units of the tolerance that is used by default. -/
def toleranceUnits : Nat := (0.0001 : Binary64).magnitude

/-- The tolerance is positive, and not much above a ten-thousandth. -/
theorem toleranceUnits_spec : (0 : Binary64) < 0.0001 ∧ (0.0001 : Binary64).place = toleranceUnits ∧
    Representable toleranceUnits ∧ 0 < toleranceUnits ∧ toleranceUnits * 9000 ≤ one := by
  decide +kernel

theorem tolerance_pos : (0 : Binary64) < 0.0001 := toleranceUnits_spec.1

theorem place_tolerance : (0.0001 : Binary64).place = toleranceUnits := toleranceUnits_spec.2.1

theorem representable_tolerance : Representable toleranceUnits := toleranceUnits_spec.2.2.1

theorem toleranceUnits_pos : 0 < toleranceUnits := toleranceUnits_spec.2.2.2.1

theorem toleranceUnits_le : toleranceUnits * 9000 ≤ one := toleranceUnits_spec.2.2.2.2

end Binary64

end Toolpath
