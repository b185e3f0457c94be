/-
**Doubles in their order.**

The place of a double in the order is a whole number: its units, with its sign.  A difference of two
doubles is rounded, and a comparison with a tolerance sees only the rounded difference; but since
rounding never crosses a double, it tells the truth about the exact one.

Main definitions:

* `Toolpath.Binary64.place` — the place of a double in the order.

Main results:

* `Toolpath.Binary64.lt_iff` — the order of doubles is the order of their places;
* `Toolpath.Binary64.le_place_abs_sub` — rounding takes no difference below a double that the exact
  one reaches;
* `Toolpath.Binary64.isNaN_div` — a finite number divided by a positive one is a number;
* `Toolpath.within_comm` — being within a tolerance has no direction;
* `Toolpath.abs_place_sub_lt` — **numbers within a tolerance are less than the tolerance apart**.
-/

import Mathlib.Algebra.Order.Group.Abs
import Toolpath.Point
import Toolpath.Proofs.Nearest

set_option relaxedAutoImplicit false
set_option autoImplicit false

namespace Toolpath

namespace Binary64

/-! ### Places -/

/-- The place of a double in the order, in units and with its sign; an infinity lies just out of
range. -/
def place (c : Binary64) : Int := c.rank?.getD 0

@[simp] theorem place_finite (negative : Bool) (units : Nat) (h : Representable units) :
    (finite negative units h).place = signed negative units := rfl

@[simp] theorem place_infinite (negative : Bool) :
    (infinite negative).place = signed negative limit := rfl

theorem isNaN_of_isFinite {c : Binary64} (h : c.isFinite = true) : c.isNaN = false := by
  cases c with
  | finite => rfl
  | infinite => rfl
  | nan => cases h

/-- The numeral is the zero without a sign. -/
theorem zero_eq_signedZero : (0 : Binary64) = signedZero false := by decide +kernel

theorem isFinite_zero : (0 : Binary64).isFinite = true := by
  rw [zero_eq_signedZero]
  rfl

theorem rank?_eq_place {c : Binary64} (h : c.isNaN = false) : c.rank? = some c.place := by
  cases c with
  | finite => rfl
  | infinite => rfl
  | nan => cases h

/-- **The order of doubles is the order of their places.** -/
theorem lt_iff {a b : Binary64} (ha : a.isNaN = false) (hb : b.isNaN = false) :
    a < b ↔ a.place < b.place := by
  have hlt : a < b ↔ a.lt b = true := Iff.rfl
  rw [hlt, lt, rank?_eq_place ha, rank?_eq_place hb]
  dsimp only
  rw [decide_eq_true_eq]

/-- Nothing is smaller than a not-a-number, and it is smaller than nothing. -/
theorem isNaN_of_lt {a b : Binary64} (h : a < b) : a.isNaN = false ∧ b.isNaN = false := by
  have hlt : a.lt b = true := h
  unfold lt at hlt
  cases a with
  | nan => cases hlt
  | _ =>
      cases b with
      | nan => cases hlt
      | _ => exact ⟨rfl, rfl⟩

theorem place_zero : (0 : Binary64).place = 0 := by
  rw [zero_eq_signedZero]
  rfl

/-- A positive double is a number at a positive place. -/
theorem place_pos {c : Binary64} (h : 0 < c) : c.isNaN = false ∧ 0 < c.place := by
  have hnan := (isNaN_of_lt h).2
  rw [lt_iff (isNaN_of_isFinite isFinite_zero) hnan, place_zero] at h
  exact ⟨hnan, h⟩

theorem signed_not (negative : Bool) (units : Nat) :
    signed (!negative) units = -signed negative units := by
  cases negative <;> simp [signed]

theorem natAbs_signed (negative : Bool) (n : Nat) : (signed negative n).natAbs = n := by
  cases negative <;> simp [signed]

/-- A positive place is a number of units that rounding never crosses. -/
theorem exists_units {c : Binary64} (h : 0 < c.place) :
    ∃ units : Nat, c.place = units ∧ 2 ^ spacing units ∣ units ∧ units ≤ limit := by
  cases c with
  | nan => cases h
  | finite negative units hunits =>
      cases negative with
      | false => exact ⟨units, rfl, hunits.1, Nat.le_of_lt hunits.2⟩
      | true =>
          rw [place_finite, signed, if_pos rfl] at h
          omega
  | infinite negative =>
      cases negative with
      | false => exact ⟨limit, rfl, spacing_limit_dvd, Nat.le_refl _⟩
      | true =>
          rw [place_infinite, signed, if_pos rfl] at h
          omega

/-! ### Smaller and larger ones -/

/-- A not-a-number replaces nothing. -/
theorem isNaN_least {a : Binary64} (ha : a.isNaN = false) (b : Binary64) :
    (least a b).isNaN = false := by
  unfold least
  split
  · rename_i h
    exact (isNaN_of_lt h).1
  · exact ha

theorem isNaN_greatest {a : Binary64} (ha : a.isNaN = false) (b : Binary64) :
    (greatest a b).isNaN = false := by
  unfold greatest
  split
  · rename_i h
    exact (isNaN_of_lt h).2
  · exact ha

theorem place_least_le {a : Binary64} (ha : a.isNaN = false) (b : Binary64) :
    (least a b).place ≤ a.place ∧ (b.isNaN = false → (least a b).place ≤ b.place) := by
  unfold least
  split
  · rename_i h
    rw [lt_iff (isNaN_of_lt h).1 ha] at h
    exact ⟨h.le, fun _ => le_rfl⟩
  · rename_i h
    refine ⟨le_rfl, fun hb => ?_⟩
    rw [lt_iff hb ha] at h
    exact not_lt.1 h

theorem le_place_greatest {a : Binary64} (ha : a.isNaN = false) (b : Binary64) :
    a.place ≤ (greatest a b).place ∧ (b.isNaN = false → b.place ≤ (greatest a b).place) := by
  unfold greatest
  split
  · rename_i h
    rw [lt_iff ha (isNaN_of_lt h).2] at h
    exact ⟨h.le, fun _ => le_rfl⟩
  · rename_i h
    refine ⟨le_rfl, fun hb => ?_⟩
    rw [lt_iff ha hb] at h
    exact not_lt.1 h

/-! ### Sums, differences, products and quotients -/

/-- The sum of finite doubles is the rounding of the sum of their places, or zero. -/
theorem finite_add_finite (s t : Bool) {u v : Nat} (hu : Representable u) (hv : Representable v) :
    finite s u hu + finite t v hv =
      if signed s u + signed t v = 0 then signedZero (s && t)
      else ofRatio (decide (signed s u + signed t v < 0)) (signed s u + signed t v).natAbs 1 := rfl

theorem finite_mul_finite (s t : Bool) {u v : Nat} (hu : Representable u) (hv : Representable v) :
    finite s u hu * finite t v hv = ofRatio (s != t) (u * v) one := by
  have hmul : finite s u hu * finite t v hv = (finite s u hu).mul (finite t v hv) := rfl
  rw [hmul, mul]

/-- The difference of two doubles is the rounding of the difference of their places, or zero. -/
theorem sub_cases {a b : Binary64} (ha : a.isFinite = true) (hb : b.isFinite = true) :
    (a.place = b.place ∧ ∃ negative, a - b = signedZero negative) ∨
      (a.place ≠ b.place ∧
        ∃ negative, a - b = ofRatio negative (a.place - b.place).natAbs 1) := by
  cases a with
  | nan => cases ha
  | infinite => cases ha
  | finite s u hu =>
      cases b with
      | nan => cases hb
      | infinite => cases hb
      | finite t v hv =>
          have hsub : finite s u hu - finite t v hv = _ := finite_add_finite s (!t) hu hv
          rw [signed_not, ← Int.sub_eq_add_neg] at hsub
          rw [hsub, place_finite, place_finite]
          split
          · exact .inl ⟨by omega, _, rfl⟩
          · exact .inr ⟨by omega, _, rfl⟩

theorem isNaN_ofRatio (negative : Bool) (num : Nat) {den : Nat} (h : 0 < den) :
    (ofRatio negative num den).isNaN = false := by
  rw [ofRatio, dif_pos h]
  split <;> rfl

/-- A finite number divided by a positive one is a number. -/
theorem isNaN_div {a b : Binary64} (ha : a.isFinite = true) (hb : 0 < b) :
    (a / b).isNaN = false := by
  obtain ⟨hnan, hplace⟩ := place_pos hb
  cases a with
  | nan => cases ha
  | infinite => cases ha
  | finite s u hu =>
      cases b with
      | nan => cases hnan
      | infinite => rfl
      | finite t v hv =>
          have hdiv : finite s u hu / finite t v hv =
              if v = 0 then (if u = 0 then nan else infinite (s != t))
              else ofRatio (s != t) (u * one) v := rfl
          have hne : v ≠ 0 := by
            rintro rfl
            cases t <;> exact absurd hplace (lt_irrefl 0)
          rw [hdiv, if_neg hne]
          exact isNaN_ofRatio _ _ (Nat.pos_of_ne_zero hne)

theorem isNaN_roundToWhole {a : Binary64} (h : a.isNaN = false) :
    a.roundToWhole.isNaN = false := by
  cases a with
  | nan => cases h
  | infinite => rfl
  | finite => exact isNaN_ofRatio _ _ Nat.one_pos

theorem abs_signedZero (negative : Bool) : (signedZero negative).abs = 0 := by
  rw [zero_eq_signedZero]
  rfl

/-- The sign has no part in the magnitude of a quotient. -/
theorem abs_ofRatio (s t : Bool) (num den : Nat) :
    (ofRatio s num den).abs = (ofRatio t num den).abs := by
  unfold ofRatio
  split
  · split <;> rfl
  · rfl

theorem abs_infinite_sub (s : Bool) (b : Binary64) :
    (infinite s - b).abs = (b - infinite s).abs := by
  cases b with
  | nan => rfl
  | finite => rfl
  | infinite t => cases s <;> cases t <;> rfl

/-- A difference and its opposite have one magnitude. -/
theorem abs_sub_swap (a b : Binary64) : (a - b).abs = (b - a).abs := by
  cases a with
  | nan => cases b <;> rfl
  | infinite s => exact abs_infinite_sub s b
  | finite s u hu =>
      cases b with
      | nan => rfl
      | infinite t => exact (abs_infinite_sub t _).symm
      | finite t v hv =>
          -- both differences round the same number of units, or both are zero
          have hone : (finite s u hu).isFinite = true := rfl
          have htwo : (finite t v hv).isFinite = true := rfl
          rcases sub_cases hone htwo with ⟨heq, p, hp⟩ | ⟨hne, p, hp⟩ <;>
            rcases sub_cases htwo hone with ⟨heq', q, hq⟩ | ⟨hne', q, hq⟩
          · rw [hp, hq, abs_signedZero, abs_signedZero]
          · exact absurd heq.symm hne'
          · exact absurd heq'.symm hne
          · rw [hp, hq, abs_ofRatio p q, ← Int.natAbs_neg, Int.neg_sub]

/-- A quotient that reaches a number of units is rounded to no less. -/
theorem le_place_abs_ofRatio {negative : Bool} {num units : Nat}
    (hunits : 2 ^ spacing units ∣ units) (hlimit : units ≤ limit) (h : units ≤ num) :
    (units : Int) ≤ (ofRatio negative num 1).abs.place := by
  have hnearest : units ≤ nearestUnits num 1 :=
    le_nearestUnits Nat.one_pos hunits (by rwa [Nat.mul_one])
  rw [ofRatio, dif_pos Nat.one_pos]
  split
  · exact Int.ofNat_le.2 hnearest
  · exact Int.ofNat_le.2 hlimit

/-- **Rounding takes no difference below a double that the exact one reaches.** -/
theorem le_place_abs_sub {a b c : Binary64} (ha : a.isFinite = true) (hb : b.isFinite = true)
    (hc : 0 < c.place) (h : c.place ≤ |a.place - b.place|) : c.place ≤ (a - b).abs.place := by
  obtain ⟨units, hplace, hunits, hlimit⟩ := exists_units hc
  rw [hplace] at h hc ⊢
  rcases sub_cases ha hb with ⟨heq, -⟩ | ⟨-, negative, hsub⟩
  · rw [heq, sub_self, abs_zero] at h
    omega
  · rw [hsub]
    refine le_place_abs_ofRatio hunits hlimit ?_
    rw [Int.abs_eq_natAbs] at h
    omega

theorem place_abs_nonneg (c : Binary64) : 0 ≤ c.abs.place := by
  cases c with
  | nan => exact Int.le_refl 0
  | finite negative units h => exact Int.natCast_nonneg units
  | infinite negative => exact Int.natCast_nonneg limit

end Binary64

/-! ### Tolerances -/

variable {tolerance a b : Binary64}

/-- **Numbers within a tolerance are less than the tolerance apart**, and not only their rounded
difference is. -/
theorem abs_place_sub_lt (ha : a.isFinite = true) (hb : b.isFinite = true)
    (h : within tolerance a b = true) : |a.place - b.place| < tolerance.place := by
  have hlt : (a - b).abs < tolerance := of_decide_eq_true h
  obtain ⟨hnan, htolerance⟩ := Binary64.isNaN_of_lt hlt
  rw [Binary64.lt_iff hnan htolerance] at hlt
  have hnonneg := (a - b).place_abs_nonneg
  by_contra hnot
  have hle := Binary64.le_place_abs_sub ha hb (c := tolerance) (by omega) (not_lt.1 hnot)
  omega

/-- Which of two numbers comes first makes no difference. -/
theorem within_comm (tolerance a b : Binary64) : within tolerance a b = within tolerance b a := by
  rw [within, within, Binary64.abs_sub_swap]

/-- A number is within every positive tolerance of itself. -/
theorem within_self (ha : a.isFinite = true) (hpos : 0 < tolerance) :
    within tolerance a a = true := by
  rcases Binary64.sub_cases ha ha with ⟨-, negative, hsub⟩ | ⟨hne, -⟩
  · rw [within, hsub, Binary64.abs_signedZero]
    exact decide_eq_true hpos
  · exact absurd rfl hne

end Toolpath
