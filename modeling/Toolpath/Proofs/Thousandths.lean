/-
**Doubles that stand for thousandths.**

The measures of a program are thousandths of a millimetre, each as the nearest double.  What is
computed from them is off by a rounding or two, which is far less than half a thousandth: so it is
written with three places as the count of thousandths that is meant, and it is read as the double
nearest to that.  Two counts that differ are told apart by the tolerance.

Main definitions:

* `Toolpath.Binary64.thousandths` — the double nearest to a count of thousandths;
* `Toolpath.Binary64.Near` — a double is written as a count of thousandths.

Main results:

* `Toolpath.Binary64.Near.fixed_eq` — what is near to a count is written as this count;
* `Toolpath.Binary64.near_mul`, `Toolpath.Binary64.near_add`, `Toolpath.Binary64.Near.least`,
  `Toolpath.Binary64.Near.neg` — **what is computed from counts is near to what is meant**;
* `Toolpath.Binary64.eq_of_within_thousandths` — **counts are told apart by the tolerance**.
-/

import Toolpath.Proofs.Approximation

set_option relaxedAutoImplicit false
set_option autoImplicit false

namespace Toolpath

namespace Binary64

/-- The double nearest to a count of thousandths. -/
def thousandths (k : Int) : Binary64 := ofParts 3 k

theorem thousandths_eq (k : Int) : thousandths k = ofParts 3 k := rfl

theorem thousandths_zero : thousandths 0 = 0 := by decide +kernel

-- Counts are compared, and the doubles that stand for them are never computed.
attribute [irreducible] thousandths

/-! ### Counts -/

/-- The count of parts that a double is rounded to is at most one half off. -/
theorem abs_parts_sub_le {c : Binary64} (h : c.isFinite = true) (places : Nat) :
    |(c.parts places : ℚ) - c.value * 10 ^ places| ≤ 1 / 2 := by
  cases c with
  | nan => cases h
  | infinite => cases h
  | finite negative units hunits =>
      have hone := cast_one_pos
      have hhalf := two_mul_dist_roundHalfEven_le (units * 10 ^ places) one_pos
      have hcast : (2 : ℚ) * (Nat.dist (roundHalfEven (units * 10 ^ places) one * one)
          (units * 10 ^ places) : Nat) ≤ one := by
        exact_mod_cast hhalf
      rw [cast_dist, Nat.cast_mul, Nat.cast_mul, Nat.cast_pow, Nat.cast_ofNat] at hcast
      rw [parts, value_finite, cast_signed, unitsValue, mul_assoc, ← mul_sub, abs_mul,
        abs_signFactor, one_mul]
      generalize roundHalfEven (units * 10 ^ places) one = n at hcast
      have hsplit : (n : ℚ) - units / one * 10 ^ places =
          ((n : ℚ) * one - units * 10 ^ places) / one := by
        rw [sub_div, mul_div_cancel_right₀ _ hone.ne', div_mul_eq_mul_div]
      rw [hsplit, abs_div, abs_of_pos hone, div_le_iff₀ hone]
      linarith

/-- Whole numbers that are less than one apart are equal. -/
theorem eq_of_abs_cast_sub_lt {a b : Int} (h : |(a : ℚ) - b| < 1) : a = b := by
  have hless : |a - b| < 1 := by exact_mod_cast h
  exact sub_eq_zero.1 (Int.abs_lt_one_iff.1 hless)

/-- A double is finite, and it is far less than half a thousandth away from a count of
thousandths. -/
structure Near (c : Binary64) (k : Int) : Prop where
  isFinite : c.isFinite = true
  error_le : |c.value - k / 1000| ≤ 1 / 10000

namespace Near

variable {a b c : Binary64} {k l : Int}

/-- What is near to a count is rounded to it. -/
theorem parts_eq (h : Near c k) : c.parts 3 = k := by
  have hround := abs_le.1 (abs_parts_sub_le h.isFinite 3)
  have herror := abs_le.1 h.error_le
  refine eq_of_abs_cast_sub_lt (abs_lt.2 ⟨?_, ?_⟩)
  · linarith
  · linarith

/-- **What is near to a count is written as this count**, if it has no sign where it is zero. -/
theorem fixed_eq (h : Near c k) (hzero : k = 0 → c = 0) :
    c.fixed 3 = String.ofList (decimal 3 k).text := by
  rw [Binary64.fixed_eq h.isFinite (by rwa [h.parts_eq]), h.parts_eq]

theorem neg (h : Near c k) : Near (-c) (-k) := by
  refine ⟨by rw [isFinite_neg, h.isFinite], ?_⟩
  rw [value_neg, Int.cast_neg, neg_div, ← neg_sub', abs_neg]
  exact h.error_le

/-- The order of doubles near to counts is that of the counts. -/
theorem le_of_value_le (ha : Near a k) (hb : Near b l) (h : a.value ≤ b.value) : k ≤ l := by
  have hleft := abs_le.1 ha.error_le
  have hright := abs_le.1 hb.error_le
  have hless : (k : ℚ) < ((l + 1 : Int) : ℚ) := by
    push_cast
    linarith
  exact Int.lt_add_one_iff.1 (Int.cast_lt.1 hless)

/-- **The smaller of two** is near to the smaller count. -/
theorem least (ha : Near a k) (hb : Near b l) : Near (a.least b) (min k l) := by
  have hlt : b < a ↔ b.value < a.value := by
    rw [lt_iff (isNaN_of_isFinite hb.isFinite) (isNaN_of_isFinite ha.isFinite),
      place_lt_iff_value]
  rw [Binary64.least]
  split
  · rename_i h
    rwa [min_eq_right (hb.le_of_value_le ha (hlt.1 h).le)]
  · rename_i h
    rwa [min_eq_left (ha.le_of_value_le hb (not_lt.1 (hlt.not.1 h)))]

end Near

/-! ### Rounded counts -/

/-- The count is at most a hundred thousand, in thousandths. -/
def InRange (k : Int) : Prop := -100000000 ≤ k ∧ k ≤ 100000000

instance (k : Int) : Decidable (InRange k) := inferInstanceAs (Decidable (_ ∧ _))

theorem InRange.abs_cast_le {k : Int} (h : InRange k) : |(k : ℚ)| ≤ 100000000 := by
  have hle := abs_le.2 h
  exact_mod_cast hle

theorem InRange.neg {k : Int} (h : InRange k) : InRange (-k) :=
  ⟨Int.neg_le_neg h.2, Int.neg_le_neg h.1⟩

/-- A count of thousandths is off by one rounding. -/
theorem rounded_thousandths {k : Int} (h : InRange k) : Rounded (thousandths k) (k / 1000) := by
  have hpow : (10 : ℚ) ^ 3 = 1000 := by norm_num
  have hsafe : |(k : ℚ) / 10 ^ 3| ≤ safe := by
    rw [hpow, abs_div, abs_of_pos (by norm_num : (0 : ℚ) < 1000), safe, div_le_iff₀ (by norm_num)]
    exact h.abs_cast_le.trans (by norm_num)
  rw [thousandths_eq, ← hpow]
  exact rounded_ofParts 3 k hsafe

theorem isFinite_thousandths {k : Int} (h : InRange k) : (thousandths k).isFinite = true :=
  (rounded_thousandths h).isFinite

/-- The error of a count of thousandths. -/
theorem abs_value_thousandths_sub_le {k : Int} (h : InRange k) :
    |(thousandths k).value - k / 1000| ≤ 1 / 10000000000 := by
  refine (rounded_thousandths h).error_le.trans ?_
  have hcast := h.abs_cast_le
  rw [abs_div, abs_of_pos (by norm_num : (0 : ℚ) < 1000)]
  norm_num
  linarith

theorem near_thousandths {k : Int} (h : InRange k) : Near (thousandths k) k :=
  ⟨isFinite_thousandths h, (abs_value_thousandths_sub_le h).trans (by norm_num)⟩

/-- **Counts are told apart by the tolerance.** -/
theorem eq_of_within_thousandths {k l : Int} (hk : InRange k) (hl : InRange l)
    (h : within 0.0001 (thousandths k) (thousandths l) = true) : k = l := by
  have htolerance : (toleranceUnits : Int) * 9000 ≤ one := by exact_mod_cast toleranceUnits_le
  have hnear := abs_place_sub_lt (isFinite_thousandths hk) (isFinite_thousandths hl) h
  rw [place_tolerance] at hnear
  have hleft := abs_le.1 (abs_value_thousandths_sub_le hk)
  have hright := abs_le.1 (abs_value_thousandths_sub_le hl)
  have hone := cast_one_pos
  have hplaces : |(thousandths k).value - (thousandths l).value| * 9000 < 1 := by
    rw [value, value, ← sub_div, ← Int.cast_sub, abs_div, abs_of_pos hone, div_mul_eq_mul_div,
      div_lt_one hone, ← Int.cast_abs]
    have hless : |(thousandths k).place - (thousandths l).place| * 9000 < one := by omega
    exact_mod_cast hless
  have hvalues := abs_lt.1 ((lt_div_iff₀ (by norm_num)).2 hplaces)
  refine eq_of_abs_cast_sub_lt (abs_lt.2 ⟨?_, ?_⟩)
  · linarith
  · linarith

/-! ### Whole numbers -/

/-- Every whole number up to `2^53` is a double. -/
theorem ofInt_eq_finite {n : Nat} (h : n ≤ 2 ^ 53) :
    ∃ hunits, ofInt n = finite false (n * one) hunits := by
  have hdvd : 2 ^ spacing (n * one) ∣ n * one := spacing_mul_dvd h
  have hexact : nearestUnits (n * one) 1 = n * one :=
    Nat.le_antisymm (nearestUnits_le Nat.one_pos hdvd (Nat.mul_one _).ge)
      (le_nearestUnits Nat.one_pos hdvd (Nat.mul_one _).le)
  have hsafe : n ≤ 2 ^ (60 : Nat) := h.trans (by decide)
  have hunits : Representable (n * one) :=
    ⟨hdvd, Nat.lt_of_le_of_lt (Nat.mul_le_mul_right one hsafe) representable_safe.2⟩
  refine ⟨hunits, ?_⟩
  have hrounded := ofRatio_eq_finite false Nat.one_pos (hexact ▸ hunits)
  rw [ofInt, Int.natAbs_natCast, decide_eq_false (by omega), hrounded]
  simp only [hexact]

theorem isFinite_ofInt {n : Nat} (h : n ≤ 2 ^ 53) : (ofInt n).isFinite = true := by
  obtain ⟨hunits, hfinite⟩ := ofInt_eq_finite h
  rw [hfinite]
  rfl

theorem value_ofInt {n : Nat} (h : n ≤ 2 ^ 53) : (ofInt n).value = n := by
  obtain ⟨hunits, hfinite⟩ := ofInt_eq_finite h
  rw [hfinite, value_finite, signFactor, if_neg Bool.false_ne_true, one_mul, unitsValue,
    Nat.cast_mul, mul_div_cancel_right₀ _ cast_one_pos.ne']

/-! ### Results near to counts -/

/-- **A multiple of a count**, as long as it is in range. -/
theorem near_mul {n : Nat} {k : Int} (hn : n ≤ 100000000) (hk : InRange k)
    (hproduct : InRange (n * k)) : Near (ofInt n * thousandths k) (n * k) := by
  have hsmall : n ≤ 2 ^ 53 := by omega
  have hcast : (n : ℚ) ≤ 100000000 := by exact_mod_cast hn
  have hcount : |((n * k : Int) : ℚ)| ≤ 100000000 := hproduct.abs_cast_le
  rw [Int.cast_mul, Int.cast_natCast] at hcount
  -- the error of the count is multiplied, but so is the count that it is small beside
  have hscaled : |(n : ℚ) * (thousandths k).value - n * k / 1000| ≤ 1 / 1000000 := by
    have herror := (rounded_thousandths hk).error_le
    rw [mul_div_assoc, ← mul_sub, abs_mul, Nat.abs_cast]
    rw [abs_mul, Nat.abs_cast] at hcount
    rw [abs_div, abs_of_pos (by norm_num : (0 : ℚ) < 1000)] at herror
    calc (n : ℚ) * |(thousandths k).value - k / 1000|
        ≤ n * ((|(k : ℚ)| / 1000 + 1) / 2 ^ 53) := by gcongr
      _ = (n * |(k : ℚ)| / 1000 + n) / 2 ^ 53 := by ring
      _ ≤ 1 / 1000000 := by
          rw [div_le_div_iff₀ (by norm_num) (by norm_num)]
          linarith
  have hbound : |(n : ℚ) * (thousandths k).value| ≤ 100001 := by
    have hscaled' := abs_le.1 hscaled
    have hcount' := abs_le.1 hcount
    rw [abs_le]
    constructor <;> linarith
  have hrounded : Rounded (ofInt n * thousandths k) (n * (thousandths k).value) := by
    have hmul := rounded_mul (isFinite_ofInt hsmall) (isFinite_thousandths hk)
    rw [value_ofInt hsmall] at hmul
    exact hmul (hbound.trans (by norm_num [safe]))
  refine ⟨hrounded.isFinite, ?_⟩
  have herror := hrounded.error_le
  rw [Int.cast_mul, Int.cast_natCast]
  calc |(ofInt n * thousandths k).value - n * k / 1000|
      ≤ |(ofInt n * thousandths k).value - n * (thousandths k).value| +
          |(n : ℚ) * (thousandths k).value - n * k / 1000| := abs_sub_le _ _ _
    _ ≤ 1 / 10000 := by
        have hsmall : (|(n : ℚ) * (thousandths k).value| + 1) / 2 ^ 53 ≤ 1 / 1000000 := by
          rw [div_le_div_iff₀ (by norm_num) (by norm_num)]
          linarith
        linarith

/-- **A sum of counts**, as long as it is in range. -/
theorem near_add {k l : Int} (hk : InRange k) (hl : InRange l) :
    Near (thousandths k + thousandths l) (k + l) := by
  have hleft := abs_le.1 (abs_value_thousandths_sub_le hk)
  have hright := abs_le.1 (abs_value_thousandths_sub_le hl)
  have hk' := abs_le.1 hk.abs_cast_le
  have hl' := abs_le.1 hl.abs_cast_le
  have hbound : |(thousandths k).value + (thousandths l).value| ≤ 200001 := by
    rw [abs_le]
    constructor <;> linarith
  have hrounded := rounded_add (isFinite_thousandths hk) (isFinite_thousandths hl)
    (hbound.trans (by norm_num [safe]))
  have hsmall : (|(thousandths k).value + (thousandths l).value| + 1) / 2 ^ 53 ≤ 1 / 1000000 := by
    rw [div_le_div_iff₀ (by norm_num) (by norm_num)]
    linarith
  have herror := abs_le.1 (hrounded.error_le.trans hsmall)
  refine ⟨hrounded.isFinite, ?_⟩
  rw [abs_le, Int.cast_add]
  constructor <;> linarith

theorem neg_ofRatio (negative : Bool) (num den : Nat) :
    -ofRatio negative num den = ofRatio (!negative) num den := by
  unfold ofRatio
  split
  · split <;> rfl
  · rfl

/-- A count with the other sign. -/
theorem neg_thousandths {k : Int} (h : 0 < k) : -thousandths k = thousandths (-k) := by
  rw [thousandths_eq, thousandths_eq, ofParts, ofParts, ofDecimal, ofDecimal, neg_ofRatio,
    Int.natAbs_neg, decide_eq_false (by omega), decide_eq_true (by omega)]
  rfl

/-- **A difference of counts**, as long as it is in range. -/
theorem near_sub {k l : Int} (hk : InRange k) (hl : InRange l) (hpos : 0 < l) :
    Near (thousandths k - thousandths l) (k - l) := by
  have hsub : thousandths k - thousandths l = thousandths k + -thousandths l := rfl
  rw [hsub, neg_thousandths hpos, Int.sub_eq_add_neg]
  exact near_add hk hl.neg

/-! ### Quotients -/

/-- What stands for a number other than zero has a magnitude. -/
theorem magnitude_ne_zero_of_value {c : Binary64} (hfinite : c.isFinite = true)
    (h : 0 < c.value) : c.magnitude ≠ 0 := by
  cases c with
  | nan => cases hfinite
  | infinite => cases hfinite
  | finite negative units hunits =>
      intro hzero
      rw [magnitude] at hzero
      rw [value_finite, hzero, unitsValue, Nat.cast_zero, zero_div, mul_zero] at h
      exact lt_irrefl _ h

/-- The least whole number that is no smaller than a double. -/
theorem exists_ceil? {c : Binary64} (h : c.isFinite = true) :
    ∃ n : Int, c.ceil? = some n ∧ ((n - 1 : Int) : ℚ) < c.value ∧ c.value ≤ n := by
  have hone := cast_one_pos
  cases c with
  | nan => cases h
  | infinite => cases h
  | finite negative units hunits =>
      have hsplit := Nat.div_add_mod' units one
      have hrest := Nat.mod_lt units one_pos
      have hplace : ∀ n : Int, (n - 1) * one < signed negative units →
          signed negative units ≤ n * one →
          ((n - 1 : Int) : ℚ) < (finite negative units hunits).value ∧
            (finite negative units hunits).value ≤ n := by
        intro n hlow hhigh
        rw [value, place_finite, lt_div_iff₀ hone, div_le_iff₀ hone]
        exact ⟨by exact_mod_cast hlow, by exact_mod_cast hhigh⟩
      have hwhole : (units : Int) / (one : Int) = (units / one : Nat) := (Int.natCast_div ..).symm
      rw [ceil?, hwhole]
      have hsplit' : ((units / one : Nat) : Int) * one + (units % one : Nat) = units := by
        exact_mod_cast hsplit
      have hrest' : ((units % one : Nat) : Int) < one := by exact_mod_cast hrest
      have hpos : (0 : Int) < one := by exact_mod_cast one_pos
      generalize ((units / one : Nat) : Int) = whole at hsplit'
      cases negative with
      | true =>
          have hsigned : signed true units = -(units : Int) := rfl
          refine ⟨-whole, rfl, hplace _ ?_ ?_⟩
          · rw [Int.sub_mul, Int.neg_mul, hsigned]
            omega
          · rw [Int.neg_mul, hsigned]
            omega
      | false =>
          have hsigned : signed false units = units := rfl
          by_cases hexact : units % one = 0
          · refine ⟨whole, by simp [hexact], hplace _ ?_ ?_⟩
            · rw [Int.sub_mul, hsigned]
              omega
            · rw [hsigned]
              omega
          · refine ⟨whole + 1, by simp [hexact], hplace _ ?_ ?_⟩
            · rw [Int.add_sub_cancel, hsigned]
              omega
            · rw [Int.add_mul, hsigned]
              omega

end Binary64

end Toolpath
