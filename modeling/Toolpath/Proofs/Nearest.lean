/-
**Correct rounding.**

Doubles are made from exact quotients in one place.  This module proves that what is made there is
the correctly rounded double: no double of the same sign is nearer to the quotient, of two equally
near ones the one with the even significand is taken, and from the middle between the largest
double and the next power of two on it is an infinity.

Main definitions:

* `Toolpath.Binary64.RoundsTo` — a double is the correct rounding of a magnitude with a sign.

Main results:

* `Toolpath.Binary64.nearestUnits_nearest` — **no representable number of units is nearer**;
* `Toolpath.Binary64.le_nearestUnits`, `Toolpath.Binary64.nearestUnits_le` — rounding never crosses
  a representable number of units;
* `Toolpath.Binary64.nearestUnits_mono` — rounding keeps the order of quotients;
* `Toolpath.Binary64.ofRatio_roundsTo` — **what is made of a quotient is its correct rounding**.
-/

import Mathlib.Algebra.Order.Field.Basic
import Mathlib.Data.Nat.Dist
import Mathlib.Data.Nat.Log
import Mathlib.Data.Rat.Cast.Order
import Mathlib.Tactic.FieldSimp
import Mathlib.Tactic.NormNum
import Mathlib.Tactic.Ring
import Toolpath.Binary64.Basic

set_option relaxedAutoImplicit false
set_option autoImplicit false

namespace Toolpath

/-! ### The nearest natural number -/

/-- The rounding is the number below the quotient or the one above it, whichever is nearer, and the
even one if both are equally near. -/
theorem roundHalfEven_cases (num den : Nat) :
    (roundHalfEven num den = num / den ∧ 2 * (num % den) ≤ den ∧
        (2 * (num % den) = den → 2 ∣ roundHalfEven num den)) ∨
      (roundHalfEven num den = num / den + 1 ∧ den ≤ 2 * (num % den) ∧
        (2 * (num % den) = den → 2 ∣ roundHalfEven num den)) := by
  unfold roundHalfEven
  dsimp only
  split
  · exact Or.inl ⟨rfl, by omega, by omega⟩
  · split
    · exact Or.inr ⟨rfl, by omega, by omega⟩
    · split
      · exact Or.inl ⟨rfl, by omega, by omega⟩
      · exact Or.inr ⟨rfl, by omega, by omega⟩

/-- No natural number is nearer to a quotient than its rounding, and an odd rounding is nearer than
all others. -/
theorem roundHalfEven_nearest {den : Nat} (num : Nat) (hden : 0 < den) (m : Nat) :
    Nat.dist (roundHalfEven num den * den) num ≤ Nat.dist (m * den) num ∧
      (Nat.dist (roundHalfEven num den * den) num = Nat.dist (m * den) num →
        m ≠ roundHalfEven num den → 2 ∣ roundHalfEven num den) := by
  have hsplit : num / den * den + num % den = num := Nat.div_add_mod' num den
  have hrest : num % den < den := Nat.mod_lt num hden
  -- the numbers below and above enclose the quotient, and all others lie outside
  have hside : m = num / den ∨ m = num / den + 1 ∨ (m + 1) * den ≤ num / den * den ∨
      (num / den + 1 + 1) * den ≤ m * den := by
    rcases Nat.lt_trichotomy m (num / den) with h | h | h
    · exact Or.inr (Or.inr (Or.inl (Nat.mul_le_mul_right den h)))
    · exact Or.inl h
    · rcases Nat.lt_or_ge (num / den + 1) m with h' | h'
      · exact Or.inr (Or.inr (Or.inr (Nat.mul_le_mul_right den h')))
      · exact Or.inr (Or.inl (by omega))
  have hround := roundHalfEven_cases num den
  generalize roundHalfEven num den = r at *
  generalize num / den = whole at *
  generalize num % den = rest at *
  simp only [Nat.add_mul, Nat.one_mul] at hside
  rcases hround with ⟨rfl, hnear, heven⟩ | ⟨rfl, hnear, heven⟩ <;>
    rcases hside with rfl | rfl | h | h <;>
      simp only [Nat.dist, Nat.add_mul, Nat.one_mul] <;> omega

/-- Of two numbers the larger one has the larger nearest point, or both numbers are the same. -/
theorem eq_of_nearest {x y a b : Nat} (hlt : y < x) (hle : a ≤ b)
    (ha : Nat.dist x a ≤ Nat.dist y a) (hb : Nat.dist y b ≤ Nat.dist x b) : a = b := by
  simp only [Nat.dist] at ha hb
  omega

/-- A larger quotient has no smaller rounding. -/
theorem roundHalfEven_mono {a b den : Nat} (hden : 0 < den) (h : a ≤ b) :
    roundHalfEven a den ≤ roundHalfEven b den := by
  by_contra hlt
  have heq := eq_of_nearest (Nat.mul_lt_mul_of_pos_right (not_le.1 hlt) hden) h
    (roundHalfEven_nearest a hden _).1 (roundHalfEven_nearest b hden _).1
  rw [heq] at hlt
  exact hlt le_rfl

namespace Binary64

/-! ### Grids of doubles -/

theorem spacing_mono {u v : Nat} (h : u ≤ v) : spacing u ≤ spacing v := by
  have hlog : u.log2 ≤ v.log2 := by
    rw [Nat.log2_eq_log_two, Nat.log2_eq_log_two]
    exact Nat.log_mono_right h
  unfold spacing
  omega

theorem lt_of_spacing_lt {u s : Nat} (h : spacing u < s) : u < 2 ^ 52 * 2 ^ s := by
  have hlog : u.log2 + 1 ≤ 52 + s := by
    unfold spacing at h
    omega
  rw [← Nat.pow_add]
  exact Nat.lt_of_lt_of_le Nat.lt_log2_self (Nat.pow_le_pow_right (by decide) hlog)

theorem le_spacing {s units : Nat} (h : 2 ^ (52 + s) ≤ units) : s ≤ spacing units := by
  have hne : units ≠ 0 := Nat.ne_of_gt (Nat.lt_of_lt_of_le (Nat.two_pow_pos _) h)
  have hlog := (Nat.le_log2 hne).2 h
  unfold spacing
  omega

theorem le_of_spacing_pos {u : Nat} (h : 0 < spacing u) : 2 ^ 52 * 2 ^ spacing u ≤ u := by
  have hlog : u.log2 = 52 + spacing u := by
    unfold spacing at *
    omega
  have hne : u ≠ 0 := by
    rintro rfl
    simp [spacing] at h
  rw [← Nat.pow_add, ← hlog]
  exact Nat.log2_self_le hne

/-- A number with 53 significant bits lies on the grid around a quotient, or the quotient is beyond
the first point of that grid with 53 bits, and the number before it. -/
theorem grid_cases (num : Nat) {den u : Nat} (hden : 0 < den) (hu : 2 ^ spacing u ∣ u) :
    (∃ m, u = m * 2 ^ spacing (num / den)) ∨
      (u < 2 ^ 52 * 2 ^ spacing (num / den) ∧
        2 ^ 52 * (den * 2 ^ spacing (num / den)) ≤ num) := by
  rcases Nat.lt_or_ge (spacing u) (spacing (num / den)) with h | h
  · have hquotient := le_of_spacing_pos (Nat.lt_of_le_of_lt (Nat.zero_le _) h)
    refine Or.inr ⟨lt_of_spacing_lt h, ?_⟩
    calc 2 ^ 52 * (den * 2 ^ spacing (num / den))
        = 2 ^ 52 * 2 ^ spacing (num / den) * den := by ring
      _ ≤ num := (Nat.le_div_iff_mul_le hden).1 hquotient
  · obtain ⟨m, hm⟩ := Nat.dvd_trans (Nat.pow_dvd_pow 2 h) hu
    exact Or.inl ⟨m, hm.trans (Nat.mul_comm _ _)⟩

/-! ### Rounding never crosses a double -/

/-- A quotient of at least a number with 53 significant bits rounds to at least that number. -/
theorem le_nearestUnits {num den bound : Nat} (hden : 0 < den) (hbound : 2 ^ spacing bound ∣ bound)
    (h : bound * den ≤ num) : bound ≤ nearestUnits num den := by
  have hstep : 0 < den * 2 ^ spacing (num / den) := Nat.mul_pos hden (Nat.two_pow_pos _)
  unfold nearestUnits
  dsimp only
  rcases grid_cases num hden hbound with ⟨m, hm⟩ | ⟨hless, hnum⟩
  · have hround : m ≤ roundHalfEven num (den * 2 ^ spacing (num / den)) := by
      refine le_roundHalfEven hstep ?_
      calc m * (den * 2 ^ spacing (num / den)) = bound * den := by rw [hm]; ring
        _ ≤ num := h
    calc bound = m * 2 ^ spacing (num / den) := hm
      _ ≤ _ := Nat.mul_le_mul_right _ hround
  · exact Nat.le_trans (Nat.le_of_lt hless)
      (Nat.mul_le_mul_right _ (le_roundHalfEven hstep hnum))

/-- A quotient of at most a number with 53 significant bits rounds to at most that number. -/
theorem nearestUnits_le {num den bound : Nat} (hden : 0 < den) (hbound : 2 ^ spacing bound ∣ bound)
    (h : num ≤ bound * den) : nearestUnits num den ≤ bound := by
  have hstep : 0 < den * 2 ^ spacing (num / den) := Nat.mul_pos hden (Nat.two_pow_pos _)
  have hspacing : spacing (num / den) ≤ spacing bound := by
    refine spacing_mono (Nat.div_le_of_le_mul ?_)
    rwa [Nat.mul_comm]
  obtain ⟨m, hm⟩ := Nat.dvd_trans (Nat.pow_dvd_pow 2 hspacing) hbound
  have hround : roundHalfEven num (den * 2 ^ spacing (num / den)) ≤ m := by
    refine roundHalfEven_le hstep ?_
    calc num ≤ bound * den := h
      _ = m * (den * 2 ^ spacing (num / den)) := by rw [hm]; ring
  calc nearestUnits num den
      = roundHalfEven num (den * 2 ^ spacing (num / den)) * 2 ^ spacing (num / den) := rfl
    _ ≤ m * 2 ^ spacing (num / den) := Nat.mul_le_mul_right _ hround
    _ = bound := by rw [hm, Nat.mul_comm]

/-! ### No double is nearer -/

/-- An even multiple of `2^s` of at most `2^(53+s)` has an even significand. -/
theorem two_mul_spacing_dvd {s m : Nat} (h : m ≤ 2 ^ 53) (heven : 2 ∣ m) :
    2 * 2 ^ spacing (m * 2 ^ s) ∣ m * 2 ^ s := by
  rcases Nat.lt_or_ge m (2 ^ 53) with hm | hm
  · exact Nat.mul_dvd_mul heven (Nat.pow_dvd_pow 2 (spacing_mul_le hm))
  · rw [Nat.le_antisymm h hm, spacing_two_pow, ← Nat.pow_add, ← Nat.pow_succ']
    exact Nat.pow_dvd_pow 2 (by omega)

/-- **No number with 53 significant bits is nearer to a quotient than its rounding**, and one that
is equally near leaves an even significand to the rounding. -/
theorem nearestUnits_nearest (num : Nat) {den other : Nat} (hden : 0 < den)
    (hother : 2 ^ spacing other ∣ other) :
    Nat.dist (nearestUnits num den * den) num ≤ Nat.dist (other * den) num ∧
      (Nat.dist (nearestUnits num den * den) num = Nat.dist (other * den) num →
        other ≠ nearestUnits num den →
          2 * 2 ^ spacing (nearestUnits num den) ∣ nearestUnits num den) := by
  have hstep : 0 < den * 2 ^ spacing (num / den) := Nat.mul_pos hden (Nat.two_pow_pos _)
  have hunits : nearestUnits num den =
      roundHalfEven num (den * 2 ^ spacing (num / den)) * 2 ^ spacing (num / den) := rfl
  have hgrid : nearestUnits num den * den =
      roundHalfEven num (den * 2 ^ spacing (num / den)) * (den * 2 ^ spacing (num / den)) := by
    rw [hunits]
    ring
  rcases grid_cases num hden hother with ⟨m, hm⟩ | ⟨hless, hnum⟩
  · obtain ⟨hnearest, heven⟩ := roundHalfEven_nearest num hstep m
    have hmgrid : other * den = m * (den * 2 ^ spacing (num / den)) := by
      rw [hm]
      ring
    rw [hgrid, hmgrid]
    refine ⟨hnearest, fun htie hne => ?_⟩
    refine two_mul_spacing_dvd (roundHalfEven_spacing_le num hden) (heven htie ?_)
    rintro rfl
    exact hne (hm.trans hunits.symm)
  · -- the first point of the grid is nearer than everything before it
    have hfirst := (roundHalfEven_nearest num hstep (2 ^ 52)).1
    have hfar : other * den < 2 ^ 52 * (den * 2 ^ spacing (num / den)) := by
      calc other * den < 2 ^ 52 * 2 ^ spacing (num / den) * den :=
            Nat.mul_lt_mul_of_pos_right hless hden
        _ = 2 ^ 52 * (den * 2 ^ spacing (num / den)) := by ring
    rw [hgrid]
    simp only [Nat.dist] at *
    constructor
    · omega
    · omega

/-- A larger quotient is rounded to no smaller number of units. -/
theorem nearestUnits_mono {a b den : Nat} (hden : 0 < den) (h : a ≤ b) :
    nearestUnits a den ≤ nearestUnits b den := by
  by_contra hlt
  have heq := eq_of_nearest (Nat.mul_lt_mul_of_pos_right (not_le.1 hlt) hden) h
    (nearestUnits_nearest a hden (nearestUnits_dvd b hden)).1
    (nearestUnits_nearest b hden (nearestUnits_dvd a hden)).1
  rw [heq] at hlt
  exact hlt le_rfl

/-! ### Overflow -/

/-- The binary exponent of the distance between the largest doubles, in units. -/
def topSpacing : Nat := 2045

/-- The number of units of the largest double. -/
def largest : Nat := (2 ^ 53 - 1) * 2 ^ topSpacing

theorem limit_eq : limit = 2 ^ 53 * 2 ^ topSpacing := by
  have h : limitExponent = 53 + topSpacing := rfl
  rw [limit, h, Nat.pow_add]

theorem spacing_largest_dvd : 2 ^ spacing largest ∣ largest := by
  rw [largest]
  exact spacing_mul_dvd (by decide)

theorem spacing_limit_dvd : 2 ^ spacing limit ∣ limit := by
  rw [limit_eq]
  exact spacing_mul_dvd (Nat.le_refl _)

theorem le_largest {u : Nat} (h : Representable u) : u ≤ largest := by
  obtain ⟨hdvd, hlimit⟩ := h
  rw [limit_eq] at hlimit
  rcases Nat.lt_or_ge (spacing u) topSpacing with hs | hs
  · rw [largest]
    exact Nat.le_trans (Nat.le_of_lt (lt_of_spacing_lt hs)) (Nat.mul_le_mul_right _ (by decide))
  · obtain ⟨m, hm⟩ := Nat.dvd_trans (Nat.pow_dvd_pow 2 hs) hdvd
    rw [hm, Nat.mul_comm] at hlimit
    have hless : m < 2 ^ 53 := Nat.lt_of_mul_lt_mul_right hlimit
    rw [hm, largest, Nat.mul_comm]
    exact Nat.mul_le_mul_right _ (Nat.le_pred_of_lt hless)

/-- The largest double has an odd significand. -/
theorem largest_odd : ¬ 2 * 2 ^ spacing largest ∣ largest := by
  decide +kernel

/-- A quotient is out of range from the middle between the largest double and the limit on. -/
theorem limit_le_nearestUnits_iff {num den : Nat} (hden : 0 < den) :
    limit ≤ nearestUnits num den ↔ (2 ^ 54 - 1) * (2 ^ topSpacing * den) ≤ 2 * num := by
  have hlimit : limit * den = 2 ^ 53 * (2 ^ topSpacing * den) := by
    rw [limit_eq, Nat.mul_assoc]
  have hlargest : largest * den = (2 ^ 53 - 1) * (2 ^ topSpacing * den) := by
    rw [largest, Nat.mul_assoc]
  have hstep : 0 < 2 ^ topSpacing * den := Nat.mul_pos (Nat.two_pow_pos _) hden
  obtain ⟨hnearLargest, -⟩ := nearestUnits_nearest num hden spacing_largest_dvd
  obtain ⟨hnearLimit, heven⟩ := nearestUnits_nearest num hden spacing_limit_dvd
  rw [hlimit] at hnearLimit heven
  rw [hlargest] at hnearLargest
  generalize 2 ^ topSpacing * den = step at *
  constructor
  · intro h
    have hbeyond := Nat.mul_le_mul_right den h
    rw [hlimit] at hbeyond
    simp only [Nat.dist] at hnearLargest
    omega
  · intro h
    by_contra hless
    -- below the limit nothing but the largest double is as near as the limit
    have hle : nearestUnits num den ≤ largest :=
      le_largest ⟨nearestUnits_dvd num hden, Nat.lt_of_not_le hless⟩
    have hbelow := Nat.mul_le_mul_right den hle
    rw [hlargest] at hbelow
    simp only [Nat.dist] at hnearLimit heven
    have htop : nearestUnits num den * den = largest * den := by
      rw [hlargest]
      omega
    have heq : nearestUnits num den = largest := Nat.eq_of_mul_eq_mul_right hden htop
    rw [heq] at heven hless
    rw [hlargest] at heven
    exact largest_odd (heven (by omega) fun h => hless (Nat.le_of_eq h))

/-! ### Correctly rounded doubles -/

/-- The number that a count of units stands for. -/
def unitsValue (units : Nat) : ℚ := units / one

/-- The middle between the largest double and the next power of two. -/
def overflow : ℚ := 2 ^ 1024 - 2 ^ 970

/-- A double is the correct rounding of a magnitude with a sign. -/
inductive RoundsTo (negative : Bool) (q : ℚ) : Binary64 → Prop
  /-- In range no double is nearer, and the significand is even if another one is as near. -/
  | finite {units : Nat} (h : Representable units) (inRange : q < overflow)
      (nearest : ∀ other, Representable other →
        |unitsValue units - q| ≤ |unitsValue other - q|)
      (even : ∀ other, Representable other → other ≠ units →
        |unitsValue units - q| = |unitsValue other - q| → 2 * 2 ^ spacing units ∣ units) :
      RoundsTo negative q (.finite negative units h)
  /-- Out of range the rounding is the infinity of the sign. -/
  | infinite (outOfRange : overflow ≤ q) : RoundsTo negative q (.infinite negative)

theorem cast_dist (a b : Nat) : ((Nat.dist a b : Nat) : ℚ) = |(a : ℚ) - b| := by
  rcases Nat.le_total a b with h | h
  · rw [Nat.dist_eq_sub_of_le h, Nat.cast_sub h, abs_sub_comm, abs_of_nonneg]
    exact sub_nonneg.2 (Nat.cast_le.2 h)
  · rw [Nat.dist_eq_sub_of_le_right h, Nat.cast_sub h, abs_of_nonneg]
    exact sub_nonneg.2 (Nat.cast_le.2 h)

theorem cast_one_pos : (0 : ℚ) < one := Nat.cast_pos.2 one_pos

/-- Distances from a quotient of units are distances of whole numbers. -/
theorem abs_unitsValue_sub (units num : Nat) {den : Nat} (hden : 0 < den) :
    |unitsValue units - num / (den * one)| = (Nat.dist (units * den) num : Nat) / (den * one) := by
  have hone := cast_one_pos
  have hden' : (0 : ℚ) < den := Nat.cast_pos.2 hden
  have hsub : unitsValue units - num / (den * one) =
      (((units * den : Nat) : ℚ) - num) / (den * one) := by
    rw [unitsValue, Nat.cast_mul]
    field_simp
  rw [hsub, abs_div, cast_dist, abs_of_pos (mul_pos hden' hone)]

theorem overflow_le_iff (num : Nat) {den : Nat} (hden : 0 < den) :
    overflow ≤ num / (den * one) ↔ limit ≤ nearestUnits num den := by
  have hden' : (0 : ℚ) < den := Nat.cast_pos.2 hden
  have hone : ((one : Nat) : ℚ) = 2 ^ unitExponent := by
    rw [one, Nat.cast_pow, Nat.cast_ofNat]
  have htop : ((2 ^ topSpacing : Nat) : ℚ) = 2 * (2 ^ 970 * 2 ^ unitExponent) := by
    rw [← pow_add, ← pow_succ', Nat.cast_pow, Nat.cast_ofNat]
    rfl
  have hpower : (2 : ℚ) ^ 1024 = 2 ^ 54 * 2 ^ 970 := by
    rw [← pow_add]
  have hmiddle : 2 * (overflow * (den * one)) =
      (((2 ^ 54 - 1) * (2 ^ topSpacing * den) : Nat) : ℚ) := by
    rw [overflow, hpower, hone, Nat.cast_mul, Nat.cast_mul, htop]
    generalize (2 : ℚ) ^ 970 = a
    generalize (2 : ℚ) ^ unitExponent = b
    norm_num
    ring
  rw [limit_le_nearestUnits_iff hden, le_div_iff₀ (mul_pos hden' cast_one_pos),
    ← Nat.cast_le (α := ℚ), ← hmiddle, Nat.cast_mul, Nat.cast_ofNat]
  exact (mul_le_mul_iff_right₀ two_pos).symm

/-- **What is made of a quotient is its correct rounding.** -/
theorem ofRatio_roundsTo (negative : Bool) (num : Nat) {den : Nat} (hden : 0 < den) :
    RoundsTo negative (num / (den * one)) (ofRatio negative num den) := by
  have hscale : (0 : ℚ) < den * one := mul_pos (Nat.cast_pos.2 hden) cast_one_pos
  rw [ofRatio, dif_pos hden]
  split
  · rename_i hlimit
    refine .finite _ ?_ (fun other hother => ?_) fun other hother hne htie => ?_
    · rw [← not_le, overflow_le_iff num hden]
      exact Nat.not_le_of_lt hlimit
    · rw [abs_unitsValue_sub _ num hden, abs_unitsValue_sub _ num hden]
      exact div_le_div_of_nonneg_right
        (Nat.cast_le.2 (nearestUnits_nearest num hden hother.1).1) hscale.le
    · rw [abs_unitsValue_sub _ num hden, abs_unitsValue_sub _ num hden,
        div_left_inj' hscale.ne', Nat.cast_inj] at htie
      exact (nearestUnits_nearest num hden hother.1).2 htie hne
  · rename_i hlimit
    exact .infinite ((overflow_le_iff num hden).2 (Nat.le_of_not_lt hlimit))

/-- **What is read as a decimal fraction is its correct rounding.** -/
theorem ofDecimal_roundsTo (negative : Bool) (digits places : Nat) :
    RoundsTo negative (digits / 10 ^ places) (ofDecimal negative digits places) := by
  have hquotient : ((digits * one : Nat) : ℚ) / ((10 ^ places : Nat) * one) =
      digits / 10 ^ places := by
    rw [Nat.cast_mul, mul_div_mul_right _ _ cast_one_pos.ne', Nat.cast_pow, Nat.cast_ofNat]
  rw [← hquotient]
  exact ofRatio_roundsTo negative (digits * one) (Nat.pow_pos (by decide))

end Binary64

end Toolpath
