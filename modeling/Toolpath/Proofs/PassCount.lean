/-
**How many passes are counted.**

The passes of a milling program are counted by rounding up the quotient of an extent by a step.  The
quotient is rounded to a double before it is rounded up.  Where the step does not fit the extent
exactly, the passes are counted as they should be, for all measures of up to ten metres.  Where it
does, the rounded quotient can lie just above the number of steps, and then one pass too many is
counted.

Main definitions:

* `Toolpath.Measure` — a length in thousandths of a millimetre, of up to ten metres;
* `Toolpath.Overcounted` — a step fits an extent exactly, and the rounded quotient is too large;
* `Toolpath.cuts` — how far the counted steps reach.

Main results:

* `Toolpath.lt_quotient`, `Toolpath.quotient_lt` — on which side of a whole number the rounded
  quotient lies;
* `Toolpath.exists_steps` — **how many steps are counted**;
* `Toolpath.iff_not_overcounted` — steps go on and on, or the last two of them reach equally far.
-/

import Toolpath.Proofs.Thousandths
import Toolpath.Sample

set_option relaxedAutoImplicit false
set_option autoImplicit false

namespace Toolpath

open Binary64

/-! ### Measures -/

/-- A length in thousandths of a millimetre, of up to ten metres. -/
structure Measure where
  count : Int
  pos : 0 < count
  le : count ≤ 10000000
  deriving DecidableEq

namespace Measure

/-- The length as the nearest double. -/
def length (m : Measure) : Binary64 := thousandths m.count

variable (m : Measure)

theorem inRange : InRange m.count := by
  have hpos := m.pos
  have hle := m.le
  constructor <;> omega

theorem isFinite_length : m.length.isFinite = true := isFinite_thousandths m.inRange

theorem one_le_cast : (1 : ℚ) ≤ m.count := by exact_mod_cast m.pos

theorem cast_le : (m.count : ℚ) ≤ 10000000 := by exact_mod_cast m.le

/-- The error of a length is one rounding. -/
theorem abs_value_length_sub_le :
    |m.length.value - m.count / 1000| ≤ ((m.count : ℚ) / 1000 + 1) / 2 ^ 53 := by
  have herror := (rounded_thousandths m.inRange).error_le
  have hpos := m.one_le_cast
  have hnonneg : (0 : ℚ) ≤ m.count / 1000 := by linarith
  rwa [abs_of_nonneg hnonneg] at herror

theorem value_length_bounds : 1 / 2000 ≤ m.length.value ∧ m.length.value ≤ 10001 := by
  have herror := abs_le.1 m.abs_value_length_sub_le
  have hpos := m.one_le_cast
  have hle := m.cast_le
  constructor <;> linarith

theorem magnitude_ne_zero : m.length.magnitude ≠ 0 := by
  have hpos := m.value_length_bounds.1
  exact magnitude_ne_zero_of_value m.isFinite_length (by linarith)

end Measure

/-! ### Rounded quotients -/

section Quotient

variable (extent step : Measure)

/-- The quotient of an extent by a step is off by one rounding. -/
theorem rounded_quotient : (extent.length / step.length).isFinite = true ∧
    |(extent.length / step.length).value - extent.length.value / step.length.value| ≤
      1 / 100000000 := by
  have hextent := extent.value_length_bounds
  have hstep := step.value_length_bounds
  have hpos : 0 < step.length.value := by linarith
  have hnonneg : 0 ≤ extent.length.value / step.length.value :=
    div_nonneg (by linarith) hpos.le
  have hbound : |extent.length.value / step.length.value| ≤ 21000000 := by
    rw [abs_of_nonneg hnonneg, div_le_iff₀ hpos]
    linarith
  have hrounded := rounded_div extent.isFinite_length step.isFinite_length hpos.ne'
    (hbound.trans (by norm_num [safe]))
  refine ⟨hrounded.isFinite, hrounded.error_le.trans ?_⟩
  rw [div_le_div_iff₀ (by norm_num) (by norm_num)]
  linarith

/-- The error of a number of steps. -/
theorem abs_mul_value_length_sub_le {n : Int} (hn : 0 ≤ n) (hsmall : n ≤ 10000001)
    (hproduct : n * step.count ≤ 20000000) :
    |n * step.length.value - n * step.count / 1000| ≤ 1 / 10000 := by
  have hcast : (0 : ℚ) ≤ n := by exact_mod_cast hn
  have hsmall' : (n : ℚ) ≤ 10000001 := by exact_mod_cast hsmall
  have hproduct' : (n : ℚ) * step.count ≤ 20000000 := by exact_mod_cast hproduct
  rw [mul_div_assoc, ← mul_sub, abs_mul, abs_of_nonneg hcast]
  calc (n : ℚ) * |step.length.value - step.count / 1000|
      ≤ n * (((step.count : ℚ) / 1000 + 1) / 2 ^ 53) :=
        mul_le_mul_of_nonneg_left step.abs_value_length_sub_le hcast
    _ = (n * step.count / 1000 + n) / 2 ^ 53 := by ring
    _ ≤ 1 / 10000 := by
        rw [div_le_div_iff₀ (by norm_num) (by norm_num)]
        linarith

variable {extent step}

/-- The rounded quotient is above every number of steps that falls short of the extent. -/
theorem lt_quotient {n : Int} (hn : 0 ≤ n) (h : n * step.count < extent.count) :
    (n : ℚ) < (extent.length / step.length).value := by
  have hextent := extent.value_length_bounds
  have hstep := step.value_length_bounds
  have hpos : 0 < step.length.value := by linarith
  have hle := extent.le
  have hsmall : n ≤ n * step.count := le_mul_of_one_le_right hn step.pos
  have hsteps := abs_le.1 (abs_mul_value_length_sub_le step hn (by omega) (by omega))
  have hlength := abs_le.1 extent.abs_value_length_sub_le
  have hcast : (n : ℚ) * step.count + 1 ≤ extent.count := by exact_mod_cast h
  have hcount := extent.cast_le
  have hquotient : (n : ℚ) + 4 / 100000000 ≤ extent.length.value / step.length.value := by
    rw [le_div_iff₀ hpos, add_mul]
    linarith
  have herror := abs_le.1 (rounded_quotient extent step).2
  linarith

/-- The rounded quotient is below every number of steps that goes beyond the extent, as long as not
more than the last of them does. -/
theorem quotient_lt {n : Int} (hn : 0 ≤ n) (hsmall : n ≤ 10000001)
    (hproduct : n * step.count ≤ 20000000) (h : extent.count < n * step.count) :
    (extent.length / step.length).value < n := by
  have hextent := extent.value_length_bounds
  have hstep := step.value_length_bounds
  have hpos : 0 < step.length.value := by linarith
  have hsteps := abs_le.1 (abs_mul_value_length_sub_le step hn hsmall hproduct)
  have hlength := abs_le.1 extent.abs_value_length_sub_le
  have hcast : (extent.count : ℚ) + 1 ≤ n * step.count := by exact_mod_cast h
  have hcount := extent.cast_le
  have hquotient : extent.length.value / step.length.value ≤ n - 4 / 100000000 := by
    rw [div_le_iff₀ hpos, sub_mul]
    linarith
  have herror := abs_le.1 (rounded_quotient extent step).2
  linarith

end Quotient

/-! ### Counted steps -/

/-- Whole numbers are compared with a double as its value is. -/
theorem ofInt_lt_iff {n : Int} (hn : 0 ≤ n) (hsmall : n ≤ 10000001) {c : Binary64}
    (hfinite : c.isFinite = true) : ofInt n < c ↔ (n : ℚ) < c.value := by
  obtain ⟨k, rfl⟩ := Int.eq_ofNat_of_zero_le hn
  have hk : k ≤ 2 ^ 53 := by omega
  rw [lt_iff (isNaN_of_isFinite (isFinite_ofInt hk)) (isNaN_of_isFinite hfinite),
    place_lt_iff_value, value_ofInt hk, Int.cast_natCast]

/-- One step too many is counted: the step fits the extent exactly, and the rounded quotient is
above the number of steps. -/
def Overcounted (extent step : Measure) : Prop :=
  step.count ∣ extent.count ∧ ofInt (extent.count / step.count) < extent.length / step.length

instance (extent step : Measure) : Decidable (Overcounted extent step) :=
  inferInstanceAs (Decidable (_ ∧ _))

/-- An extent of thirty-three thousandths. -/
def thirtyThree : Measure := ⟨33, by decide, by decide⟩

/-- A step of eleven thousandths. -/
def eleven : Measure := ⟨11, by decide, by decide⟩

/-- The quotient of these two is rounded to a double above three. -/
theorem overcounted_thirtyThree : Overcounted thirtyThree eleven := by decide +kernel

-- ten steps of five millimetres make fifty, as they should
example : ¬ Overcounted ⟨50000, by decide, by decide⟩ ⟨5000, by decide, by decide⟩ := by
  decide +kernel

/-- **How many steps are counted**: enough to cover the extent, and the last one is needed, unless
one too many is counted. -/
theorem exists_steps (extent step : Measure) :
    ∃ n : Nat, stepsAcross extent.length step.length = .ok n ∧
      ((n : Int) - 1) * step.count ≤ extent.count ∧ extent.count ≤ n * step.count ∧
      (Overcounted extent step ↔ ((n : Int) - 1) * step.count = extent.count) := by
  have hstep := step.pos
  have hextent := extent.pos
  have hle := extent.le
  obtain ⟨hfinite, -⟩ := rounded_quotient extent step
  obtain ⟨n, hceil, hlow, hhigh⟩ := exists_ceil? hfinite
  -- the extent lies in the steps from this one to the next
  obtain ⟨m, hm⟩ : ∃ m, m = extent.count / step.count := ⟨_, rfl⟩
  have hfloor : m * step.count ≤ extent.count ∧ extent.count < (m + 1) * step.count := by
    rw [hm]
    exact ⟨Int.ediv_mul_le _ hstep.ne', Int.lt_ediv_add_one_mul_self _ hstep⟩
  have hm0 : 0 ≤ m := hm ▸ Int.ediv_nonneg hextent.le hstep.le
  have hmsmall : m ≤ m * step.count := le_mul_of_one_le_right hm0 hstep
  have hproduct : (m + 1) * step.count ≤ 20000000 := by
    have hstepLe := step.le
    rw [add_mul, one_mul]
    omega
  have hbelow := quotient_lt (by omega) (by omega) hproduct hfloor.2
  have hn_le : n ≤ m + 1 := by
    have hlt := hlow.trans hbelow
    have hlt' := Int.cast_lt.1 hlt
    omega
  have hn_pos : 0 < n := by
    have hlt := (lt_quotient le_rfl (by rw [zero_mul]; exact hextent)).trans_le hhigh
    exact Int.cast_lt.1 hlt
  have hcovers : extent.count ≤ n * step.count := by
    by_contra hnot
    exact absurd (lt_quotient hn_pos.le (not_le.1 hnot)) (not_lt.2 hhigh)
  have hneeded : (n - 1) * step.count ≤ extent.count := by
    calc (n - 1) * step.count ≤ m * step.count :=
          Int.mul_le_mul_of_nonneg_right (by omega) hstep.le
      _ ≤ extent.count := hfloor.1
  have hovercounted : Overcounted extent step ↔ (n - 1) * step.count = extent.count := by
    rw [Overcounted, ← hm, ofInt_lt_iff hm0 (by omega) hfinite]
    constructor
    · rintro ⟨hdvd, habove⟩
      have hlt := habove.trans_le hhigh
      have hlt' := Int.cast_lt.1 hlt
      have hlast : n - 1 = m := by omega
      rw [hlast, hm]
      exact Int.ediv_mul_cancel hdvd
    · intro hexact
      have hlast : m = n - 1 := by
        rw [hm, ← hexact]
        exact Int.mul_ediv_cancel _ hstep.ne'
      exact ⟨⟨n - 1, by rw [← hexact, Int.mul_comm]⟩, hlast ▸ hlow⟩
  have hcast : ((n.toNat : Nat) : Int) = n := Int.toNat_of_nonneg hn_pos.le
  refine ⟨n.toNat, ?_, ?_⟩
  · rw [stepsAcross, if_neg fun hzero => step.magnitude_ne_zero hzero.1]
    dsimp only
    rw [hceil, hcast]
  · rw [hcast]
    exact ⟨hneeded, hcovers, hovercounted⟩

/-- An extent is not covered without any step. -/
theorem ne_zero_of_covers {extent step : Measure} {n : Nat} (h : extent.count ≤ n * step.count) :
    n ≠ 0 := by
  rintro rfl
  have hpos := extent.pos
  rw [Nat.cast_zero, zero_mul] at h
  omega

/-! ### The reach of steps -/

/-- How far a number of steps reaches: at most to the end of the extent. -/
def cut (extent step : Measure) (n : Nat) : Int := min (n * step.count) extent.count

/-- How far the counted steps reach, one after another. -/
def cuts (extent step : Measure) (n : Nat) : List Int := (List.range' 1 n).map (cut extent step)

section Cuts

variable {extent step : Measure} {n : Nat}

/-- The reach of steps is computed nearly exactly, up to the last one that is counted. -/
theorem near_cut (h : ((n : Int) - 1) * step.count ≤ extent.count) {place : Nat}
    (hplace : place ≤ n) :
    Near ((ofInt place * step.length).least extent.length) (cut extent step place) := by
  have hpos := step.pos
  have hstep := step.le
  have hextent := extent.le
  have hreach : ((place : Int) - 1) * step.count ≤ extent.count :=
    (Int.mul_le_mul_of_nonneg_right (by omega) hpos.le).trans h
  rw [sub_mul, one_mul] at hreach
  have hsmall : (place : Int) ≤ place * step.count := le_mul_of_one_le_right (by omega) hpos
  have hrange : InRange (place * step.count) := ⟨by omega, by omega⟩
  exact (near_mul (by omega) step.inRange hrange).least (near_thousandths extent.inRange)

theorem cut_pos {place : Nat} (h : 1 ≤ place) : 0 < cut extent step place :=
  lt_min (Int.mul_pos (by omega) step.pos) extent.pos

theorem inRange_cut {place : Nat} (h : 1 ≤ place) : InRange (cut extent step place) := by
  have hpos := @cut_pos extent step place h
  have hle : cut extent step place ≤ extent.count := min_le_right _ _
  have hextent := extent.le
  constructor <;> omega

theorem inRange_of_mem_cuts {y : Int} (h : y ∈ cuts extent step n) : InRange y := by
  obtain ⟨place, hplace, rfl⟩ := List.mem_map.1 h
  exact inRange_cut (List.mem_range'_1.1 hplace).1

/-- Steps that are all needed go farther and farther. -/
theorem pairwise_cuts (h : ((n : Int) - 1) * step.count < extent.count) :
    (0 :: cuts extent step n).Pairwise (· < ·) := by
  have hzero : cut extent step 0 = 0 := by
    rw [cut, Nat.cast_zero, zero_mul]
    exact min_eq_left extent.pos.le
  have hall : 0 :: cuts extent step n = (List.range' 0 (n + 1)).map (cut extent step) := by
    rw [List.range'_succ, List.map_cons, hzero, cuts]
  have hpos := step.pos
  rw [hall, List.pairwise_map]
  refine List.Pairwise.imp_of_mem ?_ (List.pairwise_lt_range' 1)
  intro i j _ hj hless
  have hlast : j < 0 + (n + 1) := (List.mem_range'_1.1 hj).2
  -- the earlier one is not the last, and so it does not come to the end
  have hshort : (i : Int) * step.count ≤ (n - 1) * step.count :=
    Int.mul_le_mul_of_nonneg_right (by omega) hpos.le
  have hnext : (i : Int) * step.count < j * step.count :=
    Int.mul_lt_mul_of_pos_right (by omega) hpos
  exact lt_min ((min_le_left _ _).trans_lt hnext) ((min_le_left _ _).trans_lt (by omega))

/-- If the last step is one too many, the last two reach equally far. -/
theorem exists_cuts_eq (h : ((n : Int) - 1) * step.count = extent.count) :
    ∃ front, cuts extent step n = front ++ [extent.count, extent.count] := by
  have hpos := step.pos
  have hfirst : 0 < (n : Int) - 1 := by
    have hextent := extent.pos
    rw [← h] at hextent
    exact Int.pos_of_mul_pos_left hextent hpos
  obtain ⟨m, rfl⟩ : ∃ m, n = m + 2 := ⟨n - 2, by omega⟩
  have hlast : ((m + 1 : Nat) : Int) * step.count = extent.count := by
    rw [← h]
    congr 1
    omega
  have hend : cut extent step (1 + 1 * m) = extent.count := by
    rw [Nat.one_mul, Nat.add_comm, cut, hlast, min_self]
  have hbeyond : cut extent step (1 + 1 * (m + 1)) = extent.count := by
    rw [Nat.one_mul, Nat.add_comm, cut, Nat.cast_add, add_mul, hlast]
    refine min_eq_right ?_
    rw [Nat.cast_one, one_mul]
    omega
  refine ⟨(List.range' 1 m).map (cut extent step), ?_⟩
  rw [cuts, List.range'_concat, List.range'_concat, List.map_append, List.map_append,
    List.map_singleton, List.map_singleton, hend, hbeyond, List.append_assoc]
  rfl

/-- What holds of steps that go on and on, and not of steps of which the last two reach equally far,
holds exactly if no step too many is counted. -/
theorem iff_not_overcounted (hneeded : ((n : Int) - 1) * step.count ≤ extent.count)
    (hcounted : Overcounted extent step ↔ ((n : Int) - 1) * step.count = extent.count) {P : Prop}
    (hstrict : (0 :: cuts extent step n).Pairwise (· < ·) → P)
    (htwice : ∀ front, cuts extent step n = front ++ [extent.count, extent.count] → ¬ P) :
    P ↔ ¬ Overcounted extent step := by
  rw [hcounted]
  rcases lt_or_eq_of_le hneeded with h | h
  · exact iff_of_true (hstrict (pairwise_cuts h)) h.ne
  · obtain ⟨front, hfront⟩ := exists_cuts_eq h
    exact iff_of_false (htwice front hfront) (not_not.2 h)

end Cuts

end Toolpath
