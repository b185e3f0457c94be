/-
**How durations are shown.**

From a minute on a duration is shown in whole seconds, rounded down, which are taken apart into
hours, minutes and seconds.  Below a minute it is shown in tenths of a second, rounded to the
nearest; so the last twentieth of a second before the minute is shown as sixty seconds, and it is
the only time that is not shown below sixty.

Main definitions:

* `Toolpath.Shown` — what is shown of a duration: hours, minutes and seconds, or tenths;
* `Toolpath.Shown.IsCanonical` — minutes and seconds are below sixty;
* `Toolpath.Shown.Tells` — what is shown is a number of seconds, rounded;
* `Toolpath.Duration.ShownAs` — a duration is shown in this way.

Main results:

* `Toolpath.Duration.totalSeconds_eq` — the seconds of a duration that is no less than zero;
* `Toolpath.Duration.tenths_eq_iff` — which durations round to sixty seconds;
* `Toolpath.Duration.text_shows` — **every duration that is no less than zero is shown**, and
  exactly the last twentieth of a second before a minute is not shown below sixty seconds.
-/

import Mathlib.Algebra.Order.Floor.Semifield
import Mathlib.Data.Rat.Floor
import Toolpath.Duration
import Toolpath.Proofs.Approximation

set_option relaxedAutoImplicit false
set_option autoImplicit false

namespace Toolpath

open Binary64

/-! ### What is shown -/

/-- What is shown of a duration. -/
inductive Shown where
  | hours (h m s : Nat)
  | minutes (m s : Nat)
  /-- Seconds with one place. -/
  | tenths (n : Nat)
  deriving DecidableEq

namespace Shown

/-- The wording of what is shown. -/
def text : Shown → String
  | hours h m s => toString h ++ "h " ++ toString m ++ "m " ++ toString s ++ "s"
  | minutes m s => toString m ++ "m " ++ toString s ++ "s"
  | tenths n => toString (n / 10) ++ "." ++ toString (n % 10) ++ "s"

/-- Minutes and seconds are below sixty, and the first number of several is not zero. -/
def IsCanonical : Shown → Prop
  | hours h m s => 1 ≤ h ∧ m < 60 ∧ s < 60
  | minutes m s => 1 ≤ m ∧ m < 60 ∧ s < 60
  | tenths n => n < 600

/-- What is shown is a number of seconds: without its fraction, or rounded to tenths with a tie
going to the even one. -/
def Tells (q : ℚ) : Shown → Prop
  | hours h m s => 3600 * h + 60 * m + s = ⌊q⌋₊
  | minutes m s => 60 * m + s = ⌊q⌋₊
  | tenths n => |10 * q - n| ≤ 1 / 2 ∧ (|10 * q - n| = 1 / 2 → 2 ∣ n)

end Shown

/-! ### Tenths -/

/-- A rounded quotient is at most one half away from the exact one, and even if it is one half. -/
theorem abs_sub_roundHalfEven_le (num : Nat) {den : Nat} (hden : 0 < den) :
    |(num : ℚ) / den - roundHalfEven num den| ≤ 1 / 2 ∧
      (|(num : ℚ) / den - roundHalfEven num den| = 1 / 2 → 2 ∣ roundHalfEven num den) := by
  have hden' : (0 : ℚ) < den := Nat.cast_pos.2 hden
  have hdist : |(num : ℚ) / den - roundHalfEven num den| =
      (Nat.dist (roundHalfEven num den * den) num : Nat) / den := by
    rw [abs_sub_comm, cast_dist, Nat.cast_mul, ← abs_of_pos hden', ← abs_div, abs_of_pos hden',
      sub_div, mul_div_cancel_right₀ _ hden'.ne']
  have hsplit : num / den * den + num % den = num := Nat.div_add_mod' num den
  rw [hdist]
  constructor
  · rw [div_le_div_iff₀ hden' two_pos, one_mul]
    exact_mod_cast (Nat.mul_comm _ 2).trans_le (two_mul_dist_roundHalfEven_le num hden)
  · intro htie
    rw [div_eq_div_iff hden'.ne' two_ne_zero, one_mul] at htie
    have htie' : Nat.dist (roundHalfEven num den * den) num * 2 = den := by exact_mod_cast htie
    rcases roundHalfEven_cases num den with ⟨hround, -, heven⟩ | ⟨hround, hnear, heven⟩
    · refine heven ?_
      rw [hround, Nat.dist] at htie'
      omega
    · refine heven ?_
      have hrest : num % den < den := Nat.mod_lt num hden
      rw [hround, Nat.add_mul, Nat.one_mul, Nat.dist] at htie'
      omega

/-- One place after the point is the last digit of the tenths. -/
theorem ofList_pointedDigits_one (n : Nat) :
    String.ofList (pointedDigits 1 n) = toString (n / 10) ++ "." ++ toString (n % 10) := by
  have hdigit : Nat.toDigits 10 (n % 10) = [Nat.digitChar (n % 10)] :=
    Nat.toDigits_of_lt_base (Nat.mod_lt n (by decide))
  rw [Nat.toString_eq_ofList_toDigits, Nat.toString_eq_ofList_toDigits, hdigit]
  apply String.toList_injective
  simp [pointedDigits, paddedDigits]

namespace Duration

/-! ### Seconds -/

/-- The seconds of a number of microseconds, as units of doubles. -/
def secondUnits (micros : Nat) : Nat := nearestUnits (micros * one) microsPerSecond

variable {duration : Duration}

theorem natAbs_micros_lt (h : 0 ≤ duration.micros) :
    duration.micros.natAbs < 86400000000000000000 := by
  have hrange := duration.inRange.2
  simp only [microsPerDay, secondsPerDay, microsPerSecond, maxDays] at hrange
  omega

theorem representable_secondUnits {micros : Nat} (h : micros < 86400000000000000000) :
    Representable (secondUnits micros) := by
  refine ⟨nearestUnits_dvd _ (by decide), ?_⟩
  refine Nat.lt_of_le_of_lt (nearestUnits_le (by decide) representable_safe.1 ?_)
    representable_safe.2
  rw [Nat.mul_right_comm]
  exact Nat.mul_le_mul_right _ (h.le.trans (by decide))

/-- **The seconds of a duration that is no less than zero** are a finite double, rounded once. -/
theorem totalSeconds_eq (h : 0 ≤ duration.micros) :
    duration.totalSeconds = finite false (secondUnits duration.micros.natAbs)
      (representable_secondUnits (natAbs_micros_lt h)) := by
  rw [totalSeconds, decide_eq_false (not_lt.2 h)]
  exact ofRatio_eq_finite false (by decide) _

theorem value_totalSeconds (h : 0 ≤ duration.micros) :
    duration.totalSeconds.value = unitsValue (secondUnits duration.micros.natAbs) := by
  rw [totalSeconds_eq h, value_finite, signFactor, if_neg Bool.false_ne_true, one_mul]

theorem wholeSeconds_eq (h : 0 ≤ duration.micros) :
    duration.wholeSeconds = secondUnits duration.micros.natAbs / one := by
  rw [wholeSeconds, if_neg (not_lt.2 h), totalSeconds_eq h, magnitude]

/-- The whole seconds are the seconds without their fraction. -/
theorem wholeSeconds_eq_floor (h : 0 ≤ duration.micros) :
    duration.wholeSeconds = ⌊duration.totalSeconds.value⌋₊ := by
  rw [wholeSeconds_eq h, value_totalSeconds h, unitsValue, Nat.floor_div_eq_div]

/-- The tenths of a second that a number of microseconds is rounded to. -/
def tenths (micros : Nat) : Nat := roundHalfEven (secondUnits micros * 10) one

theorem fixed_totalSeconds (h : 0 ≤ duration.micros) :
    duration.totalSeconds.fixed 1 =
      String.ofList (pointedDigits 1 (tenths duration.micros.natAbs)) := by
  rw [totalSeconds_eq h, fixed, signText, if_neg Bool.false_ne_true, List.nil_append, Nat.pow_one,
    tenths]

/-! ### The last twentieth of a second before a minute -/

/-- Longer durations have no fewer seconds. -/
theorem secondUnits_mono {a b : Nat} (h : a ≤ b) : secondUnits a ≤ secondUnits b :=
  nearestUnits_mono (by decide) (Nat.mul_le_mul_right one h)

theorem tenths_mono {a b : Nat} (h : a ≤ b) : tenths a ≤ tenths b := by
  rw [tenths, tenths]
  exact roundHalfEven_mono Binary64.one_pos (Nat.mul_le_mul_right 10 (secondUnits_mono h))

/-- Rounding takes no duration across a minute. -/
theorem secondUnits_div_lt_iff (micros : Nat) :
    secondUnits micros / one < 60 ↔ micros < 60000000 := by
  have hbelow : secondUnits 59999999 / one = 59 := by decide +kernel
  have habove : secondUnits 60000000 / one = 60 := by decide +kernel
  constructor
  · intro h
    by_contra hge
    have := Nat.div_le_div_right (c := one) (secondUnits_mono (not_lt.1 hge))
    omega
  · intro h
    have hle : micros ≤ 59999999 := by omega
    have := Nat.div_le_div_right (c := one) (secondUnits_mono hle)
    omega

/-- Below a minute the tenths are at most sixty seconds. -/
theorem tenths_le {micros : Nat} (h : micros < 60000000) : tenths micros ≤ 600 := by
  have hlast : tenths 59999999 = 600 := by decide +kernel
  have hle : micros ≤ 59999999 := by omega
  exact hlast ▸ tenths_mono hle

/-- **They are sixty seconds exactly in the last twentieth of a second.** -/
theorem tenths_eq_iff {micros : Nat} (h : micros < 60000000) :
    tenths micros = 600 ↔ 59950000 ≤ micros := by
  have hbefore : tenths 59949999 = 599 := by decide +kernel
  have hfirst : tenths 59950000 = 600 := by decide +kernel
  have hle := tenths_le h
  constructor
  · intro heq
    by_contra hlt
    have := tenths_mono (a := micros) (b := 59949999) (by omega)
    omega
  · intro hge
    have := tenths_mono hge
    omega

/-! ### What is shown of a duration -/

/-- A duration is shown in this way. -/
structure ShownAs (duration : Duration) (shown : Shown) : Prop where
  text_eq : duration.text = shown.text
  /-- It is shown by its seconds. -/
  tells : shown.Tells duration.totalSeconds.value
  /-- It is shown in tenths exactly below a minute. -/
  tenths_iff : (∃ n, shown = .tenths n) ↔ duration.micros < 60000000
  /-- Minutes and seconds are below sixty, except in the last twentieth of a second before a
  minute. -/
  isCanonical_iff : shown.IsCanonical ↔
    ¬ (59950000 ≤ duration.micros ∧ duration.micros < 60000000)
  /-- That is shown as sixty seconds. -/
  late_eq : 59950000 ≤ duration.micros → duration.micros < 60000000 → shown = .tenths 600

theorem text_of_tenths (h : 0 ≤ duration.micros) (hlt : duration.wholeSeconds < 60) :
    duration.text = (Shown.tenths (tenths duration.micros.natAbs)).text := by
  rw [text, if_neg (by omega), if_neg (by omega), fixed_totalSeconds h, ofList_pointedDigits_one]
  rfl

theorem tells_tenths (h : 0 ≤ duration.micros) :
    (Shown.tenths (tenths duration.micros.natAbs)).Tells duration.totalSeconds.value := by
  have hvalue : 10 * duration.totalSeconds.value =
      ((secondUnits duration.micros.natAbs * 10 : Nat) : ℚ) / one := by
    rw [value_totalSeconds h, unitsValue, Nat.cast_mul, Nat.cast_ofNat]
    ring
  rw [Shown.Tells, hvalue, tenths]
  exact abs_sub_roundHalfEven_le _ Binary64.one_pos

/-- **Every duration that is no less than zero is shown**, and exactly the last twentieth of a
second before a minute is not shown below sixty seconds. -/
theorem text_shows (h : 0 ≤ duration.micros) :
    duration.totalSeconds.isFinite = true ∧ ∃ shown, duration.ShownAs shown := by
  have hmicros : (duration.micros.natAbs : Int) = duration.micros := Int.natAbs_of_nonneg h
  have hminute := secondUnits_div_lt_iff duration.micros.natAbs
  rw [← wholeSeconds_eq h] at hminute
  refine ⟨by rw [totalSeconds_eq h]; rfl, ?_⟩
  rcases Nat.lt_or_ge duration.wholeSeconds 60 with hlt | hge
  · -- below a minute the tenths are at most sixty seconds
    have hless := hminute.1 hlt
    have hle := tenths_le hless
    have hlate := tenths_eq_iff hless
    refine ⟨.tenths (tenths duration.micros.natAbs), text_of_tenths h hlt, tells_tenths h,
      ?_, ?_, ?_⟩
    · simp only [Shown.tenths.injEq, exists_eq', true_iff]
      omega
    · rw [Shown.IsCanonical]
      constructor
      · rintro hnext ⟨hfirst, -⟩
        omega
      · omega
    · intro hfirst _
      rw [hlate.2 (by omega)]
  · -- from a minute on the whole seconds are taken apart
    have hlong : 60000000 ≤ duration.micros := by omega
    have hfloor := wholeSeconds_eq_floor h
    have hlate : ¬ (59950000 ≤ duration.micros ∧ duration.micros < 60000000) := by omega
    rcases Nat.lt_or_ge duration.wholeSeconds 3600 with hhour | hhour
    · refine ⟨.minutes (duration.wholeSeconds / 60) (duration.wholeSeconds % 60),
        ?_, ?_, ?_, ?_, ?_⟩
      · rw [text, if_neg (by omega), if_pos (by omega)]
        rfl
      · rw [Shown.Tells, ← hfloor]
        omega
      · simp only [reduceCtorEq, exists_false, false_iff, not_lt]
        exact hlong
      · simp only [hlate, Shown.IsCanonical, not_false_eq_true, iff_true]
        omega
      · omega
    · refine ⟨.hours (duration.wholeSeconds / 3600) (duration.wholeSeconds / 60 % 60)
        (duration.wholeSeconds % 60), ?_, ?_, ?_, ?_, ?_⟩
      · rw [text, if_pos (by omega)]
        rfl
      · rw [Shown.Tells, ← hfloor]
        omega
      · simp only [reduceCtorEq, exists_false, false_iff, not_lt]
        exact hlong
      · simp only [hlate, Shown.IsCanonical, not_false_eq_true, iff_true]
        omega
      · omega

/-- A duration of nearly a minute. -/
def nearlyMinute : Duration := ⟨59960000, by decide⟩

theorem text_shows_nearlyMinute :
    0 ≤ nearlyMinute.micros ∧ nearlyMinute.totalSeconds.isFinite = true ∧
      ∃ shown, nearlyMinute.ShownAs shown :=
  ⟨by decide, text_shows (by decide)⟩

/-- **Nearly a minute is shown as sixty seconds**: nothing that tells its seconds has all of them
below sixty. -/
theorem nearlyMinute_not_canonical :
    0 ≤ nearlyMinute.micros ∧ nearlyMinute.text = "60.0s" ∧
      ¬ ∃ shown : Shown, nearlyMinute.text = shown.text ∧ shown.IsCanonical ∧
        shown.Tells nearlyMinute.totalSeconds.value := by
  refine ⟨by decide, by decide +kernel, ?_⟩
  rintro ⟨shown, -, hcanonical, htells⟩
  have hwhole : nearlyMinute.wholeSeconds = 59 := by decide +kernel
  have hfloor : nearlyMinute.wholeSeconds = ⌊nearlyMinute.totalSeconds.value⌋₊ :=
    wholeSeconds_eq_floor (by decide)
  cases shown with
  | hours h m s =>
      rw [Shown.Tells, ← hfloor] at htells
      have := hcanonical.1
      omega
  | minutes m s =>
      rw [Shown.Tells, ← hfloor] at htells
      have := hcanonical.1
      omega
  | tenths n =>
      -- the nearest number of tenths is six hundred
      have hunits : 1199 * one < secondUnits 59960000 * 20 := by decide +kernel
      have hcast : (1199 : ℚ) * one < secondUnits 59960000 * 20 := by exact_mod_cast hunits
      have hvalue : nearlyMinute.totalSeconds.value = unitsValue (secondUnits 59960000) :=
        value_totalSeconds (by decide)
      have hn : (n : ℚ) ≤ 599 := by exact_mod_cast Nat.le_pred_of_lt hcanonical
      have hnear := (abs_le.1 htells.1).2
      have htenths : 1199 / 2 < 10 * nearlyMinute.totalSeconds.value := by
        rw [hvalue, unitsValue, mul_div_assoc', div_lt_div_iff₀ two_pos cast_one_pos]
        linarith
      linarith

end Duration

end Toolpath
