/-
**Numbers with a fixed number of places.**

A double with a fixed number of places is written as a count of parts: tenths, hundredths or
thousandths, with the point put in its place.  What is written is a numeral, and its value is the
double nearest to the count of parts.  So a double that is written in a program and read again is
the double nearest to its rounding.

Main definitions:

* `Toolpath.decimal` — the numeral of a count of parts;
* `Toolpath.Binary64.ofParts` — the double nearest to a count of parts;
* `Toolpath.Binary64.parts` — the count that a double is rounded to.

Main results:

* `Toolpath.Text.digitsValue_toDigits_append` — digits are worth what they write;
* `Toolpath.value_decimal` — the value of the numeral;
* `Toolpath.Binary64.fixed_eq` — **a double is written as its count of parts**;
* `Toolpath.Binary64.isFinite_ofParts_parts` — **what is finite is read as finite**.
-/

import Toolpath.Proofs.Order
import Toolpath.Proofs.WrittenLine

set_option relaxedAutoImplicit false
set_option autoImplicit false

namespace Toolpath

open Text

/-- A quotient is rounded by at most one half. -/
theorem two_mul_dist_roundHalfEven_le (num : Nat) {den : Nat} (hden : 0 < den) :
    2 * Nat.dist (roundHalfEven num den * den) num ≤ den := by
  have hsplit : num / den * den + num % den = num := Nat.div_add_mod' num den
  have hrest : num % den < den := Nat.mod_lt num hden
  rcases roundHalfEven_cases num den with ⟨hround, hnear, -⟩ | ⟨hround, hnear, -⟩
  · rw [hround]
    simp only [Nat.dist]
    omega
  · rw [hround, Nat.add_mul, Nat.one_mul]
    simp only [Nat.dist]
    omega

/-! ### Digits -/

namespace Text

theorem decimalDigit?_digitChar {d : Nat} (h : d < 10) :
    decimalDigit? (Nat.digitChar d) = some d := by
  have hall : ∀ digit : Fin 10, decimalDigit? (Nat.digitChar digit) = some digit.val := by decide
  exact hall ⟨d, h⟩

theorem isDecimalDigit_digitChar {d : Nat} (h : d < 10) :
    isDecimalDigit (Nat.digitChar d) = true := by
  rw [isDecimalDigit, decimalDigit?_digitChar h]
  rfl

theorem isDecimalDigit_of_mem_toDigits {n : Nat} {c : Char} (h : c ∈ Nat.toDigits 10 n) :
    isDecimalDigit c = true := by
  have hdigit := Nat.isDigit_of_mem_toDigits (by decide) (by decide) h
  obtain ⟨hlow, hhigh⟩ : 48 ≤ c.toNat ∧ c.toNat ≤ 57 := Char.isDigit_iff_toNat.1 hdigit
  rw [isDecimalDigit, decimalDigit?, if_pos (by omega), if_pos ⟨hlow, hhigh⟩]
  rfl

theorem isDecimalDigit_of_mem_paddedDigits {width n : Nat} {c : Char}
    (h : c ∈ paddedDigits width n) : isDecimalDigit c = true := by
  induction width generalizing n with
  | zero => cases h
  | succ width ih =>
      rw [paddedDigits] at h
      rcases List.mem_append.1 h with h | h
      · exact ih h
      · obtain rfl := List.mem_singleton.1 h
        exact isDecimalDigit_digitChar (Nat.mod_lt n (by decide))

/-- One more digit. -/
theorem digitsValue_concat_digitChar (digits : List Char) {d : Nat} (h : d < 10) :
    digitsValue (digits ++ [Nat.digitChar d]) = 10 * digitsValue digits + d := by
  rw [digitsValue_append_singleton, decimalDigit?_digitChar h, Option.getD_some]

/-- The digits of a number are worth the number. -/
theorem digitsValue_toDigits (n : Nat) : digitsValue (Nat.toDigits 10 n) = n := by
  induction n using Nat.strongRecOn with
  | ind n ih =>
      rw [Nat.toDigits_eq_if (by decide)]
      split
      · rename_i hdigit
        rw [← List.nil_append [Nat.digitChar n], digitsValue_concat_digitChar _ hdigit,
          digitsValue_nil]
        omega
      · rw [digitsValue_concat_digitChar _ (Nat.mod_lt n (by decide)), ih (n / 10) (by omega)]
        omega

/-- Digits with leading zeros make room for themselves. -/
theorem digitsValue_append_paddedDigits (digits : List Char) (width n : Nat) :
    digitsValue (digits ++ paddedDigits width n) =
      digitsValue digits * 10 ^ width + n % 10 ^ width := by
  induction width generalizing n with
  | zero => rw [paddedDigits, List.append_nil, Nat.pow_zero, Nat.mod_one, Nat.mul_one, Nat.add_zero]
  | succ width ih =>
      have hmod : n % 10 ^ (width + 1) = n % 10 + 10 * (n / 10 % 10 ^ width) := by
        rw [Nat.pow_succ', Nat.mod_mul]
      rw [paddedDigits, ← List.append_assoc,
        digitsValue_concat_digitChar _ (Nat.mod_lt n (by decide)), ih, hmod, Nat.pow_succ']
      ring

/-- **Digits before and after the point are worth the whole count.** -/
theorem digitsValue_toDigits_append (places n : Nat) :
    digitsValue (Nat.toDigits 10 (n / 10 ^ places) ++ paddedDigits places (n % 10 ^ places)) =
      n := by
  rw [digitsValue_append_paddedDigits, digitsValue_toDigits, Nat.mod_mod, Nat.div_add_mod']

end Text

/-! ### Numerals -/

/-- The numeral of a count of parts, with so many of its digits after the point. -/
def decimal (places : Nat) (parts : Int) : Numeral where
  sign := if parts < 0 then some '-' else none
  whole := Nat.toDigits 10 (parts.natAbs / 10 ^ places)
  point := places ≠ 0
  fraction := paddedDigits places (parts.natAbs % 10 ^ places)

theorem wellFormed_decimal (places : Nat) (parts : Int) : (decimal places parts).WellFormed where
  sign_mem := by
    intro c hc
    rw [decimal, Option.mem_def, Option.ite_none_right_eq_some] at hc
    exact .inr (Option.some.inj hc.2).symm
  whole_decimal := fun _ => isDecimalDigit_of_mem_toDigits
  fraction_decimal := fun _ => isDecimalDigit_of_mem_paddedDigits
  fraction_nil := by
    intro hpoint
    obtain rfl : places = 0 := by simpa [decimal] using hpoint
    rfl
  digits_ne := .inl Nat.toDigits_ne_nil

namespace Binary64

/-- The double nearest to a count of parts, of which `10 ^ places` make one. -/
def ofParts (places : Nat) (parts : Int) : Binary64 :=
  ofDecimal (decide (parts < 0)) parts.natAbs places

end Binary64

/-- **The value of a numeral is the double nearest to its count of parts.** -/
theorem value_decimal (places : Nat) (parts : Int) :
    (decimal places parts).value = Binary64.ofParts places parts := by
  have hsign : ((decimal places parts).sign == some '-') = decide (parts < 0) := by
    by_cases h : parts < 0 <;> simp [decimal, h]
  rw [Numeral.value, hsign, decimal]
  dsimp only
  rw [digitsValue_toDigits_append, length_paddedDigits, Binary64.ofParts]

/-! ### Doubles -/

namespace Binary64

/-- The count of parts that a double is rounded to; none for an infinity or a not-a-number. -/
def parts (places : Nat) : Binary64 → Int
  | finite negative units _ => signed negative (roundHalfEven (units * 10 ^ places) one)
  | _ => 0

theorem signed_lt_zero_iff {negative : Bool} {n : Nat} (h : n ≠ 0) :
    signed negative n < 0 ↔ negative = true := by
  cases negative with
  | true => simp [signed]; omega
  | false => simp [signed]

/-- **A double is written as its count of parts**; if the count is zero, so has to be the double. -/
theorem fixed_eq {places : Nat} {c : Binary64} (hfinite : c.isFinite = true)
    (hzero : c.parts places = 0 → c = 0) :
    c.fixed places = String.ofList (decimal places (c.parts places)).text := by
  cases c with
  | nan => cases hfinite
  | infinite => cases hfinite
  | finite negative units h =>
      rw [parts] at hzero ⊢
      rw [fixed]
      generalize roundHalfEven (units * 10 ^ places) one = n at hzero ⊢
      have hsign : (if signed negative n < 0 then some '-' else none).toList =
          signText negative := by
        rcases Nat.eq_zero_or_pos n with rfl | hpos
        · have heq := hzero (by cases negative <;> rfl)
          rw [zero_eq_signedZero, signedZero, finite.injEq] at heq
          rw [heq.1]
          rfl
        · simp only [signed_lt_zero_iff (Nat.ne_of_gt hpos), signText]
          cases negative <;> rfl
      rw [decimal, Numeral.text, natAbs_signed, hsign, pointedDigits]
      congr 1
      by_cases hplaces : places = 0
      · subst hplaces
        simp [paddedDigits]
      · simp [hplaces]

/-! ### Reading what was written -/

/-- The count of parts of a double is at most half a part off. -/
theorem two_mul_natAbs_parts_le (c : Binary64) (places : Nat) :
    2 * ((c.parts places).natAbs * one) ≤ 2 * (c.magnitude * 10 ^ places) + one := by
  cases c with
  | nan => simp [parts]
  | infinite => simp [parts]
  | finite negative units h =>
      have hhalf := two_mul_dist_roundHalfEven_le (units * 10 ^ places) one_pos
      rw [parts, natAbs_signed, magnitude]
      simp only [Nat.dist] at hhalf
      omega

/-- **A finite double that is written is read as a finite double**, even where it is rounded up. -/
theorem isFinite_ofParts_parts {c : Binary64} (h : c.isFinite = true) (places : Nat) :
    (ofParts places (c.parts places)).isFinite = true := by
  have hden : 0 < 10 ^ places := Nat.pow_pos (by decide)
  have hbound := two_mul_natAbs_parts_le c places
  have hmagnitude : c.magnitude ≤ largest := by
    cases c with
    | nan => cases h
    | infinite => cases h
    | finite negative units hunits => exact le_largest hunits
  have hlargest := Nat.mul_le_mul_right (10 ^ places) hmagnitude
  have hone : one < 2 ^ topSpacing * 10 ^ places :=
    Nat.lt_of_lt_of_le (Nat.pow_lt_pow_right (by decide) (by decide))
      (Nat.le_mul_of_pos_right _ hden)
  have hlimit : nearestUnits ((c.parts places).natAbs * one) (10 ^ places) < limit := by
    rw [← not_le, limit_le_nearestUnits_iff hden]
    rw [largest, Nat.mul_assoc] at hlargest
    generalize 2 ^ topSpacing * 10 ^ places = top at *
    omega
  rw [ofParts, ofDecimal, ofRatio, dif_pos hden, dif_pos hlimit]
  rfl

end Binary64

end Toolpath
