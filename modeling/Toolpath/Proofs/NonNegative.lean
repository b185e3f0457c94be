/-
**Doubles that are no less than zero.**

A sum of numbers that are no less than zero is one again, however often it is rounded and even if
it overflows on the way: an infinity can only meet another one of its own sign.  And since rounding
never crosses a double, a quotient or a product is no larger than a double that bounds the exact
one.

Main definitions:

* `Toolpath.Binary64.Nonneg` — a double is a number and no less than zero.

Main results:

* `Toolpath.Binary64.Nonneg.add` — sums stay no less than zero;
* `Toolpath.Binary64.nonneg_div` — so do quotients of positive numbers by finite ones;
* `Toolpath.Binary64.nonneg_mul_self`, `Toolpath.Binary64.Nonneg.sqrt` — so do squares and roots;
* `Toolpath.Binary64.magnitude_mul_le` — a bound of an exact product bounds the rounded one.
-/

import Toolpath.Proofs.Order

set_option relaxedAutoImplicit false
set_option autoImplicit false

namespace Toolpath

namespace Binary64

/-! ### No less than zero -/

/-- A double is a number and no less than zero.  Zeros of both signs are. -/
structure Nonneg (c : Binary64) : Prop where
  isNaN_eq : c.isNaN = false
  place_nonneg : 0 ≤ c.place

theorem nonneg_zero : Nonneg 0 := ⟨isNaN_of_isFinite isFinite_zero, place_zero.ge⟩

theorem nonneg_signedZero (negative : Bool) : Nonneg (signedZero negative) := by
  cases negative <;> exact ⟨rfl, Int.le_refl 0⟩

theorem nonneg_ofRatio (num : Nat) {den : Nat} (h : 0 < den) : Nonneg (ofRatio false num den) := by
  rw [ofRatio, dif_pos h]
  split
  · exact ⟨rfl, Int.natCast_nonneg _⟩
  · exact ⟨rfl, Int.natCast_nonneg _⟩

/-- A positive place has no minus sign. -/
theorem negative_eq_false {negative : Bool} {units : Nat} (h : 0 < signed negative units) :
    negative = false := by
  cases negative with
  | false => rfl
  | true =>
      rw [signed, if_pos rfl] at h
      omega

/-- A place that is no less than zero is the number of units there. -/
theorem signed_of_nonneg {negative : Bool} {units : Nat} (h : 0 ≤ signed negative units) :
    signed negative units = units := by
  cases negative with
  | false => rfl
  | true =>
      rw [signed, if_pos rfl] at h ⊢
      omega

/-- An infinity that is no less than zero has no minus sign. -/
theorem Nonneg.infinite_eq {negative : Bool} (h : Nonneg (infinite negative)) :
    negative = false := by
  cases negative with
  | false => rfl
  | true =>
      have hplace := h.place_nonneg
      have hlimit := limit_pos
      rw [place_infinite, signed, if_pos rfl] at hplace
      omega

/-- **A sum of numbers that are no less than zero is no less than zero**, and a number. -/
theorem Nonneg.add {a b : Binary64} (ha : Nonneg a) (hb : Nonneg b) : Nonneg (a + b) := by
  cases a with
  | nan => cases ha.isNaN_eq
  | infinite s =>
      obtain rfl := ha.infinite_eq
      cases b with
      | nan => cases hb.isNaN_eq
      | infinite t =>
          obtain rfl := hb.infinite_eq
          exact ha
      | finite => exact ha
  | finite s u hu =>
      cases b with
      | nan => cases hb.isNaN_eq
      | infinite => exact hb
      | finite t v hv =>
          have hsum : 0 ≤ signed s u + signed t v := Int.add_nonneg ha.place_nonneg hb.place_nonneg
          rw [finite_add_finite]
          split
          · exact nonneg_signedZero _
          · rw [decide_eq_false (Int.not_lt.2 hsum)]
            exact nonneg_ofRatio _ Nat.one_pos

theorem nonneg_infinite : Nonneg (infinite false) := ⟨rfl, Int.natCast_nonneg limit⟩

theorem nonneg_ofRoot (n : Nat) : Nonneg (ofRoot n) := nonneg_ofRatio _ (by decide)

/-- A square is no less than zero, even where it overflows. -/
theorem nonneg_mul_self {a : Binary64} (h : a.isNaN = false) : Nonneg (a * a) := by
  cases a with
  | nan => cases h
  | infinite s =>
      have hmul : infinite s * infinite s = infinite (s != s) := rfl
      rw [hmul, bne_self_eq_false]
      exact nonneg_infinite
  | finite s u hu =>
      rw [finite_mul_finite, bne_self_eq_false]
      exact nonneg_ofRatio _ one_pos

/-- What is no less than zero has a root that is no less than zero. -/
theorem Nonneg.sqrt {a : Binary64} (h : Nonneg a) : Nonneg a.sqrt := by
  cases a with
  | nan => cases h.isNaN_eq
  | infinite s =>
      obtain rfl := h.infinite_eq
      exact nonneg_infinite
  | finite s u hu =>
      rw [Binary64.sqrt]
      split
      · exact h
      · rename_i hne
        have hplace : 0 ≤ signed s u := h.place_nonneg
        have hpos : 0 < signed s u := by
          rw [signed_of_nonneg hplace]
          omega
        obtain rfl := negative_eq_false hpos
        rw [if_neg Bool.false_ne_true]
        exact nonneg_ofRoot _

/-- A positive number, even an infinite one, divided by a positive finite one is no less than
zero, and a number. -/
theorem nonneg_div {a b : Binary64} (ha : 0 < a) (hb : 0 < b) (hfinite : b.isFinite = true) :
    Nonneg (a / b) := by
  obtain ⟨hnan, ha⟩ := place_pos ha
  obtain ⟨-, hb⟩ := place_pos hb
  cases b with
  | nan => cases hfinite
  | infinite => cases hfinite
  | finite t v hv =>
      obtain rfl := negative_eq_false hb
      cases a with
      | nan => cases hnan
      | infinite s =>
          obtain rfl := negative_eq_false ha
          exact ⟨rfl, Int.natCast_nonneg limit⟩
      | finite s u hu =>
          obtain rfl := negative_eq_false ha
          have hdiv : finite false u hu / finite false v hv =
              if v = 0 then (if u = 0 then nan else infinite false)
              else ofRatio false (u * one) v := rfl
          have hne : v ≠ 0 := by
            rintro rfl
            exact absurd hb (Int.lt_irrefl 0)
          rw [hdiv, if_neg hne]
          exact nonneg_ofRatio _ (Nat.pos_of_ne_zero hne)

/-! ### Bounds of rounded numbers -/

/-- A bound of a quotient with 53 significant bits bounds the rounded one. -/
theorem magnitude_ofRatio_le {negative : Bool} {num den bound : Nat}
    (hbound : 2 ^ spacing bound ∣ bound) (h : num ≤ bound * den) :
    (ofRatio negative num den).magnitude ≤ bound := by
  unfold ofRatio
  split
  · rename_i hden
    split
    · exact nearestUnits_le hden hbound h
    · exact Nat.zero_le bound
  · exact Nat.zero_le bound

/-- **A bound of a product bounds the rounded one.** -/
theorem magnitude_mul_le {a b : Binary64} {bound : Nat} (hbound : 2 ^ spacing bound ∣ bound)
    (h : a.magnitude * b.magnitude ≤ bound * one) : (a * b).magnitude ≤ bound := by
  cases a with
  | nan => exact Nat.zero_le bound
  | infinite s =>
      cases b with
      | nan => exact Nat.zero_le bound
      | infinite => exact Nat.zero_le bound
      | finite t v hv =>
          have hmul : infinite s * finite t v hv = if v = 0 then nan else infinite (s != t) := rfl
          rw [hmul]
          split <;> exact Nat.zero_le bound
  | finite s u hu =>
      cases b with
      | nan => exact Nat.zero_le bound
      | infinite t =>
          have hmul : finite s u hu * infinite t = if u = 0 then nan else infinite (s != t) := rfl
          rw [hmul]
          split <;> exact Nat.zero_le bound
      | finite t v hv =>
          rw [finite_mul_finite]
          exact magnitude_ofRatio_le hbound h

end Binary64

end Toolpath
