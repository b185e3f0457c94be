/-
**Angles of directions are at most half a turn.**

The angle of a direction is a quotient of whole numbers that is rounded once.  The quotient is never
above half a turn, as exact as that is known, and rounding keeps the order of quotients; so the
angle is no larger than the double nearest half a turn, in either sense.  What is computed with two
angles stays so far below the largest double that it never overflows.

Main definitions:

* `Toolpath.Binary64.UpTo` — a double is finite, and no further from zero than a bound;
* `Toolpath.Binary64.WithinHalfTurn` — a quotient is no larger than half a turn.

Main results:

* `Toolpath.Binary64.nearestUnits_le_of_ratio_le` — rounding depends on the quotient alone, and
  keeps the order of quotients;
* `Toolpath.Binary64.upTo_ofRatio`, `Toolpath.Binary64.UpTo.add`, `Toolpath.Binary64.UpTo.sub` —
  sums of bounded doubles are bounded;
* `Toolpath.Binary64.upTo_angle` — **an angle is at most half a turn**;
* `Toolpath.isFinite_sweep` — what an arc turns by is finite.
-/

import Toolpath.Length
import Toolpath.Proofs.NonNegative

set_option relaxedAutoImplicit false
set_option autoImplicit false

namespace Toolpath

/-! ### Rounding and quotients -/

/-- A quotient that is not in lowest terms has the same rounding. -/
theorem roundHalfEven_mul_mul (num den : Nat) {k : Nat} (hk : 0 < k) :
    roundHalfEven (num * k) (den * k) = roundHalfEven num den := by
  have hrest : num * k % (den * k) = num % den * k := Nat.mul_mod_mul_right k num den
  have hless : 2 * (num % den * k) < den * k ↔ 2 * (num % den) < den := by
    rw [← Nat.mul_assoc, Nat.mul_lt_mul_right hk]
  have hmore : den * k < 2 * (num % den * k) ↔ den < 2 * (num % den) := by
    rw [← Nat.mul_assoc, Nat.mul_lt_mul_right hk]
  unfold roundHalfEven
  simp only [Nat.mul_div_mul_right num den hk, hrest, hless, hmore]

namespace Binary64

theorem nearestUnits_mul_mul (num den : Nat) {k : Nat} (hk : 0 < k) :
    nearestUnits (num * k) (den * k) = nearestUnits num den := by
  unfold nearestUnits
  simp only [Nat.mul_div_mul_right num den hk]
  rw [Nat.mul_right_comm den k, roundHalfEven_mul_mul num _ hk]

/-- **Rounding keeps the order of quotients**, whatever their denominators are. -/
theorem nearestUnits_le_of_ratio_le {num den num' den' : Nat} (hden : 0 < den) (hden' : 0 < den')
    (h : num * den' ≤ num' * den) : nearestUnits num den ≤ nearestUnits num' den' := by
  calc nearestUnits num den
      = nearestUnits (num * den') (den * den') := (nearestUnits_mul_mul num den hden').symm
    _ ≤ nearestUnits (num' * den) (den * den') := nearestUnits_mono (Nat.mul_pos hden hden') h
    _ = nearestUnits (num' * den) (den' * den) := by rw [Nat.mul_comm den]
    _ = nearestUnits num' den' := nearestUnits_mul_mul num' den' hden

/-! ### Bounded doubles -/

/-- A double is finite, and no further from zero than a number of units. -/
structure UpTo (bound : Nat) (c : Binary64) : Prop where
  isFinite : c.isFinite = true
  magnitude_le : c.magnitude ≤ bound

theorem upTo_magnitude {c : Binary64} (h : c.isFinite = true) : UpTo c.magnitude c :=
  ⟨h, Nat.le_refl _⟩

theorem representable_magnitude {c : Binary64} (h : c.isFinite = true) :
    Representable c.magnitude := by
  cases c with
  | nan => cases h
  | infinite => cases h
  | finite negative units hunits => exact hunits

/-- A bound of a quotient that is a double bounds the rounded one, which is finite. -/
theorem upTo_ofRatio {bound : Nat} (hbound : Representable bound) (negative : Bool)
    {num den : Nat} (hden : 0 < den) (h : num ≤ bound * den) :
    UpTo bound (ofRatio negative num den) := by
  have hle : nearestUnits num den ≤ bound := nearestUnits_le hden hbound.1 h
  rw [ofRatio, dif_pos hden, dif_pos (Nat.lt_of_le_of_lt hle hbound.2)]
  exact ⟨rfl, hle⟩

variable {bound bound' : Nat} {a b : Binary64}

/-- **A sum of bounded doubles is bounded.** -/
theorem UpTo.add (ha : UpTo bound a) (hb : UpTo bound' b)
    (hbound : Representable (bound + bound')) : UpTo (bound + bound') (a + b) := by
  cases a with
  | nan => cases ha.isFinite
  | infinite => cases ha.isFinite
  | finite s u hu =>
      cases b with
      | nan => cases hb.isFinite
      | infinite => cases hb.isFinite
      | finite t v hv =>
          have hu' : u ≤ bound := ha.magnitude_le
          have hv' : v ≤ bound' := hb.magnitude_le
          have hsum : (signed s u + signed t v).natAbs ≤ bound + bound' := by
            calc (signed s u + signed t v).natAbs
                ≤ (signed s u).natAbs + (signed t v).natAbs := Int.natAbs_add_le _ _
              _ = u + v := by rw [natAbs_signed, natAbs_signed]
              _ ≤ bound + bound' := Nat.add_le_add hu' hv'
          rw [finite_add_finite]
          split
          · exact ⟨rfl, Nat.zero_le _⟩
          · exact upTo_ofRatio hbound _ Nat.one_pos (by rwa [Nat.mul_one])

theorem UpTo.neg (h : UpTo bound a) : UpTo bound (-a) := by
  cases a with
  | nan => cases h.isFinite
  | infinite => cases h.isFinite
  | finite s u hu => exact ⟨rfl, h.magnitude_le⟩

theorem UpTo.sub (ha : UpTo bound a) (hb : UpTo bound' b)
    (hbound : Representable (bound + bound')) : UpTo (bound + bound') (a - b) :=
  ha.add hb.neg hbound

/-! ### Angles -/

/-- A quotient is no larger than half a turn. -/
structure WithinHalfTurn (ratio : Nat × Nat) : Prop where
  den_pos : 0 < ratio.2
  le : ratio.1 * 2 ^ piBits ≤ piFixed * ratio.2

/-- The alternating series is at most its first term. -/
theorem arctanSeries_le (bits square terms k : Nat) :
    arctanSeries bits square terms k ≤ 2 ^ bits := by
  cases terms with
  | zero => exact Nat.zero_le _
  | succ terms =>
      rw [arctanSeries]
      exact (Nat.sub_le _ _).trans (Nat.div_le_self _ _)

/-- An arc tangent is no larger than the number itself. -/
theorem arctanFixed_le (bits t : Nat) : arctanFixed bits t ≤ t := by
  rw [arctanFixed]
  refine Nat.div_le_of_le_mul ?_
  rw [Nat.mul_comm (2 ^ bits)]
  exact Nat.mul_le_mul_left t (arctanSeries_le ..)

theorem withinHalfTurn_arctanRatio (a b : Nat) : WithinHalfTurn (arctanRatio a b) := by
  rw [arctanRatio]
  dsimp only
  generalize 192 + (b.log2 - a.log2) = bits
  have hpos : 0 < 2 ^ bits := Nat.two_pow_pos bits
  split
  · -- the quotient is at most one, and so is its arc tangent
    rename_i hsmall
    refine ⟨hpos, ?_⟩
    have hquotient : a * 2 ^ bits / b ≤ 2 ^ bits :=
      Nat.div_le_of_le_mul (Nat.mul_le_mul_right _ (by omega))
    calc arctanFixed bits (a * 2 ^ bits / b) * 2 ^ piBits
        ≤ 2 ^ bits * 2 ^ piBits :=
          Nat.mul_le_mul_right _ ((arctanFixed_le _ _).trans hquotient)
      _ = 2 ^ piBits * 2 ^ bits := Nat.mul_comm _ _
      _ ≤ piFixed * 2 ^ bits := Nat.mul_le_mul_right _ (by decide +kernel)
  · -- what is turned back is taken from an eighth of a turn
    refine ⟨Nat.two_pow_pos _, ?_⟩
    dsimp only
    calc (piFixed * 2 ^ bits - _) * 2 ^ piBits
        ≤ piFixed * 2 ^ bits * 2 ^ piBits := Nat.mul_le_mul_right _ (Nat.sub_le _ _)
      _ = piFixed * 2 ^ (bits + piBits) := by rw [Nat.mul_assoc, ← Nat.pow_add]
      _ ≤ piFixed * 2 ^ (bits + piBits + 2) :=
          Nat.mul_le_mul_left _ (Nat.pow_le_pow_right (by decide) (by omega))

theorem withinHalfTurn_quadrantRatio (x y : Nat) : WithinHalfTurn (quadrantRatio x y) := by
  rw [quadrantRatio]
  split
  · exact withinHalfTurn_arctanRatio y x
  · have hrest := (withinHalfTurn_arctanRatio x y).den_pos
    generalize arctanRatio x y = rest at hrest
    refine ⟨Nat.mul_pos (Nat.two_pow_pos _) hrest, ?_⟩
    dsimp only
    calc (piFixed * rest.2 - rest.1 * 2 ^ (piBits + 1)) * 2 ^ piBits
        ≤ piFixed * rest.2 * 2 ^ piBits := Nat.mul_le_mul_right _ (Nat.sub_le _ _)
      _ = piFixed * (2 ^ piBits * rest.2) := by
          rw [Nat.mul_assoc, Nat.mul_comm rest.2]
      _ ≤ piFixed * (2 ^ (piBits + 1) * rest.2) :=
          Nat.mul_le_mul_left _ (Nat.mul_le_mul_right _
            (Nat.pow_le_pow_right (by decide) (by omega)))

/-- The supplement of an angle is no larger than half a turn. -/
theorem withinHalfTurn_supplement {ratio : Nat × Nat} (h : WithinHalfTurn ratio) :
    WithinHalfTurn (piFixed * ratio.2 - ratio.1 * 2 ^ piBits, 2 ^ piBits * ratio.2) := by
  refine ⟨Nat.mul_pos (Nat.two_pow_pos _) h.den_pos, ?_⟩
  dsimp only
  calc (piFixed * ratio.2 - ratio.1 * 2 ^ piBits) * 2 ^ piBits
      ≤ piFixed * ratio.2 * 2 ^ piBits := Nat.mul_le_mul_right _ (Nat.sub_le _ _)
    _ = piFixed * (2 ^ piBits * ratio.2) := by rw [Nat.mul_assoc, Nat.mul_comm ratio.2]

/-- Half a turn and a full turn are finite, and two turns are still a double. -/
theorem turns_spec : pi.isFinite = true ∧
    pi.magnitude = nearestUnits (piFixed * one) (2 ^ piBits) ∧
    fullTurn.isFinite = true ∧ fullTurn.magnitude = pi.magnitude + pi.magnitude ∧
    Representable (pi.magnitude + pi.magnitude) ∧
    Representable (pi.magnitude + pi.magnitude + (pi.magnitude + pi.magnitude)) := by
  decide +kernel

theorem upTo_ofRatio_halfTurn (negative : Bool) {ratio : Nat × Nat} (h : WithinHalfTurn ratio) :
    UpTo pi.magnitude (ofRatio negative (ratio.1 * one) ratio.2) := by
  obtain ⟨hfinite, hpi, -⟩ := turns_spec
  have hle : nearestUnits (ratio.1 * one) ratio.2 ≤ pi.magnitude := by
    rw [hpi]
    refine nearestUnits_le_of_ratio_le h.den_pos (Nat.two_pow_pos _) ?_
    rw [Nat.mul_right_comm, Nat.mul_right_comm piFixed]
    exact Nat.mul_le_mul_right _ h.le
  rw [ofRatio, dif_pos h.den_pos,
    dif_pos (Nat.lt_of_le_of_lt hle (representable_magnitude hfinite).2)]
  exact ⟨rfl, hle⟩

theorem exists_extent? {c : Binary64} (h : c.isNaN = false) (besideInfinity : Bool) :
    ∃ extent, c.extent? besideInfinity = some extent := by
  cases c with
  | nan => cases h
  | infinite => exact ⟨_, rfl⟩
  | finite => exact ⟨_, rfl⟩

/-- **An angle is at most half a turn**, in either sense. -/
theorem upTo_angle {y x : Binary64} (hy : y.isNaN = false) (hx : x.isNaN = false) :
    UpTo pi.magnitude (angle y x) := by
  obtain ⟨⟨below, rise⟩, hrise⟩ := exists_extent? hy (x.isInfinite || y.isInfinite)
  obtain ⟨⟨left, run⟩, hrun⟩ := exists_extent? hx (x.isInfinite || y.isInfinite)
  rw [angle]
  dsimp only
  rw [hrise, hrun]
  dsimp only
  have hacute : WithinHalfTurn (if rise = 0 then (0, 1) else quadrantRatio run rise) := by
    split
    · exact ⟨Nat.one_pos, by rw [Nat.zero_mul]; exact Nat.zero_le _⟩
    · exact withinHalfTurn_quadrantRatio run rise
  refine upTo_ofRatio_halfTurn below ?_
  split
  · exact withinHalfTurn_supplement hacute
  · exact hacute

end Binary64

/-- What an arc turns by is finite, whatever the angles of its ends are. -/
theorem isFinite_sweep [Numerics] {start finish : Binary64}
    (hstart : start.UpTo Binary64.pi.magnitude) (hfinish : finish.UpTo Binary64.pi.magnitude)
    (clockwise : Bool) : (sweep start finish clockwise).isFinite = true := by
  obtain ⟨-, -, hturnFinite, hturn, honce, htwice⟩ := Binary64.turns_spec
  have hturn : Binary64.fullTurn.UpTo (Binary64.pi.magnitude + Binary64.pi.magnitude) :=
    ⟨hturnFinite, hturn.le⟩
  have hdifference := hfinish.sub hstart honce
  rw [sweep]
  split
  · split
    · exact (hdifference.sub hturn htwice).isFinite
    · exact hdifference.isFinite
  · split
    · exact (hdifference.add hturn htwice).isFinite
    · exact hdifference.isFinite

end Toolpath
