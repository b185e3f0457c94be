/-
**The two senses of an arc.**

An arc and the same arc the other way round turn by opposite angles, whichever the ends are; and
from one end to the other the two senses together go round the whole circle, unless the ends lie in
one direction from the centre.  Both are exact: they hold of the formula for lengths over the real
numbers, for any way to measure the angle of a direction by no more than half a turn either way.

Main definitions:

* `Toolpath.AngleMeasure` — ways to measure the angles of directions;
* `Toolpath.AngleMeasure.scalar` — the real numbers with such a measure, to compute lengths with;
* `Toolpath.Arc.about` — the arc about a centre in the plane.

Main results:

* `Toolpath.sweep_swap` — an arc the other way round turns by the opposite angle;
* `Toolpath.abs_sweep_add` — both senses together turn once round;
* `Toolpath.Arc.length_about` — the length of an arc is that of a helix;
* `Toolpath.arcs_respect_sense` — **lengths of arcs respect their sense**.
-/

import Mathlib.Analysis.SpecialFunctions.Complex.Arg
import Toolpath.Length

set_option relaxedAutoImplicit false
set_option autoImplicit false

namespace Toolpath

open Real

/-! ### Exact numbers -/

/-- A way to measure the angles of directions, given by their ordinate and abscissa: by no more than
half a turn either way. -/
structure AngleMeasure where
  angle : ℝ → ℝ → ℝ
  mem_Icc : ∀ y x : ℝ, angle y x ∈ Set.Icc (-π) π

/-- The real numbers, with a way to measure angles. -/
noncomputable abbrev AngleMeasure.scalar (m : AngleMeasure) : Scalar ℝ where
  decideLT := inferInstance
  magnitude x := |x|
  norm p := √(p.x ^ 2 + p.y ^ 2 + p.z ^ 2)
  hypotenuse x y := √(x ^ 2 + y ^ 2)
  angle := m.angle
  turn := 2 * π

variable (m : AngleMeasure) {a b : ℝ}

/-! ### Angles -/

theorem sweep_clockwise (a b : ℝ) :
    @sweep ℝ m.scalar a b true = if 0 < b - a then b - a - 2 * π else b - a := rfl

theorem sweep_counterclockwise (a b : ℝ) :
    @sweep ℝ m.scalar a b false = if b - a < 0 then b - a + 2 * π else b - a := rfl

/-- **An arc the other way round turns by the opposite angle.** -/
theorem sweep_swap (a b : ℝ) : @sweep ℝ m.scalar a b true = -@sweep ℝ m.scalar b a false := by
  rw [sweep_clockwise, sweep_counterclockwise]
  by_cases h : 0 < b - a
  · rw [if_pos h, if_pos (by linarith)]
    ring
  · rw [if_neg h, if_neg (by linarith)]
    ring

/-- An arc turns by the difference of the angles, or by one turn more in its own sense. -/
theorem sweep_eq_or (a b : ℝ) :
    (@sweep ℝ m.scalar a b true = b - a ∨ @sweep ℝ m.scalar a b true = b - a - 2 * π) ∧
      (@sweep ℝ m.scalar a b false = b - a ∨ @sweep ℝ m.scalar a b false = b - a + 2 * π) := by
  rw [sweep_clockwise, sweep_counterclockwise]
  constructor
  · split
    · exact .inr rfl
    · exact .inl rfl
  · split
    · exact .inr rfl
    · exact .inl rfl

section HalfTurns

variable (ha : a ∈ Set.Icc (-π) π) (hb : b ∈ Set.Icc (-π) π)

include ha hb

/-- A clockwise arc turns backwards, and at most once round. -/
theorem sweep_clockwise_mem : @sweep ℝ m.scalar a b true ∈ Set.Icc (-(2 * π)) 0 := by
  obtain ⟨ha, ha'⟩ := ha
  obtain ⟨hb, hb'⟩ := hb
  rw [sweep_clockwise]
  split
  · constructor <;> linarith
  · constructor <;> linarith

/-- A counterclockwise arc turns forwards, and at most once round. -/
theorem sweep_counterclockwise_mem :
    @sweep ℝ m.scalar a b false ∈ Set.Icc 0 (2 * π) := by
  have h := sweep_clockwise_mem m hb ha
  rw [sweep_swap, Set.mem_Icc] at h
  constructor <;> linarith [h.1, h.2]

/-- **Both senses together turn once round**, unless the angles are the same. -/
theorem abs_sweep_add (hne : a ≠ b) :
    |@sweep ℝ m.scalar a b true| + |@sweep ℝ m.scalar a b false| = 2 * π := by
  rw [abs_of_nonpos (sweep_clockwise_mem m ha hb).2,
    abs_of_nonneg (sweep_counterclockwise_mem m ha hb).1, sweep_clockwise, sweep_counterclockwise]
  rcases lt_or_gt_of_ne hne with h | h
  · rw [if_pos (by linarith), if_neg (by linarith)]
    ring
  · rw [if_neg (by linarith), if_pos (by linarith)]
    ring

end HalfTurns

/-! ### Arcs -/

/-- The distance of a point from a centre in the plane. -/
noncomputable def planarDistance (centre : ℝ × ℝ) (p : Point ℝ) : ℝ :=
  √((p.x - centre.1) ^ 2 + (p.y - centre.2) ^ 2)

/-- The angle of a point seen from a centre in the plane. -/
def AngleMeasure.angleAt (centre : ℝ × ℝ) (p : Point ℝ) : ℝ :=
  m.angle (p.y - centre.2) (p.x - centre.1)

theorem AngleMeasure.angleAt_mem (centre : ℝ × ℝ) (p : Point ℝ) :
    m.angleAt centre p ∈ Set.Icc (-π) π := m.mem_Icc _ _

namespace Arc

/-- The arc from one point to another about a centre in the plane, whose offset is measured from the
start. -/
def about (centre : ℝ × ℝ) (start finish : Point ℝ) (clockwise : Bool) : Arc ℝ where
  start := start
  finish := finish
  i := some (centre.1 - start.x)
  j := some (centre.2 - start.y)
  clockwise := clockwise

variable (centre : ℝ × ℝ) (start finish : Point ℝ) (clockwise : Bool)

theorem radius_about :
    @radius ℝ m.scalar (about centre start finish clockwise) = planarDistance centre start := by
  have hradius : @radius ℝ m.scalar (about centre start finish clockwise) =
      √((centre.1 - start.x + 0) ^ 2 + (centre.2 - start.y + 0) ^ 2) := rfl
  rw [hradius, planarDistance]
  congr 1
  ring

theorem angleOf_about (p : Point ℝ) :
    @angleOf ℝ m.scalar (about centre start finish clockwise) p = m.angleAt centre p := by
  have hangle : @angleOf ℝ m.scalar (about centre start finish clockwise) p =
      m.angle (p.y - (start.y + (centre.2 - start.y + 0)))
        (p.x - (start.x + (centre.1 - start.x + 0))) := rfl
  rw [hangle, AngleMeasure.angleAt]
  congr 1 <;> ring

theorem planarLength_about :
    @planarLength ℝ m.scalar (about centre start finish clockwise) =
      |@sweep ℝ m.scalar (m.angleAt centre start) (m.angleAt centre finish) clockwise| *
        planarDistance centre start := by
  have hplanar : @planarLength ℝ m.scalar (about centre start finish clockwise) =
      |@sweep ℝ m.scalar
          (@angleOf ℝ m.scalar (about centre start finish clockwise) start)
          (@angleOf ℝ m.scalar (about centre start finish clockwise) finish) clockwise| *
        @radius ℝ m.scalar (about centre start finish clockwise) := rfl
  rw [hplanar, angleOf_about, angleOf_about, radius_about]

/-- **The length of an arc is that of a helix**, if its radius is not below the least one. -/
theorem length_about {minRadius : ℝ} (h : minRadius ≤ planarDistance centre start) :
    @length ℝ m.scalar minRadius (about centre start finish clockwise) =
      √(@planarLength ℝ m.scalar (about centre start finish clockwise) ^ 2 +
        (finish.z - start.z) ^ 2) := by
  have hlength : @length ℝ m.scalar minRadius (about centre start finish clockwise) =
      if @radius ℝ m.scalar (about centre start finish clockwise) < minRadius then 0
      else √(@planarLength ℝ m.scalar (about centre start finish clockwise) ^ 2 +
        (finish.z - start.z) ^ 2) := rfl
  rw [hlength, radius_about, if_neg (not_lt.2 h)]

end Arc

/-! ### Sense -/

/-- The arcs between two points about a centre respect their sense. -/
structure RespectSense (minRadius : ℝ) (centre : ℝ × ℝ) (p q : Point ℝ) : Prop where
  /-- An arc is as long as the same arc the other way round. -/
  length_reverse : @Arc.length ℝ m.scalar minRadius (.about centre p q true) =
    @Arc.length ℝ m.scalar minRadius (.about centre q p false)
  /-- It is as long as its part in the plane and its height ask for. -/
  length_eq : ∀ clockwise : Bool,
    @Arc.length ℝ m.scalar minRadius (.about centre p q clockwise) =
      √((|@sweep ℝ m.scalar (m.angleAt centre p) (m.angleAt centre q) clockwise| *
        planarDistance centre p) ^ 2 + (q.z - p.z) ^ 2)
  /-- The parts in the plane of both senses go round the circle, unless the angles are the same. -/
  planarLength_add : m.angleAt centre p ≠ m.angleAt centre q →
    @Arc.planarLength ℝ m.scalar (.about centre p q true) +
      @Arc.planarLength ℝ m.scalar (.about centre p q false) = 2 * π * planarDistance centre p

/-- The angles that arcs between two angles turn by. -/
structure SweepsWithinTurn (a b : ℝ) : Prop where
  clockwise_mem : @sweep ℝ m.scalar a b true ∈ Set.Icc (-(2 * π)) 0
  counterclockwise_mem : @sweep ℝ m.scalar a b false ∈ Set.Icc 0 (2 * π)
  clockwise_eq : @sweep ℝ m.scalar a b true = b - a ∨
    @sweep ℝ m.scalar a b true = b - a - 2 * π
  counterclockwise_eq : @sweep ℝ m.scalar a b false = b - a ∨
    @sweep ℝ m.scalar a b false = b - a + 2 * π

theorem sweepsWithinTurn (ha : a ∈ Set.Icc (-π) π) (hb : b ∈ Set.Icc (-π) π) :
    SweepsWithinTurn m a b :=
  ⟨sweep_clockwise_mem m ha hb, sweep_counterclockwise_mem m ha hb, (sweep_eq_or m a b).1,
    (sweep_eq_or m a b).2⟩

/-- **Lengths of arcs respect their sense**, if both ends are at one distance from the centre that
is not below the least radius. -/
theorem arcs_respect_sense {minRadius radius : ℝ} {centre : ℝ × ℝ} {p q : Point ℝ}
    (hp : planarDistance centre p = radius) (hq : planarDistance centre q = radius)
    (hradius : minRadius ≤ radius) :
    RespectSense m minRadius centre p q ∧
      ∀ a ∈ Set.Icc (-π) π, ∀ b ∈ Set.Icc (-π) π, SweepsWithinTurn m a b := by
  refine ⟨⟨?_, ?_, ?_⟩, fun a ha b hb => sweepsWithinTurn m ha hb⟩
  · rw [Arc.length_about m centre p q true (hp ▸ hradius),
      Arc.length_about m centre q p false (hq ▸ hradius), Arc.planarLength_about,
      Arc.planarLength_about, hp, hq, sweep_swap, abs_neg, ← neg_sub q.z, neg_sq]
  · intro clockwise
    rw [Arc.length_about m centre p q clockwise (hp ▸ hradius), Arc.planarLength_about]
  · intro hne
    rw [Arc.planarLength_about, Arc.planarLength_about, ← add_mul,
      abs_sweep_add m (m.angleAt_mem centre p) (m.angleAt_mem centre q) hne]

/-- Angles measured from the positive first axis. -/
noncomputable def principalAngles : AngleMeasure where
  angle y x := Complex.arg ⟨x, y⟩
  mem_Icc y x := ⟨(Complex.neg_pi_lt_arg ⟨x, y⟩).le, Complex.arg_le_pi ⟨x, y⟩⟩

theorem angleAt_quarter :
    principalAngles.angleAt (0, 0) ⟨1, 0, 0⟩ = 0 ∧
      principalAngles.angleAt (0, 0) ⟨0, 1, 2⟩ = π / 2 := by
  have hone : (⟨1 - 0, 0 - 0⟩ : ℂ) = 1 := by apply Complex.ext <;> simp
  have hunit : (⟨0 - 0, 1 - 0⟩ : ℂ) = Complex.I := by apply Complex.ext <;> simp
  constructor
  · exact (congrArg Complex.arg hone).trans Complex.arg_one
  · exact (congrArg Complex.arg hunit).trans Complex.arg_I

/-- A quarter of a turn of a helix about the origin. -/
theorem arcs_respect_sense_quarter :
    planarDistance (0, 0) ⟨1, 0, 0⟩ = 1 ∧ planarDistance (0, 0) ⟨0, 1, 2⟩ = 1 ∧
      (1 / 1000 : ℝ) ≤ 1 ∧
      principalAngles.angleAt (0, 0) ⟨1, 0, 0⟩ ≠ principalAngles.angleAt (0, 0) ⟨0, 1, 2⟩ ∧
      RespectSense principalAngles (1 / 1000) (0, 0) ⟨1, 0, 0⟩ ⟨0, 1, 2⟩ := by
  have hp : planarDistance (0, 0) ⟨1, 0, 0⟩ = 1 := by simp [planarDistance]
  have hq : planarDistance (0, 0) ⟨0, 1, 2⟩ = 1 := by simp [planarDistance]
  have hradius : (1 / 1000 : ℝ) ≤ 1 := by norm_num
  refine ⟨hp, hq, hradius, ?_, (arcs_respect_sense principalAngles hp hq hradius).1⟩
  rw [angleAt_quarter.1, angleAt_quarter.2]
  exact (div_pos pi_pos two_pos).ne

end Toolpath
