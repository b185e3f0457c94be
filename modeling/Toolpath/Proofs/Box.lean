/-
**The box around points, axis by axis.**

What holds of points on every axis is said once, with the axis as a parameter.  The corners of a box
move one point at a time, and never inwards; so the box around points holds every one of them.

Main definitions:

* `Toolpath.Axis` — the axes of the machine;
* `Toolpath.Point.on` — the coordinate of a point on an axis;
* `Toolpath.Bounds.Contains` — a point lies in a box.

Main results:

* `Toolpath.Bounds.place_around` — no coordinate lies outside the corners of the box;
* `Toolpath.Bounds.around_contains` — **the box around points contains them**.
-/

import Mathlib.Data.List.Induction
import Toolpath.Bounds
import Toolpath.Proofs.Order

set_option relaxedAutoImplicit false
set_option autoImplicit false

namespace Toolpath

/-! ### Axes -/

/-- The axes of the machine. -/
inductive Axis where
  | x | y | z
  deriving DecidableEq

namespace Point

/-- The coordinate of a point on an axis. -/
def on {α : Type} (p : Point α) : Axis → α
  | .x => p.x
  | .y => p.y
  | .z => p.z

@[simp] theorem diagonal_on {α : Type} (c : α) (axis : Axis) : (diagonal c).on axis = c := by
  cases axis <;> rfl

@[simp] theorem zipWith_on {α β γ : Type} (f : α → β → γ) (p : Point α) (q : Point β)
    (axis : Axis) : (zipWith f p q).on axis = f (p.on axis) (q.on axis) := by
  cases axis <;> rfl

theorem near_iff {tolerance : Binary64} {p q : Point Binary64} :
    p.near tolerance q = true ↔ ∀ axis, within tolerance (p.on axis) (q.on axis) = true := by
  rw [near, Bool.and_eq_true, Bool.and_eq_true]
  constructor
  · rintro ⟨⟨hx, hy⟩, hz⟩ axis
    cases axis
    · exact hx
    · exact hy
    · exact hz
  · intro h
    exact ⟨⟨h .x, h .y⟩, h .z⟩

/-- Which of two points comes first makes no difference. -/
theorem near_comm (tolerance : Binary64) (p q : Point Binary64) :
    p.near tolerance q = q.near tolerance p := by
  rw [near, near, within_comm tolerance p.x, within_comm tolerance p.y,
    within_comm tolerance p.z]

end Point

/-! ### Boxes -/

namespace Bounds

/-- A point lies in a box: on every axis between its corners. -/
structure Contains (bounds : Bounds) (p : Point Binary64) : Prop where
  least_le : ∀ axis, (bounds.least.on axis).place ≤ (p.on axis).place
  le_greatest : ∀ axis, (p.on axis).place ≤ (bounds.greatest.on axis).place

/-- The corners of a box are never at a not-a-number. -/
theorem isNaN_around (points : List (Point Binary64)) (axis : Axis) :
    ((around points).least.on axis).isNaN = false ∧
      ((around points).greatest.on axis).isNaN = false := by
  induction points using List.reverseRecOn with
  | nil => cases axis <;> exact ⟨rfl, rfl⟩
  | append_singleton points p ih =>
      rw [around_append, List.foldl_cons, List.foldl_nil, grow, Point.zipWith_on, Point.zipWith_on]
      exact ⟨Binary64.isNaN_least ih.1 _, Binary64.isNaN_greatest ih.2 _⟩

/-- **No coordinate lies outside the corners of the box.** -/
theorem place_around {points : List (Point Binary64)} {p : Point Binary64} (h : p ∈ points)
    {axis : Axis} (hp : (p.on axis).isNaN = false) :
    ((around points).least.on axis).place ≤ (p.on axis).place ∧
      (p.on axis).place ≤ ((around points).greatest.on axis).place := by
  induction points using List.reverseRecOn with
  | nil => cases h
  | append_singleton points q ih =>
      obtain ⟨hleast, hgreatest⟩ := isNaN_around points axis
      have hlow := Binary64.place_least_le hleast (q.on axis)
      have hhigh := Binary64.le_place_greatest hgreatest (q.on axis)
      rw [around_append, List.foldl_cons, List.foldl_nil, grow, Point.zipWith_on, Point.zipWith_on]
      rcases List.mem_append.1 h with h | h
      · -- the corners never move inwards
        obtain ⟨hge, hle⟩ := ih h
        exact ⟨hlow.1.trans hge, hle.trans hhigh.1⟩
      · obtain rfl := List.mem_singleton.1 h
        exact ⟨hlow.2 hp, hhigh.2 hp⟩

/-- **The box around points contains them.** -/
theorem around_contains {points : List (Point Binary64)} {p : Point Binary64} (h : p ∈ points)
    (hp : ∀ axis, (p.on axis).isFinite = true) : (around points).Contains p :=
  ⟨fun axis => (place_around h (Binary64.isNaN_of_isFinite (hp axis))).1,
    fun axis => (place_around h (Binary64.isNaN_of_isFinite (hp axis))).2⟩

end Bounds

end Toolpath
