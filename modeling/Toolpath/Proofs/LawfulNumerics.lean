/-
**What is relied on of numerical routines.**

Little has to be known of the routines that lengths and times are computed with.  However they
round, lengths and sums of what is no less than zero are no less than zero, what is no number stays
none unless an infinity is beside it in a right triangle, and an angle is at most half a turn.  The
standard routines keep to this.  A square is no less than zero, and so is its root.  A sum adds
every number of a list once; in whatever order it does, what is no less than zero adds up to what is
no less than zero, and a number that is none leaves none.

Main definitions:

* `Toolpath.LawfulSum` — what is relied on of the sum of a list;
* `Toolpath.LawfulNumerics` — what is relied on of all routines;
* `Toolpath.Binary64.AddsUp` — what a list adds up to in some order of additions;
* `Toolpath.Binary64.SumsOf` — the sums that a list has been gathered in.

Main results:

* `Toolpath.Binary64.addsUp_sumHalves` — **the standard sum adds every number once**;
* `Toolpath.LawfulSum.of_addsUp` — **such a sum is lawful**, in whatever order it adds;
* `Toolpath.LawfulNumerics.standard` — **the standard routines are lawful**.
-/

import Toolpath.Proofs.Box
import Toolpath.Proofs.HalfTurn

set_option relaxedAutoImplicit false
set_option autoImplicit false

namespace Toolpath

/-! ### Laws -/

/-- What is relied on of the sum of a list. -/
class LawfulSum [Numerics] : Prop where
  /-- Nothing adds up to zero. -/
  sum_nil : Numerics.sum [] = 0
  /-- What is no less than zero adds up to what is no less than zero. -/
  nonneg_sum : ∀ xs : List Binary64, (∀ x ∈ xs, x.Nonneg) → (Numerics.sum xs).Nonneg
  /-- A sum with a summand that is no number is none. -/
  sum_eq_nan : ∀ xs : List Binary64, .nan ∈ xs → Numerics.sum xs = .nan

/-- What is relied on of the numerical routines. -/
class LawfulNumerics [Numerics] : Prop extends LawfulSum where
  /-- A vector is no shorter than zero, even an infinite one. -/
  nonneg_norm : ∀ p : Point Binary64, (∀ axis, (p.on axis).isNaN = false) →
    (Numerics.norm p).Nonneg
  /-- Neither is the longest side of a right triangle. -/
  nonneg_hypotenuse : ∀ a b : Binary64, a.isNaN = false → b.isNaN = false →
    (Numerics.hypotenuse a b).Nonneg
  /-- That side is no number if one of the others is none and the other one is finite, -/
  hypotenuse_nan : ∀ a : Binary64, a.isFinite = true → Numerics.hypotenuse .nan a = .nan
  /-- and infinite beside an infinite one, even then. -/
  hypotenuse_nan_infinite : ∀ negative : Bool,
    Numerics.hypotenuse .nan (.infinite negative) = .infinite false
  /-- An angle is at most half a turn, in either sense. -/
  upTo_angle : ∀ y x : Binary64, y.isNaN = false → x.isNaN = false →
    (Numerics.angle y x).UpTo Binary64.pi.magnitude

namespace Binary64

/-! ### Roots -/

theorem nonneg_rootOfSquares {p : Point Binary64} (h : ∀ axis, (p.on axis).isNaN = false) :
    Nonneg (Numerics.rootOfSquares p) := by
  have hsquare : ∀ axis, Nonneg (p.on axis * p.on axis) := fun axis => nonneg_mul_self (h axis)
  exact (((hsquare .x).add (hsquare .y)).add (hsquare .z)).sqrt

theorem nonneg_hypot {a b : Binary64} (ha : a.isNaN = false) (hb : b.isNaN = false) :
    Nonneg (hypot a b) := by
  cases a with
  | nan => cases ha
  | infinite => exact nonneg_infinite
  | finite =>
      cases b with
      | nan => cases hb
      | infinite => exact nonneg_infinite
      | finite => exact nonneg_ofRoot _

theorem hypot_nan_of_isFinite {a : Binary64} (h : a.isFinite = true) : hypot nan a = nan := by
  cases a with
  | nan => cases h
  | infinite => cases h
  | finite => rfl

/-! ### Sums in any order -/

/-- What a list adds up to if its numbers are added in some order, each of them once. -/
inductive AddsUp : List Binary64 → Binary64 → Prop
  /-- Nothing adds up to zero. -/
  | zero : AddsUp [] 0
  /-- A number alone adds up to itself. -/
  | one (x : Binary64) : AddsUp [x] x
  /-- What two lists add up to is added. -/
  | add {xs ys : List Binary64} {a b : Binary64} (hx : AddsUp xs a) (hy : AddsUp ys b) :
      AddsUp (xs ++ ys) (a + b)
  /-- The order of a list does not tell the order of the additions. -/
  | perm {xs ys : List Binary64} {a : Binary64} (hperm : xs.Perm ys) (hx : AddsUp xs a) :
      AddsUp ys a

namespace AddsUp

variable {xs : List Binary64} {a : Binary64}

theorem eq_zero (h : AddsUp xs a) (hnil : xs = []) : a = 0 := by
  induction h with
  | zero => rfl
  | one x => cases hnil
  | add hx hy ihx ihy =>
      obtain ⟨hfront, hrest⟩ := List.append_eq_nil_iff.1 hnil
      rw [ihx hfront, ihy hrest]
      decide +kernel
  | perm hperm hx ih => exact ih (List.perm_nil.1 (hnil ▸ hperm))

/-- What is no less than zero adds up to what is no less than zero. -/
theorem nonneg (h : AddsUp xs a) (hxs : ∀ x ∈ xs, Nonneg x) : Nonneg a := by
  induction h with
  | zero => exact nonneg_zero
  | one x => exact hxs x List.mem_cons_self
  | add hx hy ihx ihy =>
      exact (ihx fun x hx => hxs x (List.mem_append_left _ hx)).add
        (ihy fun y hy => hxs y (List.mem_append_right _ hy))
  | perm hperm hx ih => exact ih fun x hx => hxs x (hperm.mem_iff.1 hx)

theorem nan_add (a : Binary64) : nan + a = nan := by
  cases a <;> rfl

theorem add_nan (a : Binary64) : a + nan = nan := by
  cases a <;> rfl

/-- A summand that is no number leaves none. -/
theorem eq_nan (h : AddsUp xs a) (hnan : nan ∈ xs) : a = nan := by
  induction h with
  | zero => cases hnan
  | one x => exact (List.mem_singleton.1 hnan).symm
  | add hx hy ihx ihy =>
      rcases List.mem_append.1 hnan with hnan | hnan
      · rw [ihx hnan, nan_add]
      · rw [ihy hnan, add_nan]
  | perm hperm hx ih => exact ih (hperm.mem_iff.2 hnan)

end AddsUp

/-- A list is what some other lists make up together, each of which adds up to one of the sums. -/
def SumsOf (xs sums : List Binary64) : Prop :=
  ∃ parts : List (List Binary64), parts.flatten.Perm xs ∧ List.Forall₂ AddsUp parts sums

namespace SumsOf

variable {xs ys sums sums' row : List Binary64}

/-- The numbers of a list are sums of one summand each. -/
theorem self (xs : List Binary64) : SumsOf xs xs := by
  induction xs with
  | nil => exact ⟨[], .refl _, .nil⟩
  | cons x rest ih =>
      obtain ⟨parts, hperm, hparts⟩ := ih
      exact ⟨[x] :: parts, hperm.cons x, .cons (.one x) hparts⟩

theorem append (h : SumsOf xs sums) (h' : SumsOf ys sums') : SumsOf (xs ++ ys) (sums ++ sums') := by
  obtain ⟨parts, hperm, hparts⟩ := h
  obtain ⟨parts', hperm', hparts'⟩ := h'
  refine ⟨parts ++ parts', ?_, List.rel_append hparts hparts'⟩
  rw [List.flatten_append]
  exact hperm.append hperm'

/-- Neighbours are added. -/
theorem pairs (h : SumsOf xs sums) : SumsOf xs (addPairs sums) := by
  obtain ⟨parts, hperm, hparts⟩ := h
  suffices ∃ paired : List (List Binary64), paired.flatten = parts.flatten ∧
      List.Forall₂ AddsUp paired (addPairs sums) by
    obtain ⟨paired, hflatten, hpaired⟩ := this
    exact ⟨paired, hflatten ▸ hperm, hpaired⟩
  clear hperm
  fun_induction addPairs sums generalizing parts with
  | case1 a b rest ih =>
      obtain _ | ⟨ha, _ | ⟨hb, hrest⟩⟩ := hparts
      rename_i front second others
      obtain ⟨paired, hflatten, hpaired⟩ := ih others hrest
      refine ⟨(front ++ second) :: paired, ?_, .cons (ha.add hb) hpaired⟩
      rw [List.flatten_cons, hflatten, List.append_assoc, List.flatten_cons, List.flatten_cons]
  | case2 rest => exact ⟨parts, rfl, hparts⟩

/-- Every number of a row is added to one of the sums. -/
theorem addRow (h : SumsOf xs sums) (hlength : sums.length = row.length) :
    SumsOf (xs ++ row) (List.zipWith (· + ·) sums row) := by
  obtain ⟨parts, hperm, hparts⟩ := h
  suffices ∃ longer : List (List Binary64), longer.flatten.Perm (parts.flatten ++ row) ∧
      List.Forall₂ AddsUp longer (List.zipWith (· + ·) sums row) by
    obtain ⟨longer, hflatten, hlonger⟩ := this
    exact ⟨longer, hflatten.trans (hperm.append_right row), hlonger⟩
  clear hperm
  induction hparts generalizing row with
  | nil =>
      obtain rfl := List.eq_nil_of_length_eq_zero hlength.symm
      exact ⟨[], .refl _, .nil⟩
  | @cons part sum parts sums hpart hparts ih =>
      cases row with
      | nil => cases hlength
      | cons x row =>
          obtain ⟨longer, hflatten, hlonger⟩ := ih (Nat.succ.inj hlength)
          refine ⟨(part ++ [x]) :: longer, ?_, .cons (hpart.add (.one x)) hlonger⟩
          rw [List.flatten_cons, List.flatten_cons, List.append_assoc, List.append_assoc]
          refine List.Perm.append_left part ?_
          exact (hflatten.cons x).trans List.perm_middle.symm

/-- Row by row all of a list is added but what is left of it. -/
theorem rows (h : SumsOf ys sums) (hlength : sums.length = columnCount) (xs : List Binary64) :
    ∃ front, SumsOf front (addRows sums xs).1 ∧ front ++ (addRows sums xs).2 = ys ++ xs := by
  fun_induction addRows sums xs generalizing ys with
  | case1 sums xs hlong ih =>
      have hrow : sums.length = (xs.take columnCount).length := by
        rw [hlength, List.length_take_of_le hlong]
      obtain ⟨front, hfront, heq⟩ := ih (h.addRow hrow)
        (by rw [List.length_zipWith, ← hrow, Nat.min_self, hlength])
      refine ⟨front, hfront, ?_⟩
      rw [heq, List.append_assoc, List.take_append_drop]
  | case2 sums xs hshort => exact ⟨ys, h, rfl⟩

/-- From the left all sums are added up. -/
theorem addsUp_sumLeft (h : SumsOf xs sums) : AddsUp xs (sumLeft sums) := by
  obtain ⟨parts, hperm, hparts⟩ := h
  suffices ∀ front start, AddsUp front start →
      AddsUp (front ++ parts.flatten) (sums.foldl (· + ·) start) from .perm hperm (this [] 0 .zero)
  clear hperm
  induction hparts with
  | nil =>
      intro front start hstart
      rwa [List.flatten_nil, List.append_nil]
  | @cons part sum parts sums hpart hparts ih =>
      intro front start hstart
      rw [List.flatten_cons, ← List.append_assoc, List.foldl_cons]
      exact ih (front ++ part) (start + sum) (hstart.add hpart)

end SumsOf

/-- By columns every number is added once. -/
theorem addsUp_sumBlock {xs : List Binary64} (hlong : columnCount ≤ xs.length) :
    AddsUp xs (sumBlock xs) := by
  obtain ⟨front, hfront, heq⟩ := (SumsOf.self (xs.take columnCount)).rows
    (List.length_take_of_le hlong) (xs.drop columnCount)
  rw [List.take_append_drop] at heq
  have hsums : AddsUp (front ++ (addRows (xs.take columnCount) (xs.drop columnCount)).2)
      (sumBlock xs) := (hfront.pairs.pairs.pairs.append (.self _)).addsUp_sumLeft
  rwa [heq] at hsums

/-- **The standard sum adds every number of a list once.** -/
theorem addsUp_sumHalves (xs : List Binary64) : AddsUp xs (sumHalves xs) := by
  fun_induction sumHalves xs with
  | case1 xs hshort => exact (SumsOf.self xs).addsUp_sumLeft
  | case2 xs hcolumns hblock => exact addsUp_sumBlock (not_lt.1 hcolumns)
  | case3 xs hcolumns hblock ihfront ihrest =>
      have hsum := ihfront.add ihrest
      rwa [List.take_append_drop] at hsum

end Binary64

/-- **A sum that adds every number of a list once is lawful**, in whatever order it does. -/
theorem LawfulSum.of_addsUp [Numerics]
    (h : ∀ xs : List Binary64, Binary64.AddsUp xs (Numerics.sum xs)) : LawfulSum where
  sum_nil := (h []).eq_zero rfl
  nonneg_sum xs := (h xs).nonneg
  sum_eq_nan xs := (h xs).eq_nan

/-! ### The standard routines -/

/-- **The standard routines are lawful.** -/
instance LawfulNumerics.standard : @LawfulNumerics .standard :=
  @LawfulNumerics.mk .standard (@LawfulSum.of_addsUp .standard Binary64.addsUp_sumHalves)
    (fun _ => Binary64.nonneg_rootOfSquares) (fun _ _ => Binary64.nonneg_hypot)
    (fun _ => Binary64.hypot_nan_of_isFinite) (fun _ => rfl) fun _ _ => Binary64.upTo_angle

end Toolpath
