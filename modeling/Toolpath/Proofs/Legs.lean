/-
**Routes over points in thousandths.**

Where all numbers of a program are thousandths, its route goes over points with whole coordinates.
The points are in range and the tolerance tells them apart, so nothing is reported about such a
program exactly if the legs of its route are different, each with two different ends.  A route that
comes to no point twice has such legs.

Main definitions:

* `Toolpath.Point.millimetres` — a point that is given in thousandths;
* `Toolpath.stopsFrom`, `Toolpath.legs` — the stops of a route, and the pairs of stops that follow
  each other;
* `Toolpath.Clear` — no leg has one end only, or comes twice.

Main results:

* `Toolpath.clear_of_nodup` — **a route that comes to no point twice is clear**;
* `Toolpath.diagnostics_eq_nil_iff` — **nothing is reported about a program exactly if its route is
  clear**;
* `Toolpath.leads_along`, `Toolpath.leads_along_feed` — a line along one axis leads to the count
  that its number is near to.
-/

import Toolpath.Proofs.DecimalLine
import Toolpath.Proofs.EndPoint
import Toolpath.Proofs.Thousandths

set_option relaxedAutoImplicit false
set_option autoImplicit false

namespace Toolpath

open Binary64

/-! ### Points in thousandths -/

namespace Point

theorem on_map {α β : Type} (f : α → β) (p : Point α) (axis : Axis) :
    (p.map f).on axis = f (p.on axis) := by
  cases axis <;> rfl

/-- Going to coordinates and taking their images can be done in either order. -/
theorem follow_map {α β : Type} (f : α → β) (p : Point α) (goal : Point (Option α)) :
    (p.map f).follow (goal.map (Option.map f)) = (p.follow goal).map f := by
  obtain ⟨x, y, z⟩ := goal
  cases x <;> cases y <;> cases z <;> rfl

/-- The point whose coordinates are given in thousandths of a millimetre. -/
def millimetres (p : Point Int) : Point Binary64 := p.map thousandths

/-- All coordinates are in range. -/
def IsInRange (p : Point Int) : Prop := ∀ axis, InRange (p.on axis)

theorem isInRange_mk {x y z : Int} (hx : InRange x) (hy : InRange y) (hz : InRange z) :
    IsInRange ⟨x, y, z⟩ := by
  intro axis
  cases axis <;> assumption

/-- A point in range is found again by rounding its coordinates. -/
theorem map_parts_millimetres {p : Point Int} (h : p.IsInRange) :
    p.millimetres.map (Binary64.parts 3) = p :=
  eq_of_on fun axis => by
    rw [on_map, millimetres, on_map, (near_thousandths (h axis)).parts_eq]

end Point

/-- A point in range, as it is reached. -/
def IsPlace (q : Point Binary64) : Prop := ∃ p : Point Int, p.IsInRange ∧ p.millimetres = q

/-- **The points are told apart by the tolerance.** -/
theorem discrete_isPlace : Discrete 0.0001 IsPlace where
  pos := tolerance_pos
  isFinite := by
    rintro q ⟨p, hp, rfl⟩ axis
    rw [Point.millimetres, Point.on_map]
    exact isFinite_thousandths (hp axis)
  eq_of_near := by
    rintro q q' ⟨p, hp, rfl⟩ ⟨p', hp', rfl⟩ hnear
    rw [Point.near_iff] at hnear
    have hsame : p = p' := Point.eq_of_on fun axis => by
      have hwithin := hnear axis
      rw [Point.millimetres, Point.millimetres, Point.on_map, Point.on_map] at hwithin
      exact eq_of_within_thousandths (hp axis) (hp' axis) hwithin
    rw [hsame]

/-! ### Stops and legs -/

/-- The points where the tool stops on its way from a point to some goals. -/
def stopsFrom : Point Int → List (Option (Point (Option Int))) → List (Point Int)
  | _, [] => []
  | p, none :: rest => stopsFrom p rest
  | p, some goal :: rest => p.follow goal :: stopsFrom (p.follow goal) rest

/-- The pairs of points that follow each other on the way from a point over some stops. -/
def legs : Point Int → List (Point Int) → List (Sym2 (Point Int))
  | _, [] => []
  | p, q :: rest => s(p, q) :: legs q rest

/-- No leg has one end only, or comes twice. -/
structure Clear (p : Point Int) (stops : List (Point Int)) : Prop where
  not_isDiag : ∀ leg ∈ legs p stops, ¬ leg.IsDiag
  nodup : (legs p stops).Nodup

/-- The ends of a leg are where the route comes to. -/
theorem mem_of_mem_legs {p q : Point Int} {stops : List (Point Int)} {leg : Sym2 (Point Int)}
    (hleg : leg ∈ legs p stops) (hq : q ∈ leg) : q ∈ p :: stops := by
  induction stops generalizing p with
  | nil => cases hleg
  | cons r rest ih =>
      rcases List.mem_cons.1 hleg with rfl | hleg
      · rcases Sym2.mem_iff.1 hq with rfl | rfl
        · exact List.mem_cons_self
        · exact List.mem_cons_of_mem _ List.mem_cons_self
      · exact List.mem_cons_of_mem _ (ih hleg)

/-- **A route that comes to no point twice is clear.** -/
theorem clear_of_nodup {p : Point Int} {stops : List (Point Int)} (h : (p :: stops).Nodup) :
    Clear p stops := by
  induction stops generalizing p with
  | nil => exact ⟨nofun, List.nodup_nil⟩
  | cons q rest ih =>
      obtain ⟨hp, hrest⟩ := List.nodup_cons.1 h
      obtain ⟨hdiag, hnodup⟩ := ih hrest
      refine ⟨List.forall_mem_cons.2 ⟨?_, hdiag⟩, List.nodup_cons.2 ⟨fun hmem => ?_, hnodup⟩⟩
      · rw [Sym2.mk_isDiag_iff]
        rintro rfl
        exact hp List.mem_cons_self
      · exact hp (mem_of_mem_legs hmem (Sym2.mem_mk_left p q))

/-! ### Legs and moves -/

/-- The images of the coordinates of a goal. -/
def goalBy (f : Int → Binary64) (goal : Option (Point (Option Int))) :
    Option (Point (Option Binary64)) :=
  goal.map (Point.map (Option.map f))

/-- The moves along a route have the ends of its legs. -/
theorem ends_movesFrom (f : Int → Binary64) (p : Point Int) (number : Int)
    (goals : List (Option (Point (Option Int)))) :
    (movesFrom (p.map f) number (goals.map (goalBy f))).map (fun move => move.segment.ends) =
      (legs p (stopsFrom p goals)).map (Sym2.map (Point.map f)) := by
  induction goals generalizing p number with
  | nil => rfl
  | cons goal rest ih =>
      cases goal with
      | none => exact ih p (number + 1)
      | some goal =>
          have hrest := ih (p.follow goal) (number + 1)
          rw [List.map_cons, goalBy, Option.map_some, movesFrom, Point.follow_map, List.map_cons,
            hrest]
          rfl

/-- They join points of the route. -/
theorem joins_movesFrom (f : Int → Binary64) {stop : Point Binary64 → Prop} {p : Point Int}
    (hp : stop (p.map f)) (number : Int) {goals : List (Option (Point (Option Int)))}
    (h : ∀ q ∈ stopsFrom p goals, stop (q.map f)) :
    ∀ move ∈ movesFrom (p.map f) number (goals.map (goalBy f)), move.Joins stop := by
  induction goals generalizing p number with
  | nil => exact fun _ hmove => absurd hmove List.not_mem_nil
  | cons goal rest ih =>
      cases goal with
      | none => exact ih hp (number + 1) h
      | some goal =>
          obtain ⟨hq, hrest⟩ := List.forall_mem_cons.1 h
          rw [List.map_cons, goalBy, Option.map_some, movesFrom, Point.follow_map]
          exact List.forall_mem_cons.2 ⟨⟨hp, hq⟩, ih hq (number + 1) hrest⟩

/-- The legs of a route are found again where its points are. -/
theorem map_map_legs {f : Int → Binary64} {g : Binary64 → Int} {p : Point Int}
    {stops : List (Point Int)} (h : ∀ q ∈ p :: stops, (q.map f).map g = q) :
    ((legs p stops).map (Sym2.map (Point.map f))).map (Sym2.map (Point.map g)) = legs p stops := by
  rw [List.map_map]
  refine (List.map_congr_left fun leg hleg => ?_).trans (List.map_id _)
  induction leg using Sym2.ind with
  | _ a b =>
      have ha := h a (mem_of_mem_legs hleg (Sym2.mem_mk_left a b))
      have hb := h b (mem_of_mem_legs hleg (Sym2.mem_mk_right a b))
      rw [Function.comp_apply, Sym2.map_mk, Sym2.map_mk, ha, hb, id]

/-- So the legs are clear if their images are. -/
theorem clear_iff_map {f : Int → Binary64} {g : Binary64 → Int} {p : Point Int}
    {stops : List (Point Int)} (h : ∀ q ∈ p :: stops, (q.map f).map g = q) :
    Clear p stops ↔ (∀ ends ∈ (legs p stops).map (Sym2.map (Point.map f)), ¬ ends.IsDiag) ∧
      ((legs p stops).map (Sym2.map (Point.map f))).Nodup := by
  constructor
  · rintro ⟨hdiag, hnodup⟩
    rw [← map_map_legs h] at hdiag hnodup
    exact ⟨fun ends hends hequal => hdiag _ (List.mem_map_of_mem hends) hequal.map,
      hnodup.of_map⟩
  · rintro ⟨hdiag, hnodup⟩
    exact ⟨fun leg hleg hequal => hdiag _ (List.mem_map_of_mem hleg) hequal.map, hnodup.of_map⟩

/-- **Nothing is reported about a program exactly if its route is clear**, from the first point that
it goes to. -/
theorem diagnostics_eq_nil_iff {lines : List String} {goals : List (Option (Point (Option Int)))}
    {p : Point Int} {stops : List (Point Int)}
    (h : List.Forall₂ Leads lines (goals.map (goalBy thousandths)))
    (hstops : stopsFrom ⟨0, 0, 0⟩ goals = p :: stops) (hrange : ∀ q ∈ p :: stops, q.IsInRange) :
    (analyzeText {} (programText lines)).diagnostics = [] ↔ Clear p stops := by
  have hstart : Point.map thousandths ⟨0, 0, 0⟩ = Point.origin := by
    rw [Point.map]
    dsimp only
    rw [thousandths_zero, Point.origin, Point.diagonal]
  have hplace : ∀ q : Point Int, q.IsInRange → IsPlace (q.map thousandths) :=
    fun q hq => ⟨q, hq, rfl⟩
  have hzero : Point.IsInRange ⟨0, 0, 0⟩ :=
    Point.isInRange_mk (by decide) (by decide) (by decide)
  have hends := ends_movesFrom thousandths ⟨0, 0, 0⟩ 1 goals
  have hjoins := @joins_movesFrom thousandths IsPlace ⟨0, 0, 0⟩ (hplace _ hzero) 1 goals
    (by
      rw [hstops]
      exact fun q hq => hplace q (hrange q hq))
  rw [hstart] at hends hjoins
  rw [hstops] at hends
  have hne : movesFrom Point.origin 1 (goals.map (goalBy thousandths)) ≠ [] := by
    intro hnil
    rw [hnil] at hends
    cases hends
  have htail : (movesFrom Point.origin 1 (goals.map (goalBy thousandths))).tail.map
      (fun move => move.segment.ends) = (legs p stops).map (Sym2.map (Point.map thousandths)) := by
    rw [List.map_tail, hends]
    rfl
  have htolerance : ({} : Settings).positionTolerance = 0.0001 := rfl
  rw [(analyzeText_route {} h hne).1, htolerance, SegmentIndex.reports_eq_nil_iff discrete_isPlace
    (fun move hmove => hjoins move (List.mem_of_mem_tail hmove)) (SegmentIndex.Holds.empty _)
    (by simp) List.nodup_nil, List.map_nil, List.nil_append, htail,
    clear_iff_map fun q hq => Point.map_parts_millimetres (hrange q hq), ← htail,
    List.forall_mem_map]

/-! ### Lines in thousandths -/

/-- A coordinate is written as a count of thousandths in range. -/
structure Writes (c : Binary64) (k : Int) : Prop where
  near : Near c k
  eq_zero : k = 0 → c = 0
  inRange : InRange k

theorem Binary64.Near.writes {c : Binary64} {k : Int} (h : Near c k) (hne : k ≠ 0)
    (hrange : InRange k) : Writes c k :=
  ⟨h, fun hzero => absurd hzero hne, hrange⟩

theorem writes_thousandths {k : Int} (h : InRange k) : Writes (thousandths k) k := by
  refine ⟨near_thousandths h, ?_, h⟩
  rintro rfl
  exact thousandths_zero

theorem writes_neg_thousandths {k : Int} (h : InRange k) (hpos : 0 < k) :
    Writes (-thousandths k) (-k) :=
  (near_thousandths h).neg.writes (by omega) h.neg

theorem Writes.toList_coordinateWord {c : Binary64} {k : Int} (h : Writes c k) (letter : String) :
    (coordinateWord letter c).toList = letter.toList ++ (decimal 3 k).text := by
  rw [coordinateWord, coordinateText, h.near.fixed_eq h.eq_zero, String.toList_append,
    String.toList_ofList]

theorem isFinite_word {k : Int} (h : InRange k) (address : Address) :
    (DecimalWord.value ⟨address, 3, k⟩).isFinite = true := by
  rw [DecimalWord.value, ← thousandths_eq]
  exact isFinite_thousandths h

/-- A feed rate is written as a whole number, and it is in range. -/
structure WritesRate (rate : Binary64) (n : Int) : Prop where
  fixed_eq : rate.fixed 0 = String.ofList (decimal 0 n).text
  isFinite : (ofParts 0 n).isFinite = true

instance (rate : Binary64) (n : Int) : Decidable (WritesRate rate n) :=
  decidable_of_iff (rate.fixed 0 = String.ofList (decimal 0 n).text ∧
    (ofParts 0 n).isFinite = true) ⟨fun h => ⟨h.1, h.2⟩, fun h => ⟨h.1, h.2⟩⟩

theorem WritesRate.toList_feedWord {rate : Binary64} {n : Int} (h : WritesRate rate n) :
    (feedWord rate).toList = ' ' :: 'F' :: (decimal 0 n).text := by
  rw [feedWord, h.fixed_eq, String.toList_append, @String.toList_ofList (decimal 0 n).text]
  rfl

/-- The letter of an axis. -/
def Axis.letter : Axis → String
  | .x => "X"
  | .y => "Y"
  | .z => "Z"

/-- The goal that gives one coordinate only. -/
def onlyOn (axis : Axis) (k : Int) : Point (Option Int) :=
  ⟨if axis = .x then some k else none, if axis = .y then some k else none,
    if axis = .z then some k else none⟩

/-- The goals at the end of a program: up, and nowhere. -/
def lastGoals : List (Option (Point (Option Int))) := [some (onlyOn .z 5000), none, none]

/-- Words for the feed rate give no coordinate. -/
theorem lastGiven_append {address : Address} (haddress : address ≠ .f) (ws : List DecimalWord)
    {rate : List DecimalWord} (hrate : ∀ w ∈ rate, w.address = .f) :
    lastGiven address (ws ++ rate) = lastGiven address ws := by
  have hothers : rate.filter (fun w => w.address = address) = [] := by
    refine List.filter_eq_nil_iff.2 fun other hother => ?_
    rw [hrate other hother, decide_eq_true_eq]
    exact Ne.symm haddress
  rw [lastGiven, List.filter_append, hothers, List.append_nil, lastGiven]

theorem goalBy_thousandths (goal : Option (Point (Option Int))) :
    goalBy thousandths goal = goalBy (ofParts 3) goal :=
  congrArg (fun f => goalBy f goal) (funext thousandths_eq)

/-- A line whose words lead to a goal leads to it with words for the feed rate too. -/
theorem leads_words {digit : Fin 4} {goal : Point (Option Int)} {ws rate : List DecimalWord}
    (hgoal : goalBy (ofParts 3) (some goal) =
      some ⟨lastGiven .x ws, lastGiven .y ws, lastGiven .z ws⟩)
    (hfinite : ∀ w ∈ ws, w.value.isFinite = true)
    (harc : digit.val ∈ [2, 3] → (lastGiven .i ws).isSome = true)
    (hrate : ∀ w ∈ rate, w.address = .f ∧ w.value.isFinite = true) :
    Leads (decimalLine digit (ws ++ rate)) (goalBy thousandths (some goal)) := by
  have hfeed : ∀ w ∈ rate, w.address = .f := fun w hw => (hrate w hw).1
  rw [goalBy_thousandths, hgoal, ← lastGiven_append (by decide) ws hfeed,
    ← lastGiven_append (by decide) ws hfeed, ← lastGiven_append (by decide) ws hfeed]
  refine leads_decimalLine (fun w hw => ?_) fun hdigit => ?_
  · rcases List.mem_append.1 hw with hw | hw
    · exact hfinite w hw
    · exact (hrate w hw).2
  · rw [lastGiven_append (by decide) ws hfeed]
    exact harc hdigit

section Along

variable {c : Binary64} {k : Int}

/-- **A line along one axis** leads to the count that its number is near to. -/
theorem leads_along (axis : Axis) (h : Writes c k) :
    Leads ("G1 " ++ coordinateWord axis.letter c) (goalBy thousandths (some (onlyOn axis k))) := by
  have hline : "G1 " ++ coordinateWord axis.letter c =
      decimalLine 1 ([⟨axis.address, 3, k⟩] ++ []) := by
    rw [← String.toList_inj, String.toList_append, h.toList_coordinateWord, toList_decimalLine]
    cases axis <;> simp [Axis.letter, Axis.address] <;> decide
  rw [hline]
  refine leads_words (by cases axis <;> rfl) ?_ (fun harc => absurd harc (by decide)) (by simp)
  exact List.forall_mem_singleton.2 (isFinite_word h.inRange axis.address)

/-- A line along one axis that sets the feed rate. -/
theorem leads_along_feed (axis : Axis) (h : Writes c k) {rate : Binary64} {n : Int}
    (hrate : WritesRate rate n) :
    Leads ("G1 " ++ coordinateWord axis.letter c ++ feedWord rate)
      (goalBy thousandths (some (onlyOn axis k))) := by
  have hline : "G1 " ++ coordinateWord axis.letter c ++ feedWord rate =
      decimalLine 1 ([⟨axis.address, 3, k⟩] ++ [⟨.f, 0, n⟩]) := by
    rw [← String.toList_inj, String.toList_append, String.toList_append,
      h.toList_coordinateWord, hrate.toList_feedWord, toList_decimalLine]
    cases axis <;> simp [Axis.letter, Axis.address] <;> decide
  rw [hline]
  refine leads_words (by cases axis <;> rfl) ?_ (fun harc => absurd harc (by decide))
    (List.forall_mem_singleton.2 ⟨rfl, hrate.isFinite⟩)
  exact List.forall_mem_singleton.2 (isFinite_word h.inRange axis.address)

end Along

end Toolpath
