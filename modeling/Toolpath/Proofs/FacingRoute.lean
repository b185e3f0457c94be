/-
**The route of a facing program.**

A facing program goes down beside a rectangle, and then from one side to the other in rows that are
stepped to one after another.  If every row is farther than the one before it, the tool comes to no
point twice, and nothing is reported.  If the last row is where the one before it is, the step to it
has no length, and that is reported.

Main definitions:

* `Toolpath.Facing.ofMeasures` — the program of some measures, with the defaults for the rest;
* `Toolpath.Facing.sweep` — the stops of rows, and of the way up after them.

Main results:

* `Toolpath.Facing.clear_sweep`, `Toolpath.Facing.not_clear_sweep` — when the route is clear;
* `Toolpath.Facing.clean_iff` — **nothing is reported about a facing program exactly if no row too
  many is counted**.
-/

import Toolpath.Proofs.Legs
import Toolpath.Proofs.PassCount

set_option relaxedAutoImplicit false
set_option autoImplicit false

namespace Toolpath

open Binary64

namespace Facing

/-! ### Rows -/

/-- The side across from a side. -/
def across (width side : Int) : Int := if side = 0 then width else 0

/-- The goals of rows, from a side on: to the row, and along it. -/
def rowGoals (width : Int) : Int → List Int → List (Option (Point (Option Int)))
  | _, [] => []
  | side, y :: ys =>
      some (onlyOn .y y) :: some (onlyOn .x (across width side)) ::
        rowGoals width (across width side) ys

/-- The stops of rows, from a side on, and of the way up after them. -/
def sweep (width z : Int) : Int → Int → List Int → List (Point Int)
  | side, row, [] => [⟨side, row, 5000⟩]
  | side, _, y :: ys =>
      ⟨side, y, z⟩ :: ⟨across width side, y, z⟩ :: sweep width z (across width side) y ys

theorem stopsFrom_rowGoals (width z side row : Int) (ys : List Int) :
    stopsFrom ⟨side, row, z⟩ (rowGoals width side ys ++ lastGoals) =
      sweep width z side row ys := by
  induction ys generalizing side row with
  | nil => rfl
  | cons y ys ih =>
      have hrest := ih (across width side) y
      rw [sweep, ← hrest]
      rfl

section Sweep

variable {width z : Int}

/-- Rows that go farther and farther stay beyond the row before them, apart from the way up. -/
theorem sweep_bounds {side row : Int} {ys : List Int} (h : (row :: ys).Pairwise (· < ·)) :
    ∀ q ∈ sweep width z side row ys, row ≤ q.y ∧ (q.z = 5000 ∨ row < q.y) := by
  induction ys generalizing side row with
  | nil =>
      intro q hq
      obtain rfl := List.mem_singleton.1 hq
      exact ⟨le_rfl, .inl rfl⟩
  | cons y ys ih =>
      obtain ⟨hless, hrest⟩ := List.pairwise_cons.1 h
      have hy := hless y List.mem_cons_self
      intro q hq
      rcases List.mem_cons.1 hq with rfl | hq
      · exact ⟨hy.le, .inr hy⟩
      rcases List.mem_cons.1 hq with rfl | hq
      · exact ⟨hy.le, .inr hy⟩
      have hlater := (ih hrest q hq).1
      exact ⟨by omega, .inr (by omega)⟩

theorem across_eq_or (width side : Int) : across width side = 0 ∨ across width side = width := by
  rw [across]
  split
  · exact .inr rfl
  · exact .inl rfl

theorem across_ne (hwidth : width ≠ 0) (side : Int) : across width side ≠ side := by
  rw [across]
  split
  · rename_i h
    rwa [h]
  · rename_i h
    exact Ne.symm h

/-- They do not come back to the row before them. -/
theorem not_mem_sweep (hz : z ≠ 5000) {side row : Int} {ys : List Int}
    (h : (row :: ys).Pairwise (· < ·)) (x : Int) :
    (⟨x, row, z⟩ : Point Int) ∉ sweep width z side row ys := by
  intro hmem
  rcases (sweep_bounds h _ hmem).2 with hup | hfar
  · exact hz hup
  · exact lt_irrefl row hfar

/-- They come to no point twice. -/
theorem nodup_sweep (hwidth : width ≠ 0) (hz : z ≠ 5000) {side row : Int} {ys : List Int}
    (h : (row :: ys).Pairwise (· < ·)) : (sweep width z side row ys).Nodup := by
  induction ys generalizing side row with
  | nil => exact List.nodup_singleton _
  | cons y ys ih =>
      obtain ⟨-, hrest⟩ := List.pairwise_cons.1 h
      refine List.nodup_cons.2 ⟨fun hmem => ?_,
        List.nodup_cons.2 ⟨not_mem_sweep hz hrest _, ih hrest⟩⟩
      rcases List.mem_cons.1 hmem with hsame | hmem
      · exact across_ne hwidth side (congrArg Point.x hsame).symm
      · exact not_mem_sweep hz hrest _ hmem

/-- The stops after the first one: down, along the first row, and on. -/
def stops (width z : Int) (ys : List Int) : List (Point Int) :=
  ⟨0, 0, z⟩ :: ⟨width, 0, z⟩ :: sweep width z width 0 ys

/-- **The route is clear** if there are rows after the first one, and they go farther and
farther. -/
theorem clear_sweep (hwidth : width ≠ 0) (hz : z ≠ 5000) {ys : List Int} (hne : ys ≠ [])
    (h : (0 :: ys).Pairwise (· < ·)) : Clear ⟨0, 0, 5000⟩ (stops width z ys) := by
  refine clear_of_nodup (List.nodup_cons.2 ⟨fun hmem => ?_, List.nodup_cons.2 ⟨fun hmem => ?_,
    List.nodup_cons.2 ⟨not_mem_sweep hz h _, nodup_sweep hwidth hz h⟩⟩⟩)
  · -- the tool comes up beyond the first row
    rcases List.mem_cons.1 hmem with hsame | hmem
    · exact hz (congrArg Point.z hsame).symm
    rcases List.mem_cons.1 hmem with hsame | hmem
    · exact hz (congrArg Point.z hsame).symm
    cases ys with
    | nil => exact hne rfl
    | cons y ys =>
        obtain ⟨hless, hrest⟩ := List.pairwise_cons.1 h
        have hy := hless y List.mem_cons_self
        rcases List.mem_cons.1 hmem with hsame | hmem
        · exact hz (congrArg Point.z hsame).symm
        rcases List.mem_cons.1 hmem with hsame | hmem
        · exact hz (congrArg Point.z hsame).symm
        exact absurd (sweep_bounds hrest _ hmem).1 (not_le.2 hy)
  · rcases List.mem_cons.1 hmem with hsame | hmem
    · exact hwidth (congrArg Point.x hsame).symm
    · exact not_mem_sweep hz h _ hmem

/-- A row that is stepped to without moving leaves a leg with one end only. -/
theorem exists_isDiag_sweep (side row y : Int) (front : List Int) :
    ∃ leg ∈ legs ⟨side, row, z⟩ (sweep width z side row (front ++ [y, y])), leg.IsDiag := by
  induction front generalizing side row with
  | nil =>
      refine ⟨s(⟨across width side, y, z⟩, ⟨across width side, y, z⟩), ?_, rfl⟩
      exact List.mem_cons_of_mem _ (List.mem_cons_of_mem _ List.mem_cons_self)
  | cons first front ih =>
      obtain ⟨leg, hleg, hdiag⟩ := ih (across width side) first
      exact ⟨leg, List.mem_cons_of_mem _ (List.mem_cons_of_mem _ hleg), hdiag⟩

/-- **The route is not clear** if the last two rows are the same. -/
theorem not_clear_sweep (y : Int) (front : List Int) :
    ¬ Clear ⟨0, 0, 5000⟩ (stops width z (front ++ [y, y])) := by
  intro hclear
  obtain ⟨leg, hleg, hdiag⟩ := @exists_isDiag_sweep width z width 0 y front
  exact hclear.not_isDiag leg (List.mem_cons_of_mem _ (List.mem_cons_of_mem _ hleg)) hdiag

/-- All stops are in range. -/
theorem isInRange_sweep (hwidth : InRange width) (hz : InRange z) {side row : Int} {ys : List Int}
    (hside : side = 0 ∨ side = width) (hrows : ∀ y ∈ row :: ys, InRange y) :
    ∀ q ∈ sweep width z side row ys, q.IsInRange := by
  have hsides : ∀ x, x = 0 ∨ x = width → InRange x := by
    rintro x (rfl | rfl)
    · decide
    · exact hwidth
  induction ys generalizing side row with
  | nil =>
      intro q hq
      obtain rfl := List.mem_singleton.1 hq
      exact Point.isInRange_mk (hsides _ hside) (hrows row List.mem_cons_self) (by decide)
  | cons y ys ih =>
      obtain ⟨-, hys⟩ := List.forall_mem_cons.1 hrows
      have hy := hys y List.mem_cons_self
      have hacross := across_eq_or width side
      exact List.forall_mem_cons.2 ⟨Point.isInRange_mk (hsides _ hside) hy hz,
        List.forall_mem_cons.2 ⟨Point.isInRange_mk (hsides _ hacross) hy hz, ih hacross hys⟩⟩

end Sweep

/-! ### The program -/

/-- The program of some measures, with the defaults for the rest. -/
def ofMeasures (width height stepover depth : Measure) : Facing where
  width := width.length
  height := height.length
  stepover := stepover.length
  depth := depth.length

section Program

variable (width height stepover depth : Measure)

/-- The side across from a side, as a double. -/
theorem otherSide_ofMeasures {side : Int} (h : side = 0 ∨ side = width.count) :
    (ofMeasures width height stepover depth).otherSide (thousandths side) =
      thousandths (across width.count side) := by
  rcases h with rfl | rfl
  · rw [across, if_pos rfl, thousandths_zero, otherSide,
      if_pos (by rw [zero_eq_signedZero]; exact ⟨rfl, rfl⟩)]
    rfl
  · have hmagnitude : (thousandths width.count).magnitude ≠ 0 := width.magnitude_ne_zero
    rw [across, if_neg width.pos.ne', thousandths_zero, otherSide,
      if_neg fun hzero => hmagnitude hzero.1]

/-- The lines of rows lead along them. -/
theorem leads_laterRows {n : Nat} (hneeded : ((n : Int) - 1) * stepover.count ≤ height.count)
    (rows row : Nat) (hrow : 1 ≤ row) (hlast : row + rows ≤ n + 1) {side : Int}
    (hside : side = 0 ∨ side = width.count) :
    List.Forall₂ Leads
      ((ofMeasures width height stepover depth).laterRows rows row (thousandths side))
      ((rowGoals width.count side ((List.range' row rows).map (cut height stepover))).map
        (goalBy thousandths)) := by
  induction rows generalizing row side with
  | zero => exact .nil
  | succ rows ih =>
      have hacross := across_eq_or width.count side
      have hrange : InRange (across width.count side) := by
        rcases hacross with h | h <;> rw [h]
        · decide
        · exact width.inRange
      have hstep : Near ((ofMeasures width height stepover depth).rowHeight row)
          (cut height stepover row) := near_cut hneeded (by omega)
      have hrest := ih (row + 1) (by omega) (by omega) hacross
      rw [laterRows, otherSide_ofMeasures _ _ _ _ hside, List.range'_succ, List.map_cons, rowGoals,
        List.map_cons, List.map_cons]
      exact .cons (leads_along .y (hstep.writes (cut_pos hrow).ne' (inRange_cut hrow)))
        (.cons (leads_along .x (writes_thousandths hrange)) hrest)

/-- The goals of the program. -/
def goals (ys : List Int) : List (Option (Point (Option Int))) :=
  [none, none, none, none, none, some ⟨some 0, some 0, some 5000⟩,
      some (onlyOn .z (-depth.count))] ++
    (some (onlyOn .x width.count) :: rowGoals width.count width.count ys) ++ lastGoals

theorem stopsFrom_goals (ys : List Int) :
    stopsFrom ⟨0, 0, 0⟩ (goals width depth ys) =
      ⟨0, 0, 5000⟩ :: stops width.count (-depth.count) ys := by
  rw [stops, ← stopsFrom_rowGoals]
  rfl

/-- The lines that hold no measure, and the feed rates. -/
theorem leads_fixedLines : Leads "; Facing program" none ∧ Leads "G21 ; millimetres" none ∧
    Leads "G90 ; absolute positioning" none ∧ Leads "M3 S12000 ; spindle on" none ∧
    Leads ("G0 X0 Y0 " ++ coordinateWord "Z" 5)
      (goalBy thousandths (some ⟨some 0, some 0, some 5000⟩)) ∧
    Leads ("G0 " ++ coordinateWord "Z" 5) (goalBy thousandths (some (onlyOn .z 5000))) ∧
    Leads "M5 ; spindle off" none ∧ Leads "M30" none ∧ WritesRate 300 300 ∧
    WritesRate 1200 1200 := by
  decide +kernel

/-- The lines of the program lead along the route. -/
theorem leads_lines {n : Nat} (hneeded : ((n : Int) - 1) * stepover.count ≤ height.count) :
    List.Forall₂ Leads ((ofMeasures width height stepover depth).lines (n + 1))
      ((goals width depth (cuts height stepover n)).map (goalBy thousandths)) := by
  have hside := otherSide_ofMeasures width height stepover depth (.inl rfl)
  rw [across, if_pos rfl, thousandths_zero] at hside
  have harea : Leads ("; Area: " ++ width.length.shortest ++ " x " ++ height.length.shortest ++
      ", stepover: " ++ stepover.length.shortest ++ ", depth: " ++ depth.length.shortest) none := by
    have harea : IsComment "; Area: " := by decide
    exact ((((harea.append_shortest _ (by decide)).append_shortest _ (by decide)).append_shortest _
      (by decide)).append (isOneLine_shortest _)).leads
  obtain ⟨htitle, hunit, habsolute, hspindle, hstart, hup, hoff, hend, hplunge, hfeed⟩ :=
    leads_fixedLines
  have hdown : Leads ("G1 " ++ coordinateWord "Z" (-depth.length) ++ feedWord 300)
      (goalBy thousandths (some (onlyOn .z (-depth.count)))) :=
    leads_along_feed .z (writes_neg_thousandths depth.inRange depth.pos) hplunge
  have hfirst : Leads ("G1 " ++ coordinateWord "X" width.length ++ feedWord 1200)
      (goalBy thousandths (some (onlyOn .x width.count))) :=
    leads_along_feed .x (writes_thousandths width.inRange) hfeed
  have hrows := leads_laterRows width height stepover depth hneeded n 1 le_rfl (by omega) (.inr rfl)
  have hlast : List.Forall₂ Leads ["G0 " ++ coordinateWord "Z" 5, "M5 ; spindle off", "M30"]
      (lastGoals.map (goalBy thousandths)) := .cons hup (.cons hoff (.cons hend .nil))
  have hrow : List.Forall₂ Leads ((ofMeasures width height stepover depth).rows (n + 1))
      ((some (onlyOn .x width.count) ::
        rowGoals width.count width.count (cuts height stepover n)).map (goalBy thousandths)) := by
    rw [rows, hside, Nat.add_sub_cancel, List.map_cons]
    exact .cons hfirst hrows
  rw [goals, List.map_append, List.map_append]
  refine List.rel_append (List.rel_append ?_ hrow) hlast
  exact .cons htitle (.cons harea (.cons hunit (.cons habsolute (.cons hspindle
    (.cons hstart (.cons hdown .nil))))))

/-- **Nothing is reported about a facing program exactly if no row too many is counted**. -/
theorem clean_iff : ∃ text, (ofMeasures width height stepover depth).program = .ok text ∧
    ((analyzeText {} text).diagnostics = [] ↔ ¬ Overcounted height stepover) := by
  obtain ⟨n, hsteps, hneeded, hcovers, hcounted⟩ := exists_steps height stepover
  refine ⟨programText ((ofMeasures width height stepover depth).lines (n + 1)), ?_, ?_⟩
  · have hsteps' : stepsAcross (ofMeasures width height stepover depth).height
        (ofMeasures width height stepover depth).stepover = .ok (n : Int) := hsteps
    have hpasses : passCount ((n : Int) + 1) = n + 1 := by
      rw [passCount]
      omega
    rw [program, hsteps', Except.map, hpasses]
  · have hwidth := width.pos
    have hdepth := depth.pos
    have hz := depth.inRange.neg
    have hrows : ∀ y ∈ 0 :: cuts height stepover n, InRange y :=
      List.forall_mem_cons.2 ⟨by decide, fun y => inRange_of_mem_cuts⟩
    have hrange : ∀ q ∈ ⟨0, 0, 5000⟩ :: stops width.count (-depth.count) (cuts height stepover n),
        q.IsInRange :=
      List.forall_mem_cons.2 ⟨Point.isInRange_mk (by decide) (by decide) (by decide),
        List.forall_mem_cons.2 ⟨Point.isInRange_mk (by decide) (by decide) hz,
          List.forall_mem_cons.2 ⟨Point.isInRange_mk width.inRange (by decide) hz,
            isInRange_sweep width.inRange hz (.inr rfl) hrows⟩⟩⟩
    have hne : cuts height stepover n ≠ [] := by
      rw [cuts, ne_eq, List.map_eq_nil_iff, List.range'_eq_nil_iff]
      exact ne_zero_of_covers hcovers
    rw [diagnostics_eq_nil_iff (leads_lines width height stepover depth hneeded)
      (stopsFrom_goals width depth _) hrange]
    refine iff_not_overcounted hneeded hcounted (clear_sweep hwidth.ne' (by omega) hne) ?_
    intro front hfront
    rw [hfront]
    exact not_clear_sweep _ front

end Program

end Facing

end Toolpath
