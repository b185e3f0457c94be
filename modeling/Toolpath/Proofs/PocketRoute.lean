/-
**The route of a circular pocket.**

A program that cuts a circular pocket goes down beside the circle, once around it in four quarters,
and down again, until it has come to the depth.  All legs of a turn are at one height, and if every
turn is deeper than the one before it, no leg comes twice.  If the last turn is at the depth of the
one before it, the way down to it has no length, and that is reported.

Main definitions:

* `Toolpath.CircularPocket.ofMeasures` — the program of some measures, with the defaults for the
  rest;
* `Toolpath.CircularPocket.turn`, `Toolpath.CircularPocket.turns` — the stops of a turn, and of
  turns that are deeper and deeper, with the way up after them.

Main results:

* `Toolpath.CircularPocket.clear_turns`, `Toolpath.CircularPocket.not_clear_turns` — when the route
  is clear;
* `Toolpath.CircularPocket.clean_iff` — **nothing is reported about a pocket exactly if no turn too
  many is counted**;
* `Toolpath.millingSamples_clean_iff` — **when the milling samples are clean**.
-/

import Toolpath.Proofs.FacingRoute

set_option relaxedAutoImplicit false
set_option autoImplicit false

namespace Toolpath

open Binary64

namespace CircularPocket

/-! ### Turns -/

/-- The point beside the circle where every turn starts and ends. -/
def entry (radius z : Int) : Point Int := ⟨50000 + radius, 50000, z⟩

/-- The stops of a turn: down, and around. -/
def turn (radius z : Int) : List (Point Int) :=
  [entry radius z, ⟨50000, 50000 - radius, z⟩, ⟨50000 - radius, 50000, z⟩,
    ⟨50000, 50000 + radius, z⟩, entry radius z]

/-- The stops of turns at some depths, and of the way up after them. -/
def turns (radius : Int) : List Int → List (Point Int)
  | [] => [entry radius 5000]
  | y :: ys => turn radius (-y) ++ turns radius ys

/-- The legs of a turn, from a height on. -/
def turnLegs (radius start z : Int) : List (Sym2 (Point Int)) :=
  [s(entry radius start, entry radius z), s(entry radius z, ⟨50000, 50000 - radius, z⟩),
    s(⟨50000, 50000 - radius, z⟩, ⟨50000 - radius, 50000, z⟩),
    s(⟨50000 - radius, 50000, z⟩, ⟨50000, 50000 + radius, z⟩),
    s(⟨50000, 50000 + radius, z⟩, entry radius z)]

section Turns

variable {radius start z : Int}

theorem legs_turns_cons (radius start y : Int) (ys : List Int) :
    legs (entry radius start) (turns radius (y :: ys)) =
      turnLegs radius start (-y) ++ legs (entry radius (-y)) (turns radius ys) := rfl

/-- The legs of a turn have two ends each. -/
theorem not_isDiag_turnLegs (hradius : radius ≠ 0) (hdown : start ≠ z) :
    ∀ leg ∈ turnLegs radius start z, ¬ leg.IsDiag := by
  simp [turnLegs, entry, hradius, hdown]

/-- They are different. -/
theorem nodup_turnLegs (hradius : 0 < radius) (hdown : start ≠ z) :
    (turnLegs radius start z).Nodup := by
  simp [turnLegs, entry, hradius.ne', hdown]
  omega

/-- They are at the height of the turn, apart from the start of the way down. -/
theorem height_of_mem_turnLegs {leg : Sym2 (Point Int)} (hleg : leg ∈ turnLegs radius start z)
    {q : Point Int} (hq : q ∈ leg) : q.z = start ∨ q.z = z := by
  simp only [turnLegs, entry, List.mem_cons, List.not_mem_nil, or_false] at hleg
  rcases hleg with rfl | rfl | rfl | rfl | rfl <;> rcases Sym2.mem_iff.1 hq with rfl | rfl <;> simp

/-- Each of them comes to the height of the turn. -/
theorem exists_mem_turnLegs {leg : Sym2 (Point Int)} (hleg : leg ∈ turnLegs radius start z) :
    ∃ q ∈ leg, q.z = z := by
  simp only [turnLegs, entry, List.mem_cons, List.not_mem_nil, or_false] at hleg
  rcases hleg with rfl | rfl | rfl | rfl | rfl <;> exact ⟨_, Sym2.mem_mk_right _ _, rfl⟩

/-- Turns that are below a height come below it with every leg, apart from the way up. -/
theorem exists_mem_legs_turns {ys : List Int} (hbelow : ∀ y ∈ ys, -y < start)
    (h : ys.Pairwise (· < ·)) :
    ∀ leg ∈ legs (entry radius start) (turns radius ys), ∃ q ∈ leg, q.z < start ∨ q.z = 5000 := by
  induction ys generalizing start with
  | nil =>
      intro leg hleg
      obtain rfl := List.mem_singleton.1 hleg
      exact ⟨_, Sym2.mem_mk_right _ _, .inr rfl⟩
  | cons y ys ih =>
      obtain ⟨hless, hrest⟩ := List.pairwise_cons.1 h
      have hy := hbelow y List.mem_cons_self
      intro leg hleg
      rw [legs_turns_cons] at hleg
      rcases List.mem_append.1 hleg with hleg | hleg
      · obtain ⟨q, hq, hz⟩ := exists_mem_turnLegs hleg
        exact ⟨q, hq, .inl (hz ▸ hy)⟩
      · have hdeeper : ∀ y' ∈ ys, -y' < -y := fun y' hy' => Int.neg_lt_neg (hless y' hy')
        obtain ⟨q, hq, hz | hup⟩ := ih hdeeper hrest leg hleg
        · exact ⟨q, hq, .inl (by omega)⟩
        · exact ⟨q, hq, .inr hup⟩

/-- **The route is clear** if the turns are deeper and deeper. -/
theorem clear_turns (hradius : 0 < radius) {ys : List Int} (hstart : start < 5000)
    (hbelow : ∀ y ∈ ys, -y < start) (h : ys.Pairwise (· < ·)) :
    Clear (entry radius start) (turns radius ys) := by
  induction ys generalizing start with
  | nil =>
      refine ⟨fun leg hleg => ?_, List.nodup_singleton _⟩
      obtain rfl := List.mem_singleton.1 hleg
      rw [Sym2.mk_isDiag_iff]
      exact fun hsame => hstart.ne (congrArg Point.z hsame)
  | cons y ys ih =>
      obtain ⟨hless, hrest⟩ := List.pairwise_cons.1 h
      have hy := hbelow y List.mem_cons_self
      have hdeeper : ∀ y' ∈ ys, -y' < -y := fun y' hy' => Int.neg_lt_neg (hless y' hy')
      have hlater := ih (by omega) hdeeper hrest
      refine ⟨fun leg hleg => ?_, ?_⟩
      · rw [legs_turns_cons] at hleg
        rcases List.mem_append.1 hleg with hleg | hleg
        · exact not_isDiag_turnLegs hradius.ne' hy.ne' leg hleg
        · exact hlater.not_isDiag leg hleg
      · rw [legs_turns_cons]
        refine List.nodup_append.2 ⟨nodup_turnLegs hradius hy.ne', hlater.nodup, ?_⟩
        rintro leg hleg other hother rfl
        -- a later leg comes below this turn, or up, and no leg of this turn does
        obtain ⟨q, hq, hlow⟩ := exists_mem_legs_turns hdeeper hrest leg hother
        have hheight := height_of_mem_turnLegs hleg hq
        omega

/-- A way down that has no length leaves a leg with one end only. -/
theorem exists_isDiag_turns (radius start y : Int) (front : List Int) :
    ∃ leg ∈ legs (entry radius start) (turns radius (front ++ [y, y])), leg.IsDiag := by
  induction front generalizing start with
  | nil =>
      refine ⟨s(entry radius (-y), entry radius (-y)), ?_, rfl⟩
      rw [List.nil_append, legs_turns_cons, legs_turns_cons]
      exact List.mem_append_right _ List.mem_cons_self
  | cons first front ih =>
      obtain ⟨leg, hleg, hdiag⟩ := ih (-first)
      refine ⟨leg, ?_, hdiag⟩
      rw [List.cons_append, legs_turns_cons]
      exact List.mem_append_right _ hleg

/-- **The route is not clear** if the last two turns are at the same depth. -/
theorem not_clear_turns (radius start y : Int) (front : List Int) :
    ¬ Clear (entry radius start) (turns radius (front ++ [y, y])) := by
  intro hclear
  obtain ⟨leg, hleg, hdiag⟩ := exists_isDiag_turns radius start y front
  exact hclear.not_isDiag leg hleg hdiag

/-- All stops are in range. -/
theorem isInRange_turns (hradius : 0 < radius ∧ radius ≤ 10000000) {ys : List Int}
    (hys : ∀ y ∈ ys, InRange (-y)) : ∀ q ∈ turns radius ys, q.IsInRange := by
  obtain ⟨hpos, hle⟩ := hradius
  have hcentre : InRange 50000 := by decide
  have hplus : InRange (50000 + radius) := ⟨by omega, by omega⟩
  have hminus : InRange (50000 - radius) := ⟨by omega, by omega⟩
  induction ys with
  | nil =>
      exact List.forall_mem_singleton.2 (Point.isInRange_mk hplus hcentre (by decide))
  | cons y ys ih =>
      obtain ⟨hy, hrest⟩ := List.forall_mem_cons.1 hys
      have hentry := Point.isInRange_mk hplus hcentre hy
      intro q hq
      rcases List.mem_append.1 hq with hq | hq
      · simp only [turn, List.mem_cons, List.not_mem_nil, or_false] at hq
        rcases hq with rfl | rfl | rfl | rfl | rfl
        · exact hentry
        · exact Point.isInRange_mk hcentre hminus hy
        · exact Point.isInRange_mk hminus hcentre hy
        · exact Point.isInRange_mk hcentre hplus hy
        · exact hentry
      · exact ih hrest q hq

end Turns

/-! ### Goals -/

/-- The goals of a turn, after a comment. -/
def turnGoals (radius y : Int) : List (Option (Point (Option Int))) :=
  [none, some (onlyOn .z (-y)), some ⟨some 50000, some (50000 - radius), none⟩,
    some ⟨some (50000 - radius), some 50000, none⟩, some ⟨some 50000, some (50000 + radius), none⟩,
    some ⟨some (50000 + radius), some 50000, none⟩]

theorem stopsFrom_turnGoals (radius start : Int) (ys : List Int) :
    stopsFrom (entry radius start) (ys.flatMap (turnGoals radius) ++ lastGoals) =
      turns radius ys := by
  induction ys generalizing start with
  | nil => rfl
  | cons y ys ih =>
      have hrest := ih (-y)
      rw [turns, ← hrest]
      rfl

/-- The goals of the program. -/
def goals (radius : Int) (ys : List Int) : List (Option (Point (Option Int))) :=
  [none, none, none, none, none, none, some ⟨some (50000 + radius), some 50000, some 1000⟩] ++
    ys.flatMap (turnGoals radius) ++ lastGoals

theorem stopsFrom_goals (radius : Int) (ys : List Int) :
    stopsFrom ⟨0, 0, 0⟩ (goals radius ys) = entry radius 1000 :: turns radius ys := by
  rw [← stopsFrom_turnGoals radius 1000]
  rfl

/-! ### The program -/

/-- The program of some measures, with the defaults for the rest. -/
def ofMeasures (radius depth stepDown : Measure) : CircularPocket where
  radius := radius.length
  depth := depth.length
  stepDown := stepDown.length

section Quarters

variable {x y i j : Binary64} {kx ky ki kj : Int}

/-- The words of a quarter. -/
def quarterWords (kx ky ki kj : Int) : List DecimalWord :=
  [⟨.x, 3, kx⟩, ⟨.y, 3, ky⟩, ⟨.i, 3, ki⟩, ⟨.j, 3, kj⟩]

/-- What is given by the words of a quarter, with words for the feed rate or without. -/
theorem leads_quarterWords (hx : InRange kx) (hy : InRange ky) (hi : InRange ki) (hj : InRange kj)
    {rate : List DecimalWord} (hrate : ∀ w ∈ rate, w.address = .f ∧ w.value.isFinite = true) :
    Leads (decimalLine 2 (quarterWords kx ky ki kj ++ rate))
      (goalBy thousandths (some ⟨some kx, some ky, none⟩)) := by
  refine leads_words rfl ?_ (fun _ => rfl) hrate
  exact List.forall_mem_cons.2 ⟨isFinite_word hx .x, List.forall_mem_cons.2 ⟨isFinite_word hy .y,
    List.forall_mem_cons.2 ⟨isFinite_word hi .i,
      List.forall_mem_singleton.2 (isFinite_word hj .j)⟩⟩⟩

/-- **A quarter leads to its end.** -/
theorem leads_quarter (hx : Writes x kx) (hy : Writes y ky) (hi : Writes i ki) (hj : Writes j kj) :
    Leads (quarter x y i j) (goalBy thousandths (some ⟨some kx, some ky, none⟩)) := by
  have hline : quarter x y i j = decimalLine 2 (quarterWords kx ky ki kj ++ []) := by
    rw [← String.toList_inj, toList_decimalLine, quarter]
    simp only [String.toList_append, hx.toList_coordinateWord, hy.toList_coordinateWord,
      hi.toList_coordinateWord, hj.toList_coordinateWord]
    simp [quarterWords]
    decide
  rw [hline]
  exact leads_quarterWords hx.inRange hy.inRange hi.inRange hj.inRange (by simp)

/-- A quarter that sets the feed rate. -/
theorem leads_quarter_feed (hx : Writes x kx) (hy : Writes y ky) (hi : Writes i ki)
    (hj : Writes j kj) {rate : Binary64} {n : Int} (hrate : WritesRate rate n) :
    Leads (quarter x y i j ++ feedWord rate)
      (goalBy thousandths (some ⟨some kx, some ky, none⟩)) := by
  have hline : quarter x y i j ++ feedWord rate =
      decimalLine 2 (quarterWords kx ky ki kj ++ [⟨.f, 0, n⟩]) := by
    rw [← String.toList_inj, toList_decimalLine, quarter]
    simp only [String.toList_append, hx.toList_coordinateWord, hy.toList_coordinateWord,
      hi.toList_coordinateWord, hj.toList_coordinateWord, hrate.toList_feedWord]
    simp [quarterWords]
    decide
  rw [hline]
  exact leads_quarterWords hx.inRange hy.inRange hi.inRange hj.inRange
    (List.forall_mem_singleton.2 ⟨rfl, hrate.isFinite⟩)

end Quarters

section Program

variable (radius depth stepDown : Measure)

/-- The centre is a whole number of millimetres. -/
theorem centre_spec : thousandths 50000 = 50 ∧ (50 : Binary64) - 50 = 0 := by decide +kernel

/-- The lines that hold no measure, and the feed rates. -/
theorem leads_fixedLines : Leads "; Circular pocket" none ∧ Leads "G21" none ∧ Leads "G90" none ∧
    Leads "G17 ; XY plane" none ∧ Leads "M3 S10000" none ∧
    Leads ("G0 " ++ coordinateWord "Z" 5) (goalBy thousandths (some (onlyOn .z 5000))) ∧
    Leads "M5" none ∧ Leads "M30" none ∧ WritesRate 200 200 ∧ WritesRate 800 800 := by
  decide +kernel

theorem inRange_centre : InRange 50000 := by decide

theorem writes_zero : Writes 0 0 := by
  have h := @writes_thousandths 0 (by decide)
  rwa [thousandths_zero] at h

theorem writes_centre : Writes 50 50000 := by
  have h := writes_thousandths inRange_centre
  rwa [centre_spec.1] at h

theorem writes_centre_add : Writes (50 + radius.length) (50000 + radius.count) := by
  have hpos := radius.pos
  have hle := radius.le
  have hnear := near_add inRange_centre radius.inRange
  rw [centre_spec.1] at hnear
  exact hnear.writes (by omega) ⟨by omega, by omega⟩

theorem writes_centre_sub : Writes (50 - radius.length) (50000 - radius.count) := by
  have hpos := radius.pos
  have hle := radius.le
  have hnear := near_sub inRange_centre radius.inRange radius.pos
  rw [centre_spec.1] at hnear
  refine ⟨hnear, fun hzero => ?_, ⟨by omega, by omega⟩⟩
  have hradius : radius.count = 50000 := by omega
  rw [Measure.length, hradius, centre_spec.1]
  exact centre_spec.2

/-- The lines of turns lead around them. -/
theorem leads_passes {n : Nat} (hneeded : ((n : Int) - 1) * stepDown.count ≤ depth.count)
    (passes : List Nat) (h : ∀ pass ∈ passes, 1 ≤ pass ∧ pass ≤ n) :
    List.Forall₂ Leads (passes.flatMap (ofMeasures radius depth stepDown).passLines)
      (((passes.map (cut depth stepDown)).flatMap (turnGoals radius.count)).map
        (goalBy thousandths)) := by
  have hcentre := writes_centre
  have hzero := writes_zero
  have hradius := writes_thousandths radius.inRange
  have hminus : Writes (-radius.length) (-radius.count) :=
    writes_neg_thousandths radius.inRange radius.pos
  have hright := writes_centre_add radius
  have hleft := writes_centre_sub radius
  obtain ⟨-, -, -, -, -, -, -, -, hplunge, hfeed⟩ := leads_fixedLines
  induction passes with
  | nil => exact .nil
  | cons pass passes ih =>
      obtain ⟨⟨hpos, hlast⟩, hrest⟩ := List.forall_mem_cons.1 h
      have hdepth : Writes (-(ofMeasures radius depth stepDown).passDepth pass)
          (-cut depth stepDown pass) := by
        have hcut := @cut_pos depth stepDown pass hpos
        exact (near_cut hneeded hlast).neg.writes (by omega) (inRange_cut hpos).neg
      have hcomment : IsComment ("(pass " ++ toString pass ++ ")") := by
        have hpass : IsComment "(pass " := by decide
        exact (hpass.append (isOneLine_toString pass)).append (by decide)
      rw [List.flatMap_cons, List.map_cons, List.flatMap_cons, List.map_append]
      refine List.rel_append ?_ (ih hrest)
      exact .cons hcomment.leads (.cons (leads_along_feed .z hdepth hplunge)
        (.cons (leads_quarter_feed hcentre hleft hminus hzero hfeed)
          (.cons (leads_quarter hleft hcentre hzero hradius)
            (.cons (leads_quarter hcentre hright hradius hzero)
              (.cons (leads_quarter hright hcentre hzero hminus) .nil)))))

/-- Words for all three coordinates lead to them. -/
theorem goalBy_words (kx ky kz : Int) :
    goalBy (ofParts 3) (some ⟨some kx, some ky, some kz⟩) =
      some ⟨lastGiven .x [⟨.x, 3, kx⟩, ⟨.y, 3, ky⟩, ⟨.z, 3, kz⟩],
        lastGiven .y [⟨.x, 3, kx⟩, ⟨.y, 3, ky⟩, ⟨.z, 3, kz⟩],
        lastGiven .z [⟨.x, 3, kx⟩, ⟨.y, 3, ky⟩, ⟨.z, 3, kz⟩]⟩ := rfl

/-- The lines of the program lead along the route. -/
theorem leads_lines {n : Nat} (hneeded : ((n : Int) - 1) * stepDown.count ≤ depth.count) :
    List.Forall₂ Leads ((ofMeasures radius depth stepDown).lines n)
      ((goals radius.count (cuts depth stepDown n)).map (goalBy thousandths)) := by
  obtain ⟨htitle, hunit, habsolute, hplane, hspindle, hup, hoff, hend, -, -⟩ := leads_fixedLines
  have hcentre : Leads ("; Centre: (" ++ (50 : Binary64).shortest ++ ", " ++
      (50 : Binary64).shortest ++ "), radius: " ++ radius.length.shortest ++ ", depth: " ++
      depth.length.shortest) none := by
    have hcomment : IsComment "; Centre: (" := by decide
    exact ((((hcomment.append_shortest _ (by decide)).append_shortest _
      (by decide)).append_shortest _ (by decide)).append (isOneLine_shortest _)).leads
  have hstart : Leads ("G0 " ++ coordinateWord "X" (50 + radius.length) ++ " " ++
      coordinateWord "Y" 50 ++ " Z1.000")
      (goalBy thousandths (some ⟨some (50000 + radius.count), some 50000, some 1000⟩)) := by
    have hright := writes_centre_add radius
    have hwords : "G0 " ++ coordinateWord "X" (50 + radius.length) ++ " " ++
        coordinateWord "Y" 50 ++ " Z1.000" =
        decimalLine 0 ([⟨.x, 3, 50000 + radius.count⟩, ⟨.y, 3, 50000⟩, ⟨.z, 3, 1000⟩] ++ []) := by
      rw [← String.toList_inj, toList_decimalLine]
      simp only [String.toList_append, hright.toList_coordinateWord,
        writes_centre.toList_coordinateWord]
      simp
      decide
    rw [hwords]
    refine leads_words (goalBy_words _ _ _) ?_ (fun harc => absurd harc (by decide)) (by simp)
    exact List.forall_mem_cons.2 ⟨isFinite_word hright.inRange .x,
      List.forall_mem_cons.2 ⟨isFinite_word inRange_centre .y,
        List.forall_mem_singleton.2 (isFinite_word (by decide) .z)⟩⟩
  have hpasses := leads_passes radius depth stepDown hneeded (List.range' 1 n) fun pass hpass => by
    have hbounds := List.mem_range'_1.1 hpass
    exact ⟨hbounds.1, by omega⟩
  have hlast : List.Forall₂ Leads ["G0 " ++ coordinateWord "Z" 5, "M5", "M30"]
      (lastGoals.map (goalBy thousandths)) := .cons hup (.cons hoff (.cons hend .nil))
  rw [goals, List.map_append, List.map_append]
  refine List.rel_append (List.rel_append ?_ hpasses) hlast
  exact .cons htitle (.cons hcentre (.cons hunit (.cons habsolute (.cons hplane
    (.cons hspindle (.cons hstart .nil))))))

/-- **Nothing is reported about a pocket exactly if no turn too many is counted**. -/
theorem clean_iff : ∃ text, (ofMeasures radius depth stepDown).program = .ok text ∧
    ((analyzeText {} text).diagnostics = [] ↔ ¬ Overcounted depth stepDown) := by
  obtain ⟨n, hsteps, hneeded, hcovers, hcounted⟩ := exists_steps depth stepDown
  refine ⟨programText ((ofMeasures radius depth stepDown).lines n), ?_, ?_⟩
  · have hsteps' : stepsAcross (ofMeasures radius depth stepDown).depth
        (ofMeasures radius depth stepDown).stepDown = .ok (n : Int) := hsteps
    have hpasses : passCount (n : Int) = n := by
      have hpositive := ne_zero_of_covers hcovers
      rw [passCount]
      omega
    rw [program, hsteps', Except.map, hpasses]
  · have hentry : (entry radius.count 1000).IsInRange :=
      Point.isInRange_mk (writes_centre_add radius).inRange inRange_centre (by decide)
    have hdepths : ∀ y ∈ cuts depth stepDown n, InRange (-y) :=
      fun y hy => (inRange_of_mem_cuts hy).neg
    rw [diagnostics_eq_nil_iff (leads_lines radius depth stepDown hneeded)
      (stopsFrom_goals radius.count _) (List.forall_mem_cons.2 ⟨hentry,
        isInRange_turns ⟨radius.pos, radius.le⟩ hdepths⟩)]
    refine iff_not_overcounted hneeded hcounted (fun hstrict => ?_) ?_
    · obtain ⟨hpositive, hdeeper⟩ := List.pairwise_cons.1 hstrict
      refine clear_turns radius.pos (by decide) (fun y hy => ?_) hdeeper
      have hy' := hpositive y hy
      omega
    · intro front hfront
      rw [hfront]
      exact not_clear_turns _ _ _ front

end Program

end CircularPocket

/-! ### Both samples -/

/-- **When the milling samples are clean**: for all measures of up to ten metres in whole
thousandths, both programs are made, and nothing is reported about them exactly if the rounded
quotient of the extent by the step is not above a number of steps that fits exactly. -/
theorem millingSamples_clean_iff
    (width height stepover depth radius pocketDepth stepDown : Measure) :
    (∃ text, (Facing.ofMeasures width height stepover depth).program = .ok text ∧
      ((analyzeText {} text).diagnostics = [] ↔ ¬ Overcounted height stepover)) ∧
    (∃ text, (CircularPocket.ofMeasures radius pocketDepth stepDown).program = .ok text ∧
      ((analyzeText {} text).diagnostics = [] ↔ ¬ Overcounted pocketDepth stepDown)) :=
  ⟨Facing.clean_iff width height stepover depth,
    CircularPocket.clean_iff radius pocketDepth stepDown⟩

/-- Three steps of eleven thousandths fit thirty-three, and a fourth is counted: both programs have
something to report. -/
theorem millingSamples_overcounted :
    (∃ text, (Facing.ofMeasures ⟨100000, by decide, by decide⟩ thirtyThree eleven
        ⟨500, by decide, by decide⟩).program = .ok text ∧
      (analyzeText {} text).diagnostics ≠ []) ∧
    (∃ text, (CircularPocket.ofMeasures ⟨20000, by decide, by decide⟩ thirtyThree
        eleven).program = .ok text ∧
      (analyzeText {} text).diagnostics ≠ []) := by
  have hovercounted := overcounted_thirtyThree
  obtain ⟨facing, hfacing, hfacingClean⟩ := Facing.clean_iff ⟨100000, by decide, by decide⟩
    thirtyThree eleven ⟨500, by decide, by decide⟩
  obtain ⟨pocket, hpocket, hpocketClean⟩ := CircularPocket.clean_iff ⟨20000, by decide, by decide⟩
    thirtyThree eleven
  exact ⟨⟨facing, hfacing, fun hclean => hfacingClean.1 hclean hovercounted⟩,
    ⟨pocket, hpocket, fun hclean => hpocketClean.1 hclean hovercounted⟩⟩

end Toolpath
