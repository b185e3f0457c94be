/-
**The square that is traced over and over.**

The program of a square goes once into the material, a number of times around the square, and out
again.  Its size is written with three places and read again, and whatever it is, from a thousandth
to the largest double, the square has four sides that the tolerance tells apart.  So the way in, the
first lap and the way out are not reported, and every side of every other lap is reported to
duplicate that of the first one.

Main definitions:

* `Toolpath.Retrace.corner`, `Toolpath.Retrace.side` — the square;
* `Toolpath.Retrace.again` — the report of a side that is cut again;
* `Toolpath.Retrace.Diagnosed` — what is known about the program of a square.

Main results:

* `Toolpath.Retrace.discrete` — the corners are told apart by the tolerance;
* `Toolpath.Retrace.reports_laps` — what is reported about laps after the first one;
* `Toolpath.Retrace.diagnosed` — **every side that is cut again is reported, and nothing else**.
-/

import Toolpath.Proofs.Approximation
import Toolpath.Proofs.DecimalLine
import Toolpath.Proofs.ProgramText

set_option relaxedAutoImplicit false
set_option autoImplicit false

namespace Toolpath

/-! ### Counts of thousandths -/

namespace Binary64

/-- A quotient that reaches a number of units is rounded to no less, whatever its sign. -/
theorem le_natAbs_place_ofRatio {negative : Bool} {num den units : Nat} (hden : 0 < den)
    (hunits : Representable units) (h : units * den ≤ num) :
    units ≤ (ofRatio negative num den).place.natAbs := by
  rw [ofRatio, dif_pos hden]
  split
  · change units ≤ (signed negative (nearestUnits num den)).natAbs
    rw [natAbs_signed]
    exact le_nearestUnits hden hunits.1 h
  · rw [place_infinite, natAbs_signed]
    exact Nat.le_of_lt hunits.2

end Binary64

namespace Retrace

open Binary64

/-- Any thousandths are farther from zero than the tolerance. -/
theorem toleranceUnits_le_place {parts : Int} (h : parts ≠ 0) :
    toleranceUnits ≤ (ofParts 3 parts).place.natAbs := by
  have hden : 0 < 10 ^ 3 := by decide
  have hsmall : toleranceUnits * 10 ^ 3 ≤ one :=
    Nat.le_trans (Nat.mul_le_mul_left _ (by decide)) toleranceUnits_le
  have hnum : toleranceUnits * 10 ^ 3 ≤ parts.natAbs * one :=
    Nat.le_trans hsmall (Nat.le_mul_of_pos_left one (Int.natAbs_pos.2 h))
  rw [ofParts, ofDecimal]
  have hle := @le_natAbs_place_ofRatio (decide (parts < 0)) (parts.natAbs * one) (10 ^ 3)
    toleranceUnits hden representable_tolerance
  exact hle hnum

/-! ### The size -/

/-- The size as it is read from the program. -/
def sizeRead (retrace : Retrace) : Binary64 := ofParts 3 (retrace.size.parts 3)

/-- The least size is a thousandth or hardly more. -/
theorem least_spec : (0.001 : Binary64).isNaN = false ∧
    (0.001 : Binary64).place = (0.001 : Binary64).magnitude ∧
    one ≤ (0.001 : Binary64).magnitude * 10 ^ 3 := by
  decide +kernel

/-- A size of a thousandth or more is not written as zero. -/
theorem parts_ne_zero {c : Binary64} (hfinite : c.isFinite = true) (hleast : ¬ c.abs < 0.001) :
    c.parts 3 ≠ 0 := by
  cases c with
  | nan => cases hfinite
  | infinite => cases hfinite
  | finite negative units h =>
      obtain ⟨hnumber, hplace, hthousandth⟩ := least_spec
      have hunits : (0.001 : Binary64).magnitude ≤ units := by
        rw [lt_iff (a := (finite negative units h).abs) rfl hnumber, not_lt, hplace] at hleast
        exact Int.ofNat_le.1 hleast
      have hnum : 1 * one ≤ units * 10 ^ 3 := by
        rw [Nat.one_mul]
        exact Nat.le_trans hthousandth (Nat.mul_le_mul_right _ hunits)
      have hround : 1 ≤ roundHalfEven (units * 10 ^ 3) one := le_roundHalfEven Binary64.one_pos hnum
      rw [parts]
      intro hzero
      rw [← natAbs_signed negative (roundHalfEven _ _), hzero] at hround
      exact absurd hround (by decide)

/-- The numbers that lines of the program give along the third axis. -/
def heights : List Binary64 := [-1, 1, 5]

/-- The points where the tool stops: on the square, at one of the heights. -/
def IsStop (s : Binary64) (p : Point Binary64) : Prop :=
  p.x ∈ [0, s] ∧ p.y ∈ [0, s] ∧ p.z ∈ heights

/-- The heights are finite, and the tolerance tells them apart. -/
theorem heights_spec : heights.Nodup ∧ (∀ c ∈ heights, c.isFinite = true) ∧
    ∀ a ∈ heights, ∀ b ∈ heights, within 0.0001 a b = true → a = b := by
  decide +kernel

/-- Zero and a size are told apart by the tolerance. -/
theorem eq_of_within {s : Binary64} (hfinite : s.isFinite = true)
    (hfar : toleranceUnits ≤ s.place.natAbs) {a b : Binary64} (ha : a ∈ [0, s]) (hb : b ∈ [0, s])
    (h : within 0.0001 a b = true) : a = b := by
  have hzero : within 0.0001 0 s = false := by
    rw [← Bool.not_eq_true]
    intro hnear
    have hless := abs_place_sub_lt isFinite_zero hfinite hnear
    rw [Binary64.place_zero, place_tolerance, zero_sub, abs_neg, Int.abs_eq_natAbs] at hless
    omega
  simp only [List.mem_cons, List.not_mem_nil, or_false] at ha hb
  rcases ha with ha | ha <;> rcases hb with hb | hb <;> rw [ha, hb] at h ⊢
  · rw [hzero] at h
    cases h
  · rw [within_comm, hzero] at h
    cases h

/-- **The stops are told apart by the tolerance.** -/
theorem discrete {s : Binary64} (hfinite : s.isFinite = true)
    (hfar : toleranceUnits ≤ s.place.natAbs) : Discrete 0.0001 (IsStop s) where
  pos := tolerance_pos
  isFinite := by
    have hheights := heights_spec.2.1
    have hsides : ∀ c ∈ [0, s], c.isFinite = true := by
      intro c hc
      simp only [List.mem_cons, List.not_mem_nil, or_false] at hc
      rcases hc with hc | hc
      · rw [hc, isFinite_zero]
      · rw [hc, hfinite]
    rintro p ⟨hx, hy, hz⟩ axis
    cases axis with
    | x => exact hsides _ hx
    | y => exact hsides _ hy
    | z => exact hheights _ hz
  eq_of_near := by
    rintro p q ⟨hx, hy, hz⟩ ⟨hx', hy', hz'⟩ hnear
    rw [Point.near_iff] at hnear
    refine Point.eq_of_on fun axis => ?_
    cases axis with
    | x => exact eq_of_within hfinite hfar hx hx' (hnear .x)
    | y => exact eq_of_within hfinite hfar hy hy' (hnear .y)
    | z => exact heights_spec.2.2 _ hz _ hz' (hnear .z)

/-! ### The route -/

/-- The corners of the square, in the material. -/
def corner (s : Binary64) : Nat → Point Binary64
  | 0 => ⟨0, 0, -1⟩
  | 1 => ⟨s, 0, -1⟩
  | 2 => ⟨s, s, -1⟩
  | _ => ⟨0, s, -1⟩

/-- The sides of the square, from one corner to the next. -/
def side (s : Binary64) (place : Nat) : Segment := ⟨corner s place, corner s ((place + 1) % 4)⟩

/-- The way into the material. -/
def wayIn (s : Binary64) : Move := ⟨⟨⟨0, 0, 1⟩, corner s 0⟩, 4⟩

/-- The way out of the material. -/
def wayOut (s : Binary64) (number : Int) : Move := ⟨⟨corner s 0, ⟨0, 0, 5⟩⟩, number⟩

/-- The move along a side. -/
def lapMove (s : Binary64) (number : Int) (place : Nat) : Move := ⟨side s place, number + place⟩

/-- The moves of a lap. -/
def lapMoves (s : Binary64) (number : Int) : List Move := (List.range 4).map (lapMove s number)

/-- The goals of a lap. -/
def lapGoals (s : Binary64) : List (Option (Point (Option Binary64))) :=
  [some ⟨some s, none, none⟩, some ⟨none, some s, none⟩, some ⟨some 0, none, none⟩,
    some ⟨none, some 0, none⟩]

/-- The goals of laps, and of the way out after them. -/
def laterGoals (s : Binary64) (laps : Nat) : List (Option (Point (Option Binary64))) :=
  (List.replicate laps (lapGoals s)).flatten ++ [some ⟨none, none, some 5⟩]

/-- The goals of the whole program. -/
def goals (s : Binary64) (laps : Nat) : List (Option (Point (Option Binary64))) :=
  [none, none, some ⟨some 0, some 0, some 1⟩, some ⟨none, none, some (-1)⟩] ++ laterGoals s laps

/-- The moves of laps, and of the way out after them. -/
def laterMoves (s : Binary64) (number : Int) (laps : Nat) : List Move :=
  movesFrom (corner s 0) number (laterGoals s laps)

theorem laterMoves_zero (s : Binary64) (number : Int) :
    laterMoves s number 0 = [wayOut s number] := rfl

theorem laterMoves_succ (s : Binary64) (number : Int) (laps : Nat) :
    laterMoves s number (laps + 1) = lapMoves s number ++ laterMoves s (number + 4) laps := by
  have hgoals : laterGoals s (laps + 1) = lapGoals s ++ laterGoals s laps := by
    rw [laterGoals, List.replicate_succ, List.flatten_cons, List.append_assoc, laterGoals]
  have h1 : number + (0 : Nat) = number := by omega
  have h2 : number + 1 + 1 = number + (2 : Nat) := by omega
  have h3 : number + (2 : Nat) + 1 = number + (3 : Nat) := by omega
  have h4 : number + (3 : Nat) + 1 = number + 4 := by omega
  rw [laterMoves, hgoals, laterMoves]
  generalize laterGoals s laps = rest
  simp only [lapGoals, List.cons_append, List.nil_append, movesFrom, h2, h3, h4, lapMoves,
    List.range_succ, List.range_zero, List.map_cons, List.map_nil, lapMove, h1]
  rfl

/-- The moves of the whole program, from the second one on. -/
theorem movesFrom_goals (s : Binary64) (laps : Nat) :
    movesFrom Point.origin 1 (goals s laps) =
      ⟨⟨Point.origin, ⟨0, 0, 1⟩⟩, 3⟩ :: wayIn s :: laterMoves s 5 laps := rfl

/-! ### Reports -/

/-- The report of a side that is cut again, by its place in the laps after the first one, which
start at the line of a number. -/
def again (s : Binary64) (number : Int) (place : Nat) : Diagnostic :=
  ⟨number + place, .duplicateToolpath (side s (place % 4)).start (side s (place % 4)).finish
    (5 + (place % 4 : Nat))⟩

/-- The sides of the square are known from the first lap, and the way out is not. -/
structure Knows (s : Binary64) (index : SegmentIndex) : Prop where
  side_known : ∀ place < 4, index.firstLine? 0.0001 (side s place) = some (5 + place)
  side_long : ∀ place < 4, (side s place).start.near 0.0001 (side s place).finish = false
  wayOut_new : ∀ number, (index.check 0.0001 (wayOut s number)).1 = none

/-- A side that is cut again is reported, and it is not remembered again. -/
theorem Knows.check_lapMove {s : Binary64} {index : SegmentIndex} (h : Knows s index) (number : Int)
    {place : Nat} (hplace : place < 4) :
    index.check 0.0001 (lapMove s number place) = (some (again s number place), index) := by
  have hfar : (lapMove s number place).segment.start.near 0.0001
      (lapMove s number place).segment.finish = false := h.side_long place hplace
  have hfirst : index.firstLine? 0.0001 (lapMove s number place).segment = some (5 + place) :=
    h.side_known place hplace
  rw [SegmentIndex.check_of_some hfar hfirst, again, Nat.mod_eq_of_lt hplace]
  rfl

/-- The sides of a lap are reported one after another. -/
theorem reports_lap {s : Binary64} {index : SegmentIndex} (h : Knows s index) (number : Int)
    (rest : List Move) : index.reports 0.0001 (lapMoves s number ++ rest) =
      (List.range 4).map (again s number) ++ index.reports 0.0001 rest := by
  have hall : ∀ place ∈ List.range 4,
      index.check 0.0001 (lapMove s number place) = (some (again s number place), index) :=
    fun place hplace => h.check_lapMove number (List.mem_range.1 hplace)
  rw [lapMoves]
  generalize List.range 4 = places at hall
  induction places with
  | nil => rfl
  | cons place places ih =>
      rw [List.forall_mem_cons] at hall
      rw [List.map_cons, List.cons_append, SegmentIndex.reports, hall.1, ih hall.2]
      rfl

/-- **What is reported about laps after the first one**: every side. -/
theorem reports_laps {s : Binary64} {index : SegmentIndex} (h : Knows s index) (number : Int)
    (laps : Nat) : index.reports 0.0001 (laterMoves s number laps) =
      (List.range (4 * laps)).map (again s number) := by
  induction laps generalizing number with
  | zero =>
      rw [laterMoves_zero, SegmentIndex.reports, h.wayOut_new number]
      rfl
  | succ laps ih =>
      have hcount : 4 * (laps + 1) = 4 + 4 * laps := by omega
      have hshift : again s number ∘ (4 + ·) = again s (number + 4) := by
        funext place
        have hplace : (4 + place) % 4 = place % 4 := by omega
        have hnumber : number + (4 + place : Nat) = number + 4 + place := by omega
        rw [Function.comp_apply, again, hplace, hnumber, again]
      rw [laterMoves_succ, reports_lap h, ih, hcount, List.range_add, List.map_append, List.map_map,
        hshift]

/-- All moves of laps have length, and so has the way out. -/
theorem countP_isLong {s : Binary64} {index : SegmentIndex} (h : Knows s index) (number : Int)
    (laps : Nat) : (laterMoves s number laps).countP (Move.isLong 0.0001) = 4 * laps + 1 := by
  have hlap : ∀ number, ∀ move ∈ lapMoves s number, Move.isLong 0.0001 move = true := by
    intro number move hmove
    obtain ⟨place, hplace, rfl⟩ := List.mem_map.1 hmove
    rw [Move.isLong, lapMove, h.side_long place (List.mem_range.1 hplace)]
    rfl
  induction laps generalizing number with
  | zero =>
      have hout := (SegmentIndex.check_eq_none (h.wayOut_new number)).1
      rw [laterMoves_zero, List.countP_cons_of_pos hout]
      rfl
  | succ laps ih =>
      rw [laterMoves_succ, List.countP_append, ih, List.countP_eq_length.2 (hlap number), lapMoves,
        List.length_map, List.length_range]
      omega

/-! ### The first lap -/

/-- The moves of the way in and of the first lap. -/
def firstMoves (s : Binary64) : List Move := wayIn s :: lapMoves s 5

/-- The way in, around a square and out. -/
def around {α : Type} (a b up down out : α) : List (Sym2 (Point α)) :=
  [s(⟨a, a, up⟩, ⟨a, a, down⟩), s(⟨a, a, down⟩, ⟨b, a, down⟩), s(⟨b, a, down⟩, ⟨b, b, down⟩),
    s(⟨b, b, down⟩, ⟨a, b, down⟩), s(⟨a, b, down⟩, ⟨a, a, down⟩), s(⟨a, a, down⟩, ⟨a, a, out⟩)]

section Around

variable {α : Type} {a b up down out : α}

theorem not_isDiag_of_mem_around (hsize : b ≠ a) (hheights : [down, up, out].Nodup) :
    ∀ ends ∈ around a b up down out, ¬ ends.IsDiag := by
  obtain ⟨⟨hup, hout⟩, -⟩ : (down ≠ up ∧ down ≠ out) ∧ up ≠ out := by simpa using hheights
  simp [around, hsize, hsize.symm, hup.symm, hout]

/-- With different coordinates these are six different segments. -/
theorem nodup_around (hsize : b ≠ a) (hheights : [down, up, out].Nodup) :
    (around a b up down out).Nodup := by
  obtain ⟨⟨hup, hout⟩, hupOut⟩ : (down ≠ up ∧ down ≠ out) ∧ up ≠ out := by simpa using hheights
  simp [around, hsize, hsize.symm, hup.symm, hout, hupOut]

end Around

/-- The ends of the first moves and of the way out. -/
theorem ends_firstMoves (s : Binary64) (number : Int) :
    ((firstMoves s ++ [wayOut s number]).map fun move => move.segment.ends) =
      around 0 s 1 (-1) 5 := rfl

theorem isStop_corner (s : Binary64) (place : Nat) : IsStop s (corner s place) := by
  have hzero : (0 : Binary64) ∈ [0, s] := List.mem_cons_self
  have hsize : s ∈ [0, s] := List.mem_cons_of_mem _ List.mem_cons_self
  have hdown : (-1 : Binary64) ∈ heights := List.mem_cons_self
  rw [corner.eq_def]
  split
  · exact ⟨hzero, hzero, hdown⟩
  · exact ⟨hsize, hzero, hdown⟩
  · exact ⟨hsize, hsize, hdown⟩
  · exact ⟨hzero, hsize, hdown⟩

theorem joins_firstMoves (s : Binary64) (number : Int) :
    ∀ move ∈ firstMoves s ++ [wayOut s number], move.Joins (IsStop s) := by
  have hzero : (0 : Binary64) ∈ [0, s] := List.mem_cons_self
  have hup : IsStop s ⟨0, 0, 1⟩ := ⟨hzero, hzero, List.mem_cons_of_mem _ List.mem_cons_self⟩
  have hout : IsStop s ⟨0, 0, 5⟩ :=
    ⟨hzero, hzero, List.mem_cons_of_mem _ (List.mem_cons_of_mem _ List.mem_cons_self)⟩
  have hcorner := isStop_corner s
  intro move hmove
  rcases List.mem_cons.1 hmove with rfl | hmove
  · exact ⟨hup, hcorner 0⟩
  rcases List.mem_append.1 hmove with hmove | hmove
  · obtain ⟨place, -, rfl⟩ := List.mem_map.1 hmove
    exact ⟨hcorner place, hcorner ((place + 1) % 4)⟩
  · obtain rfl := List.mem_singleton.1 hmove
    exact ⟨hcorner 0, hout⟩

section FirstLap

variable {s : Binary64}

theorem ne_zero (hfar : toleranceUnits ≤ s.place.natAbs) : s ≠ 0 := by
  intro hzero
  rw [hzero, Binary64.place_zero] at hfar
  exact absurd hfar (Nat.not_le.2 toleranceUnits_pos)

/-- The first moves and the way out have length. -/
theorem not_isDiag_firstMoves (hfar : toleranceUnits ≤ s.place.natAbs) (number : Int) :
    ∀ move ∈ firstMoves s ++ [wayOut s number], ¬ move.segment.ends.IsDiag := by
  intro move hmove
  apply not_isDiag_of_mem_around (ne_zero hfar) heights_spec.1
  rw [← ends_firstMoves s number]
  exact List.mem_map_of_mem hmove

/-- They cut different segments. -/
theorem nodup_firstMoves (hfar : toleranceUnits ≤ s.place.natAbs) (number : Int) :
    ((firstMoves s ++ [wayOut s number]).map fun move => move.segment.ends).Nodup := by
  rw [ends_firstMoves]
  exact nodup_around (ne_zero hfar) heights_spec.1

/-- Nothing is reported about the way in, the first lap and the way out. -/
theorem reports_firstMoves (hfinite : s.isFinite = true)
    (hfar : toleranceUnits ≤ s.place.natAbs) (number : Int) :
    SegmentIndex.empty.reports 0.0001 (firstMoves s ++ [wayOut s number]) = [] :=
  (SegmentIndex.reports_eq_nil_iff (discrete hfinite hfar) (joins_firstMoves s number)
    (SegmentIndex.Holds.empty 0.0001) (by simp) List.nodup_nil).2
    ⟨not_isDiag_firstMoves hfar number, nodup_firstMoves hfar number⟩

/-- **The first lap is remembered.** -/
theorem knows (hfinite : s.isFinite = true) (hfar : toleranceUnits ≤ s.place.natAbs) :
    Knows s (SegmentIndex.afterMoves 0.0001 (firstMoves s)) := by
  have hdiscrete := discrete hfinite hfar
  have hreports := reports_firstMoves hfinite hfar
  simp only [SegmentIndex.reports_append, List.append_eq_nil_iff] at hreports
  have hholds := (SegmentIndex.Holds.empty 0.0001).foldl_check (hreports 0).1
  rw [List.nil_append] at hholds
  have hjoins : ∀ entry ∈ (firstMoves s).map Move.entry,
      IsStop s entry.segment.start ∧ IsStop s entry.segment.finish := by
    intro entry hentry
    obtain ⟨move, hmove, rfl⟩ := List.mem_map.1 hentry
    exact joins_firstMoves s 0 move (List.mem_append_left _ hmove)
  have hnodup : (((firstMoves s).map Move.entry).map fun entry => entry.segment.ends).Nodup := by
    have hall := nodup_firstMoves hfar 0
    rw [List.map_append, List.nodup_append] at hall
    rw [List.map_map]
    exact hall.1
  have hlap : ∀ place < 4, lapMove s 5 place ∈ firstMoves s := fun place hplace =>
    List.mem_cons_of_mem _ (List.mem_map_of_mem (List.mem_range.2 hplace))
  refine ⟨fun place hplace => ?_, fun place hplace => ?_, fun number => ?_⟩
  · exact hholds.firstLine?_of_mem hdiscrete hjoins hnodup
      ⟨isStop_corner s place, isStop_corner s ((place + 1) % 4)⟩
      (List.mem_map_of_mem (hlap place hplace)) rfl
  · have hlong := (hdiscrete.isLong_iff (joins_firstMoves s 0 _ (List.mem_append_left _
      (hlap place hplace)))).2
        (not_isDiag_firstMoves hfar 0 _ (List.mem_append_left _ (hlap place hplace)))
    rwa [Move.isLong, Bool.not_eq_true'] at hlong
  · have hout := (hreports number).2
    rw [SegmentIndex.reports, List.append_eq_nil_iff, Option.toList_eq_nil_iff] at hout
    exact hout.1

end FirstLap

/-! ### The program -/

section Program

variable {retrace : Retrace}

/-- The lines that hold no size. -/
theorem leads_fixedLines : Leads "; Square contour traced repeatedly" none ∧ Leads "G90" none ∧
    Leads "G0 X0 Y0 Z1" (some ⟨some 0, some 0, some 1⟩) ∧
    Leads "G1 Z-1 F300" (some ⟨none, none, some (-1)⟩) ∧
    Leads "G1 X0" (some ⟨some 0, none, none⟩) ∧ Leads "G1 Y0" (some ⟨none, some 0, none⟩) ∧
    Leads "G0 Z5" (some ⟨none, none, some 5⟩) ∧
    (DecimalWord.value ⟨.f, 0, 600⟩).isFinite = true := by
  decide +kernel

/-- The sizes of a lap are read as they are rounded. -/
theorem leads_lap (hfinite : retrace.size.isFinite = true) (hparts : retrace.size.parts 3 ≠ 0) :
    List.Forall₂ Leads retrace.lap (lapGoals retrace.sizeRead) := by
  have htext : retrace.size.fixed 3 =
      String.ofList (decimal 3 (retrace.size.parts 3)).text :=
    fixed_eq hfinite fun hzero => absurd hzero hparts
  have hread := isFinite_ofParts_parts hfinite 3
  have hacross : "G1 " ++ coordinateWord "X" retrace.size ++ " F600" =
      decimalLine 1 [⟨.x, 3, retrace.size.parts 3⟩, ⟨.f, 0, 600⟩] := by
    rw [coordinateWord, coordinateText, htext, ← String.toList_inj, toList_decimalLine]
    simp
    decide
  have hup : "G1 " ++ coordinateWord "Y" retrace.size =
      decimalLine 1 [⟨.y, 3, retrace.size.parts 3⟩] := by
    rw [coordinateWord, coordinateText, htext, ← String.toList_inj, toList_decimalLine]
    simp
    decide
  rw [lap, lapGoals, hacross, hup]
  obtain ⟨-, -, -, -, hback, hdown, -, hfeed⟩ := leads_fixedLines
  refine .cons ?_ (.cons ?_ (.cons hback (.cons hdown .nil)))
  · refine leads_decimalLine ?_ fun harc => absurd harc (by decide)
    intro w hw
    rcases List.mem_cons.1 hw with rfl | hw
    · exact hread
    · obtain rfl := List.mem_singleton.1 hw
      exact hfeed
  · refine leads_decimalLine ?_ fun harc => absurd harc (by decide)
    intro w hw
    obtain rfl := List.mem_singleton.1 hw
    exact hread

/-- The lines of the program lead along the route. -/
theorem leads_lines (hfinite : retrace.size.isFinite = true) (hparts : retrace.size.parts 3 ≠ 0) :
    List.Forall₂ Leads retrace.lines (goals retrace.sizeRead retrace.laps.toNat) := by
  obtain ⟨hcomment, habsolute, hstart, hin, -, -, hout, -⟩ := leads_fixedLines
  have hlaps : ∀ laps : Nat, List.Forall₂ Leads (List.replicate laps retrace.lap).flatten
      (List.replicate laps (lapGoals retrace.sizeRead)).flatten := by
    intro laps
    induction laps with
    | zero => exact .nil
    | succ laps ih => exact List.rel_append (leads_lap hfinite hparts) ih
  have hfirst : List.Forall₂ Leads
      ["; Square contour traced repeatedly", "G90", "G0 X0 Y0 Z1", "G1 Z-1 F300"]
      [none, none, some ⟨some 0, some 0, some 1⟩, some ⟨none, none, some (-1)⟩] :=
    .cons hcomment (.cons habsolute (.cons hstart (.cons hin .nil)))
  have hlast : List.Forall₂ Leads ["G0 Z5"] [some ⟨none, none, some 5⟩] := .cons hout .nil
  rw [lines, goals, List.append_assoc]
  exact List.rel_append hfirst (List.rel_append (hlaps _) hlast)

/-- **The diagnostics of the program**: those of the laps after the first one. -/
theorem diagnostics_program (hfinite : retrace.size.isFinite = true)
    (hleast : ¬ retrace.size.abs < 0.001) {laps : Nat} (hlaps : retrace.laps = laps + 1) :
    (analyzeText {} retrace.program).diagnostics =
        (List.range (4 * laps)).map (again retrace.sizeRead 9) ∧
      (analyzeText {} retrace.program).commands.length = 4 * (laps + 1) + 3 := by
  have hparts := parts_ne_zero hfinite hleast
  have hread : retrace.sizeRead.isFinite = true := isFinite_ofParts_parts hfinite 3
  have hfar : toleranceUnits ≤ retrace.sizeRead.place.natAbs := toleranceUnits_le_place hparts
  have hknows := knows hread hfar
  have hcount : retrace.laps.toNat = laps + 1 := by omega
  have hlines := leads_lines hfinite hparts
  rw [hcount] at hlines
  obtain ⟨hreports, hcommands⟩ := analyzeText_route {} hlines (List.cons_ne_nil _ _)
  have hmoves : wayIn retrace.sizeRead :: laterMoves retrace.sizeRead 5 (laps + 1) =
      firstMoves retrace.sizeRead ++ laterMoves retrace.sizeRead 9 laps := by
    rw [laterMoves_succ]
    rfl
  have htolerance : ({} : Settings).positionTolerance = 0.0001 := rfl
  rw [movesFrom_goals, List.tail_cons, htolerance] at hreports hcommands
  constructor
  · have hfirst := reports_firstMoves hread hfar 0
    rw [SegmentIndex.reports_append, List.append_eq_nil_iff] at hfirst
    rw [program, hreports, hmoves, SegmentIndex.reports_append, hfirst.1, List.nil_append]
    exact reports_laps hknows 9 laps
  · have hin : Move.isLong 0.0001 (wayIn retrace.sizeRead) = true :=
      ((discrete hread hfar).isLong_iff (joins_firstMoves _ 0 _ List.mem_cons_self)).2
        (not_isDiag_firstMoves hfar 0 _ List.mem_cons_self)
    rw [program, hcommands, List.countP_cons_of_pos hin, countP_isLong hknows]
    omega

end Program

/-- What is said about a square that is traced over and over: the commands are all moves, and the
diagnostics are about every side that is cut again, and say where it was cut first. -/
structure Diagnosed (retrace : Retrace) : Prop where
  commands_length :
    ((analyzeText {} retrace.program).commands.length : Int) = 4 * retrace.laps + 3
  diagnostics_length :
    ((analyzeText {} retrace.program).diagnostics.length : Int) = 4 * (retrace.laps - 1)
  duplicate : ∀ m : Nat, (m : Int) < 4 * (retrace.laps - 1) →
    ∃ d, (analyzeText {} retrace.program).diagnostics[m]? = some d ∧
      d.isDuplicateToolpath = true ∧ d.line = 9 + m ∧ d.related? = some (5 + (m % 4 : Nat))

/-- **Every side that is cut again is reported, and nothing else**, for every size of a thousandth
or more, in either direction, and any number of laps. -/
theorem diagnosed (retrace : Retrace) (hfinite : retrace.size.isFinite = true)
    (hleast : ¬ retrace.size.abs < 0.001) (hlaps : 1 ≤ retrace.laps) : Diagnosed retrace := by
  obtain ⟨laps, hcount⟩ := Int.eq_ofNat_of_zero_le (Int.sub_nonneg_of_le hlaps)
  have hsucc : retrace.laps = laps + 1 := by omega
  obtain ⟨hdiagnostics, hcommands⟩ := diagnostics_program hfinite hleast hsucc
  refine ⟨?_, ?_, fun m hm => ?_⟩
  · rw [hcommands, hsucc]
    omega
  · rw [hdiagnostics, List.length_map, List.length_range, hsucc]
    omega
  · have hplace : m < 4 * laps := by omega
    refine ⟨again retrace.sizeRead 9 m, ?_, Diagnostic.isDuplicateToolpath_mk _ _ _ _, rfl, rfl⟩
    rw [hdiagnostics, List.getElem?_map, List.getElem?_range hplace, Option.map_some]

/-- Three laps around a square in the negative directions, so large that its grid cells are
infinite. -/
theorem diagnosed_far : Diagnosed ⟨-1e308, 3⟩ :=
  have hsize : (-1e308 : Binary64).isFinite = true ∧ ¬ (-1e308 : Binary64).abs < 0.001 := by
    decide +kernel
  diagnosed ⟨-1e308, 3⟩ hsize.1 hsize.2 (by decide)

end Retrace

end Toolpath
