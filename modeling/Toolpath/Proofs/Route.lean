/-
**Programs that lead the tool along a route.**

Where nothing is to be reported about the words of a program, each of its lines asks for no motion,
or leads the tool to some coordinates.  All that is reported is then about the moves of the tool,
one after another, the first one apart.  This module lists these moves, and says what is reported
about them if the points where the tool stops are told apart by the tolerance: then moves cut the
same segment only if they have the same two ends.

Main definitions:

* `Toolpath.clearGoal?` — where a line leads the tool, if there is nothing to report about it;
* `Toolpath.movesFrom` — the moves along a route;
* `Toolpath.SegmentIndex.reports` — what is reported about moves that are checked one after another;
* `Toolpath.Discrete` — points that are told apart by the tolerance;
* `Toolpath.Segment.ends` — the two ends of a segment, in either order.

Main results:

* `Toolpath.Machine.outcomesOf_route` — what comes of lines that lead along a route;
* `Toolpath.analyzeLines_route` — **only the moves of a route are reported**;
* `Toolpath.Discrete.answers_iff` — an entry answers the segments with its two ends;
* `Toolpath.SegmentIndex.reports_eq_nil_iff` — **nothing is reported about a route exactly if every
  move has length and no segment is cut twice**.
-/

import Mathlib.Data.Sym.Sym2
import Toolpath.Proofs.CoordinatesOnly
import Toolpath.Proofs.MoveHistory

set_option relaxedAutoImplicit false
set_option autoImplicit false

namespace Toolpath

variable {tolerance : Binary64}

/-! ### Goals -/

/-- Where a reading leads the tool, if there is nothing to report about its words: nowhere, or to
some coordinates. -/
def Reading.clearGoal? : Reading → Option (Option (Point (Option Binary64)))
  | idle _ => some none
  | unreadable _ => none
  | motion command [] => some (some command.parameters.coordinates)
  | motion _ (_ :: _) => none

/-- Where a line leads the tool, if there is nothing to report about its words. -/
def clearGoal? (line : String) : Option (Option (Point (Option Binary64))) :=
  (readLine 0 line).clearGoal?

/-- The number of a line does not change where it leads. -/
theorem clearGoal?_readLine (number : Int) (line : String) :
    (readLine number line).clearGoal? = clearGoal? line := by
  rw [readLine_eq_renumber (fun _ => number) 0 line, clearGoal?]
  cases readLine 0 line with
  | idle => rfl
  | unreadable => rfl
  | motion command ds => cases ds <;> rfl

/-- A line that leads to some coordinates is read as a motion to them. -/
theorem exists_motion {line : String} {goal : Point (Option Binary64)}
    (h : clearGoal? line = some (some goal)) (number : Int) :
    ∃ command, readLine number line = .motion command [] ∧
      command.parameters.coordinates = goal := by
  rw [← clearGoal?_readLine number] at h
  cases hread : readLine number line with
  | idle => simp [hread, Reading.clearGoal?] at h
  | unreadable => simp [hread, Reading.clearGoal?] at h
  | motion command ds =>
      rw [hread] at h
      cases ds with
      | nil => exact ⟨command, rfl, Option.some.inj (Option.some.inj h)⟩
      | cons d ds => cases h

/-- A line that leads nowhere is passed over. -/
theorem exists_idle {line : String} (h : clearGoal? line = some none) (number : Int) :
    ∃ looseWords, readLine number line = .idle looseWords := by
  rw [← clearGoal?_readLine number] at h
  cases hread : readLine number line with
  | idle looseWords => exact ⟨looseWords, rfl⟩
  | unreadable => simp [hread, Reading.clearGoal?] at h
  | motion command ds =>
      rw [hread] at h
      cases ds <;> cases h

/-- The lines lead to these goals, one by one, and there is nothing to report about their words. -/
def LeadTo (lines : List String) (goals : List (Option (Point (Option Binary64)))) : Prop :=
  List.Forall₂ (fun line goal => clearGoal? line = some goal) lines goals

/-! ### Moves -/

/-- The point that is reached from another one by going to some coordinates. -/
def Point.follow {α : Type} (p : Point α) (goal : Point (Option α)) : Point α :=
  zipWith (fun c given => given.getD c) p goal

theorem Tool.target_eq_follow (tool : Tool) (parameters : Parameters) :
    tool.target parameters = tool.position.follow parameters.coordinates := rfl

/-- The moves from a point to some goals, one after another, at the lines from a number on. -/
def movesFrom : Point Binary64 → Int → List (Option (Point (Option Binary64))) → List Move
  | _, _, [] => []
  | p, number, none :: rest => movesFrom p (number + 1) rest
  | p, number, some goal :: rest =>
      ⟨⟨p, p.follow goal⟩, number⟩ :: movesFrom (p.follow goal) (number + 1) rest

/-- The move has a length beyond the tolerance. -/
def Move.isLong (tolerance : Binary64) (move : Move) : Bool :=
  !move.segment.start.near tolerance move.segment.finish

namespace SegmentIndex

/-- What is reported about moves that are checked one after another. -/
def reports (tolerance : Binary64) : SegmentIndex → List Move → List Diagnostic
  | _, [] => []
  | index, move :: rest =>
      (index.check tolerance move).1.toList ++
        reports tolerance (index.check tolerance move).2 rest

end SegmentIndex

/-! ### Runs along a route -/

namespace Machine

/-- A command after the first one is reported as its move is, and it is recorded if the move has
length. -/
theorem perform_check (settings : Settings) {machine : Machine}
    (hmoved : machine.tool.hasMoved = true) (command : Command) :
    (machine.perform settings command []).1.diagnostics =
        (machine.segments.check settings.positionTolerance
          ⟨machine.segment command, command.line⟩).1.toList ∧
      (machine.perform settings command []).2.segments =
        (machine.segments.check settings.positionTolerance
          ⟨machine.segment command, command.line⟩).2 ∧
      (machine.perform settings command []).1.command?.isSome =
        Move.isLong settings.positionTolerance ⟨machine.segment command, command.line⟩ := by
  have hjudge : machine.judge settings (machine.segment command) command.line =
      machine.segments.judge settings.positionTolerance (machine.segment command)
        command.line := by
    rw [judge, if_pos hmoved]
  cases hnear : (machine.segment command).start.near settings.positionTolerance
      (machine.segment command).finish with
  | true =>
      have hredundant : machine.segments.judge settings.positionTolerance (machine.segment command)
          command.line = (.redundant, machine.segments) := by
        rw [SegmentIndex.judge, if_pos hnear]
      rw [perform, SegmentIndex.check, Move.isLong]
      dsimp only
      rw [hjudge, hredundant, hnear]
      exact ⟨rfl, rfl, rfl⟩
  | false =>
      have hlong : (machine.segments.judge settings.positionTolerance (machine.segment command)
          command.line).1 ≠ .redundant := by
        rw [SegmentIndex.judge, if_neg (by rw [hnear]; exact Bool.false_ne_true)]
        split <;> exact Verdict.noConfusion
      rw [perform, SegmentIndex.check, Move.isLong]
      dsimp only
      rw [hjudge, hnear]
      generalize machine.segments.judge settings.positionTolerance (machine.segment command)
        command.line = judged at hlong
      obtain ⟨verdict, segments⟩ := judged
      dsimp only at hlong ⊢
      rw [if_neg hlong]
      refine ⟨?_, rfl, rfl⟩
      rw [Outcome.diagnostics, List.nil_append]
      cases verdict.cause? (machine.segment command) <;> rfl

/-- **What comes of lines that lead along a route**, once the tool has moved. -/
theorem outcomesOf_route (settings : Settings) {lines : List String}
    {goals : List (Option (Point (Option Binary64)))} (h : LeadTo lines goals) (machine : Machine)
    (hmoved : machine.tool.hasMoved = true) (number : Int) :
    (machine.outcomesOf settings number lines).flatMap Outcome.diagnostics =
        machine.segments.reports settings.positionTolerance
          (movesFrom machine.tool.position number goals) ∧
      ((machine.outcomesOf settings number lines).filterMap Outcome.command?).length =
        (movesFrom machine.tool.position number goals).countP
          (Move.isLong settings.positionTolerance) ∧
      (machine.afterLines settings number lines).tool.hasMoved = true := by
  induction h generalizing machine number with
  | nil => exact ⟨rfl, rfl, hmoved⟩
  | @cons line goal lines goals hline _ ih =>
      cases goal with
      | none =>
          obtain ⟨looseWords, hread⟩ := exists_idle hline number
          obtain ⟨hreports, hcount, hlast⟩ := ih machine hmoved (number + 1)
          rw [outcomesOf, afterLines, movesFrom, step_of_idle hread]
          exact ⟨hreports, hcount, hlast⟩
      | some goal =>
          obtain ⟨command, hread, hgoal⟩ := exists_motion hline number
          obtain ⟨hown, hsegments, hrecorded⟩ := perform_check settings hmoved command
          have htool := @tool_perform settings machine command []
          have hposition : (machine.perform settings command []).2.tool.position =
              machine.tool.position.follow goal := by
            rw [htool, Tool.position_move, Tool.target_eq_follow, hgoal]
          have hsegment : machine.segment command =
              ⟨machine.tool.position, machine.tool.position.follow goal⟩ := by
            rw [segment, Tool.target_eq_follow, hgoal]
          obtain ⟨hreports, hcount, hlast⟩ :=
            ih (machine.perform settings command []).2 (by rw [htool]; rfl) (number + 1)
          rw [hposition] at hreports hcount
          rw [hsegment, line_of_readLine hread] at hown hsegments hrecorded
          rw [outcomesOf, afterLines, movesFrom, step_of_motion hread]
          refine ⟨?_, ?_, hlast⟩
          · rw [List.flatMap_cons, SegmentIndex.reports, hreports, hown, hsegments]
          · rw [List.countP_cons, ← hcount, ← hrecorded, List.filterMap_cons]
            cases (machine.perform settings command []).1.command? <;> rfl

/-- The first command is recorded, and its move is not checked. -/
theorem perform_first (settings : Settings) {machine : Machine}
    (hunmoved : machine.tool.hasMoved = false) (command : Command) :
    (machine.perform settings command []).1.diagnostics = [] ∧
      (machine.perform settings command []).2.segments = machine.segments ∧
      (machine.perform settings command []).1.command?.isSome = true := by
  have hjudge : machine.judge settings (machine.segment command) command.line =
      (.fresh, machine.segments) := by
    rw [judge, if_neg (by rw [hunmoved]; exact Bool.false_ne_true)]
  rw [perform]
  dsimp only
  rw [hjudge]
  exact ⟨rfl, rfl, rfl⟩

/-- What comes of lines that lead along a route from the first move on. -/
theorem outcomesOf_route_first (settings : Settings) {lines : List String}
    {goals : List (Option (Point (Option Binary64)))} (h : LeadTo lines goals) (machine : Machine)
    (hunmoved : machine.tool.hasMoved = false) (number : Int)
    (hne : movesFrom machine.tool.position number goals ≠ []) :
    (machine.outcomesOf settings number lines).flatMap Outcome.diagnostics =
        machine.segments.reports settings.positionTolerance
          (movesFrom machine.tool.position number goals).tail ∧
      ((machine.outcomesOf settings number lines).filterMap Outcome.command?).length =
        1 + (movesFrom machine.tool.position number goals).tail.countP
          (Move.isLong settings.positionTolerance) ∧
      (machine.afterLines settings number lines).tool.hasMoved = true := by
  induction h generalizing number with
  | nil => exact absurd rfl hne
  | @cons line goal lines goals hline hrest ih =>
      cases goal with
      | none =>
          obtain ⟨looseWords, hread⟩ := exists_idle hline number
          obtain ⟨hreports, hcount, hlast⟩ := ih (number + 1) hne
          rw [outcomesOf, afterLines, movesFrom, step_of_idle hread]
          exact ⟨hreports, hcount, hlast⟩
      | some goal =>
          obtain ⟨command, hread, hgoal⟩ := exists_motion hline number
          obtain ⟨hown, hsegments, hrecorded⟩ := perform_first settings hunmoved command
          have htool := @tool_perform settings machine command []
          have hposition : (machine.perform settings command []).2.tool.position =
              machine.tool.position.follow goal := by
            rw [htool, Tool.position_move, Tool.target_eq_follow, hgoal]
          obtain ⟨hreports, hcount, hlast⟩ :=
            outcomesOf_route settings hrest (machine.perform settings command []).2
              (by rw [htool]; rfl) (number + 1)
          rw [hposition, hsegments] at hreports
          rw [hposition] at hcount
          obtain ⟨recorded, hsome⟩ := Option.isSome_iff_exists.1 hrecorded
          rw [outcomesOf, afterLines, movesFrom, step_of_motion hread, List.tail_cons]
          refine ⟨?_, ?_, hlast⟩
          · rw [List.flatMap_cons, hown, List.nil_append, hreports]
          · rw [List.filterMap_cons_some hsome, List.length_cons, hcount, Nat.add_comm]

end Machine

/-- **Only the moves of a route are reported**, the first one apart; and the commands are the first
one and those of the other moves that have length. -/
theorem analyzeLines_route {lines : List String} {goals : List (Option (Point (Option Binary64)))}
    (settings : Settings) (h : LeadTo lines goals) (hne : movesFrom Point.origin 1 goals ≠ []) :
    (analyzeLines settings lines).diagnostics =
        SegmentIndex.empty.reports settings.positionTolerance
          (movesFrom Point.origin 1 goals).tail ∧
      (analyzeLines settings lines).commands.length =
        1 + (movesFrom Point.origin 1 goals).tail.countP
          (Move.isLong settings.positionTolerance) := by
  obtain ⟨hreports, hcount, hmoved⟩ :=
    Machine.outcomesOf_route_first settings h {} rfl 1 hne
  rw [analyzeLines_eq_ofFollowed, Machine.follow_numberedFrom, Analysis.ofFollowed]
  dsimp only
  rw [hmoved, if_pos rfl, List.append_nil]
  exact ⟨hreports, hcount⟩

/-! ### Points that are told apart -/

theorem Point.eq_of_on {α : Type} {p q : Point α} (h : ∀ axis, p.on axis = q.on axis) : p = q := by
  obtain ⟨x, y, z⟩ := p
  obtain ⟨x', y', z'⟩ := q
  obtain rfl : x = x' := h .x
  obtain rfl : y = y' := h .y
  obtain rfl : z = z' := h .z
  rfl

/-- The points where a tool stops are told apart by the tolerance: they are finite, and they agree
within the tolerance only if they are the same. -/
structure Discrete (tolerance : Binary64) (stop : Point Binary64 → Prop) : Prop where
  pos : 0 < tolerance
  isFinite : ∀ p, stop p → ∀ axis, (p.on axis).isFinite = true
  eq_of_near : ∀ p q, stop p → stop q → p.near tolerance q = true → p = q

/-- The two ends of a segment, in either order. -/
def Segment.ends (s : Segment) : Sym2 (Point Binary64) := s(s.start, s.finish)

/-- Both ends of the segment of a move are stops. -/
def Move.Joins (stop : Point Binary64 → Prop) (move : Move) : Prop :=
  stop move.segment.start ∧ stop move.segment.finish

namespace Discrete

variable {stop : Point Binary64 → Prop}

theorem near_iff (h : Discrete tolerance stop) {p q : Point Binary64} (hp : stop p) (hq : stop q) :
    p.near tolerance q = true ↔ p = q := by
  refine ⟨h.eq_of_near p q hp hq, ?_⟩
  rintro rfl
  exact Point.near_iff.2 fun axis => within_self (h.isFinite p hp axis) h.pos

theorem isLong_iff (h : Discrete tolerance stop) {move : Move} (hmove : move.Joins stop) :
    move.isLong tolerance = true ↔ ¬ move.segment.ends.IsDiag := by
  rw [Move.isLong, Bool.not_eq_true', ← Bool.not_eq_true, h.near_iff hmove.1 hmove.2, Segment.ends,
    Sym2.mk_isDiag_iff]

/-- **An entry answers the segments with its two ends.** -/
theorem answers_iff (h : Discrete tolerance stop) {s : Segment} {entry : Entry}
    (hs : stop s.start ∧ stop s.finish)
    (hentry : stop entry.segment.start ∧ stop entry.segment.finish) :
    entry.answers tolerance s = true ↔ entry.segment.ends = s.ends := by
  have hfinite : s.IsFinite := fun axis =>
    ⟨h.isFinite _ hs.1 axis, h.isFinite _ hs.2 axis⟩
  rw [Segment.ends, Segment.ends, Sym2.eq_iff]
  constructor
  · intro hanswers
    have hretraces := (Bool.and_eq_true_iff.1 hanswers).2
    rwa [Segment.retraces, Bool.or_eq_true, Bool.and_eq_true, Bool.and_eq_true,
      h.near_iff hentry.1 hs.1, h.near_iff hentry.2 hs.2, h.near_iff hentry.1 hs.2,
      h.near_iff hentry.2 hs.1] at hretraces
  · have hself : Entry.answers tolerance s ⟨s, entry.line⟩ = true :=
      @Entry.answers_self tolerance h.pos ⟨s, entry.line⟩ hfinite
    obtain ⟨⟨start, finish⟩, line⟩ := entry
    rintro (⟨rfl, rfl⟩ | ⟨rfl, rfl⟩)
    · exact hself
    · rw [← Entry.answers_of_reverse] at hself
      exact hself

end Discrete

/-! ### Reports of a route -/

/-- The entry that remembers a move. -/
def Move.entry (move : Move) : Entry := ⟨move.segment, move.line⟩

namespace SegmentIndex

variable {index : SegmentIndex} {entries : List Entry} {stop : Point Binary64 → Prop}

/-- A move about which nothing is reported has length, is not answered, and is remembered. -/
theorem check_eq_none {move : Move} (h : (index.check tolerance move).1 = none) :
    move.isLong tolerance = true ∧ index.firstLine? tolerance move.segment = none ∧
      (index.check tolerance move).2 = index.insert tolerance move.entry := by
  cases hnear : move.segment.start.near tolerance move.segment.finish with
  | true =>
      rw [check_of_near hnear] at h
      cases h
  | false =>
      cases hfirst : index.firstLine? tolerance move.segment with
      | some first =>
          rw [check_of_some hnear hfirst] at h
          cases h
      | none =>
          rw [check_of_none hnear hfirst, Move.isLong, hnear]
          exact ⟨rfl, rfl, rfl⟩

/-- What is reported about moves before others is reported first. -/
theorem reports_append (index : SegmentIndex) (front rest : List Move) :
    index.reports tolerance (front ++ rest) = index.reports tolerance front ++
      (front.foldl (fun index move => (index.check tolerance move).2) index).reports tolerance
        rest := by
  induction front generalizing index with
  | nil => rfl
  | cons move front ih =>
      rw [List.cons_append, reports, ih, reports, List.append_assoc, List.foldl_cons]

/-- Moves about which nothing is reported are remembered. -/
theorem Holds.foldl_check {moves : List Move} (h : Holds tolerance index entries)
    (hnone : index.reports tolerance moves = []) :
    Holds tolerance (moves.foldl (fun index move => (index.check tolerance move).2) index)
      (entries ++ moves.map Move.entry) := by
  induction moves generalizing index entries with
  | nil => rwa [List.map_nil, List.append_nil]
  | cons move rest ih =>
      rw [reports, List.append_eq_nil_iff, Option.toList_eq_nil_iff] at hnone
      obtain ⟨-, -, hinsert⟩ := check_eq_none hnone.1
      rw [hinsert] at hnone
      rw [List.foldl_cons, hinsert, List.map_cons, List.append_cons]
      exact ih (h.insert move.entry) hnone.2

/-- A segment between stops is found exactly if a remembered one has its two ends. -/
theorem Holds.firstLine?_eq_none_iff (h : Holds tolerance index entries)
    (hdiscrete : Discrete tolerance stop)
    (hentries : ∀ entry ∈ entries, stop entry.segment.start ∧ stop entry.segment.finish)
    {s : Segment} (hs : stop s.start ∧ stop s.finish) :
    index.firstLine? tolerance s = none ↔
      s.ends ∉ entries.map fun entry => entry.segment.ends := by
  rw [h.firstLine?_eq, Option.map_eq_none_iff, List.find?_eq_none, List.mem_map, not_exists]
  refine forall_congr' fun entry => ?_
  rw [not_and]
  refine imp_congr_right fun hentry => not_congr ?_
  exact hdiscrete.answers_iff hs (hentries entry hentry)

/-- It is found at the line of the one that has them. -/
theorem Holds.firstLine?_of_mem (h : Holds tolerance index entries)
    (hdiscrete : Discrete tolerance stop)
    (hentries : ∀ entry ∈ entries, stop entry.segment.start ∧ stop entry.segment.finish)
    (hnodup : (entries.map fun entry => entry.segment.ends).Nodup) {s : Segment}
    (hs : stop s.start ∧ stop s.finish) {entry : Entry} (hentry : entry ∈ entries)
    (hends : entry.segment.ends = s.ends) : index.firstLine? tolerance s = some entry.line := by
  rw [h.firstLine?_eq]
  cases hfind : entries.find? fun entry => entry.answers tolerance s with
  | none =>
      have hanswers := List.find?_eq_none.1 hfind entry hentry
      exact absurd ((hdiscrete.answers_iff hs (hentries entry hentry)).2 hends) hanswers
  | some found =>
      have hmem := List.mem_of_find?_eq_some hfind
      have hfound := (hdiscrete.answers_iff hs (hentries found hmem)).1 (List.find?_some hfind)
      rw [List.inj_on_of_nodup_map hnodup hmem hentry (hfound.trans hends.symm), Option.map_some]

/-- **Nothing is reported about a route exactly if every move has length and no segment is cut
twice**, in either direction. -/
theorem reports_eq_nil_iff (hdiscrete : Discrete tolerance stop) {moves : List Move}
    (hmoves : ∀ move ∈ moves, move.Joins stop) (hholds : Holds tolerance index entries)
    (hentries : ∀ entry ∈ entries, stop entry.segment.start ∧ stop entry.segment.finish)
    (hnodup : (entries.map fun entry => entry.segment.ends).Nodup) :
    index.reports tolerance moves = [] ↔
      (∀ move ∈ moves, ¬ move.segment.ends.IsDiag) ∧
        ((entries.map fun entry => entry.segment.ends) ++
          moves.map fun move => move.segment.ends).Nodup := by
  induction moves generalizing index entries with
  | nil => simp [reports, hnodup]
  | cons move rest ih =>
      have hmove := hmoves move (List.mem_cons_self ..)
      have hrest : ∀ other ∈ rest, other.Joins stop := fun other hother =>
        hmoves other (List.mem_cons_of_mem _ hother)
      have hjoins : ∀ entry ∈ entries ++ [move.entry],
          stop entry.segment.start ∧ stop entry.segment.finish := by
        intro entry hentry
        rcases List.mem_append.1 hentry with hentry | hentry
        · exact hentries entry hentry
        · obtain rfl := List.mem_singleton.1 hentry
          exact hmove
      rw [reports, List.append_eq_nil_iff, Option.toList_eq_nil_iff, List.forall_mem_cons,
        List.map_cons]
      by_cases hclear : ¬ move.segment.ends.IsDiag ∧
          move.segment.ends ∉ entries.map fun entry => entry.segment.ends
      · -- the move is remembered, and the others are checked with it
        obtain ⟨hlong, hnew⟩ := hclear
        have hfar : move.segment.start.near tolerance move.segment.finish = false := by
          have h := (hdiscrete.isLong_iff hmove).2 hlong
          rwa [Move.isLong, Bool.not_eq_true'] at h
        have hcheck := check_of_none hfar
          ((hholds.firstLine?_eq_none_iff hdiscrete hentries hmove).2 hnew)
        have hlonger : ((entries ++ [move.entry]).map fun entry => entry.segment.ends).Nodup := by
          rw [List.map_append, List.map_singleton]
          exact List.nodup_append.2 ⟨hnodup, List.nodup_singleton _, fun a ha b hb => by
            rintro rfl
            rw [List.mem_singleton.1 hb] at ha
            exact hnew ha⟩
        have hothers := ih hrest (hholds.insert move.entry) hjoins hlonger
        rw [List.map_append, List.map_singleton, List.append_assoc, List.singleton_append]
          at hothers
        rw [hcheck]
        exact ⟨fun h => ⟨⟨hlong, (hothers.1 h.2).1⟩, (hothers.1 h.2).2⟩,
          fun h => ⟨rfl, hothers.2 ⟨h.1.2, h.2⟩⟩⟩
      · refine iff_of_false (fun h => hclear ?_) fun h => hclear ⟨h.1.1, fun hmem => ?_⟩
        · obtain ⟨hlong, hnone, -⟩ := check_eq_none h.1
          exact ⟨(hdiscrete.isLong_iff hmove).1 hlong,
            (hholds.firstLine?_eq_none_iff hdiscrete hentries hmove).1 hnone⟩
        · exact (List.nodup_append.1 h.2).2.2 _ hmem _ (List.mem_cons_self ..) rfl

end SegmentIndex

end Toolpath
