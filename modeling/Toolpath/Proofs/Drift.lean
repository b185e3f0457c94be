/-
**How far the commands can stray from the tool.**

A move without length is dropped from the commands, but the tool follows it.  A move counts as
without length if it stays within the tolerance, and so many small moves in a row can take the tool
away from where the last command ends.  This module proves that it gets no further than one
tolerance for every move that was dropped, and what that means for the starts of the commands and
for the box around them.

Main definitions:

* `Toolpath.Drifts` — one point is close to another after a number of dropped moves;
* `Toolpath.motionsBetween` — how many motions stand between two lines;
* `Toolpath.StaysClose` — the commands of a program stay close to the tool.

Main results:

* `Toolpath.keptClose_ofLines` — after any lines the tool is close to where the last command ends;
* `Toolpath.staysClose` — **the commands of a program stay close to the tool**;
* `Toolpath.drift_beyond_tolerance` — one tolerance is not enough.
-/

import Toolpath.Length
import Toolpath.Proofs.Accounting
import Toolpath.Proofs.EndPoint

set_option relaxedAutoImplicit false
set_option autoImplicit false

namespace Toolpath

variable {settings : Settings} {tolerance : Binary64} {p q r : Point Binary64}

/-! ### Points after dropped moves -/

/-- One point is close to another after a number of dropped moves: it is the same one without any,
the two agree within the tolerance after one, and on every axis they are less than a tolerance apart
for every move. -/
structure Drifts (tolerance : Binary64) (moves : Nat) (p q : Point Binary64) : Prop where
  eq_of_zero : moves = 0 → p = q
  near_of_le_one : moves ≤ 1 → p.near tolerance q = true
  lt_of_pos : 0 < moves → ∀ axis, |(p.on axis).place - (q.on axis).place| < moves * tolerance.place

namespace Drifts

/-- A finite point has not strayed from itself. -/
theorem refl (hpos : 0 < tolerance) (hp : ∀ axis, (p.on axis).isFinite = true) :
    Drifts tolerance 0 p p where
  eq_of_zero _ := rfl
  near_of_le_one _ := Point.near_iff.2 fun axis => within_self (hp axis) hpos
  lt_of_pos h := absurd h (lt_irrefl 0)

/-- One more move that is dropped adds less than one tolerance. -/
theorem step {moves : Nat} (h : Drifts tolerance moves p q)
    (hq : ∀ axis, (q.on axis).isFinite = true) (hr : ∀ axis, (r.on axis).isFinite = true)
    (hnear : q.near tolerance r = true) : Drifts tolerance (moves + 1) p r where
  eq_of_zero hmoves := absurd hmoves (Nat.succ_ne_zero moves)
  near_of_le_one hmoves := by
    rw [h.eq_of_zero (by omega)]
    exact hnear
  lt_of_pos _ axis := by
    have hmove := abs_place_sub_lt (hq axis) (hr axis) (Point.near_iff.1 hnear axis)
    rcases Nat.eq_zero_or_pos moves with rfl | hmoves
    · rw [h.eq_of_zero rfl, Nat.zero_add, Nat.cast_one, one_mul]
      exact hmove
    · calc |(p.on axis).place - (r.on axis).place|
          ≤ |(p.on axis).place - (q.on axis).place| + |(q.on axis).place - (r.on axis).place| :=
            abs_sub_le _ _ _
        _ < moves * tolerance.place + tolerance.place :=
            add_lt_add (h.lt_of_pos hmoves axis) hmove
        _ = (moves + 1 : Nat) * tolerance.place := by
            rw [Nat.cast_add, Nat.cast_one, add_mul, one_mul]

end Drifts

/-! ### After any lines -/

/-- How many motions stand after the first line, up to the last one. -/
def motionsBetween (lines : List String) (first last : Int) : Nat :=
  (motions lines).countP fun motion => first < motion.line ∧ motion.line ≤ last

/-- After some lines the tool is close to where the last command ends: it has strayed by the motions
after that command, all of which were dropped. -/
def KeptClose (settings : Settings) (lines : List String) (run : Run) : Prop :=
  ∃ last, run.commands.getLast? = some last ∧
    Drifts settings.positionTolerance
      ((motions lines).countP fun motion => last.line < motion.line) last.finish
      run.machine.tool.position

namespace KeptClose

variable {lines : List String} {line : String}

/-- A line without motion changes nothing. -/
theorem concat_of_no_motion {outcome : Outcome}
    (hread : (readLine (lines.length + 1) line).command? = none) (hnone : outcome.command? = none)
    (h : KeptClose settings lines (Run.ofLines settings lines)) :
    KeptClose settings (lines ++ [line])
      ((Run.ofLines settings lines).push outcome (Run.ofLines settings lines).machine) := by
  rw [KeptClose, Run.commands_push, hnone, motions_concat, hread, Option.toList_none,
    List.append_nil, List.append_nil]
  exact h

/-- A motion that is dropped takes the tool by less than one tolerance. -/
theorem concat_of_dropped {command : Command} {ds reported : List Diagnostic} {machine : Machine}
    (hread : readLine (lines.length + 1) line = .motion command ds)
    (hnear : (Run.ofLines settings lines).machine.tool.position.near settings.positionTolerance
      machine.tool.position = true)
    (hfinite : ∀ axis, (machine.tool.position.on axis).isFinite = true)
    (h : KeptClose settings lines (Run.ofLines settings lines)) :
    KeptClose settings (lines ++ [line])
      ((Run.ofLines settings lines).push (.dropped reported) machine) := by
  obtain ⟨last, hlast, hdrifts⟩ := h
  have hlate : last.line < command.line := by
    rw [line_of_readLine hread]
    exact Int.lt_add_one_of_le (Run.line_of_mem_commands (List.mem_of_getLast? hlast)).2
  have hnone : (Outcome.dropped reported).command? = none := rfl
  refine ⟨last, ?_, ?_⟩
  · rw [Run.commands_push, hnone, Option.toList_none, List.append_nil, hlast]
  · rw [motions_concat, hread, Reading.command?, Option.toList_some, List.countP_append,
      List.countP_singleton, if_pos (decide_eq_true hlate)]
    exact hdrifts.step (Run.isFinite_position settings lines) hfinite hnear

/-- A command that is recorded ends where the tool is, and no motion is after it. -/
theorem concat_of_recorded {command : Command} {ds reported : List Diagnostic} {machine : Machine}
    (hpos : 0 < settings.positionTolerance)
    (hread : readLine (lines.length + 1) line = .motion command ds)
    (htool : machine.tool = (Run.ofLines settings lines).machine.tool.move command.parameters)
    (hfinite : ∀ axis, (machine.tool.position.on axis).isFinite = true) :
    KeptClose settings (lines ++ [line]) ((Run.ofLines settings lines).push
      (.recorded ((Run.ofLines settings lines).machine.recordedCommand command) reported)
      machine) := by
  have hfinish : ((Run.ofLines settings lines).machine.recordedCommand command).finish =
      machine.tool.position := by
    rw [htool]
    rfl
  have hown : command.line = lines.length + 1 := line_of_readLine hread
  have hline : ((Run.ofLines settings lines).machine.recordedCommand command).line =
      lines.length + 1 := hown
  refine ⟨_, by rw [Run.commands_push, Outcome.command?, Option.toList_some, List.getLast?_concat],
    ?_⟩
  have hlast : (motions (lines ++ [line])).countP (fun motion =>
      ((Run.ofLines settings lines).machine.recordedCommand command).line < motion.line) = 0 := by
    refine List.countP_eq_zero.2 fun motion hmotion => ?_
    have hle := (line_of_mem_motions hmotion).2
    rw [cast_length_concat] at hle
    rw [decide_eq_true_eq, hline, not_lt]
    exact hle
  rw [hlast, hfinish]
  exact Drifts.refl hpos hfinite

end KeptClose

/-- **After any lines the tool is close to where the last command ends.** -/
theorem keptClose_ofLines (hpos : 0 < settings.positionTolerance) (lines : List String)
    (h : motions lines ≠ []) : KeptClose settings lines (Run.ofLines settings lines) := by
  induction lines using Run.lines_induction settings with
  | nil => exact absurd motions_nil h
  | concat lines line outcome after heffect hnext ih =>
      have hfinite := Run.isFinite_position settings (lines ++ [line])
      rw [hnext] at hfinite ⊢
      cases heffect with
      | idle hread =>
          have hnone : (readLine (lines.length + 1) line).command? = none := by rw [hread]; rfl
          rw [motions_concat, hnone, Option.toList_none, List.append_nil] at h
          exact (ih h).concat_of_no_motion hnone rfl
      | unreadable hread =>
          have hnone : (readLine (lines.length + 1) line).command? = none := by rw [hread]; rfl
          rw [motions_concat, hnone, Option.toList_none, List.append_nil] at h
          exact (ih h).concat_of_no_motion hnone rfl
      | dropped hread hmoved hnear =>
          have hmotions : motions lines ≠ [] := by
            rw [Run.hasMoved_ofLines] at hmoved
            simpa using hmoved
          exact (ih hmotions).concat_of_dropped hread hnear hfinite
      | recorded hread => exact .concat_of_recorded hpos hread rfl hfinite

/-! ### The commands of a program -/

/-- The commands of a program stay close to the tool. -/
structure StaysClose [Numerics] (settings : Settings) (lines : List String) : Prop where
  /-- After the first lines of the program, as soon as there is a motion, the tool is close to where
  the last command so far ends. -/
  tool_close : ∀ count : Nat, motions (lines.take count) ≠ [] →
    ∃ last, (analyzeLines settings (lines.take count)).commands.getLast? = some last ∧
      Drifts settings.positionTolerance (motionsBetween lines last.line count) last.finish
        (machineAfter settings lines count).tool.position
  /-- A command is measured from where the one before it ends, and its move was judged from close
  to there. -/
  start_close : ∀ front earlier command rest,
    (analyzeLines settings lines).commands = front ++ earlier :: command :: rest →
      (lengths settings (analyzeLines settings lines).commands)[front.length + 1]? =
          some (command.length settings earlier.finish) ∧
        Drifts settings.positionTolerance (motionsBetween lines earlier.line (command.line - 1))
          earlier.finish (segmentAt settings lines command.line).start
  /-- Where a motion takes the tool is close to where the last command up to it ends, and that lies
  in the box. -/
  box_close : ∀ motion ∈ motions lines, ∃ last,
    ((analyzeLines settings lines).commands.filter fun command =>
      command.line ≤ motion.line).getLast? = some last ∧
    (analyzeLines settings lines).bounds.Contains last.finish ∧
      Drifts settings.positionTolerance (motionsBetween lines last.line motion.line) last.finish
        (segmentAt settings lines motion.line).finish

/-- The motions up to a line that are after another one. -/
theorem countP_motions_take (lines : List String) (count : Nat) (first : Int) :
    (motions (lines.take count)).countP (fun motion => first < motion.line) =
      motionsBetween lines first count := by
  rw [motions_take, List.countP_filter, motionsBetween]
  refine List.countP_congr fun motion _ => ?_
  simp

/-- After the first lines of a program the tool is close to where the last command so far ends. -/
theorem drifts_machineAfter (hpos : 0 < settings.positionTolerance) {lines : List String}
    {count : Nat} (h : motions (lines.take count) ≠ []) :
    ∃ last, (Run.ofLines settings (lines.take count)).commands.getLast? = some last ∧
      Drifts settings.positionTolerance (motionsBetween lines last.line count) last.finish
        (machineAfter settings lines count).tool.position := by
  obtain ⟨last, hlast, hdrifts⟩ := keptClose_ofLines hpos (lines.take count) h
  rw [countP_motions_take] at hdrifts
  exact ⟨last, hlast, hdrifts⟩

variable {lines : List String}

theorem cast_line_pred {command : Command}
    (h : command ∈ (Run.ofLines settings lines).commands) :
    ((command.line.toNat - 1 : Nat) : Int) = command.line - 1 := by
  have := Run.line_of_mem_commands h
  omega

/-- The lines before a command give the commands before it. -/
theorem commands_take_before {front rest : List Command} {command : Command}
    (h : (Run.ofLines settings lines).commands = front ++ command :: rest) :
    (Run.ofLines settings (lines.take (command.line.toNat - 1))).commands = front := by
  have hmem : command ∈ (Run.ofLines settings lines).commands := by
    rw [h]
    exact List.mem_append_right _ (List.mem_cons_self ..)
  have hincreasing : (front ++ command :: rest).Pairwise fun c d => c.line < d.line := by
    rw [← h]
    exact pairwise_commands settings lines
  obtain ⟨-, hrest, hfront⟩ := List.pairwise_append.1 hincreasing
  have hbefore : front.filter (fun c => c.line ≤ command.line - 1) = front := by
    refine List.filter_eq_self.2 fun c hc => ?_
    have := hfront c hc command (List.mem_cons_self ..)
    rw [decide_eq_true_eq]
    omega
  have hafter : (command :: rest).filter (fun c => c.line ≤ command.line - 1) = [] := by
    refine List.filter_eq_nil_iff.2 fun c hc => ?_
    rw [decide_eq_true_eq]
    rcases List.mem_cons.1 hc with rfl | hc
    · omega
    · have := (List.pairwise_cons.1 hrest).1 c hc
      omega
  rw [Run.commands_take, cast_line_pred hmem, h, List.filter_append, hbefore, hafter,
    List.append_nil]

/-- The start of a move is close to where the command before it ends. -/
theorem drifts_start (hpos : 0 < settings.positionTolerance) {front rest : List Command}
    {earlier command : Command}
    (h : (Run.ofLines settings lines).commands = front ++ earlier :: command :: rest) :
    Drifts settings.positionTolerance (motionsBetween lines earlier.line (command.line - 1))
      earlier.finish (segmentAt settings lines command.line).start := by
  have hmem : command ∈ (Run.ofLines settings lines).commands := by
    rw [h]
    exact List.mem_append_right _ (List.mem_cons_of_mem _ (List.mem_cons_self ..))
  rw [List.append_cons] at h
  have hbefore := commands_take_before h
  -- the earlier command comes from a motion before
  have hmotions : motions (lines.take (command.line.toNat - 1)) ≠ [] := by
    intro hnil
    rw [commands_eq_nil hnil] at hbefore
    exact List.append_ne_nil_of_right_ne_nil front (List.cons_ne_nil earlier []) hbefore.symm
  obtain ⟨last, hlast, hdrifts⟩ := drifts_machineAfter hpos hmotions
  rw [hbefore, List.getLast?_concat] at hlast
  obtain rfl := Option.some.inj hlast
  rw [cast_line_pred hmem] at hdrifts
  exact hdrifts

/-- **The commands of a program stay close to the tool.** -/
theorem staysClose [Numerics] (hpos : 0 < settings.positionTolerance) (lines : List String) :
    StaysClose settings lines := by
  refine ⟨fun count hcount => ?_, fun front earlier command rest h => ?_, fun motion hmotion => ?_⟩
  · exact drifts_machineAfter hpos hcount
  · refine ⟨?_, drifts_start hpos h⟩
    rw [h, getElem?_lengths]
  · have hcount : (motion.line.toNat : Int) = motion.line := by
      have := line_of_mem_motions hmotion
      omega
    have hmotions : motions (lines.take motion.line.toNat) ≠ [] := by
      refine List.ne_nil_of_mem (a := motion) ?_
      rw [motions_take, hcount]
      exact List.mem_filter.2 ⟨hmotion, decide_eq_true le_rfl⟩
    obtain ⟨last, hlast, hdrifts⟩ := drifts_machineAfter hpos hmotions
    rw [Run.commands_take, hcount] at hlast
    rw [hcount] at hdrifts
    have hmem : last ∈ (Run.ofLines settings lines).commands :=
      (List.mem_filter.1 (List.mem_of_getLast? hlast)).1
    exact ⟨last, hlast, Run.contains_finish hmem, hdrifts⟩

/-- A program with two small moves in a row, each within the default tolerance and both together
beyond it. -/
def smallMoves : List String := ["G0 X0", "G1 X-0.00006", "G1 X-0.00012", "G1 X1"]

section Standard

attribute [local instance] Numerics.standard

theorem staysClose_smallMoves :
    (0 : Binary64) < ({} : Settings).positionTolerance ∧ StaysClose {} smallMoves :=
  ⟨by decide +kernel, staysClose (by decide +kernel) smallMoves⟩

end Standard

/-- **One tolerance is not enough**: after the two small moves the tool is beyond the tolerance from
where the last command ends, the next command is measured from another point than its move was
judged from, and the tool was outside the box by more than the tolerance. -/
theorem drift_beyond_tolerance :
    (0 : Binary64) < ({} : Settings).positionTolerance ∧
      (∃ last ∈ (analyzeLines {} (smallMoves.take 3)).commands.getLast?,
        last.finish.near ({} : Settings).positionTolerance
          (machineAfter {} smallMoves 3).tool.position = false) ∧
      (∃ pair ∈
          (analyzeLines {} smallMoves).commands.zip (analyzeLines {} smallMoves).commands.tail,
        pair.1.finish.near ({} : Settings).positionTolerance
          (segmentAt {} smallMoves pair.2.line).start = false) ∧
      ∃ motion ∈ motions smallMoves, ({} : Settings).positionTolerance <
        (analyzeLines {} smallMoves).bounds.least.x -
          (segmentAt {} smallMoves motion.line).finish.x := by
  decide +kernel

end Toolpath
