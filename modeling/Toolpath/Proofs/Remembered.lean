/-
**Which segments are remembered.**

Which segments a run remembers can be read off its lines and its diagnostics: a motion after the
first one is remembered unless it is reported as redundant or as a duplicate.  This module says so
as a list of entries, each with the segment from where the tool was before its line to where it was
after it, and proves that the index of the machine holds just this list.

Main definitions:

* `Toolpath.segmentAt` — the segment that the tool moves along at a line;
* `Toolpath.Analysis.reportsMoveAt` — the move at a line is redundant or a duplicate;
* `Toolpath.remembered` — the segments that are remembered after the lines of a program.

Main results:

* `Toolpath.remembered_concat` — what one more line adds to the list;
* `Toolpath.holds_remembered` — **the index holds just the list**.
-/

import Toolpath.Proofs.Effect
import Toolpath.Proofs.SegmentIndex

set_option relaxedAutoImplicit false
set_option autoImplicit false

namespace Toolpath

variable {settings : Settings} {lines : List String} {line : String}

/-! ### The diagnostics at a line -/

/-- A program without motion is reported after everything else. -/
theorem diagnostics_analyzeLines (settings : Settings) (lines : List String) :
    (analyzeLines settings lines).diagnostics = (Run.ofLines settings lines).diagnostics ++
      if motions lines = [] then [⟨Analysis.wholeProgram, .noMovement⟩] else [] := by
  rw [analyzeLines, Analysis.ofRun, Run.hasMoved_ofLines]
  cases motions lines with
  | nil => rfl
  | cons motion rest => rfl

theorem diagnosticsAt_eq (settings : Settings) (lines : List String) {number : Int}
    (h : 1 ≤ number) : (analyzeLines settings lines).diagnosticsAt number =
      (Run.ofLines settings lines).diagnostics.filter fun d => d.line == number := by
  -- what is reported about the whole program is at line zero
  have hwhole : (Analysis.wholeProgram == number) = false := by
    rw [beq_eq_false_iff_ne, Analysis.wholeProgram]
    omega
  rw [Analysis.diagnosticsAt, diagnostics_analyzeLines, List.filter_append]
  split
  · rw [List.filter_cons_of_neg (by rw [hwhole]; decide), List.filter_nil, List.append_nil]
  · exact List.append_nil _

/-- A later line has no part in what is reported at a line. -/
theorem diagnosticsAt_concat_of_le (settings : Settings) (lines : List String) (line : String)
    {number : Int} (hpos : 1 ≤ number) (hle : number ≤ lines.length) :
    (analyzeLines settings (lines ++ [line])).diagnosticsAt number =
      (analyzeLines settings lines).diagnosticsAt number := by
  obtain ⟨outcome, after, heffect, hnext⟩ := Run.exists_effect settings lines line
  have hnew : outcome.diagnostics.filter (fun d => d.line == number) = [] := by
    refine List.filter_eq_nil_iff.2 fun d hd => ?_
    rw [(heffect.diagnostic_line hd).1, beq_iff_eq]
    omega
  rw [diagnosticsAt_eq settings _ hpos, diagnosticsAt_eq settings _ hpos, hnext,
    Run.diagnostics_push, List.filter_append, hnew, List.append_nil]

/-- What is reported at the last line is what comes of it. -/
theorem diagnosticsAt_last {outcome : Outcome} {after : Machine}
    (heffect : (Run.ofLines settings lines).machine.Effect settings (lines.length + 1) line
      outcome after)
    (hnext : Run.ofLines settings (lines ++ [line]) =
      (Run.ofLines settings lines).push outcome after) :
    (analyzeLines settings (lines ++ [line])).diagnosticsAt (lines.length + 1) =
      outcome.diagnostics := by
  have hold : (Run.ofLines settings lines).diagnostics.filter
      (fun d => d.line == (lines.length + 1 : Int)) = [] := by
    refine List.filter_eq_nil_iff.2 fun d hd => ?_
    have := (Run.kind_of_mem_diagnostics hd).2.1
    rw [beq_iff_eq]
    omega
  have hnew : outcome.diagnostics.filter (fun d => d.line == (lines.length + 1 : Int)) =
      outcome.diagnostics := by
    refine List.filter_eq_self.2 fun d hd => ?_
    rw [(heffect.diagnostic_line hd).1, beq_self_eq_true]
  rw [diagnosticsAt_eq settings _ (by omega), hnext, Run.diagnostics_push, List.filter_append,
    hold, hnew, List.nil_append]

/-! ### The segment at a line -/

/-- The machine after so many lines of a program. -/
def machineAfter (settings : Settings) (lines : List String) (count : Nat) : Machine :=
  (Run.ofLines settings (lines.take count)).machine

/-- The segment that the tool moves along at a line: from where it is before the line to where it is
after it. -/
def segmentAt (settings : Settings) (lines : List String) (number : Int) : Segment where
  start := (machineAfter settings lines (number.toNat - 1)).tool.position
  finish := (machineAfter settings lines number.toNat).tool.position

theorem segmentAt_concat_of_le (settings : Settings) (lines : List String) (line : String)
    {number : Int} (hle : number ≤ lines.length) :
    segmentAt settings (lines ++ [line]) number = segmentAt settings lines number := by
  rw [segmentAt, segmentAt, machineAfter, machineAfter, machineAfter, machineAfter,
    List.take_append_of_le_length (by omega), List.take_append_of_le_length (by omega)]

/-- At the last line the tool moves from where it is after the others to its target. -/
theorem segmentAt_last (settings : Settings) {command : Command} {ds : List Diagnostic}
    (hread : readLine (lines.length + 1) line = .motion command ds) :
    segmentAt settings (lines ++ [line]) (lines.length + 1) =
      (Run.ofLines settings lines).machine.segment command := by
  obtain ⟨outcome, after, heffect, hnext⟩ := Run.exists_effect settings lines line
  have htool := heffect.tool_eq
  rw [hread] at htool
  have hfinish : (lines ++ [line]).take ((lines.length : Int) + 1).toNat = lines ++ [line] := by
    refine List.take_of_length_le ?_
    simp
  have hstart : (lines ++ [line]).take (((lines.length : Int) + 1).toNat - 1) = lines := by
    have : ((lines.length : Int) + 1).toNat - 1 = lines.length := by omega
    rw [this, List.take_left]
  rw [segmentAt, machineAfter, machineAfter, hstart, hfinish, hnext, Run.machine_push, htool]
  rfl

/-! ### The remembered segments -/

/-- The move at a line is reported as redundant or as a duplicate. -/
def Analysis.reportsMoveAt (analysis : Analysis) (number : Int) : Bool :=
  (analysis.diagnosticsAt number).any fun d => d.isRedundantMove || d.isDuplicateToolpath

/-- A motion with the segment that the tool moves along at its line. -/
def entryAt (settings : Settings) (lines : List String) (command : Command) : Entry :=
  ⟨segmentAt settings lines command.line, command.line⟩

/-- The segments that are remembered after the lines of a program: those of all motions after the
first one whose moves are not reported, in their order. -/
def remembered (settings : Settings) (lines : List String) : List Entry :=
  ((motions lines).tail.filter fun command =>
    !(analyzeLines settings lines).reportsMoveAt command.line).map (entryAt settings lines)

/-- A remembered segment is that of a motion after the first one which is not reported. -/
theorem mem_remembered {entry : Entry} (h : entry ∈ remembered settings lines) :
    ∃ command ∈ (motions lines).tail, command.line = entry.line ∧
      (analyzeLines settings lines).reportsMoveAt entry.line = false ∧
      entry.segment = segmentAt settings lines entry.line := by
  obtain ⟨command, hcommand, rfl⟩ := List.mem_map.1 h
  obtain ⟨hmem, hreport⟩ := List.mem_filter.1 hcommand
  rw [Bool.not_eq_true'] at hreport
  exact ⟨command, hmem, rfl, hreport, rfl⟩

theorem line_of_mem_remembered {entry : Entry} (h : entry ∈ remembered settings lines) :
    1 ≤ entry.line ∧ entry.line ≤ lines.length := by
  obtain ⟨command, hcommand, hline, -, -⟩ := mem_remembered h
  rw [← hline]
  exact line_of_mem_motions (List.mem_of_mem_tail hcommand)

theorem pairwise_remembered (settings : Settings) (lines : List String) :
    (remembered settings lines).Pairwise fun e f => e.line < f.line := by
  rw [remembered, List.pairwise_map]
  exact ((pairwise_motions lines).sublist (List.tail_sublist _)).filter _

/-- The first motion apart, the motions with one more line. -/
theorem tail_motions_concat (lines : List String) (line : String) :
    (motions (lines ++ [line])).tail = (motions lines).tail ++
      if (motions lines).isEmpty then []
      else (readLine (lines.length + 1) line).command?.toList := by
  rw [motions_concat]
  cases motions lines with
  | nil => cases (readLine (lines.length + 1) line).command? <;> rfl
  | cons command rest => rfl

/-- A later line has no part in which of the motions before it are remembered. -/
theorem remembered_concat (settings : Settings) (lines : List String) (line : String) :
    remembered settings (lines ++ [line]) = remembered settings lines ++
      ((if (motions lines).isEmpty then []
        else (readLine (lines.length + 1) line).command?.toList).filter fun command =>
          !(analyzeLines settings (lines ++ [line])).reportsMoveAt command.line).map
            (entryAt settings (lines ++ [line])) := by
  -- at the lines before the last one neither the reports nor the segments change
  have hbounds : ∀ command ∈ (motions lines).tail, 1 ≤ command.line ∧
      command.line ≤ lines.length := fun command hcommand =>
    line_of_mem_motions (List.mem_of_mem_tail hcommand)
  have hfilter : (motions lines).tail.filter (fun command =>
      !(analyzeLines settings (lines ++ [line])).reportsMoveAt command.line) =
        (motions lines).tail.filter fun command =>
          !(analyzeLines settings lines).reportsMoveAt command.line := by
    refine List.filter_congr fun command hcommand => ?_
    obtain ⟨hpos, hle⟩ := hbounds command hcommand
    rw [Analysis.reportsMoveAt, diagnosticsAt_concat_of_le settings lines line hpos hle,
      Analysis.reportsMoveAt]
  rw [remembered, tail_motions_concat, List.filter_append, List.map_append, hfilter, remembered]
  congr 1
  refine List.map_congr_left fun command hcommand => ?_
  rw [entryAt, entryAt, segmentAt_concat_of_le settings lines line
    (hbounds command (List.mem_filter.1 hcommand).1).2]

/-- What is remembered of the lines before the last one is what was remembered without it. -/
theorem mem_remembered_concat_iff {entry : Entry} (hle : entry.line ≤ lines.length) :
    entry ∈ remembered settings (lines ++ [line]) ↔ entry ∈ remembered settings lines := by
  rw [remembered_concat, List.mem_append]
  refine or_iff_left fun h => ?_
  obtain ⟨command, hcommand, rfl⟩ := List.mem_map.1 h
  have hnew := (List.mem_filter.1 hcommand).1
  split at hnew
  · cases hnew
  · obtain ⟨ds, hread⟩ := exists_readLine (Option.mem_toList.1 hnew)
    have hline : command.line ≤ lines.length := hle
    rw [line_of_readLine hread] at hline
    omega

theorem remembered_concat_of_no_motion
    (hread : (readLine (lines.length + 1) line).command? = none) :
    remembered settings (lines ++ [line]) = remembered settings lines := by
  rw [remembered_concat, hread]
  simp

theorem remembered_concat_of_first (hfirst : (motions lines).isEmpty = true) :
    remembered settings (lines ++ [line]) = remembered settings lines := by
  rw [remembered_concat, if_pos hfirst]
  simp

theorem remembered_concat_of_report
    (hreport : (analyzeLines settings (lines ++ [line])).reportsMoveAt (lines.length + 1) = true) :
    remembered settings (lines ++ [line]) = remembered settings lines := by
  have hnone : (if (motions lines).isEmpty then []
      else (readLine (lines.length + 1) line).command?.toList).filter (fun command =>
        !(analyzeLines settings (lines ++ [line])).reportsMoveAt command.line) = [] := by
    refine List.filter_eq_nil_iff.2 fun command hcommand => ?_
    split at hcommand
    · cases hcommand
    · obtain ⟨ds, hread⟩ := exists_readLine (Option.mem_toList.1 hcommand)
      rw [line_of_readLine hread, hreport]
      decide
  rw [remembered_concat, hnone, List.map_nil, List.append_nil]

/-- A motion after the first one that is not reported is remembered with its segment. -/
theorem remembered_concat_of_no_report {command : Command} {ds : List Diagnostic}
    (hread : readLine (lines.length + 1) line = .motion command ds)
    (hlater : (motions lines).isEmpty = false)
    (hreport : (analyzeLines settings (lines ++ [line])).reportsMoveAt (lines.length + 1) = false) :
    remembered settings (lines ++ [line]) = remembered settings lines ++
      [⟨(Run.ofLines settings lines).machine.segment command, lines.length + 1⟩] := by
  have hline := line_of_readLine hread
  rw [remembered_concat, hlater, hread, Reading.command?, Option.toList_some, if_neg (by decide),
    List.filter_cons_of_pos (by rw [hline, hreport]; rfl), List.filter_nil, List.map_singleton,
    entryAt, hline, segmentAt_last settings hread]

/-! ### The index holds them -/

/-- What is reported about the words of a line is no report about its move. -/
theorem any_words_eq_false {number : Int} {command : Command} {ds : List Diagnostic}
    (hread : readLine number line = .motion command ds) :
    (ds.any fun d => d.isRedundantMove || d.isDuplicateToolpath) = false := by
  refine List.any_eq_false.2 fun d hd => ?_
  obtain ⟨-, -, hredundant, hduplicate⟩ := kind_of_mem_words hread hd
  rw [hredundant, hduplicate]
  decide

/-- **The index holds just the segments that the diagnostics leave to be remembered.** -/
theorem holds_remembered (settings : Settings) (lines : List String) :
    (Run.ofLines settings lines).machine.segments.Holds settings.positionTolerance
      (remembered settings lines) := by
  induction lines using Run.lines_induction settings with
  | nil => exact SegmentIndex.Holds.empty _
  | concat lines line outcome after heffect hnext ih =>
      have hreport : (analyzeLines settings (lines ++ [line])).reportsMoveAt (lines.length + 1) =
          outcome.diagnostics.any fun d => d.isRedundantMove || d.isDuplicateToolpath := by
        rw [Analysis.reportsMoveAt, diagnosticsAt_last heffect hnext]
      rw [hnext]
      -- only a fresh segment is inserted, and only there does the list grow
      cases heffect with
      | idle hread =>
          rw [remembered_concat_of_no_motion (by rw [hread]; rfl)]
          exact ih
      | unreadable hread =>
          rw [remembered_concat_of_no_motion (by rw [hread]; rfl)]
          exact ih
      | dropped hread =>
          rw [remembered_concat_of_report]
          · exact ih
          · rw [hreport, Outcome.diagnostics, List.any_append, List.any_cons,
              Diagnostic.isRedundantMove_mk, Bool.true_or, Bool.true_or, Bool.or_true]
      | recorded hread haccepts =>
          rw [Outcome.diagnostics, List.any_append, any_words_eq_false hread] at hreport
          cases haccepts with
          | first hmoved =>
              rw [Run.hasMoved_ofLines, Bool.not_eq_false'] at hmoved
              rw [remembered_concat_of_first hmoved]
              exact ih
          | duplicate =>
              rw [remembered_concat_of_report]
              · exact ih
              · rw [hreport, List.any_cons, Diagnostic.isDuplicateToolpath_mk, Bool.or_true,
                  Bool.true_or, Bool.or_true]
          | fresh hmoved =>
              rw [Run.hasMoved_ofLines, Bool.not_eq_true'] at hmoved
              rw [remembered_concat_of_no_report hread hmoved hreport]
              exact ih.insert _

end Toolpath
