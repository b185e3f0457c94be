/-
**Every line is accounted for once.**

A motion gives a command, or it is reported as redundant, and never both.  What is reported about a
line stands at its number, in a fixed order, and the lines follow one another.  All this holds
whatever the lines say and whatever the settings are.

Main definitions:

* `Toolpath.LineReport` — what can be reported about a line, in its order;
* `Toolpath.Accounted` — what an analysis owes to the lines of its program.

Main results:

* `Toolpath.lineReport_at` — at every line stands what can be reported about it;
* `Toolpath.countP_commands_add_countP_redundant` — a motion is recorded or reported, and only once;
* `Toolpath.accounted_analyzeLines` — **every line is accounted for**.
-/

import Mathlib.Data.List.Basic
import Toolpath.Proofs.Remembered

set_option relaxedAutoImplicit false
set_option autoImplicit false

namespace Toolpath

variable {settings : Settings} {lines : List String} {line : String}

/-! ### Reports of lines -/

/-- What can be reported about the move of a line. -/
inductive MoveReport (number : Int) : List Diagnostic → Prop
  | nothing : MoveReport number []
  | redundant (position : Point Binary64) : MoveReport number [⟨number, .redundantMove position⟩]
  | duplicate (start finish : Point Binary64) (first : Int) :
      MoveReport number [⟨number, .duplicateToolpath start finish first⟩]

/-- What can be reported about a line, in its order. -/
inductive LineReport (number : Int) (line : String) : List Diagnostic → Prop
  /-- Nothing is reported about a line without motion. -/
  | idle {looseWords : Bool} (hread : readLine number line = .idle looseWords) :
      LineReport number line []
  /-- A line that cannot be read is reported, and nothing else is. -/
  | unreadable {reason : NumberError} (hread : readLine number line = .unreadable reason) :
      LineReport number line [⟨number, .unreadableLine reason⟩]
  /-- Of a motion the words are reported whose numbers are too large, then an arc without any
  offset, and then the move. -/
  | motion {command : Command} {ds moves : List Diagnostic}
      (hread : readLine number line = .motion command ds) (hmoves : MoveReport number moves) :
      LineReport number line
        (((lineWords line).filter fun word => !word.value.isFinite).map
            (fun word => ⟨number, .invalidValue (String.ofList word.text)⟩) ++
          (if command.motion.isArc && !command.hasOffset then
            [⟨number, .missingOffset command.token⟩] else []) ++ moves)

/-- What there is to report about the words of a motion stands in its order. -/
theorem LineReport.words {number : Int} {command : Command} {ds moves : List Diagnostic}
    (hread : readLine number line = .motion command ds) (hmoves : MoveReport number moves) :
    LineReport number line (ds ++ moves) := by
  obtain ⟨motion, token, -, -, hds⟩ := readLine_eq_motion hread
  have hreport := LineReport.motion hread hmoves
  rwa [← line_of_readLine hread, ← wordDiagnostics, ← hds, line_of_readLine hread] at hreport

/-- What comes of a line is what can be reported about it. -/
theorem lineReport_of_effect {machine after : Machine} {number : Int} {outcome : Outcome}
    (heffect : machine.Effect settings number line outcome after) :
    LineReport number line outcome.diagnostics := by
  cases heffect with
  | idle hread => exact .idle hread
  | unreadable hread => exact .unreadable hread
  | dropped hread => exact .words hread (.redundant _)
  | recorded hread haccepts =>
      refine .words hread ?_
      cases haccepts with
      | first => exact .nothing
      | duplicate => exact .duplicate _ _ _
      | fresh => exact .nothing

/-- **At every line stands what can be reported about it.** -/
theorem lineReport_at (settings : Settings) (lines : List String) (index : Nat)
    (h : index < lines.length) :
    LineReport (index + 1) lines[index]
      ((analyzeLines settings lines).diagnosticsAt (index + 1)) := by
  induction lines using List.reverseRecOn with
  | nil => cases h
  | append_singleton lines line ih =>
      by_cases hindex : index < lines.length
      · rw [diagnosticsAt_concat_of_le settings lines line (by omega) (by omega),
          List.getElem_append_left hindex]
        exact ih hindex
      · rw [List.length_append, List.length_singleton] at h
        obtain rfl : index = lines.length := by omega
        obtain ⟨outcome, after, heffect, hnext⟩ := Run.exists_effect settings lines line
        rw [diagnosticsAt_last heffect hnext, List.getElem_concat_length rfl]
        exact lineReport_of_effect heffect

/-- What is reported about the lines follows their order. -/
theorem diagnostics_eq_flatMap (settings : Settings) (lines : List String) :
    (Run.ofLines settings lines).diagnostics =
      (List.range lines.length).flatMap fun (index : Nat) =>
        (analyzeLines settings lines).diagnosticsAt (index + 1) := by
  induction lines using Run.lines_induction settings with
  | nil => rfl
  | concat lines line outcome after heffect hnext ih =>
      have hold : (List.range lines.length).flatMap (fun (index : Nat) =>
          (analyzeLines settings (lines ++ [line])).diagnosticsAt (index + 1)) =
            (List.range lines.length).flatMap fun (index : Nat) =>
              (analyzeLines settings lines).diagnosticsAt (index + 1) := by
        refine List.flatMap_congr fun index hindex => ?_
        have := List.mem_range.1 hindex
        exact diagnosticsAt_concat_of_le settings lines line (by omega) (by omega)
      rw [List.length_append, List.length_singleton, List.range_succ, List.flatMap_append, hold,
        ← ih, List.flatMap_singleton, diagnosticsAt_last heffect hnext, hnext,
        Run.diagnostics_push]

/-! ### Commands -/

theorem exists_motion_of_mem_commands {command : Command}
    (h : command ∈ (Run.ofLines settings lines).commands) :
    ∃ motion ∈ motions lines, motion.line = command.line := by
  induction lines using Run.lines_induction settings with
  | nil => cases h
  | concat lines line outcome after heffect hnext ih =>
      rw [hnext, Run.commands_push] at h
      rw [motions_concat]
      rcases List.mem_append.1 h with h | h
      · obtain ⟨motion, hmotion, hline⟩ := ih h
        exact ⟨motion, List.mem_append_left _ hmotion, hline⟩
      · obtain ⟨own, hown, hmotion, hline⟩ := heffect.command_line (Option.mem_toList.1 h)
        exact ⟨own, List.mem_append_right _ (Option.mem_toList.2 hown), hmotion.trans hline.symm⟩

theorem commands_eq_nil (h : motions lines = []) : (Run.ofLines settings lines).commands = [] := by
  refine List.eq_nil_iff_forall_not_mem.2 fun command hcommand => ?_
  obtain ⟨motion, hmotion, -⟩ := exists_motion_of_mem_commands hcommand
  rw [h] at hmotion
  cases hmotion

theorem pairwise_commands (settings : Settings) (lines : List String) :
    (Run.ofLines settings lines).commands.Pairwise fun c d => c.line < d.line := by
  induction lines using Run.lines_induction settings with
  | nil => exact List.Pairwise.nil
  | concat lines line outcome after heffect hnext ih =>
      rw [hnext, Run.commands_push, List.pairwise_append]
      refine ⟨ih, ?_, ?_⟩
      · cases outcome.command? <;> simp
      · intro c hc d hd
        have hcle := (Run.line_of_mem_commands hc).2
        obtain ⟨own, -, -, hline⟩ := heffect.command_line (Option.mem_toList.1 hd)
        omega

theorem countP_words {number : Int} {command : Command} {ds : List Diagnostic}
    (hread : readLine number line = .motion command ds) :
    ds.countP Diagnostic.isRedundantMove = 0 ∧ ds.countP Diagnostic.isDuplicateToolpath = 0 := by
  rw [List.countP_eq_zero, List.countP_eq_zero]
  refine ⟨fun d hd => ?_, fun d hd => ?_⟩
  · rw [(kind_of_mem_words hread hd).2.2.1]
    decide
  · rw [(kind_of_mem_words hread hd).2.2.2]
    decide

/-- A motion gives a command, or else one report of a redundant move. -/
theorem length_command_add_countP_redundant {machine after : Machine} {number : Int}
    {outcome : Outcome} (heffect : machine.Effect settings number line outcome after)
    {command : Command} {ds : List Diagnostic} (hread : readLine number line = .motion command ds) :
    outcome.command?.toList.length + outcome.diagnostics.countP Diagnostic.isRedundantMove = 1 := by
  obtain ⟨-, rfl⟩ | ⟨extra, segments, haccepts, rfl⟩ := heffect.of_motion hread
  · rw [Outcome.diagnostics, List.countP_append, (countP_words hread).1, List.countP_singleton,
      Diagnostic.isRedundantMove_mk]
    rfl
  · rw [Outcome.diagnostics, List.countP_append, (countP_words hread).1]
    cases haccepts with
    | first => rfl
    | duplicate =>
        rw [List.countP_singleton, Diagnostic.isRedundantMove_eq_false rfl (by simp)]
        rfl
    | fresh => rfl

/-- **A motion is recorded or reported as redundant**, and only once. -/
theorem countP_commands_add_countP_redundant (settings : Settings) (lines : List String)
    {motion : Command} (h : motion ∈ motions lines) :
    (Run.ofLines settings lines).commands.countP (fun command => command.line == motion.line) +
      ((analyzeLines settings lines).diagnosticsAt motion.line).countP
        Diagnostic.isRedundantMove = 1 := by
  induction lines using Run.lines_induction settings with
  | nil => cases h
  | concat lines line outcome after heffect hnext ih =>
      rw [hnext, Run.commands_push, List.countP_append]
      rw [motions_concat] at h
      rcases List.mem_append.1 h with h | h
      · -- the last line is neither recorded nor reported at the number of an earlier one
        obtain ⟨hpos, hle⟩ := line_of_mem_motions h
        have hnew : outcome.command?.toList.countP
            (fun command => command.line == motion.line) = 0 := by
          refine List.countP_eq_zero.2 fun command hcommand => ?_
          obtain ⟨own, -, -, hline⟩ := heffect.command_line (Option.mem_toList.1 hcommand)
          rw [hline, beq_iff_eq]
          omega
        rw [hnew, Nat.add_zero, diagnosticsAt_concat_of_le settings lines line hpos hle]
        exact ih h
      · -- no earlier command is at the number of the last line
        obtain ⟨ds, hread⟩ := exists_readLine (Option.mem_toList.1 h)
        rw [line_of_readLine hread, diagnosticsAt_last heffect hnext]
        have hold : (Run.ofLines settings lines).commands.countP
            (fun command => command.line == (lines.length + 1 : Int)) = 0 := by
          refine List.countP_eq_zero.2 fun command hcommand => ?_
          have := (Run.line_of_mem_commands hcommand).2
          rw [beq_iff_eq]
          omega
        have hnew : outcome.command?.toList.countP
            (fun command => command.line == (lines.length + 1 : Int)) =
              outcome.command?.toList.length := by
          refine List.countP_eq_length.2 fun command hcommand => ?_
          obtain ⟨own, -, -, hline⟩ := heffect.command_line (Option.mem_toList.1 hcommand)
          rw [hline, beq_self_eq_true]
        rw [hold, hnew, Nat.zero_add]
        exact length_command_add_countP_redundant heffect hread

/-- The first motion gives the first command, and its move is not reported. -/
theorem head?_commands (settings : Settings) (lines : List String) {motion : Command}
    (h : (motions lines).head? = some motion) :
    (Run.ofLines settings lines).commands.head?.map Command.line = some motion.line ∧
      (analyzeLines settings lines).reportsMoveAt motion.line = false := by
  induction lines using Run.lines_induction settings with
  | nil => cases h
  | concat lines line outcome after heffect hnext ih =>
      rw [hnext, Run.commands_push, List.head?_append, Analysis.reportsMoveAt]
      rw [motions_concat, List.head?_append] at h
      cases hfirst : (motions lines).head? with
      | some first =>
          rw [hfirst, Option.some_or] at h
          obtain ⟨hpos, hle⟩ := line_of_mem_motions (List.mem_of_mem_head? (hfirst.trans h))
          obtain ⟨hcommand, hreport⟩ := ih (hfirst.trans h)
          obtain ⟨command, hhead, hline⟩ := Option.map_eq_some_iff.1 hcommand
          rw [hhead, Option.some_or, Option.map_some, hline,
            diagnosticsAt_concat_of_le settings lines line hpos hle]
          exact ⟨rfl, hreport⟩
      | none =>
          -- the last line is the first motion, so that nothing is recorded before it
          have hempty : motions lines = [] := List.head?_eq_none_iff.1 hfirst
          have hunmoved := Run.hasMoved_ofLines settings lines
          rw [hempty] at hunmoved
          rw [hfirst, Option.none_or] at h
          obtain ⟨ds, hread⟩ := exists_readLine (Option.mem_toList.1 (List.mem_of_mem_head? h))
          have hline := line_of_readLine hread
          rw [hline, diagnosticsAt_last heffect hnext, commands_eq_nil hempty]
          rw [heffect.eq_recorded_of_first hunmoved hread, Outcome.diagnostics,
            any_words_eq_false hread]
          exact ⟨congrArg some hline, rfl⟩

/-- A line that gives a command starts the motion, is a duplicate or cuts a segment that is
remembered, and no other line does. -/
theorem length_command_add_size {machine after : Machine} {number : Int} {outcome : Outcome}
    (heffect : machine.Effect settings number line outcome after) :
    machine.tool.hasMoved.toNat + outcome.command?.toList.length + machine.segments.size =
      after.tool.hasMoved.toNat + outcome.diagnostics.countP Diagnostic.isDuplicateToolpath +
        after.segments.size := by
  cases heffect with
  | idle => rfl
  | unreadable =>
      rw [Outcome.diagnostics, List.countP_singleton,
        Diagnostic.isDuplicateToolpath_eq_false rfl (by simp)]
      rfl
  | dropped hread hmoved =>
      rw [Outcome.diagnostics, List.countP_append, (countP_words hread).2, List.countP_singleton,
        Diagnostic.isDuplicateToolpath_eq_false rfl (by simp), hmoved]
      rfl
  | recorded hread haccepts =>
      rw [Outcome.diagnostics, List.countP_append, (countP_words hread).2]
      cases haccepts with
      | first hmoved =>
          rw [hmoved]
          rfl
      | duplicate hmoved =>
          rw [hmoved, List.countP_singleton, Diagnostic.isDuplicateToolpath_mk]
          rfl
      | fresh hmoved =>
          rw [hmoved, SegmentIndex.size_insert, Nat.add_comm machine.segments.size 1,
            ← Nat.add_assoc]
          rfl

/-- The commands of a run are its first one, the duplicates, and those whose segments are
remembered. -/
theorem length_commands (settings : Settings) (lines : List String) :
    (Run.ofLines settings lines).commands.length =
      (Run.ofLines settings lines).machine.tool.hasMoved.toNat +
        (Run.ofLines settings lines).diagnostics.countP Diagnostic.isDuplicateToolpath +
          (Run.ofLines settings lines).machine.segments.size := by
  induction lines using Run.lines_induction settings with
  | nil => rfl
  | concat lines line outcome after heffect hnext ih =>
      have hstep := length_command_add_size heffect
      rw [hnext, Run.commands_push, Run.diagnostics_push, Run.machine_push, List.length_append,
        List.countP_append]
      omega

/-! ### The whole program -/

/-- What an analysis owes to the lines of its program. -/
structure Accounted (lines : List String) (analysis : Analysis) (segmentCount : Nat) : Prop where
  /-- Every line is counted. -/
  lineCount_eq : analysis.lineCount = lines.length
  /-- The commands are at increasing lines. -/
  commands_increasing : analysis.commands.Pairwise fun c d => c.line < d.line
  /-- A motion gives one command at its line or is reported once as redundant, and not both. -/
  motion_once : ∀ motion ∈ motions lines,
    analysis.commands.countP (fun command => command.line == motion.line) +
      (analysis.diagnosticsAt motion.line).countP Diagnostic.isRedundantMove = 1
  /-- No other line gives a command. -/
  command_of_motion : ∀ command ∈ analysis.commands,
    ∃ motion ∈ motions lines, motion.line = command.line
  /-- The first motion gives the first command, and is neither redundant nor a duplicate. -/
  first_motion : ∀ motion, (motions lines).head? = some motion →
    analysis.commands.head?.map Command.line = some motion.line ∧
      analysis.reportsMoveAt motion.line = false
  /-- The commands after the first one are duplicates or cut the segments that are counted. -/
  commands_length : motions lines ≠ [] → analysis.commands.length =
    1 + analysis.diagnostics.countP Diagnostic.isDuplicateToolpath + segmentCount
  /-- The diagnostics follow the lines; a program without motion is reported after them. -/
  diagnostics_eq : analysis.diagnostics =
    ((List.range lines.length).flatMap fun (index : Nat) => analysis.diagnosticsAt (index + 1)) ++
      if motions lines = [] then [⟨Analysis.wholeProgram, .noMovement⟩] else []
  /-- At a line stands what can be reported about it. -/
  line_report : ∀ (index : Nat) (h : index < lines.length),
    LineReport (index + 1) lines[index] (analysis.diagnosticsAt (index + 1))

/-- **Every line is accounted for.** -/
theorem accounted_analyzeLines (settings : Settings) (lines : List String) :
    Accounted lines (analyzeLines settings lines)
      (Run.ofLines settings lines).machine.segments.size where
  lineCount_eq := congrArg Nat.cast (Run.size_outcomes_ofLines settings lines)
  commands_increasing := pairwise_commands settings lines
  motion_once _ hmotion := countP_commands_add_countP_redundant settings lines hmotion
  command_of_motion _ hcommand := exists_motion_of_mem_commands hcommand
  first_motion _ hmotion := head?_commands settings lines hmotion
  commands_length hmotions := by
    have hlength := length_commands settings lines
    rw [Run.hasMoved_ofLines, List.isEmpty_eq_false_iff.2 hmotions] at hlength
    rw [diagnostics_analyzeLines, if_neg hmotions, List.append_nil]
    exact hlength
  diagnostics_eq := by
    rw [diagnostics_analyzeLines, diagnostics_eq_flatMap]
  line_report := lineReport_at settings lines

end Toolpath
