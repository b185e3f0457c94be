/-
**All that a line can do.**

A line is passed over, cannot be read, moves the tool nowhere, or gives a command; and a command is
the first of its program, retraces a segment, or cuts one for the first time.  This module lists
these cases once, with everything that changes in each, and derives what holds after any lines from
one look at the cases.

Main definitions:

* `Toolpath.Machine.Accepts` — the ways in which a move becomes a command;
* `Toolpath.Machine.Effect` — the ways in which a line changes the machine.

Main results:

* `Toolpath.Machine.effect_step` — a step has one of the listed effects;
* `Toolpath.Run.exists_effect` — one more line has one of the listed effects on a run;
* `Toolpath.Run.bounds_ofLines` — the box of a run is that around the ends of its commands;
* `Toolpath.Run.tool_ofLines` — **the tool follows every motion**, whatever becomes of it;
* `Toolpath.Run.line_of_mem_commands`, `Toolpath.Run.kind_of_mem_diagnostics` — commands and
  diagnostics name a line of the program;
* `Toolpath.Run.exists_own_of_mem_commands` — a command asks for a motion of the program.
-/

import Toolpath.Analysis
import Toolpath.Proofs.Reading

set_option relaxedAutoImplicit false
set_option autoImplicit false

namespace Toolpath

namespace Machine

/-! ### One step -/

/-- The command that is recorded for a motion: it ends where the tool goes, and it inherits the
feed rate that waits. -/
def recordedCommand (machine : Machine) (command : Command) : Command :=
  { machine.tool.resolve command with inheritedFeed := machine.pendingFeed }

/-- The ways in which a move along a segment becomes a command: what there is to report about it,
and the segments after it. -/
inductive Accepts (settings : Settings) (machine : Machine) (s : Segment) (number : Int) :
    List Diagnostic → SegmentIndex → Prop
  /-- The first move is not judged. -/
  | first (hmoved : machine.tool.hasMoved = false) :
      Accepts settings machine s number [] machine.segments
  /-- The segment was cut before. -/
  | duplicate {first : Int} (hmoved : machine.tool.hasMoved = true)
      (hfar : s.start.near settings.positionTolerance s.finish = false)
      (hfirst : machine.segments.firstLine? settings.positionTolerance s = some first) :
      Accepts settings machine s number
        [⟨number, .duplicateToolpath s.start s.finish first⟩] machine.segments
  /-- The segment is cut for the first time, and remembered. -/
  | fresh (hmoved : machine.tool.hasMoved = true)
      (hfar : s.start.near settings.positionTolerance s.finish = false)
      (hnone : machine.segments.firstLine? settings.positionTolerance s = none) :
      Accepts settings machine s number []
        (machine.segments.insert settings.positionTolerance ⟨s, number⟩)

/-- The ways in which a line changes the machine, and what comes of the line. -/
inductive Effect (settings : Settings) (machine : Machine) (number : Int) (line : String) :
    Outcome → Machine → Prop
  /-- The line asks for no motion. -/
  | idle {looseWords : Bool} (hread : readLine number line = .idle looseWords) :
      Effect settings machine number line (.idle looseWords) machine
  /-- The line cannot be read. -/
  | unreadable {reason : NumberError} (hread : readLine number line = .unreadable reason) :
      Effect settings machine number line (.unreadable number reason) machine
  /-- The motion has no length. -/
  | dropped {command : Command} {ds : List Diagnostic}
      (hread : readLine number line = .motion command ds)
      (hmoved : machine.tool.hasMoved = true)
      (hnear : machine.tool.position.near settings.positionTolerance
        (machine.tool.target command.parameters) = true) :
      Effect settings machine number line
        (.dropped (ds ++ [⟨number, .redundantMove (machine.tool.target command.parameters)⟩]))
        ⟨machine.tool.move command.parameters, machine.segments,
          (positiveRate? command.parameters.f).or machine.pendingFeed⟩
  /-- The motion gives a command. -/
  | recorded {command : Command} {ds extra : List Diagnostic} {segments : SegmentIndex}
      (hread : readLine number line = .motion command ds)
      (haccepts : machine.Accepts settings (machine.segment command) number extra segments) :
      Effect settings machine number line
        (.recorded (machine.recordedCommand command) (ds ++ extra))
        ⟨machine.tool.move command.parameters, segments, none⟩

theorem effect_perform {settings : Settings} {machine : Machine} {number : Int} {line : String}
    {command : Command} {ds : List Diagnostic} (hread : readLine number line = .motion command ds) :
    machine.Effect settings number line (machine.perform settings command ds).1
      (machine.perform settings command ds).2 := by
  have hline := line_of_readLine hread
  -- a move is judged only after the first one, first by its length and then by the index
  cases hmoved : machine.tool.hasMoved with
  | false =>
      have haccepts : machine.Accepts settings (machine.segment command) number []
          machine.segments := .first hmoved
      simpa [perform, judge, hmoved, Verdict.cause?, recordedCommand] using
        Effect.recorded hread haccepts
  | true =>
      cases hnear : machine.tool.position.near settings.positionTolerance
          (machine.tool.target command.parameters) with
      | true =>
          simpa [perform, judge, hmoved, SegmentIndex.judge, segment, hnear, Verdict.cause?,
            hline] using Effect.dropped hread hmoved hnear
      | false =>
          cases hfirst : machine.segments.firstLine? settings.positionTolerance
              (machine.segment command) with
          | some first =>
              have haccepts : machine.Accepts settings (machine.segment command) number _
                  machine.segments := .duplicate hmoved hnear hfirst
              simp only [segment] at hfirst
              simpa [perform, judge, hmoved, SegmentIndex.judge, segment, hnear, hfirst,
                Verdict.cause?, recordedCommand, hline] using Effect.recorded hread haccepts
          | none =>
              have haccepts : machine.Accepts settings (machine.segment command) number []
                  _ := .fresh hmoved hnear hfirst
              simp only [segment] at hfirst
              simpa [perform, judge, hmoved, SegmentIndex.judge, segment, hnear, hfirst,
                Verdict.cause?, recordedCommand, hline] using Effect.recorded hread haccepts

/-- **A step has one of the listed effects.** -/
theorem effect_step (settings : Settings) (machine : Machine) (number : Int) (line : String) :
    machine.Effect settings number line (machine.step settings number line).1
      (machine.step settings number line).2 := by
  cases hread : readLine number line with
  | idle looseWords =>
      rw [step_of_idle hread]
      exact Effect.idle hread
  | unreadable reason =>
      rw [step_of_unreadable hread]
      exact Effect.unreadable hread
  | motion command ds =>
      rw [step_of_motion hread]
      exact effect_perform hread

/-! ### What all effects have in common -/

namespace Effect

variable {settings : Settings} {machine after : Machine} {number : Int} {line : String}
  {outcome : Outcome}

/-- The tool follows the motion of the line, whatever becomes of it. -/
theorem tool_eq (h : machine.Effect settings number line outcome after) :
    after.tool = (readLine number line).command?.toList.foldl
      (fun tool command => tool.move command.parameters) machine.tool := by
  cases h with
  | idle hread => rw [hread]; rfl
  | unreadable hread => rw [hread]; rfl
  | dropped hread => rw [hread]; rfl
  | recorded hread => rw [hread]; rfl

/-- A motion is dropped, or it gives a command. -/
theorem of_motion (h : machine.Effect settings number line outcome after) {command : Command}
    {ds : List Diagnostic} (hread : readLine number line = .motion command ds) :
    (machine.tool.hasMoved = true ∧ outcome = .dropped
        (ds ++ [⟨number, .redundantMove (machine.tool.target command.parameters)⟩])) ∨
      ∃ extra segments, machine.Accepts settings (machine.segment command) number extra segments ∧
        outcome = .recorded (machine.recordedCommand command) (ds ++ extra) := by
  cases h with
  | idle hidle => simp [hidle] at hread
  | unreadable hunreadable => simp [hunreadable] at hread
  | dropped hdropped hmoved =>
      obtain ⟨rfl, rfl⟩ := Reading.motion.inj (hdropped.symm.trans hread)
      exact Or.inl ⟨hmoved, rfl⟩
  | recorded hrecorded haccepts =>
      obtain ⟨rfl, rfl⟩ := Reading.motion.inj (hrecorded.symm.trans hread)
      exact Or.inr ⟨_, _, haccepts, rfl⟩

/-- The first motion gives a command, and its move is not reported. -/
theorem eq_recorded_of_first (h : machine.Effect settings number line outcome after)
    (hunmoved : machine.tool.hasMoved = false) {command : Command} {ds : List Diagnostic}
    (hread : readLine number line = .motion command ds) :
    outcome = .recorded (machine.recordedCommand command) ds := by
  obtain ⟨hmoved, -⟩ | ⟨extra, segments, haccepts, rfl⟩ := h.of_motion hread
  · simp [hunmoved] at hmoved
  · cases haccepts with
    | first => rw [List.append_nil]
    | duplicate hmoved => simp [hunmoved] at hmoved
    | fresh hmoved => simp [hunmoved] at hmoved

/-- A command comes from the motion of the line, at the same number. -/
theorem command_line (h : machine.Effect settings number line outcome after) {command : Command}
    (hcommand : command ∈ outcome.command?) :
    ∃ own ∈ (readLine number line).command?, own.line = number ∧ command.line = number := by
  cases h with
  | idle => cases hcommand
  | unreadable => cases hcommand
  | dropped => cases hcommand
  | recorded hread =>
      have hline := line_of_readLine hread
      cases hcommand
      exact ⟨_, by rw [hread]; rfl, hline, hline⟩

/-- A command asks for the motion of the line, with its parameters. -/
theorem command_own (h : machine.Effect settings number line outcome after) {command : Command}
    (hcommand : command ∈ outcome.command?) :
    ∃ own ∈ (readLine number line).command?, command.motion = own.motion ∧
      command.parameters = own.parameters := by
  cases h with
  | idle => cases hcommand
  | unreadable => cases hcommand
  | dropped => cases hcommand
  | @recorded own ds extra segments hread =>
      cases hcommand
      exact ⟨own, by rw [hread]; rfl, rfl, rfl⟩

/-- A diagnostic names the line, and is no note. -/
theorem diagnostic_line (h : machine.Effect settings number line outcome after) {d : Diagnostic}
    (hd : d ∈ outcome.diagnostics) : d.line = number ∧ d.cause.isNote = false := by
  cases h with
  | idle => cases hd
  | unreadable =>
      obtain rfl := List.mem_singleton.1 hd
      exact ⟨rfl, rfl⟩
  | dropped hread =>
      rcases List.mem_append.1 hd with hd | hd
      · exact ⟨(kind_of_mem_words hread hd).1, (kind_of_mem_words hread hd).2.1⟩
      · obtain rfl := List.mem_singleton.1 hd
        exact ⟨rfl, rfl⟩
  | recorded hread haccepts =>
      rcases List.mem_append.1 hd with hd | hd
      · exact ⟨(kind_of_mem_words hread hd).1, (kind_of_mem_words hread hd).2.1⟩
      · cases haccepts with
        | first => cases hd
        | duplicate =>
            obtain rfl := List.mem_singleton.1 hd
            exact ⟨rfl, rfl⟩
        | fresh => cases hd

/-- A report of a duplicate comes from a motion whose segment was found. -/
theorem of_duplicate (h : machine.Effect settings number line outcome after) {d : Diagnostic}
    (hd : d ∈ outcome.diagnostics) (hkind : d.isDuplicateToolpath = true) :
    ∃ command ds first, readLine number line = .motion command ds ∧
      machine.segments.firstLine? settings.positionTolerance (machine.segment command) =
        some first ∧
      d = ⟨number, .duplicateToolpath (machine.segment command).start
        (machine.segment command).finish first⟩ := by
  cases h with
  | idle => cases hd
  | unreadable =>
      obtain rfl := List.mem_singleton.1 hd
      rw [Diagnostic.isDuplicateToolpath_eq_false rfl (by simp)] at hkind
      cases hkind
  | dropped hread =>
      rcases List.mem_append.1 hd with hd | hd
      · simp [(kind_of_mem_words hread hd).2.2.2] at hkind
      · obtain rfl := List.mem_singleton.1 hd
        rw [Diagnostic.isDuplicateToolpath_eq_false rfl (by simp)] at hkind
        cases hkind
  | recorded hread haccepts =>
      rcases List.mem_append.1 hd with hd | hd
      · simp [(kind_of_mem_words hread hd).2.2.2] at hkind
      · cases haccepts with
        | first => cases hd
        | duplicate hmoved hfar hfirst =>
            exact ⟨_, _, _, hread, hfirst, List.mem_singleton.1 hd⟩
        | fresh => cases hd

end Effect

end Machine

/-! ### Any number of steps -/

namespace Run

variable {settings : Settings}

/-- **One more line has one of the listed effects on a run.** -/
theorem exists_effect (settings : Settings) (lines : List String) (line : String) :
    ∃ outcome machine,
      (ofLines settings lines).machine.Effect settings (lines.length + 1) line outcome machine ∧
        ofLines settings (lines ++ [line]) = (ofLines settings lines).push outcome machine := by
  refine ⟨_, _, Machine.effect_step settings (ofLines settings lines).machine
    (lines.length + 1) line, ?_⟩
  rw [ofLines_concat, next, size_outcomes_ofLines]

/-- **Induction over the lines of a program**: what holds without lines, and goes over to one more
line whatever effect that has, holds of all lines. -/
theorem lines_induction (settings : Settings) {motive : List String → Prop} (nil : motive [])
    (concat : ∀ lines line outcome after,
      (ofLines settings lines).machine.Effect settings (lines.length + 1) line outcome after →
      ofLines settings (lines ++ [line]) = (ofLines settings lines).push outcome after →
      motive lines → motive (lines ++ [line]))
    (lines : List String) : motive lines := by
  induction lines using List.reverseRecOn with
  | nil => exact nil
  | append_singleton lines line ih =>
      obtain ⟨outcome, after, heffect, hnext⟩ := exists_effect settings lines line
      exact concat lines line outcome after heffect hnext ih

theorem commands_push (run : Run) (outcome : Outcome) (machine : Machine) :
    (run.push outcome machine).commands = run.commands ++ outcome.command?.toList := by
  simp only [commands, outcomes_push, Array.toList_push, List.filterMap_append,
    List.filterMap_cons, List.filterMap_nil]
  cases outcome.command? <;> rfl

theorem diagnostics_push (run : Run) (outcome : Outcome) (machine : Machine) :
    (run.push outcome machine).diagnostics = run.diagnostics ++ outcome.diagnostics := by
  simp [diagnostics]

theorem bounds_push (run : Run) (outcome : Outcome) (machine : Machine) :
    (run.push outcome machine).bounds =
      (outcome.command?.toList.map Command.finish).foldl Bounds.grow run.bounds := by
  rw [push]
  cases outcome.command? <;> rfl

/-- The box is that around the ends of the commands. -/
theorem bounds_ofLines (settings : Settings) (lines : List String) :
    (ofLines settings lines).bounds =
      Bounds.around ((ofLines settings lines).commands.map Command.finish) := by
  induction lines using lines_induction settings with
  | nil => rfl
  | concat lines line outcome after heffect hnext ih =>
      rw [hnext, bounds_push, commands_push, ih, List.map_append, Bounds.around_append]

/-- **The tool follows every motion**, whatever becomes of it. -/
theorem tool_ofLines (settings : Settings) (lines : List String) :
    (ofLines settings lines).machine.tool =
      (motions lines).foldl (fun tool command => tool.move command.parameters) Tool.start := by
  induction lines using lines_induction settings with
  | nil => rfl
  | concat lines line outcome after heffect hnext ih =>
      rw [hnext, motions_concat, List.foldl_append, ← ih]
      exact heffect.tool_eq

/-- The tool has moved once there is a motion. -/
theorem hasMoved_ofLines (settings : Settings) (lines : List String) :
    (ofLines settings lines).machine.tool.hasMoved = !(motions lines).isEmpty := by
  rw [tool_ofLines]
  rcases List.eq_nil_or_concat (motions lines) with h | ⟨earlier, last, h⟩
  · rw [h]; rfl
  · simp [h]

/-- A command is at a line of the program. -/
theorem line_of_mem_commands {lines : List String} {command : Command}
    (h : command ∈ (ofLines settings lines).commands) :
    1 ≤ command.line ∧ command.line ≤ lines.length := by
  induction lines using lines_induction settings with
  | nil => cases h
  | concat lines line outcome after heffect hnext ih =>
      rw [hnext, commands_push] at h
      rw [List.length_append, List.length_singleton]
      rcases List.mem_append.1 h with h | h
      · have := ih h
        omega
      · obtain ⟨own, -, -, hline⟩ := heffect.command_line (Option.mem_toList.1 h)
        omega

/-- A command asks for a motion of the program, with its parameters. -/
theorem exists_own_of_mem_commands {lines : List String} {command : Command}
    (h : command ∈ (ofLines settings lines).commands) :
    ∃ own ∈ motions lines, command.motion = own.motion ∧
      command.parameters = own.parameters := by
  induction lines using lines_induction settings with
  | nil => cases h
  | concat lines line outcome after heffect hnext ih =>
      rw [hnext, commands_push] at h
      rw [motions_concat]
      rcases List.mem_append.1 h with h | h
      · obtain ⟨own, hown, hsame⟩ := ih h
        exact ⟨own, List.mem_append_left _ hown, hsame⟩
      · obtain ⟨own, hown, hsame⟩ := heffect.command_own (Option.mem_toList.1 h)
        exact ⟨own, List.mem_append_right _ (Option.mem_toList.2 hown), hsame⟩

/-- A diagnostic is about a line of the program, and is no note. -/
theorem kind_of_mem_diagnostics {lines : List String} {d : Diagnostic}
    (h : d ∈ (ofLines settings lines).diagnostics) :
    1 ≤ d.line ∧ d.line ≤ lines.length ∧ d.cause.isNote = false := by
  induction lines using lines_induction settings with
  | nil => cases h
  | concat lines line outcome after heffect hnext ih =>
      rw [hnext, diagnostics_push] at h
      rw [List.length_append, List.length_singleton]
      rcases List.mem_append.1 h with h | h
      · obtain ⟨hpos, hle, hnote⟩ := ih h
        exact ⟨hpos, by omega, hnote⟩
      · obtain ⟨hline, hnote⟩ := heffect.diagnostic_line h
        exact ⟨by omega, by omega, hnote⟩

end Run

end Toolpath
