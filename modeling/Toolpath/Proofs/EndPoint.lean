/-
**Where the commands of a program end.**

A command ends, on every axis, at the last coordinate that the motions up to its line give; an axis
for which there is none is still at zero.  It makes no difference what became of these motions:
those that were dropped have moved the tool all the same.

Main definitions:

* `Toolpath.coordinates` — the coordinates that the motions up to a line give on an axis;
* `Toolpath.EndsAsWritten` — a command ends where the lines say.

Main results:

* `Toolpath.motions_take`, `Toolpath.Run.commands_take` — the first lines give what the whole
  program gives up to their number;
* `Toolpath.Run.position_ofLines` — the tool is where the last coordinates are;
* `Toolpath.endsAsWritten` — **every command ends where the lines say**.
-/

import Toolpath.Proofs.Box
import Toolpath.Proofs.Effect
import Toolpath.Proofs.LastWord

set_option relaxedAutoImplicit false
set_option autoImplicit false

namespace Toolpath

/-! ### Coordinates -/

/-- The parameter that gives the coordinate on an axis. -/
def Axis.address : Axis → Address
  | .x => .x
  | .y => .y
  | .z => .z

theorem Tool.target_on (tool : Tool) (parameters : Parameters) (axis : Axis) :
    (tool.target parameters).on axis =
      (parameters.get axis.address).getD (tool.position.on axis) := by
  cases axis <;> rfl

/-! ### The first lines of a program -/

/-- What is listed line by line is listed for the first lines up to their number. -/
theorem listing_take {listing : List String → List Command} (hnil : listing [] = [])
    (hconcat : ∀ lines line, ∃ new, listing (lines ++ [line]) = listing lines ++ new ∧
      ∀ command ∈ new, command.line = lines.length + 1)
    (lines : List String) (count : Nat) :
    listing (lines.take count) =
      (listing lines).filter fun command => command.line ≤ (count : Int) := by
  have hle : ∀ lines : List String, ∀ command ∈ listing lines, command.line ≤ lines.length := by
    intro lines
    induction lines using List.reverseRecOn with
    | nil => simp [hnil]
    | append_singleton lines line ih =>
        obtain ⟨new, hnew, hline⟩ := hconcat lines line
        intro command hcommand
        rw [hnew] at hcommand
        rw [cast_length_concat]
        rcases List.mem_append.1 hcommand with hcommand | hcommand
        · have := ih command hcommand
          omega
        · exact Int.le_of_eq (hline command hcommand)
  induction lines using List.reverseRecOn with
  | nil => simp [hnil]
  | append_singleton lines line ih =>
      by_cases hcount : count ≤ lines.length
      · -- the last line is not among the first ones
        obtain ⟨new, hnew, hline⟩ := hconcat lines line
        have hlate : new.filter (fun command => command.line ≤ (count : Int)) = [] := by
          refine List.filter_eq_nil_iff.2 fun command hcommand => ?_
          rw [hline command hcommand, decide_eq_true_eq]
          omega
        rw [List.take_append_of_le_length hcount, ih, hnew, List.filter_append, hlate,
          List.append_nil]
      · have hlength : (lines ++ [line]).length ≤ count := by
          rw [List.length_append, List.length_singleton]
          omega
        rw [List.take_of_length_le hlength]
        refine (List.filter_eq_self.2 fun command hcommand => ?_).symm
        have := hle _ command hcommand
        rw [decide_eq_true_eq]
        omega

/-- The first lines ask for the motions up to their number. -/
theorem motions_take (lines : List String) (count : Nat) :
    motions (lines.take count) =
      (motions lines).filter fun command => command.line ≤ (count : Int) := by
  refine listing_take motions_nil (fun lines line => ⟨_, motions_concat lines line, ?_⟩) lines count
  intro command hcommand
  obtain ⟨ds, hread⟩ := exists_readLine (Option.mem_toList.1 hcommand)
  exact line_of_readLine hread

namespace Run

variable {settings : Settings} {lines : List String}

/-- One more line adds commands at its own number only. -/
theorem commands_concat (settings : Settings) (lines : List String) (line : String) :
    ∃ new, (ofLines settings (lines ++ [line])).commands =
        (ofLines settings lines).commands ++ new ∧
      ∀ command ∈ new, command.line = lines.length + 1 := by
  obtain ⟨outcome, after, heffect, hnext⟩ := exists_effect settings lines line
  refine ⟨outcome.command?.toList, by rw [hnext, commands_push], fun command hcommand => ?_⟩
  obtain ⟨own, -, -, hline⟩ := heffect.command_line (Option.mem_toList.1 hcommand)
  exact hline

/-- The first lines give the commands up to their number. -/
theorem commands_take (settings : Settings) (lines : List String) (count : Nat) :
    (ofLines settings (lines.take count)).commands =
      (ofLines settings lines).commands.filter fun command => command.line ≤ (count : Int) :=
  @listing_take (fun lines => (ofLines settings lines).commands) rfl (commands_concat settings)
    lines count

/-! ### Where the tool is -/

/-- **The tool is where the last coordinates are.** -/
theorem position_ofLines (settings : Settings) (lines : List String) (axis : Axis) :
    (ofLines settings lines).machine.tool.position.on axis =
      ((motions lines).filterMap fun command =>
        command.parameters.get axis.address).getLast?.getD 0 := by
  rw [tool_ofLines]
  induction motions lines using List.reverseRecOn with
  | nil =>
      rw [List.foldl_nil, List.filterMap_nil, List.getLast?_nil, Option.getD_none]
      exact Point.diagonal_on 0 axis
  | append_singleton commands command ih =>
      rw [List.foldl_append, List.foldl_cons, List.foldl_nil, Tool.position_move, Tool.target_on,
        ih, List.filterMap_append, List.getLast?_append, List.filterMap_cons, List.filterMap_nil]
      cases command.parameters.get axis.address with
      | some value => rw [Option.getD_some]; rfl
      | none => rw [Option.getD_none]; rfl

end Run

/-- A motion gives, for every parameter, the last finite number of the words on its line. -/
theorem get_of_mem_motions {lines : List String} {command : Command} (h : command ∈ motions lines) :
    ∃ (index : Nat) (line : String), lines[index]? = some line ∧ command.line = index + 1 ∧
      ∀ address, command.parameters.get address =
        (valuesFor address (lineWords line)).getLast? := by
  obtain ⟨index, line, hline, hnumber, ds, hread⟩ := exists_line_of_mem_motions h
  refine ⟨index, line, hline, hnumber, fun address => ?_⟩
  rw [parameters_of_readLine hread, Parameters.get_ofWords]

/-- A coordinate that a motion gives is finite. -/
theorem isFinite_of_mem_motions {lines : List String} {command : Command}
    (h : command ∈ motions lines) {address : Address} {value : Binary64}
    (hvalue : command.parameters.get address = some value) : value.isFinite = true := by
  obtain ⟨index, line, -, -, hget⟩ := get_of_mem_motions h
  rw [hget] at hvalue
  exact isFinite_of_mem_valuesFor (List.mem_of_getLast? hvalue)

/-- The tool never leaves the finite coordinates. -/
theorem Run.isFinite_position (settings : Settings) (lines : List String) (axis : Axis) :
    ((ofLines settings lines).machine.tool.position.on axis).isFinite = true := by
  rw [position_ofLines]
  cases hlast : ((motions lines).filterMap fun command =>
      command.parameters.get axis.address).getLast? with
  | none => rw [Option.getD_none, Binary64.isFinite_zero]
  | some value =>
      obtain ⟨command, hcommand, hvalue⟩ := List.mem_filterMap.1 (List.mem_of_getLast? hlast)
      exact isFinite_of_mem_motions hcommand hvalue

/-! ### Where the commands end -/

namespace Run

/-- A command ends where the tool is after the lines up to its own. -/
theorem finish_of_mem_commands {settings : Settings} {lines : List String} {command : Command}
    (h : command ∈ (ofLines settings lines).commands) :
    command.finish =
      (ofLines settings (lines.take command.line.toNat)).machine.tool.position := by
  induction lines using lines_induction settings with
  | nil => cases h
  | concat lines line outcome after heffect hnext ih =>
      rw [hnext, commands_push] at h
      rcases List.mem_append.1 h with h | h
      · have hle : command.line.toNat ≤ lines.length := by
          have := line_of_mem_commands h
          omega
        rw [List.take_append_of_le_length hle]
        exact ih h
      · obtain ⟨own, -, -, hline⟩ := heffect.command_line (Option.mem_toList.1 h)
        have hle : (lines ++ [line]).length ≤ command.line.toNat := by
          rw [List.length_append, List.length_singleton]
          omega
        rw [List.take_of_length_le hle, hnext]
        cases heffect with
        | idle => cases h
        | unreadable => cases h
        | dropped => cases h
        | recorded =>
            obtain rfl := List.mem_singleton.1 h
            rfl

/-- Every command ends at finite coordinates. -/
theorem isFinite_finish {settings : Settings} {lines : List String} {command : Command}
    (h : command ∈ (ofLines settings lines).commands) (axis : Axis) :
    (command.finish.on axis).isFinite = true := by
  rw [finish_of_mem_commands h]
  exact isFinite_position settings _ axis

/-- Every command ends in the box. -/
theorem contains_finish {settings : Settings} {lines : List String} {command : Command}
    (h : command ∈ (ofLines settings lines).commands) :
    (ofLines settings lines).bounds.Contains command.finish := by
  rw [bounds_ofLines]
  exact Bounds.around_contains (List.mem_map_of_mem h) (isFinite_finish h)

end Run

/-- The coordinates that the motions up to a line give on an axis, in their order. -/
def coordinates (axis : Axis) (lines : List String) (number : Int) : List Binary64 :=
  ((motions lines).filter fun motion => motion.line ≤ number).filterMap fun motion =>
    motion.parameters.get axis.address

/-- A command ends where the lines of its program say. -/
structure EndsAsWritten (lines : List String) (command : Command) : Prop where
  /-- On every axis it ends at the last coordinate that the motions up to its line give, whatever
  became of them, and at zero if there is none. -/
  finish_eq : ∀ axis, command.finish.on axis =
    (coordinates axis lines command.line).getLast?.getD 0
  /-- It ends at finite coordinates. -/
  finish_finite : ∀ axis, (command.finish.on axis).isFinite = true
  /-- A motion gives the last finite number of the words on its line; words whose numbers are too
  large give nothing. -/
  words_eq : ∀ motion ∈ motions lines, ∃ (index : Nat) (line : String),
    lines[index]? = some line ∧ motion.line = index + 1 ∧
      ∀ axis : Axis, motion.parameters.get axis.address =
        (valuesFor axis.address (lineWords line)).getLast?

/-- **Every command ends where the lines say.** -/
theorem endsAsWritten {settings : Settings} {lines : List String} {command : Command}
    (h : command ∈ (analyzeLines settings lines).commands) : EndsAsWritten lines command := by
  have hfinish := Run.finish_of_mem_commands h
  have hnumber : (command.line.toNat : Int) = command.line := by
    have := Run.line_of_mem_commands h
    omega
  refine ⟨fun axis => ?_, fun axis => ?_, fun motion hmotion => ?_⟩
  · rw [hfinish, Run.position_ofLines, motions_take, hnumber, coordinates]
  · exact Run.isFinite_finish h axis
  · obtain ⟨index, line, hline, hindex, hget⟩ := get_of_mem_motions hmotion
    exact ⟨index, line, hline, hindex, fun axis => hget axis.address⟩

/-- A move that is dropped counts, and so does no word on a line without motion: the last command
ends where the second line has taken the tool along the first axis. -/
theorem endsAsWritten_after_dropped :
    ∃ command ∈ (analyzeLines {} ["G0 X1 Y2", "G1 X1.00001", "M5 X9", "G1 Y3"]).commands,
      command.finish = ⟨1.00001, 3, 0⟩ ∧
        EndsAsWritten ["G0 X1 Y2", "G1 X1.00001", "M5 X9", "G1 Y3"] command := by
  obtain ⟨command, hcommand, hfinish⟩ :
      ∃ command ∈ (analyzeLines {} ["G0 X1 Y2", "G1 X1.00001", "M5 X9", "G1 Y3"]).commands,
        command.finish = ⟨1.00001, 3, 0⟩ := by
    decide +kernel
  exact ⟨command, hcommand, hfinish, endsAsWritten hcommand⟩

end Toolpath
