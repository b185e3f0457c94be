/-
**The motions that the lines of a program ask for.**

What a line says is read without looking at the lines before it.  This module says once what the
reading of a motion is made of, and lists the motions of a program as they are read: the other
modules compare what a run makes of a program with this list.

Main definitions:

* `Toolpath.lineWords` — the parameter words of a line;
* `Toolpath.motions` — the motions that the lines of a program ask for, in their order.

Main results:

* `Toolpath.readLine_eq_motion` — what the reading of a motion is made of;
* `Toolpath.motions_concat` — the motions with one more line;
* `Toolpath.pairwise_motions` — the motions are at different lines, in increasing order.
-/

import Mathlib.Data.List.Induction
import Toolpath.Block
import Toolpath.Proofs.DiagnosticKind

set_option relaxedAutoImplicit false
set_option autoImplicit false

namespace Toolpath

open Text

/-! ### One line -/

/-- The parameter words of a line. -/
def lineWords (line : String) : List Word := words (capitals (stripComment line.toList))

/-- What the reading of a motion is made of. -/
theorem readLine_eq_motion {number : Int} {line : String} {command : Command}
    {ds : List Diagnostic} (h : readLine number line = .motion command ds) :
    ∃ motion token, motion.isMotion = true ∧
      command = commandOf motion number (stripComment line.toList) token (lineWords line) ∧
      ds = wordDiagnostics command (lineWords line) := by
  unfold readLine readCode at h
  dsimp only at h
  -- of all branches only the innermost gives a motion
  split at h
  · cases h
  · rename_i token _
    split at h
    · cases h
    · rename_i motion _
      split at h
      · rename_i hmotion
        injection h with hcommand hds
        subst hcommand
        exact ⟨motion, token, hmotion, rfl, hds.symm⟩
      · cases h

theorem line_of_readLine {number : Int} {line : String} {command : Command}
    {ds : List Diagnostic} (h : readLine number line = .motion command ds) :
    command.line = number := by
  obtain ⟨motion, token, -, rfl, -⟩ := readLine_eq_motion h
  rfl

theorem parameters_commandOf (motion : Motion) (number : Int) (code token : List Char)
    (ws : List Word) :
    (commandOf motion number code token ws).parameters = Parameters.ofWords ws := rfl

/-- A motion has the parameters that the words of its line give. -/
theorem parameters_of_readLine {number : Int} {line : String} {command : Command}
    {ds : List Diagnostic} (h : readLine number line = .motion command ds) :
    command.parameters = Parameters.ofWords (lineWords line) := by
  obtain ⟨motion, token, -, rfl, -⟩ := readLine_eq_motion h
  exact parameters_commandOf ..

/-- What there is to report about the words of a line is a number that is too large or an arc
without any offset. -/
theorem mem_wordDiagnostics {command : Command} {ws : List Word} {d : Diagnostic}
    (h : d ∈ wordDiagnostics command ws) :
    d.line = command.line ∧
      ((∃ word, d.cause = .invalidValue word) ∨ ∃ token, d.cause = .missingOffset token) := by
  rcases List.mem_append.1 h with h | h
  · obtain ⟨word, -, rfl⟩ := List.mem_map.1 h
    exact ⟨rfl, Or.inl ⟨_, rfl⟩⟩
  · split at h
    · obtain rfl := List.mem_singleton.1 h
      exact ⟨rfl, Or.inr ⟨_, rfl⟩⟩
    · cases h

/-- What there is to report about the words of a line names the line, is no note, and is of neither
kind that can be hidden. -/
theorem kind_of_mem_words {number : Int} {line : String} {command : Command}
    {ds : List Diagnostic} (h : readLine number line = .motion command ds) {d : Diagnostic}
    (hd : d ∈ ds) :
    d.line = number ∧ d.cause.isNote = false ∧ d.isRedundantMove = false ∧
      d.isDuplicateToolpath = false := by
  obtain ⟨motion, token, -, -, hds⟩ := readLine_eq_motion h
  rw [hds] at hd
  obtain ⟨hline, hcause⟩ := mem_wordDiagnostics hd
  rw [line_of_readLine h] at hline
  rcases hcause with ⟨word, hcause⟩ | ⟨token, hcause⟩
  all_goals
    have hnote : d.cause.isNote = false := by rw [hcause]; rfl
    refine ⟨hline, hnote, ?_, ?_⟩
    · exact Diagnostic.isRedundantMove_eq_false hnote (by simp [hcause])
    · exact Diagnostic.isDuplicateToolpath_eq_false hnote (by simp [hcause])

/-! ### The lines of a program -/

/-- The motion that a line asks for. -/
def Reading.command? : Reading → Option Command
  | motion command _ => some command
  | _ => none

theorem exists_readLine {number : Int} {line : String} {command : Command}
    (h : command ∈ (readLine number line).command?) :
    ∃ ds, readLine number line = .motion command ds := by
  cases hread : readLine number line with
  | motion own ds =>
      rw [hread] at h
      exact ⟨ds, by rw [Option.some.inj h]⟩
  | _ => simp [hread, Reading.command?] at h

/-- What the lines of a program say.  Lines are numbered from one. -/
def readings (lines : List String) : List Reading :=
  lines.mapIdx fun index line => readLine (index + 1) line

/-- The motions that the lines of a program ask for, in their order and as they are read. -/
def motions (lines : List String) : List Command :=
  (readings lines).filterMap Reading.command?

@[simp] theorem motions_nil : motions [] = [] := rfl

/-- The number of the last line. -/
theorem cast_length_concat (lines : List String) (line : String) :
    ((lines ++ [line]).length : Int) = lines.length + 1 := by
  rw [List.length_append, List.length_singleton]
  rfl

theorem motions_concat (lines : List String) (line : String) :
    motions (lines ++ [line]) =
      motions lines ++ (readLine (lines.length + 1) line).command?.toList := by
  simp only [motions, readings, List.mapIdx_append, List.filterMap_append, List.mapIdx_cons,
    List.mapIdx_nil, Nat.zero_add, List.filterMap_cons, List.filterMap_nil]
  cases (readLine (lines.length + 1) line).command? <;> rfl

/-- A motion is read from the line of its number. -/
theorem exists_line_of_mem_motions {lines : List String} {command : Command}
    (h : command ∈ motions lines) :
    ∃ (index : Nat) (line : String), lines[index]? = some line ∧ command.line = index + 1 ∧
      ∃ ds, readLine (index + 1) line = .motion command ds := by
  obtain ⟨reading, hreading, hcommand⟩ := List.mem_filterMap.1 h
  obtain ⟨index, hindex, rfl⟩ := List.mem_mapIdx.1 hreading
  obtain ⟨ds, hread⟩ := exists_readLine hcommand
  exact ⟨index, lines[index], List.getElem?_eq_getElem hindex, line_of_readLine hread, ds, hread⟩

theorem line_of_mem_motions {lines : List String} {command : Command}
    (h : command ∈ motions lines) : 1 ≤ command.line ∧ command.line ≤ lines.length := by
  obtain ⟨index, line, hline, hcommand, -⟩ := exists_line_of_mem_motions h
  have hindex : index < lines.length := (List.getElem?_eq_some_iff.1 hline).1
  omega

/-- The lines ask for no other than the known motions. -/
theorem isMotion_of_mem_motions {lines : List String} {command : Command}
    (h : command ∈ motions lines) : command.motion.isMotion = true := by
  obtain ⟨index, line, -, -, ds, hread⟩ := exists_line_of_mem_motions h
  obtain ⟨motion, token, hmotion, rfl, -⟩ := readLine_eq_motion hread
  exact hmotion

/-- The motions are at different lines, in increasing order. -/
theorem pairwise_motions (lines : List String) :
    (motions lines).Pairwise fun c d => c.line < d.line := by
  induction lines using List.reverseRecOn with
  | nil => exact List.Pairwise.nil
  | append_singleton lines line ih =>
      rw [motions_concat, List.pairwise_append]
      refine ⟨ih, ?_, ?_⟩
      · cases (readLine (lines.length + 1) line).command? <;> simp
      · intro c hc d hd
        obtain ⟨ds, hread⟩ := exists_readLine (Option.mem_toList.1 hd)
        have hcle := (line_of_mem_motions hc).2
        rw [line_of_readLine hread]
        omega

end Toolpath
