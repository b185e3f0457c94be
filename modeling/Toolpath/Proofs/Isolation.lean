/-
**A line that cannot be read changes nothing else.**

A run is a transducer: from a machine and the number of the next line, every line gives an outcome
and the machine for the lines after it.  Seen so, what comes of the last lines of a program depends
on the first ones only through the machine that they leave.  A line that cannot be read leaves the
machine as it was, just as an empty line does; so putting an empty line in its place takes away its
report and changes nothing else, however many lines come after it and whatever they say.

Main definitions:

* `Toolpath.Machine.afterLines`, `Toolpath.Machine.outcomesOf` — the machine after lines that are
  read from some machine on, and the outcomes of these lines;
* `Toolpath.Isolated` — a line has no part in the analysis apart from its own report.

Main results:

* `Toolpath.Run.machine_append` — the last lines of a program are read from where the first ones
  end;
* `Toolpath.isolated_of_unreadable` — **a line that cannot be read is isolated**.
-/

import Toolpath.Proofs.Remembered
import Toolpath.Proofs.WrittenLine

set_option relaxedAutoImplicit false
set_option autoImplicit false

namespace Toolpath

open Text

/-! ### Reading on from a machine -/

namespace Machine

/-- The machine after lines that are read from a machine on, the first of them with the given
number. -/
def afterLines (settings : Settings) : Machine → Int → List String → Machine
  | machine, _, [] => machine
  | machine, number, line :: rest =>
      afterLines settings (machine.step settings number line).2 (number + 1) rest

/-- The outcomes of lines that are read from a machine on, the first of them with the given
number. -/
def outcomesOf (settings : Settings) : Machine → Int → List String → List Outcome
  | _, _, [] => []
  | machine, number, line :: rest =>
      (machine.step settings number line).1 ::
        outcomesOf settings (machine.step settings number line).2 (number + 1) rest

variable {settings : Settings}

/-- No diagnostic names a line before the first one that is read. -/
theorem le_line_of_mem_outcomesOf {machine : Machine} {number : Int} {lines : List String}
    {d : Diagnostic}
    (h : d ∈ (outcomesOf settings machine number lines).flatMap Outcome.diagnostics) :
    number ≤ d.line := by
  induction lines generalizing machine number with
  | nil => cases h
  | cons line rest ih =>
      rw [outcomesOf, List.flatMap_cons] at h
      rcases List.mem_append.1 h with h | h
      · have hline := ((effect_step settings machine number line).diagnostic_line h).1
        omega
      · have hline := ih h
        omega

end Machine

namespace Run

variable {settings : Settings}

theorem machine_foldl_next (run : Run) (lines : List String) :
    (lines.foldl (next settings) run).machine =
      run.machine.afterLines settings (run.outcomes.size + 1) lines := by
  induction lines generalizing run with
  | nil => rfl
  | cons line rest ih =>
      rw [List.foldl_cons, ih]
      simp [next, Machine.afterLines]

theorem outcomes_foldl_next (run : Run) (lines : List String) :
    (lines.foldl (next settings) run).outcomes = run.outcomes ++
      (run.machine.outcomesOf settings (run.outcomes.size + 1) lines).toArray := by
  induction lines generalizing run with
  | nil => simp [Machine.outcomesOf]
  | cons line rest ih =>
      rw [List.foldl_cons, ih]
      simp [next, Machine.outcomesOf]

/-- The last lines of a program are read from where the first ones end. -/
theorem machine_append (settings : Settings) (front rest : List String) :
    (ofLines settings (front ++ rest)).machine =
      (ofLines settings front).machine.afterLines settings (front.length + 1) rest := by
  rw [ofLines, List.foldl_append, machine_foldl_next, ← ofLines, size_outcomes_ofLines]

theorem outcomes_append (settings : Settings) (front rest : List String) :
    (ofLines settings (front ++ rest)).outcomes = (ofLines settings front).outcomes ++
      ((ofLines settings front).machine.outcomesOf settings (front.length + 1) rest).toArray := by
  rw [ofLines, List.foldl_append, outcomes_foldl_next, ← ofLines, size_outcomes_ofLines]

theorem commands_append (settings : Settings) (front rest : List String) :
    (ofLines settings (front ++ rest)).commands = (ofLines settings front).commands ++
      ((ofLines settings front).machine.outcomesOf settings (front.length + 1) rest).filterMap
        Outcome.command? := by
  simp [commands, outcomes_append]

theorem diagnostics_append (settings : Settings) (front rest : List String) :
    (ofLines settings (front ++ rest)).diagnostics = (ofLines settings front).diagnostics ++
      ((ofLines settings front).machine.outcomesOf settings (front.length + 1) rest).flatMap
        Outcome.diagnostics := by
  simp [diagnostics, outcomes_append]

/-- What comes of a line is the step that it makes from where the lines before it end. -/
theorem getElem?_outcomes (settings : Settings) (front : List String) (line : String)
    (rest : List String) :
    (ofLines settings (front ++ line :: rest)).outcomes[front.length]? =
      some ((ofLines settings front).machine.step settings (front.length + 1) line).1 := by
  have hsize := size_outcomes_ofLines settings front
  simp [outcomes_append, Machine.outcomesOf, hsize]

end Run

/-! ### Lines that cannot be read -/

/-- An empty line asks for no motion. -/
theorem readLine_empty (number : Int) : readLine number "" = .idle false := rfl

/-- A command letter with more than 4300 digits cannot be read. -/
theorem readLine_of_longNumber {number : Int} {letter : Char} {digits : List Char}
    (hletter : letter ∈ ['G', 'M', 'T']) (hdecimal : ∀ d ∈ digits, isDecimalDigit d = true)
    (hlength : 4300 < digits.length) :
    readLine number (String.ofList (letter :: digits)) =
      .unreadable (.tooManyDigits digits.length) := by
  have hfirst : isBlank letter = false ∧ startsComment letter = false := by
    simp only [List.mem_cons, List.not_mem_nil, or_false] at hletter
    rcases hletter with rfl | rfl | rfl <;> decide
  have hplain : ∀ c ∈ letter :: digits, isBlank c = false ∧ startsComment c = false := by
    intro c hc
    rcases List.mem_cons.1 hc with rfl | hc
    · exact hfirst
    · exact ⟨isBlank_of_decimalDigit (hdecimal c hc), startsComment_eq_false (.inl (hdecimal c hc))⟩
  have hcode : stripComment (letter :: digits) = letter :: digits :=
    stripComment_eq_self (fun c hc => (hplain c (List.mem_of_head? hc)).1)
      (fun c hc => (hplain c (List.mem_of_getLast? hc)).1) fun c hc => (hplain c hc).2
  have hupper : upperCode (String.ofList (letter :: digits)) = letter :: (digits ++ []) := by
    rw [upperCode, String.toList_ofList, hcode, capitals_cons,
      capitals_eq_self fun d hd => capitalForm_of_decimalDigit (hdecimal d hd),
      capitalForm_of_commandLetter hletter, List.append_nil, List.singleton_append]
  have hne : digits ≠ [] := List.ne_nil_of_length_pos (by omega)
  exact readLine_of_tooManyDigits hletter
    ⟨hne, [], hupper, hdecimal, fun c hc => by cases hc⟩ hlength

/-- A line comes out as unreadable only if its reading is, and then it leaves the machine as it
was. -/
theorem Machine.Effect.of_unreadable {settings : Settings} {machine after : Machine}
    {number reported : Int} {line : String} {reason : NumberError}
    (h : machine.Effect settings number line (.unreadable reported reason) after) :
    readLine number line = .unreadable reason ∧ reported = number ∧ after = machine := by
  cases h with
  | unreadable hread => exact ⟨hread, rfl, rfl⟩

/-- A line has no part in the analysis of its program apart from its own report: that it cannot be
read. -/
structure Isolated (settings : Settings) (lines : List String) (index : Nat)
    (reason : NumberError) : Prop where
  /-- The tool, the segments that were cut and the feed rate that waits are those before the
  line. -/
  machine_eq : machineAfter settings lines (index + 1) = machineAfter settings lines index
  /-- The analysis is that with an empty line in its place and one more diagnostic, which stands
  after all that is reported at smaller lines and before all else. -/
  analysis_eq : ∃ before after : List Diagnostic,
    (analyzeLines settings (lines.set index "")).diagnostics = before ++ after ∧
    analyzeLines settings lines = { analyzeLines settings (lines.set index "") with
      diagnostics := before ++ ⟨index + 1, .unreadableLine reason⟩ :: after } ∧
    (∀ d ∈ before, 1 ≤ d.line ∧ d.line < index + 1) ∧
    ∀ d ∈ after, index + 1 < d.line ∨ d = ⟨Analysis.wholeProgram, .noMovement⟩
  /-- The diagnostic tells the reason. -/
  message_eq : (Diagnostic.mk (index + 1) (.unreadableLine reason)).message =
    "Failed to parse line: " ++ reason.message
  /-- The diagnostic is about no other line. -/
  related?_eq : (Diagnostic.mk (index + 1) (.unreadableLine reason)).related? = none

/-! ### Lines that leave the machine as it was -/

section Inert

variable {settings : Settings} {front : List String} {line : String}

/-- What is reported after the lines before one that leaves the machine as it was and after this
line itself: what comes of the lines after it, and a program without motion. -/
def reportedAfter (settings : Settings) (front rest : List String) : List Diagnostic :=
  ((Run.ofLines settings front).machine.outcomesOf settings (front.length + 1 + 1) rest).flatMap
      Outcome.diagnostics ++
    if ((Run.ofLines settings front).machine.afterLines settings (front.length + 1 + 1)
      rest).tool.hasMoved then [] else [⟨Analysis.wholeProgram, .noMovement⟩]

/-- What is reported after a line is at a larger number, or about the whole program. -/
theorem line_of_mem_reportedAfter {rest : List String} {d : Diagnostic}
    (h : d ∈ reportedAfter settings front rest) :
    (front.length : Int) + 1 < d.line ∨ d = ⟨Analysis.wholeProgram, .noMovement⟩ := by
  rcases List.mem_append.1 h with h | h
  · have hline := Machine.le_line_of_mem_outcomesOf h
    exact .inl (by omega)
  · split at h
    · cases h
    · exact .inr (List.mem_singleton.1 h)

/-- A line that leaves the machine as it was and gives no command has no part in the analysis but
its own reports. -/
theorem analyzeLines_append_of_inert (rest : List String) {outcome : Outcome}
    (hstep : (Run.ofLines settings front).machine.step settings (front.length + 1) line =
      (outcome, (Run.ofLines settings front).machine))
    (hnone : outcome.command? = none) :
    analyzeLines settings (front ++ line :: rest) =
      { settings := settings
        bounds := Bounds.around (((Run.ofLines settings front).commands ++
          ((Run.ofLines settings front).machine.outcomesOf settings (front.length + 1 + 1)
            rest).filterMap Outcome.command?).map Command.finish)
        lineCount := (front.length + (rest.length + 1) : Nat)
        commands := (Run.ofLines settings front).commands ++
          ((Run.ofLines settings front).machine.outcomesOf settings (front.length + 1 + 1)
            rest).filterMap Outcome.command?
        diagnostics := (Run.ofLines settings front).diagnostics ++
          (outcome.diagnostics ++ reportedAfter settings front rest) } := by
  have hcommands : (Run.ofLines settings (front ++ line :: rest)).commands =
      (Run.ofLines settings front).commands ++
        ((Run.ofLines settings front).machine.outcomesOf settings (front.length + 1 + 1)
          rest).filterMap Outcome.command? := by
    rw [Run.commands_append, Machine.outcomesOf, hstep, List.filterMap_cons_none hnone]
  have hdiagnostics : (Run.ofLines settings (front ++ line :: rest)).diagnostics =
      (Run.ofLines settings front).diagnostics ++ (outcome.diagnostics ++
        ((Run.ofLines settings front).machine.outcomesOf settings (front.length + 1 + 1)
          rest).flatMap Outcome.diagnostics) := by
    rw [Run.diagnostics_append, Machine.outcomesOf, hstep, List.flatMap_cons]
  have hmachine : (Run.ofLines settings (front ++ line :: rest)).machine =
      (Run.ofLines settings front).machine.afterLines settings (front.length + 1 + 1) rest := by
    rw [Run.machine_append, Machine.afterLines, hstep]
  rw [analyzeLines, Analysis.ofRun, Run.bounds_ofLines, hcommands, hdiagnostics, hmachine,
    Run.size_outcomes_ofLines, List.length_append, List.length_cons, reportedAfter]
  simp only [List.append_assoc]

/-- The machine after such a line is the machine before it. -/
theorem machineAfter_append_of_inert (rest : List String) {outcome : Outcome}
    (hstep : (Run.ofLines settings front).machine.step settings (front.length + 1) line =
      (outcome, (Run.ofLines settings front).machine)) :
    machineAfter settings (front ++ line :: rest) (front.length + 1) =
      machineAfter settings (front ++ line :: rest) front.length := by
  have htake : (front ++ line :: rest).take (front.length + 1) = front ++ [line] := by
    simp [List.take_append]
  rw [machineAfter, machineAfter, htake, List.take_left, Run.machine_append, Machine.afterLines,
    hstep, Machine.afterLines]

end Inert

theorem isolated_append {settings : Settings} {front : List String} {line : String}
    {reason : NumberError} (rest : List String)
    (hread : readLine (front.length + 1) line = .unreadable reason) :
    Isolated settings (front ++ line :: rest) front.length reason := by
  have hstep : (Run.ofLines settings front).machine.step settings (front.length + 1) line = _ :=
    Machine.step_of_unreadable hread
  have hempty : (Run.ofLines settings front).machine.step settings (front.length + 1) "" = _ :=
    Machine.step_of_idle (readLine_empty (front.length + 1))
  have hset : (front ++ line :: rest).set front.length "" = front ++ "" :: rest := by simp
  refine ⟨machineAfter_append_of_inert rest hstep, ?_, rfl, rfl⟩
  rw [hset, analyzeLines_append_of_inert rest hstep rfl,
    analyzeLines_append_of_inert rest hempty rfl]
  refine ⟨(Run.ofLines settings front).diagnostics, reportedAfter settings front rest, rfl, rfl,
    ?_, fun d => line_of_mem_reportedAfter⟩
  intro d hd
  obtain ⟨hpos, hle, -⟩ := Run.kind_of_mem_diagnostics hd
  exact ⟨hpos, by omega⟩

/-- **A line that cannot be read is isolated**: wherever it stands and whatever stands before and
after it, the analysis is the same as with an empty line in its place, apart from the report of the
line. -/
theorem isolated_of_unreadable {settings : Settings} {lines : List String} {index : Nat}
    {number : Int} {reason : NumberError}
    (h : (Run.ofLines settings lines).outcomes[index]? = some (.unreadable number reason)) :
    Isolated settings lines index reason := by
  have hindex : index < lines.length := by
    rw [← Run.size_outcomes_ofLines settings lines]
    exact (Array.getElem?_eq_some_iff.1 h).1
  obtain ⟨front, line, rest, rfl, rfl⟩ :
      ∃ front line rest, lines = front ++ line :: rest ∧ index = front.length := by
    refine ⟨lines.take index, lines[index], lines.drop (index + 1), ?_, ?_⟩
    · rw [List.cons_getElem_drop_succ, List.take_append_drop]
    · exact (List.length_take_of_le hindex.le).symm
  rw [Run.getElem?_outcomes, Option.some.injEq] at h
  have heffect := Machine.effect_step settings (Run.ofLines settings front).machine
    (front.length + 1) line
  rw [h] at heffect
  exact isolated_append rest heffect.of_unreadable.1

/-- The number of a command has 4301 digits. -/
theorem isolated_of_unreadable_longNumber :
    let long := String.ofList ('G' :: List.replicate 4301 '1')
    (Run.ofLines {} ["G0 X0", long, "G1 X1"]).outcomes[1]? =
        some (.unreadable 2 (.tooManyDigits 4301)) ∧
      Isolated {} ["G0 X0", long, "G1 X1"] 1 (.tooManyDigits 4301) := by
  intro long
  have hread : readLine (["G0 X0"].length + 1) long = .unreadable (.tooManyDigits 4301) := by
    have hlong := @readLine_of_longNumber (["G0 X0"].length + 1) 'G' (List.replicate 4301 '1')
    rw [List.length_replicate] at hlong
    exact hlong (by decide) (fun d hd => by rw [List.eq_of_mem_replicate hd]; decide) (by decide)
  have houtcome := Run.getElem?_outcomes {} ["G0 X0"] long ["G1 X1"]
  rw [Machine.step_of_unreadable hread] at houtcome
  exact ⟨houtcome, isolated_of_unreadable houtcome⟩

end Toolpath
