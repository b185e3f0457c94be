/-
**What the lines of a program do, one after another.**

Every motion moves the tool.  After the first one a motion is judged by the segment that it moves
along: a move without length is dropped, and its feed rate waits for the next command that is
recorded.  A line that cannot be read, or that asks for no motion, changes nothing.

Main definitions:

* `Toolpath.Machine` — the tool, the segments it has cut and the feed rate that waits;
* `Toolpath.Outcome` — what comes of a line;
* `Toolpath.Machine.step` — the outcome of a line and the machine after it;
* `Toolpath.Run`, `Toolpath.Run.ofLines` — the outcomes of the lines of a program.

Main results:

* `Toolpath.Machine.tool_perform` — every command takes the tool to its target;
* `Toolpath.Run.ofLines_concat` — the last line is a step from where the others end.
-/

import Toolpath.Block
import Toolpath.Bounds
import Toolpath.SegmentIndex
import Toolpath.Settings
import Toolpath.Tool

set_option relaxedAutoImplicit false
set_option autoImplicit false

namespace Toolpath

/-! ### The machine -/

/-- The tool, the segments it has cut and the feed rate that waits. -/
structure Machine where
  tool : Tool := Tool.start
  /-- The segments that were cut so far. -/
  segments : SegmentIndex := SegmentIndex.empty
  /-- The last positive feed rate of the moves that were dropped since the last command. -/
  pendingFeed : Option Binary64 := none

/-- What comes of a line. -/
inductive Outcome where
  /-- The line asks for no motion; there may be parameter words without a command word. -/
  | idle (looseWords : Bool)
  /-- The line cannot be read. -/
  | unreadable (line : Int) (reason : NumberError)
  /-- The line moves the tool nowhere. -/
  | dropped (diagnostics : List Diagnostic)
  /-- The line gives a command. -/
  | recorded (command : Command) (diagnostics : List Diagnostic)
  deriving DecidableEq

namespace Outcome

/-- The command that a line gives. -/
def command? : Outcome → Option Command
  | recorded command _ => some command
  | _ => none

/-- What there is to report about a line. -/
def diagnostics : Outcome → List Diagnostic
  | idle _ => []
  | unreadable line reason => [⟨line, .unreadableLine reason⟩]
  | dropped diagnostics => diagnostics
  | recorded _ diagnostics => diagnostics

end Outcome

namespace Machine

/-- What the move of the tool along a segment is, and the cut segments after it.  The first move
of a program is not judged. -/
def judge (settings : Settings) (machine : Machine) (s : Segment) (line : Int) :
    Verdict × SegmentIndex :=
  if machine.tool.hasMoved then
    machine.segments.judge settings.positionTolerance s line
  else (.fresh, machine.segments)

/-- The segment from where the tool is to where a command takes it. -/
def segment (machine : Machine) (command : Command) : Segment :=
  ⟨machine.tool.position, machine.tool.target command.parameters⟩

/-- The outcome of a command, given what its words have to report, and the machine after it. -/
def perform (settings : Settings) (machine : Machine) (command : Command)
    (diagnostics : List Diagnostic) : Outcome × Machine :=
  let s := machine.segment command
  let tool := machine.tool.move command.parameters
  match machine.judge settings s command.line with
  | (verdict, segments) =>
      let reported := diagnostics ++ (verdict.cause? s).toList.map (Diagnostic.mk command.line)
      if verdict = .redundant then
        (.dropped reported,
          ⟨tool, segments, (positiveRate? command.parameters.f).or machine.pendingFeed⟩)
      else
        (.recorded
            { machine.tool.resolve command with inheritedFeed := machine.pendingFeed } reported,
          ⟨tool, segments, none⟩)

/-- The outcome of a line, and the machine after it. -/
def step (settings : Settings) (machine : Machine) (number : Int) (line : String) :
    Outcome × Machine :=
  match readLine number line with
  | .idle looseWords => (.idle looseWords, machine)
  | .unreadable reason => (.unreadable number reason, machine)
  | .motion command diagnostics => machine.perform settings command diagnostics

variable {settings : Settings} {machine : Machine} {number : Int} {line : String}

theorem step_of_idle {looseWords : Bool} (h : readLine number line = .idle looseWords) :
    machine.step settings number line = (.idle looseWords, machine) := by
  rw [step, h]

theorem step_of_unreadable {reason : NumberError} (h : readLine number line = .unreadable reason) :
    machine.step settings number line = (.unreadable number reason, machine) := by
  rw [step, h]

theorem step_of_motion {command : Command} {diagnostics : List Diagnostic}
    (h : readLine number line = .motion command diagnostics) :
    machine.step settings number line = machine.perform settings command diagnostics := by
  rw [step, h]

/-- A command takes the tool to its target, whether it is recorded or dropped. -/
theorem tool_perform (command : Command) (diagnostics : List Diagnostic) :
    (machine.perform settings command diagnostics).2.tool =
      machine.tool.move command.parameters := by
  unfold perform
  dsimp only
  split <;> rfl

end Machine

/-! ### Runs -/

/-- The outcomes of the lines so far, and the machine after them. -/
structure Run where
  machine : Machine := {}
  outcomes : Array Outcome := #[]
  /-- The box around the ends of the commands so far. -/
  bounds : Bounds := Bounds.empty

namespace Run

/-- The run before the first line. -/
def empty : Run := {}

/-- The run with one more outcome, and the machine after it.  The end of a command goes into the
box. -/
def push (run : Run) (outcome : Outcome) (machine : Machine) : Run where
  machine := machine
  outcomes := run.outcomes.push outcome
  bounds :=
    match outcome.command? with
    | some command => run.bounds.grow command.finish
    | none => run.bounds

@[simp] theorem machine_push (run : Run) (outcome : Outcome) (machine : Machine) :
    (run.push outcome machine).machine = machine := rfl

@[simp] theorem outcomes_push (run : Run) (outcome : Outcome) (machine : Machine) :
    (run.push outcome machine).outcomes = run.outcomes.push outcome := rfl

/-- The run with one more line.  Lines are numbered from one. -/
def next (settings : Settings) (run : Run) (line : String) : Run :=
  match run.machine.step settings (run.outcomes.size + 1) line with
  | (outcome, machine) => run.push outcome machine

/-- The run of the lines of a program. -/
def ofLines (settings : Settings) (lines : List String) : Run :=
  lines.foldl (next settings) empty

@[simp] theorem ofLines_nil (settings : Settings) : ofLines settings [] = empty := rfl

/-- The last line is a step from where the others end. -/
theorem ofLines_concat (settings : Settings) (lines : List String) (line : String) :
    ofLines settings (lines ++ [line]) = (ofLines settings lines).next settings line := by
  simp [ofLines]

@[simp] theorem size_outcomes_next (settings : Settings) (run : Run) (line : String) :
    (run.next settings line).outcomes.size = run.outcomes.size + 1 := by
  simp [next]

/-- Every line has one outcome. -/
theorem size_outcomes_ofLines (settings : Settings) (lines : List String) :
    (ofLines settings lines).outcomes.size = lines.length := by
  suffices ∀ run : Run,
      (lines.foldl (next settings) run).outcomes.size = run.outcomes.size + lines.length by
    simpa [ofLines, empty] using this empty
  induction lines with
  | nil => simp
  | cons line lines ih =>
      intro run
      simp [ih, Nat.add_assoc, Nat.add_comm 1]

/-- The commands of the lines, in their order. -/
def commands (run : Run) : List Command := run.outcomes.toList.filterMap Outcome.command?

/-- What there is to report about the lines, in their order. -/
def diagnostics (run : Run) : List Diagnostic := run.outcomes.toList.flatMap Outcome.diagnostics

end Run

end Toolpath
