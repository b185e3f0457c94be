/-
**The log of an analysis.**

Main definitions:

* `Toolpath.LogRecord` — what is put on record;
* `Toolpath.LogRecord.level`, `Toolpath.LogRecord.text` — how much it matters, and its wording;
* `Toolpath.Run.log` — what a run puts on record.
-/

import Toolpath.Analysis
import Toolpath.Files

set_option relaxedAutoImplicit false
set_option autoImplicit false

namespace Toolpath

/-- How much a record matters. -/
inductive LogLevel where
  | debug
  | warning
  | error
  deriving DecidableEq

/-- The name of a level. -/
def LogLevel.text : LogLevel → String
  | debug => "DEBUG"
  | warning => "WARNING"
  | error => "ERROR"

/-- What is put on record. -/
inductive LogRecord where
  /-- A file is about to be read. -/
  | reading (path : Path)
  /-- A line has parameter words and no command word. -/
  | looseWords (line : Int)
  /-- A line cannot be read. -/
  | unreadable (line : Int)
  /-- No line moves the tool. -/
  | noMovement (lines : Int)
  /-- All lines are done. -/
  | done (lines : Int) (commands diagnostics segments : Nat)
  /-- A file cannot be read. -/
  | refused (error : FileError)
  deriving DecidableEq

namespace LogRecord

/-- How much a record matters. -/
def level : LogRecord → LogLevel
  | reading _ => .debug
  | looseWords _ => .debug
  | unreadable _ => .error
  | noMovement _ => .warning
  | done .. => .debug
  | refused _ => .error

/-- Who puts a record in the log: the reader of programs, or the command line. -/
def source : LogRecord → String
  | refused _ => "analyze_gcode"
  | _ => "gcodeanalyzer.gcode.parser"

/-- The wording of a record. -/
def message : LogRecord → String
  | reading path => "Reading G-code from " ++ path.text
  | looseWords line => "Line " ++ toString line ++ ": parameters without a command word"
  | unreadable line => "Unexpected failure parsing line " ++ toString line
  | noMovement lines => "No movement commands found in " ++ toString lines ++ " lines"
  | done lines commands diagnostics segments =>
      "Parsed " ++ toString lines ++ " lines: " ++ toString commands ++ " motion commands, " ++
        toString diagnostics ++ " errors, " ++ toString segments ++ " unique segments"
  | refused error => error.message

/-- A record as a line of the log. -/
def text (record : LogRecord) : String :=
  record.level.text ++ " " ++ record.source ++ ": " ++ record.message

/-- The record is shown; those for finding mistakes are shown only on demand. -/
def isShown (verbose : Bool) (record : LogRecord) : Bool := verbose || record.level != .debug

end LogRecord

/-- What the outcome of a line puts on record. -/
def Outcome.record? (outcome : Outcome) (line : Int) : Option LogRecord :=
  match outcome with
  | idle true => some (.looseWords line)
  | unreadable .. => some (.unreadable line)
  | _ => none

/-- What a run puts on record: its lines in their order, whether the tool moved, and the counts
at the end. -/
def Run.log (settings : Settings) (run : Run) : List LogRecord :=
  let analysis := Analysis.ofRun settings run
  run.outcomes.toList.zipIdx.filterMap
      (fun entry => entry.1.record? ((entry.2 : Int) + 1)) ++
    (if run.machine.tool.hasMoved then [] else [.noMovement analysis.lineCount]) ++
    [.done analysis.lineCount analysis.commands.length analysis.diagnostics.length
      run.machine.segments.size]

end Toolpath
