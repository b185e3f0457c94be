/-
**Analyzing the files of a command line.**

Every path stands for a file, or for the program files of a folder.  Each file is read, analyzed
and reported on by itself; a file that cannot be read is put on record and passed over.

Main definitions:

* `Toolpath.analyzeFile` — the analysis of one file;
* `Toolpath.Session.collect` — the files that paths stand for;
* `Toolpath.Session.Response`, `Toolpath.Session.respond` — the answer to a command line.
-/

import Toolpath.CommandLine.Options
import Toolpath.Log

set_option relaxedAutoImplicit false
set_option autoImplicit false

namespace Toolpath

/-- The analysis of the program file at a path. -/
def analyzeFile (settings : Settings) (files : Files) (path : String) :
    Except FileError Analysis :=
  (files.readProgram path).map (analyzeText settings)

namespace Session

open CommandLine

/-- The files that the operands of a command line stand for, in their order. -/
def collect (settings : Settings) (files : Files) (operands : List String) : List Path :=
  operands.flatMap fun operand => files.expand settings (Path.ofString operand)

variable [Numerics]

/-! ### Answers about files -/

/-- What there is to say about a file. -/
structure Finding where
  /-- The file was read. -/
  wasRead : Bool
  /-- The lines of the report. -/
  report : List String
  log : List LogRecord

/-- What there is to say about the file at a path. -/
def examine (settings : Settings) (files : Files) (listing : Listing) (path : Path) :
    Except ReportError Finding :=
  match files.readProgram path.text with
  | .error error => .ok ⟨false, [], [.refused error]⟩
  | .ok text =>
      let run := Run.ofLines settings (Text.splitLines text)
      (report path (Analysis.ofRun settings run) listing).map fun lines =>
        ⟨true, lines, .reading path :: run.log settings⟩

/-! ### Answers to command lines -/

/-- The answer to a command line. -/
inductive Response where
  /-- The arguments ask for nothing that can be done. -/
  | rejected
  /-- The arguments ask for an explanation. -/
  | help
  /-- A report cannot be written. -/
  | aborted (error : ReportError)
  /-- The reports and the log, as lines, and whether all files were read. -/
  | finished (allRead : Bool) (output log : List String)

/-- The answer that findings about files make up. -/
def Response.ofFindings (verbose : Bool) (findings : List Finding) : Response :=
  .finished (findings.all Finding.wasRead) (findings.flatMap Finding.report)
    (((findings.flatMap Finding.log).filter (LogRecord.isShown verbose)).map LogRecord.text)

/-- The answer to a command line. -/
def respond (files : Files) (arguments : List String) : Response :=
  match analysisRequest arguments with
  | .rejected => .rejected
  | .help => .help
  | .accepted options operands =>
      match (collect {} files operands).mapM (examine {} files options.listing) with
      | .ok findings => Response.ofFindings options.verbose findings
      | .error error => .aborted error

/-- The status that a command line ends with: zero if all is well, one if a file was not read, two
if the arguments are rejected. -/
def Response.status : Response → Nat
  | rejected => 2
  | help => 0
  | aborted _ => 1
  | finished allRead _ _ => if allRead then 0 else 1

/-- The text of lines that each end with a line feed. -/
def textOfLines (lines : List String) : String := String.join (lines.map (· ++ "\n"))

end Session

end Toolpath
