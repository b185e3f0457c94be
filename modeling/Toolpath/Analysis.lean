/-
**What is known about a program.**

Main definitions:

* `Toolpath.Analysis` — the commands of a program, their box and the diagnostics;
* `Toolpath.analyzeLines`, `Toolpath.analyzeText` — the analysis of a program;
* `Toolpath.Analysis.visible` — the diagnostics without the kinds that are hidden.
-/

import Toolpath.Machine
import Toolpath.Text.Newline

set_option relaxedAutoImplicit false
set_option autoImplicit false

namespace Toolpath

/-- What is known about a program. -/
structure Analysis where
  settings : Settings := {}
  /-- The box around the ends of the commands. -/
  bounds : Bounds := Bounds.empty
  /-- The number of lines. -/
  lineCount : Int := 0
  commands : List Command := []
  diagnostics : List Diagnostic := []

namespace Analysis

/-- The number of the line that a diagnostic about the whole program is reported at. -/
def wholeProgram : Int := 0

/-- What a run shows.  A run in which the tool never moves is reported at its end. -/
def ofRun (settings : Settings) (run : Run) : Analysis where
  settings := settings
  bounds := run.bounds
  lineCount := run.outcomes.size
  commands := run.commands
  diagnostics := run.diagnostics ++
    if run.machine.tool.hasMoved then [] else [⟨wholeProgram, .noMovement⟩]

/-- Which kinds of diagnostics are hidden. -/
structure Hidden where
  redundant : Bool := false
  duplicate : Bool := false
  deriving DecidableEq

/-- The diagnostic is of a kind that is hidden. -/
def Hidden.hides (hidden : Hidden) (d : Diagnostic) : Bool :=
  (hidden.redundant && d.isRedundantMove) || (hidden.duplicate && d.isDuplicateToolpath)

/-- The diagnostics that are not hidden, in their order. -/
def visible (analysis : Analysis) (hidden : Hidden) : List Diagnostic :=
  analysis.diagnostics.filter fun d => !hidden.hides d

/-- The diagnostics reported at a line, in their order. -/
def diagnosticsAt (analysis : Analysis) (line : Int) : List Diagnostic :=
  analysis.diagnostics.filter fun d => d.line == line

end Analysis

/-- The analysis of a program given as its lines. -/
def analyzeLines (settings : Settings) (lines : List String) : Analysis :=
  Analysis.ofRun settings (Run.ofLines settings lines)

/-- The analysis of a program given as one text. -/
def analyzeText (settings : Settings) (text : String) : Analysis :=
  analyzeLines settings (Text.splitLines text)

end Toolpath
