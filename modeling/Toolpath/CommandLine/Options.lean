/-
**The options of the commands.**

Main definitions:

* `Toolpath.CommandLine.AnalysisOptions` — how program files are reported on;
* `Toolpath.CommandLine.BenchmarkOptions` — how the benchmark is run;
* `Toolpath.CommandLine.analysisRequest`, `Toolpath.CommandLine.benchmarkRequest` — what the
  arguments of a command ask for.
-/

import Toolpath.CommandLine.Argument
import Toolpath.CommandLine.Value
import Toolpath.Report

set_option relaxedAutoImplicit false
set_option autoImplicit false

namespace Toolpath.CommandLine

/-- The letter of the option that asks for help. -/
def helpLetter : Char := 'h'

/-- The settings with the value that a text writes, or with none if the text is left out.  A text
that writes no value is invalid. -/
def Effect.ofText {σ α : Type} (read : String → Option α) (text : Option String)
    (set : Option α → σ) : Effect σ :=
  match text with
  | none => .set (set none)
  | some text =>
      match read text with
      | some value => .set (set (some value))
      | none => .invalid

/-! ### Analysis -/

/-- How program files are reported on. -/
structure AnalysisOptions where
  listing : Listing := {}
  /-- The whole log is shown. -/
  verbose : Bool := false

/-- The options of the analysis. -/
inductive AnalysisKey where
  | help
  | hideRedundant
  | hideDuplicates
  | maxErrors
  | verbose

/-- How the options of the analysis are written. -/
def analysisRules : List (Rule AnalysisKey) :=
  [ { key := .help, name := "help", letter := some helpLetter },
    { key := .hideRedundant, name := "hide-redundant" },
    { key := .hideDuplicates, name := "hide-duplicates" },
    { key := .maxErrors, name := "max-errors", hasValue := true },
    { key := .verbose, name := "verbose", letter := some 'v' } ]

/-- What an option of the analysis does. -/
def analysisEffect (options : AnalysisOptions) (key : AnalysisKey) (value : Option String) :
    Effect AnalysisOptions :=
  match key with
  | .help => .help
  | .hideRedundant => .set { options with listing.hidden.redundant := true }
  | .hideDuplicates => .set { options with listing.hidden.duplicate := true }
  | .maxErrors =>
      Effect.ofText wholeNumber? value fun count =>
        { options with listing.limit := Limit.ofCount count }
  | .verbose => .set { options with verbose := true }

/-- What the arguments of the analysis ask for: at least one path is needed. -/
def analysisRequest (texts : List String) : Request AnalysisOptions :=
  request analysisRules analysisEffect true {} texts

/-! ### Benchmark -/

/-- How the benchmark is run.  A number that is left out is none. -/
structure BenchmarkOptions where
  /-- How often the program is analyzed. -/
  repeats : Option Int := some 20
  /-- The distance between the passes of the facing program. -/
  stepover : Option Binary64 := some 0.1

/-- The options of the benchmark. -/
inductive BenchmarkKey where
  | help
  | repeats
  | stepover

/-- How the options of the benchmark are written. -/
def benchmarkRules : List (Rule BenchmarkKey) :=
  [ { key := .help, name := "help", letter := some helpLetter },
    { key := .repeats, name := "repeats", hasValue := true },
    { key := .stepover, name := "stepover", hasValue := true } ]

/-- What an option of the benchmark does. -/
def benchmarkEffect (options : BenchmarkOptions) (key : BenchmarkKey) (value : Option String) :
    Effect BenchmarkOptions :=
  match key with
  | .help => .help
  | .repeats =>
      Effect.ofText wholeNumber? value fun repeats => { options with repeats := repeats }
  | .stepover =>
      Effect.ofText double? value fun stepover => { options with stepover := stepover }

/-- What the arguments of the benchmark ask for: it has no operands. -/
def benchmarkRequest (texts : List String) : Request BenchmarkOptions :=
  request benchmarkRules benchmarkEffect false {} texts

end Toolpath.CommandLine
