/-
**The benchmark.**

The benchmark analyzes a large program that is made of two samples, again and again.  What it
shows, apart from how long it took, is the size of the program and its summary.

Main definitions:

* `Toolpath.Benchmark.program` — the program that is analyzed;
* `Toolpath.Benchmark.respond` — the answer to the command line of the benchmark.
-/

import Toolpath.CommandLine.Options
import Toolpath.Sample

set_option relaxedAutoImplicit false
set_option autoImplicit false

namespace Toolpath.Benchmark

open CommandLine

/-- The facing program of the benchmark. -/
def facing (stepover : Binary64) : Facing :=
  { width := 200, height := 200, stepover := stepover }

/-- The pocket of the benchmark. -/
def pocket : CircularPocket := { depth := 20, stepDown := 0.1 }

/-- The program that is analyzed. -/
def program (stepover : Binary64) : Except PassError String := do
  let first ← (facing stepover).program
  let second ← pocket.program
  return first ++ second

/-- A number with commas between groups of three digits, counted from the last. -/
def groupDigits : List Char → List Char
  | [] => []
  | digit :: rest =>
      if rest.length % 3 = 0 ∧ rest ≠ [] then digit :: ',' :: groupDigits rest
      else digit :: groupDigits rest

/-- A count with commas between thousands. -/
def groupedCount (count : Nat) : String := String.ofList (groupDigits (Nat.toDigits 10 count))

/-- Why the benchmark comes to no end. -/
inductive Failure where
  /-- A number that is needed was left out. -/
  | blank
  /-- The program cannot be made. -/
  | passes (error : PassError)
  /-- The lines are more than a double can count. -/
  | rate
  /-- The summary cannot be written. -/
  | time (error : DurationError)

/-- The answer to the command line of the benchmark. -/
inductive Response where
  | rejected
  | help
  | aborted (failure : Failure)
  /-- The lines that are shown. -/
  | finished (output : List String)

/-- What the benchmark shows of a program, without the time it took. -/
def outputLines (lineCount : Nat) (summary : String) : List String :=
  [ ruler, "gcodeanalyzer benchmark", ruler, "",
    "Program: " ++ groupedCount lineCount ++ " lines", "", summary, "", ruler ]

/-- A number that is needed. -/
def needed {α : Type} : Option α → Except Failure α
  | some number => .ok number
  | none => .error .blank

/-- The number of lines that are analyzed in all, as a rate takes it: a double, which must not be
out of range. -/
def checkRate (lineCount : Nat) (repeats : Int) : Except Failure Unit :=
  if (Binary64.ofInt (lineCount * repeats)).isFinite then .ok () else .error .rate

variable [Numerics]

/-- The outcome of the benchmark. -/
def outcome (options : BenchmarkOptions) : Except Failure (List String) := do
  let stepover ← needed options.stepover
  let text ← (program stepover).mapError Failure.passes
  let repeats ← needed options.repeats
  let lines := Text.splitLines text
  checkRate lines.length repeats
  let summary ← (analyzeLines {} lines).summary.mapError Failure.time
  return outputLines lines.length summary

/-- The answer to the command line of the benchmark. -/
def respond (arguments : List String) : Response :=
  match benchmarkRequest arguments with
  | .rejected => .rejected
  | .help => .help
  | .accepted options _ =>
      match outcome options with
      | .ok output => .finished output
      | .error failure => .aborted failure

end Toolpath.Benchmark
