/-
**The report about a program file.**

Main definitions:

* `Toolpath.Limit` — how many diagnostics are listed at most;
* `Toolpath.report` — the summary of a program and its diagnostics as lines of text;
* `Toolpath.ReportError` — why a report cannot be written.

Main results:

* `Toolpath.Limit.take_isPrefix` — what a limit leaves of a list is where the list starts.
-/

import Toolpath.Path
import Toolpath.Summary

set_option relaxedAutoImplicit false
set_option autoImplicit false

namespace Toolpath

/-! ### Limits -/

/-- How many diagnostics are listed at most. -/
inductive Limit where
  | unlimited
  /-- The first `count`; without the last ones for a negative count. -/
  | upTo (count : Int)
  /-- A limit whose count was left out. -/
  | blank

namespace Limit

/-- The limit of a count, which may have been left out. -/
def ofCount : Option Int → Limit
  | some count => upTo count
  | none => blank

/-- What a limit leaves of a list; nothing is left without a count. -/
def take {α : Type} (limit : Limit) (xs : List α) : List α :=
  match limit with
  | unlimited => xs
  | upTo count =>
      if count < 0 then xs.take (xs.length - count.natAbs) else xs.take count.toNat
  | blank => []

/-- What a limit leaves of a list is where the list starts. -/
theorem take_isPrefix {α : Type} (limit : Limit) (xs : List α) : limit.take xs <+: xs := by
  unfold take
  split
  · exact List.prefix_refl xs
  · split <;> exact List.take_prefix _ _
  · exact List.nil_prefix

end Limit

/-! ### Reports -/

/-- The line between the parts of a report. -/
def ruler : String := String.ofList (List.replicate 60 '=')

/-- How a report lists diagnostics. -/
structure Listing where
  hidden : Analysis.Hidden := {}
  /-- How many diagnostics are listed at most. -/
  limit : Limit := .unlimited

/-- The diagnostics that a report lists. -/
def Analysis.listed (analysis : Analysis) (listing : Listing) : List Diagnostic :=
  listing.limit.take (analysis.visible listing.hidden)

/-- A line that is there only for a count other than zero. -/
def countedLine (count : Nat) (text : String → String) : List String :=
  if count = 0 then [] else [text (toString count)]

/-- The diagnostics of a report: how many are hidden, those that are listed, and how many more
there are. -/
def diagnosticLines (analysis : Analysis) (listing : Listing) : List String :=
  let visible := analysis.visible listing.hidden
  let listed := analysis.listed listing
  countedLine (analysis.diagnostics.length - visible.length)
      (fun count => "(" ++ count ++ " filtered)") ++
    listed.map (fun d => "  " ++ d.text) ++
    countedLine (visible.length - listed.length) fun count => "  ... " ++ count ++ " more"

/-- Why a report cannot be written. -/
inductive ReportError where
  | time (error : DurationError)
  /-- The diagnostics are limited, but to no count. -/
  | blankLimit

variable [Numerics]

/-- The report about the program file at a path. -/
def report (path : Path) (analysis : Analysis) (listing : Listing) :
    Except ReportError (List String) :=
  match analysis.summary, listing.limit with
  | .error error, _ => .error (.time error)
  | .ok _, .blank => .error .blankLimit
  | .ok summary, _ =>
      .ok ([ruler, path.text, ruler, summary] ++ diagnosticLines analysis listing ++ [""])

end Toolpath
