/-
**The summary of an analysis.**

Main definitions:

* `Toolpath.Analysis.summary` — counts, distances, box, time and number of diagnostics as text.
-/

import Toolpath.Analysis
import Toolpath.Statistics

set_option relaxedAutoImplicit false
set_option autoImplicit false

namespace Toolpath

/-- The lines joined, with a line feed between each two. -/
def joinLines (lines : List String) : String := "\n".intercalate lines

variable [Numerics]

namespace Analysis

/-- The extent of the box along one axis. -/
def axisLine (axis extent : String) (least greatest size : Binary64) : String :=
  axis ++ ": " ++ coordinateText least ++ " to " ++ coordinateText greatest ++ " (" ++ extent ++
    ": " ++ coordinateText size ++ " mm)"

/-- A named distance. -/
def distanceLine (name : String) (distance : Binary64) : String :=
  name ++ " Distance: " ++ distance.fixed 2 ++ " mm"

/-- A named count. -/
def countLine (name : String) (count : Nat) : String := name ++ ": " ++ toString count

/-- The lines of the summary of a program that takes the given time. -/
def summaryLines (analysis : Analysis) (time : Duration) : List String :=
  let commands := analysis.commands
  let box := analysis.bounds
  [ "=== FILE STATISTICS ===",
    "Total Lines: " ++ toString analysis.lineCount,
    countLine "Movement Commands" commands.length,
    "",
    "=== MOVE COUNTS ===",
    countLine "Rapid Moves (G0)" (countOf .rapid commands),
    countLine "Linear Moves (G1)" (countOf .linear commands),
    countLine "Arc CW Moves (G2)" (countOf .clockwise commands),
    countLine "Arc CCW Moves (G3)" (countOf .counterclockwise commands),
    "",
    "=== DISTANCES ===",
    distanceLine "Total" (totalDistance analysis.settings commands),
    distanceLine "Cutting" (cuttingDistance analysis.settings commands),
    distanceLine "Rapid" (rapidDistance analysis.settings commands),
    "",
    "=== BOUNDING BOX ===",
    axisLine "X" "Width" box.least.x box.greatest.x box.size.x,
    axisLine "Y" "Height" box.least.y box.greatest.y box.size.y,
    axisLine "Z" "Depth" box.least.z box.greatest.z box.size.z,
    "",
    "=== TIME ESTIMATE ===",
    "Estimated Run Time: " ++ time.text,
    "",
    "=== ERRORS ===",
    countLine "Errors Found" analysis.diagnostics.length ]

/-- The summary of an analysis.  There is none if the run time cannot be told, except that a
program without commands needs no time. -/
def summary (analysis : Analysis) : Except DurationError String :=
  if analysis.commands.isEmpty then .ok "No movement commands found."
  else
    (runTime analysis.settings analysis.commands).map fun time =>
      joinLines (analysis.summaryLines time)

end Analysis

end Toolpath
