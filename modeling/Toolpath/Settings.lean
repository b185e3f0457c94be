/-
**Settings of an analysis.**

Main definitions:

* `Toolpath.Settings` — tolerances, feed rates and file name extensions.
-/

import Toolpath.Binary64.Basic

set_option relaxedAutoImplicit false
set_option autoImplicit false

namespace Toolpath

/-- Tolerances, feed rates in units per minute, and the extensions of the files to look for. -/
structure Settings where
  /-- Two coordinates that differ by less than this are one. -/
  positionTolerance : Binary64 := 0.0001
  /-- An arc with a smaller radius has no length. -/
  minArcRadius : Binary64 := 0.001
  /-- The feed rate before any feed word. -/
  defaultFeedRate : Binary64 := 1000
  /-- The rate of rapid moves. -/
  rapidFeedRate : Binary64 := 5000
  /-- The extensions of program files, in small letters with their point. -/
  extensions : List String := [".nc", ".gcode", ".ngc", ".tap"]

end Toolpath
