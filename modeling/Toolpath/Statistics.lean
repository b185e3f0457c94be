/-
**Counts, distances and time of a list of commands.**

Main definitions:

* `Toolpath.countOf` — how many commands ask for a motion;
* `Toolpath.moveCounts` — how many commands ask for each motion, counted in one pass;
* `Toolpath.distanceOf` — how far the commands of some kind travel;
* `Toolpath.runTime` — how long the commands take, without acceleration.
-/

import Toolpath.Duration
import Toolpath.Feed
import Toolpath.Length

set_option relaxedAutoImplicit false
set_option autoImplicit false

namespace Toolpath

/-! ### Counts -/

/-- How many commands ask for a motion. -/
def countOf (motion : Motion) (commands : List Command) : Nat :=
  commands.countP fun command => command.motion == motion

/-- Motions, each with how often it was counted, in the order in which they came up first. -/
abbrev MotionCounts := List (Motion × Nat)

namespace MotionCounts

/-- The counts with a motion counted once more. -/
def add (motion : Motion) : MotionCounts → MotionCounts
  | [] => [(motion, 1)]
  | (known, count) :: rest =>
      if known = motion then (known, count + 1) :: rest else (known, count) :: add motion rest

/-- How often a motion was counted; never, if it did not come up. -/
def of (counts : MotionCounts) (motion : Motion) : Nat := (counts.lookup motion).getD 0

end MotionCounts

/-- How many commands ask for each motion, counted in one pass. -/
def moveCounts (commands : List Command) : MotionCounts :=
  commands.foldl (fun counts command => counts.add command.motion) []

/-- How many commands ask for an arc. -/
def arcCount (commands : List Command) : Nat :=
  countOf .clockwise commands + countOf .counterclockwise commands

/-! ### Distances -/

variable [Numerics]

/-- The lengths of the commands that are selected, in their order. -/
def lengthsOf (settings : Settings) (select : Command → Bool) (commands : List Command) :
    List Binary64 :=
  ((commands.zip (lengths settings commands)).filter fun entry => select entry.1).map Prod.snd

/-- How far the commands that are selected travel. -/
def distanceOf (settings : Settings) (select : Command → Bool) (commands : List Command) :
    Binary64 :=
  Numerics.sum (lengthsOf settings select commands)

/-- How far all commands travel. -/
def totalDistance (settings : Settings) (commands : List Command) : Binary64 :=
  Numerics.sum (lengths settings commands)

/-- How far the commands at a feed rate travel. -/
def cuttingDistance (settings : Settings) (commands : List Command) : Binary64 :=
  distanceOf settings Command.isCutting commands

/-- How far the commands at the rate of the machine travel. -/
def rapidDistance (settings : Settings) (commands : List Command) : Binary64 :=
  distanceOf settings Command.isRapid commands

/-! ### Time -/

/-- The minutes that a move takes, if it has a length and a rate. -/
def minutes? (length rate : Binary64) : Option Binary64 :=
  if 0 < rate ∧ 0 < length then some (length / rate) else none

/-- The minutes that the commands take. -/
def minutes (settings : Settings) (commands : List Command) : Binary64 :=
  Numerics.sum (((lengths settings commands).zip (rates settings commands)).filterMap fun entry =>
    minutes? entry.1 entry.2)

/-- How long the commands take; no time without any command. -/
def runTime (settings : Settings) (commands : List Command) : Except DurationError Duration :=
  if commands.isEmpty then .ok Duration.zero else Duration.ofMinutes (minutes settings commands)

end Toolpath
