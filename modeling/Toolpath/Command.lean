/-
**Motion commands.**

Main definitions:

* `Toolpath.Command` — one motion of a program, with its words and where it ends.
-/

import Toolpath.Motion
import Toolpath.Point
import Toolpath.Word

set_option relaxedAutoImplicit false
set_option autoImplicit false

namespace Toolpath

/-- One motion of a program. -/
structure Command where
  /-- What the command asks of the tool. -/
  motion : Motion
  line : Int
  /-- The code on the line, without its comment. -/
  raw : String := ""
  /-- The command word, in capitals. -/
  token : String := ""
  /-- The parameters that the line gives. -/
  parameters : Parameters := {}
  /-- The last feed rate of the moves without length that were left out just before; it comes
  into force before the command's own. -/
  inheritedFeed : Option Binary64 := none
  /-- Where the tool is after the command. -/
  finish : Point Binary64 := Point.origin
  deriving DecidableEq

/-- A feed rate that is given and positive; no other is in force. -/
def positiveRate? (rate : Option Binary64) : Option Binary64 :=
  rate.filter fun r => decide ((0 : Binary64) < r)

namespace Command

def isRapid (command : Command) : Bool := command.motion == .rapid

def isCutting (command : Command) : Bool := command.motion.isCutting

/-- The line gives an offset of the centre in the plane; one along the third axis alone locates
no centre. -/
def hasCentreOffset (command : Command) : Bool :=
  command.parameters.i.isSome || command.parameters.j.isSome

/-- The line gives an offset of the centre on some axis. -/
def hasOffset (command : Command) : Bool :=
  command.hasCentreOffset || command.parameters.k.isSome

end Command

end Toolpath
