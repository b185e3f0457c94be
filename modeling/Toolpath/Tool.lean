/-
**The tool and where it is.**

Positions are absolute: every coordinate that a command gives is where the tool goes on that
axis, and an axis that it does not give keeps its coordinate.

Main definitions:

* `Toolpath.Tool` — the position of the tool, and whether it has moved yet;
* `Toolpath.Tool.move` — the tool after a command.
-/

import Toolpath.Command

set_option relaxedAutoImplicit false
set_option autoImplicit false

namespace Toolpath

/-- The position of the tool, and whether it has moved yet. -/
structure Tool where
  position : Point Binary64 := Point.origin
  hasMoved : Bool := false
  deriving DecidableEq

namespace Tool

/-- The tool in its first position. -/
def start : Tool := {}

/-- Where a command with these parameters takes the tool. -/
def target (tool : Tool) (parameters : Parameters) : Point Binary64 where
  x := parameters.x.getD tool.position.x
  y := parameters.y.getD tool.position.y
  z := parameters.z.getD tool.position.z

/-- The tool after a command with these parameters. -/
def move (tool : Tool) (parameters : Parameters) : Tool := ⟨tool.target parameters, true⟩

@[simp] theorem position_move (tool : Tool) (parameters : Parameters) :
    (tool.move parameters).position = tool.target parameters := rfl

@[simp] theorem hasMoved_move (tool : Tool) (parameters : Parameters) :
    (tool.move parameters).hasMoved = true := rfl

/-- The command with the end point that it has from where the tool is. -/
def resolve (tool : Tool) (command : Command) : Command :=
  { command with finish := tool.target command.parameters }

end Tool

end Toolpath
