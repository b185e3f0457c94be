/-
**The length of a move.**

A straight move is as long as its ends are apart.  An arc turns about a centre that is given from
its start; its radius is the distance from there, whatever the end is, and a difference in height
makes it a helix.

Main definitions:

* `Toolpath.distance` — how far two points are apart;
* `Toolpath.sweep` — the angle that an arc turns by;
* `Toolpath.Arc`, `Toolpath.Arc.length` — arcs and their length;
* `Toolpath.Command.length`, `Toolpath.lengths` — the length of a command, and of all commands.

Main results:

* `Toolpath.length_lengths` — every command has one length;
* `Toolpath.getElem?_lengths` — it is measured from where the command before ends.
-/

import Toolpath.Command
import Toolpath.Numerics
import Toolpath.Settings

set_option relaxedAutoImplicit false
set_option autoImplicit false

namespace Toolpath

variable {α : Type} [Scalar α]

/-! ### Distances and angles -/

/-- How far two points are apart: how long the differences on all axes are as a vector. -/
def distance (p q : Point α) : α := Scalar.norm (Point.zipWith (· - ·) q p)

/-- The angle that an arc turns by from one direction to another.  A full turn is taken off or
added where the difference of the angles has the wrong sign for the sense of the arc. -/
def sweep (start finish : α) (clockwise : Bool) : α :=
  let difference := finish - start
  if clockwise then
    if 0 < difference then difference - Scalar.turn else difference
  else
    if difference < 0 then difference + Scalar.turn else difference

/-! ### Arcs -/

/-- An arc from a start to a finish about a centre in the plane. -/
structure Arc (α : Type) where
  start : Point α
  finish : Point α
  /-- The offset of the centre from the start on the first axis, if it is given. -/
  i : Option α
  /-- The offset of the centre from the start on the second axis, if it is given. -/
  j : Option α
  clockwise : Bool

namespace Arc

/-- An offset as a number; zero, and never a negative one, if it is not given. -/
def offset (given : Option α) : α := given.getD 0 + 0

/-- The distance of the centre from the start. -/
def radius (arc : Arc α) : α := Scalar.hypotenuse (offset arc.i) (offset arc.j)

/-- The angle of a point seen from the centre. -/
def angleOf (arc : Arc α) (p : Point α) : α :=
  Scalar.angle (p.y - (arc.start.y + offset arc.j)) (p.x - (arc.start.x + offset arc.i))

/-- The length of the arc in the plane. -/
def planarLength (arc : Arc α) : α :=
  Scalar.magnitude (sweep (arc.angleOf arc.start) (arc.angleOf arc.finish) arc.clockwise) *
    arc.radius

/-- The length of an arc.  Without a centre it is measured as a straight line, and with a radius
below the least one it has no length. -/
def length (minRadius : α) (arc : Arc α) : α :=
  if arc.i.isNone && arc.j.isNone then distance arc.start arc.finish
  else if arc.radius < minRadius then 0
  else Scalar.hypotenuse arc.planarLength (arc.finish.z - arc.start.z)

end Arc

/-! ### Commands -/

variable [Numerics]

namespace Command

/-- The arc of a command that starts at a point. -/
def arc (command : Command) (start : Point Binary64) : Arc Binary64 where
  start := start
  finish := command.finish
  i := command.parameters.i
  j := command.parameters.j
  clockwise := command.motion == .clockwise

/-- The length of a command that starts at a point. -/
def length (settings : Settings) (command : Command) (start : Point Binary64) : Binary64 :=
  if command.motion.isArc then (command.arc start).length settings.minArcRadius
  else distance start command.finish

end Command

/-- The lengths of commands that follow each other from a point. -/
def lengthsFrom (settings : Settings) (start : Point Binary64) : List Command → List Binary64
  | [] => []
  | command :: rest =>
      command.length settings start :: lengthsFrom settings command.finish rest

/-- The lengths of the commands of a program.  Where the first one starts is not known, and it
counts nothing. -/
def lengths (settings : Settings) : List Command → List Binary64
  | [] => []
  | command :: rest => 0 :: lengthsFrom settings command.finish rest

@[simp] theorem length_lengthsFrom (settings : Settings) (start : Point Binary64)
    (commands : List Command) :
    (lengthsFrom settings start commands).length = commands.length := by
  induction commands generalizing start with
  | nil => rfl
  | cons command rest ih => simp [lengthsFrom, ih]

/-- Every command has one length. -/
@[simp] theorem length_lengths (settings : Settings) (commands : List Command) :
    (lengths settings commands).length = commands.length := by
  cases commands <;> simp [lengths]

theorem getElem?_lengthsFrom (settings : Settings) (start : Point Binary64) (front : List Command)
    (earlier command : Command) (rest : List Command) :
    (lengthsFrom settings start (front ++ earlier :: command :: rest))[front.length + 1]? =
      some (command.length settings earlier.finish) := by
  induction front generalizing start with
  | nil => rfl
  | cons first front ih =>
      rw [List.cons_append, lengthsFrom, List.length_cons, List.getElem?_cons_succ]
      exact ih first.finish

/-- A command after another one is measured from where that one ends. -/
theorem getElem?_lengths (settings : Settings) (front : List Command) (earlier command : Command)
    (rest : List Command) :
    (lengths settings (front ++ earlier :: command :: rest))[front.length + 1]? =
      some (command.length settings earlier.finish) := by
  cases front with
  | nil =>
      rw [List.nil_append, lengths, List.length_nil, List.getElem?_cons_succ, lengthsFrom,
        List.getElem?_cons_zero]
  | cons first front =>
      rw [List.cons_append, lengths, List.length_cons, List.getElem?_cons_succ,
        getElem?_lengthsFrom]

end Toolpath
