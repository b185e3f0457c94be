/-
**Sample programs.**

Three programs that are made from a few measures: facing a rectangle in a zigzag, cutting a
circular pocket in quarter arcs, and tracing a square over and over.

Main definitions:

* `Toolpath.Facing`, `Toolpath.CircularPocket`, `Toolpath.Retrace` — the measures of a program;
* `Toolpath.Facing.program`, `Toolpath.CircularPocket.program`, `Toolpath.Retrace.program` — its
  text;
* `Toolpath.PassError` — why the passes of a program cannot be counted.
-/

import Toolpath.Diagnostic

set_option relaxedAutoImplicit false
set_option autoImplicit false

namespace Toolpath

/-! ### Passes -/

/-- Why the passes of a program cannot be counted. -/
inductive PassError where
  /-- The step between two passes is zero. -/
  | zeroStep
  /-- There is no end of passes. -/
  | endless
  /-- The number of passes is not a number. -/
  | undefined
  deriving DecidableEq

/-- How many steps cover an extent. -/
def stepsAcross (extent step : Binary64) : Except PassError Int :=
  if step.magnitude = 0 ∧ step.isFinite then .error .zeroStep
  else
    let quotient := extent / step
    match quotient.ceil? with
    | some steps => .ok steps
    | none => .error (if quotient.isNaN then .undefined else .endless)

/-- A count of passes: at least one. -/
def passCount (count : Int) : Nat := (max 1 count).toNat

/-! ### Words -/

/-- A letter with a coordinate. -/
def coordinateWord (letter : String) (c : Binary64) : String := letter ++ coordinateText c

/-- The feed rate of a line, with a blank before it. -/
def feedWord (rate : Binary64) : String := " F" ++ rate.fixed 0

def programText (lines : List String) : String := "\n".intercalate lines ++ "\n"

/-! ### Facing -/

/-- The measures of a facing program. -/
structure Facing where
  /-- The extent of the faced area along the first axis. -/
  width : Binary64 := 100
  /-- The extent of the faced area along the second axis. -/
  height : Binary64 := 50
  stepover : Binary64 := 5
  depth : Binary64 := 0.5
  feedRate : Binary64 := 1200
  plungeRate : Binary64 := 300
  /-- The height of rapid moves. -/
  safeHeight : Binary64 := 5

namespace Facing

/-- The side where a pass ends that starts at the given side. -/
def otherSide (facing : Facing) (side : Binary64) : Binary64 :=
  if side.magnitude = 0 ∧ side.isFinite then facing.width else 0

/-- The second coordinate of a row. -/
def rowHeight (facing : Facing) (row : Nat) : Binary64 :=
  (Binary64.ofInt row * facing.stepover).least facing.height

/-- The lines of a number of rows after the first, from one side to the other and back. -/
def laterRows (facing : Facing) : Nat → Nat → Binary64 → List String
  | 0, _, _ => []
  | rows + 1, row, side =>
      ("G1 " ++ coordinateWord "Y" (facing.rowHeight row)) ::
        ("G1 " ++ coordinateWord "X" (facing.otherSide side)) ::
          laterRows facing rows (row + 1) (facing.otherSide side)

/-- The lines of all rows.  The first one sets the feed rate, and is not stepped to. -/
def rows (facing : Facing) (count : Nat) : List String :=
  ("G1 " ++ coordinateWord "X" (facing.otherSide 0) ++ feedWord facing.feedRate) ::
    facing.laterRows (count - 1) 1 (facing.otherSide 0)

def lines (facing : Facing) (passes : Nat) : List String :=
  [ "; Facing program",
    "; Area: " ++ facing.width.shortest ++ " x " ++ facing.height.shortest ++ ", stepover: " ++
      facing.stepover.shortest ++ ", depth: " ++ facing.depth.shortest,
    "G21 ; millimetres",
    "G90 ; absolute positioning",
    "M3 S12000 ; spindle on",
    "G0 X0 Y0 " ++ coordinateWord "Z" facing.safeHeight,
    "G1 " ++ coordinateWord "Z" (-facing.depth) ++ feedWord facing.plungeRate ] ++
  facing.rows passes ++
  [ "G0 " ++ coordinateWord "Z" facing.safeHeight,
    "M5 ; spindle off",
    "M30" ]

/-- The program that faces a rectangle in passes along the first axis. -/
def program (facing : Facing) : Except PassError String :=
  (stepsAcross facing.height facing.stepover).map fun steps =>
    programText (facing.lines (passCount (steps + 1)))

end Facing

/-! ### Circular pockets -/

/-- The measures of a circular pocket. -/
structure CircularPocket where
  centreX : Binary64 := 50
  centreY : Binary64 := 50
  radius : Binary64 := 20
  depth : Binary64 := 3
  /-- How much deeper each pass is than the one before. -/
  stepDown : Binary64 := 1
  feedRate : Binary64 := 800
  plungeRate : Binary64 := 200
  /-- The height of rapid moves. -/
  safeHeight : Binary64 := 5

namespace CircularPocket

/-- A clockwise quarter of the circle to a point, with the offset of the centre from its start. -/
def quarter (x y i j : Binary64) : String :=
  "G2 " ++ coordinateWord "X" x ++ " " ++ coordinateWord "Y" y ++ " " ++ coordinateWord "I" i ++
    " " ++ coordinateWord "J" j

def startX (pocket : CircularPocket) : Binary64 := pocket.centreX + pocket.radius

def passDepth (pocket : CircularPocket) (pass : Nat) : Binary64 :=
  (Binary64.ofInt pass * pocket.stepDown).least pocket.depth

def passLines (pocket : CircularPocket) (pass : Nat) : List String :=
  let x := pocket.centreX
  let y := pocket.centreY
  let r := pocket.radius
  [ "(pass " ++ toString pass ++ ")",
    "G1 " ++ coordinateWord "Z" (-pocket.passDepth pass) ++ feedWord pocket.plungeRate,
    quarter x (y - r) (-r) 0 ++ feedWord pocket.feedRate,
    quarter (x - r) y 0 r,
    quarter x (y + r) r 0,
    quarter pocket.startX y 0 (-r) ]

def lines (pocket : CircularPocket) (passes : Nat) : List String :=
  [ "; Circular pocket",
    "; Centre: (" ++ pocket.centreX.shortest ++ ", " ++ pocket.centreY.shortest ++
      "), radius: " ++ pocket.radius.shortest ++ ", depth: " ++ pocket.depth.shortest,
    "G21",
    "G90",
    "G17 ; XY plane",
    "M3 S10000",
    "G0 " ++ coordinateWord "X" pocket.startX ++ " " ++ coordinateWord "Y" pocket.centreY ++
      " Z1.000" ] ++
  (List.range' 1 passes).flatMap pocket.passLines ++
  [ "G0 " ++ coordinateWord "Z" pocket.safeHeight,
    "M5",
    "M30" ]

/-- The program that cuts a circle deeper and deeper. -/
def program (pocket : CircularPocket) : Except PassError String :=
  (stepsAcross pocket.depth pocket.stepDown).map fun steps =>
    programText (pocket.lines (passCount steps))

end CircularPocket

/-! ### Retracing -/

/-- The measures of a square that is traced over and over. -/
structure Retrace where
  size : Binary64 := 10
  laps : Int := 2

namespace Retrace

def lap (retrace : Retrace) : List String :=
  [ "G1 " ++ coordinateWord "X" retrace.size ++ " F600",
    "G1 " ++ coordinateWord "Y" retrace.size,
    "G1 X0",
    "G1 Y0" ]

def lines (retrace : Retrace) : List String :=
  [ "; Square contour traced repeatedly",
    "G90",
    "G0 X0 Y0 Z1",
    "G1 Z-1 F300" ] ++
  (List.replicate retrace.laps.toNat retrace.lap).flatten ++
  [ "G0 Z5" ]

/-- The program that traces the square. -/
def program (retrace : Retrace) : String := programText retrace.lines

end Retrace

end Toolpath
