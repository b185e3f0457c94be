/-
**Diagnostics of a program.**

A diagnostic names a line and a cause.  Its message is written from the cause, and two kinds of
diagnostics can be told, and hidden, by how their message starts.

Main definitions:

* `Toolpath.Cause` — what there is to report;
* `Toolpath.Diagnostic` — a cause with the line it is reported at;
* `Toolpath.Diagnostic.message`, `Toolpath.Diagnostic.text` — its wording, without and with lines;
* `Toolpath.Diagnostic.isRedundantMove`, `Toolpath.Diagnostic.isDuplicateToolpath` — its kind.
-/

import Toolpath.Motion
import Toolpath.Point

set_option relaxedAutoImplicit false
set_option autoImplicit false

namespace Toolpath

/-- What there is to report. -/
inductive Cause where
  /-- The number of a parameter word is too large. -/
  | invalidValue (word : String)
  /-- The command word of an arc comes without any offset of the centre. -/
  | missingOffset (token : String)
  /-- A move ends where the tool already is. -/
  | redundantMove (position : Point Binary64)
  /-- A move follows a segment that was cut at an earlier line. -/
  | duplicateToolpath (start finish : Point Binary64) (first : Int)
  /-- A line cannot be read. -/
  | unreadableLine (reason : NumberError)
  /-- No line of the program moves the tool. -/
  | noMovement
  /-- A remark in the words of its author, perhaps about another line too. -/
  | note (text : String) (related : Option Int)
  deriving DecidableEq

/-- How the messages of redundant moves start. -/
def redundantMark : String := "Redundant move:"

/-- How the messages of duplicate toolpaths start. -/
def duplicateMark : String := "Duplicate toolpath:"

/-- Coordinates with three places. -/
def coordinateText (c : Binary64) : String := c.fixed 3

/-- The wording of a cause. -/
def Cause.message : Cause → String
  | invalidValue word => "Invalid parameter value: " ++ word
  | missingOffset token =>
      "Arc command " ++ token ++ " missing I, J, or K offset parameters."
  | redundantMove position =>
      redundantMark ++ " tool is already at position X" ++ coordinateText position.x ++ " Y" ++
        coordinateText position.y ++ " Z" ++ coordinateText position.z
  | duplicateToolpath start finish first =>
      duplicateMark ++ " segment from " ++ start.listed coordinateText ++ " to " ++
        finish.listed coordinateText ++ " duplicates line " ++ toString first
  | unreadableLine reason => "Failed to parse line: " ++ reason.message
  | noMovement => "No movement commands found in file."
  | note text _ => text

/-- A cause with the line it is reported at; line zero stands for the whole program. -/
structure Diagnostic where
  line : Int
  cause : Cause
  deriving DecidableEq

namespace Diagnostic

/-- The wording of a diagnostic, without its line. -/
def message (d : Diagnostic) : String := d.cause.message

/-- The other line that a diagnostic is about. -/
def related? (d : Diagnostic) : Option Int :=
  match d.cause with
  | .duplicateToolpath _ _ first => some first
  | .note _ related => related
  | _ => none

/-- The message starts with a mark. -/
def startsWith (mark : String) (d : Diagnostic) : Bool :=
  mark.toList.isPrefixOf d.message.toList

/-- The diagnostic reports a move without length. -/
def isRedundantMove (d : Diagnostic) : Bool := d.startsWith redundantMark

/-- The diagnostic reports a segment that was cut before. -/
def isDuplicateToolpath (d : Diagnostic) : Bool := d.startsWith duplicateMark

/-- The diagnostic with its lines. -/
def text (d : Diagnostic) : String :=
  "Line " ++ toString d.line ++ ": " ++ d.message ++
    match d.related? with
    | some related => " (see line " ++ toString related ++ ")"
    | none => ""

end Diagnostic

end Toolpath
