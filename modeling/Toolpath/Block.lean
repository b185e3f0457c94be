/-
**Lines of a program.**

A line holds code and perhaps a comment.  Code in capitals that starts with a command word is
asked for its motion; the parameter words are read from the whole of it.

Main definitions:

* `Toolpath.stripComment` — the code of a line;
* `Toolpath.commandWord?` — the command word that code starts with;
* `Toolpath.Reading`, `Toolpath.readLine` — what a line says.
-/

import Toolpath.Command
import Toolpath.Diagnostic
import Toolpath.Text.Blank

set_option relaxedAutoImplicit false
set_option autoImplicit false

namespace Toolpath

open Text

/-! ### Code and comments -/

/-- A comment starts at a semicolon or an opening parenthesis, and lasts to the end of the
line. -/
def startsComment (c : Char) : Bool := c == ';' || c == '('

/-- The trimmed line up to its first comment, trimmed again. -/
def stripComment (line : List Char) : List Char :=
  trim ((trim line).takeWhile fun c => !startsComment c)

/-! ### Command words -/

/-- The letter starts a command word. -/
def isCommandLetter (c : Char) : Bool := c == 'G' || c == 'M' || c == 'T'

/-- The command word that code in capitals starts with: a letter and all the digits after it. -/
def commandWord? : List Char → Option (List Char)
  | [] => none
  | letter :: rest =>
      if isCommandLetter letter && !(rest.takeWhile isDecimalDigit).isEmpty then
        some (letter :: rest.takeWhile isDecimalDigit)
      else none

/-! ### Readings -/

/-- What a line says. -/
inductive Reading where
  /-- No motion; there may be parameter words that no command word goes before. -/
  | idle (looseWords : Bool)
  /-- The number of the command word cannot be read. -/
  | unreadable (reason : NumberError)
  /-- A motion, and what is to be reported about its words. -/
  | motion (command : Command) (diagnostics : List Diagnostic)
  deriving DecidableEq

/-- The command of a line with the given code, command word and parameter words. -/
def commandOf (motion : Motion) (number : Int) (code token : List Char) (ws : List Word) :
    Command where
  motion := motion
  line := number
  raw := String.ofList code
  token := String.ofList token
  parameters := Parameters.ofWords ws

/-- The words with numbers that are too large, in their order, and after them an arc without any
offset. -/
def wordDiagnostics (command : Command) (ws : List Word) : List Diagnostic :=
  (ws.filter fun word => !word.value.isFinite).map
      (fun word => ⟨command.line, .invalidValue (String.ofList word.text)⟩) ++
    if command.motion.isArc && !command.hasOffset then
      [⟨command.line, .missingOffset command.token⟩]
    else []

/-- What the code of a line says. -/
def readCode (number : Int) (code : List Char) : Reading :=
  let upper := capitals code
  match commandWord? upper with
  | none => .idle (!(words upper).isEmpty)
  | some token =>
      match Motion.ofToken token with
      | .error reason => .unreadable reason
      | .ok motion =>
          if motion.isMotion then
            let command := commandOf motion number code token (words upper)
            .motion command (wordDiagnostics command (words upper))
          else .idle false

/-- What the line with the given number says. -/
def readLine (number : Int) (line : String) : Reading :=
  readCode number (stripComment line.toList)

end Toolpath
