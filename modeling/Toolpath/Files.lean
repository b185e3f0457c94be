/-
**Program files.**

What there is to read is known by path: at a path there is a file with its bytes, or a folder with
the names of the files in it, or nothing.  Every look-up has one of these outcomes.  That the system
refuses one, because a name is too long or a permission is missing, is not among them: such an error
is no reason to go on with the next file, and would be passed on to whoever asked for this one.

Main definitions:

* `Toolpath.Files` — what is at every path;
* `Toolpath.Files.expand` — the files that a path stands for;
* `Toolpath.textOfBytes` — the text that is read from bytes;
* `Toolpath.Files.readProgram` — the text of a program file;
* `Toolpath.FileError` — why a program file cannot be read.

Main results:

* `Toolpath.Files.readProgram_of_file` — a file at a path that is not blank is read, whatever its
  bytes are.
-/

import Toolpath.Path
import Toolpath.Text.Blank
import Toolpath.Text.Newline
import Toolpath.Text.Utf8

set_option relaxedAutoImplicit false
set_option autoImplicit false

namespace Toolpath

/-- What is at a path. -/
inductive Node where
  | file (bytes : List UInt8)
  /-- A folder, with the names of the files in it in any order. -/
  | folder (names : List String)
  deriving DecidableEq

/-- What is at every path.  No look-up fails with an error of the system. -/
structure Files where
  find? : Path → Option Node

/-- Why a program file cannot be read. -/
inductive FileError where
  /-- The path is blank. -/
  | blankPath
  /-- There is no file at the path. -/
  | notFound (path : Path)
  deriving DecidableEq

/-- The wording of a reason why a program file cannot be read. -/
def FileError.message : FileError → String
  | blankPath => "G-code file path must not be empty."
  | notFound path => "G-code file not found: " ++ path.text

/-- The text that is read from bytes, with one line feed for every terminator.  Bytes that encode no
text are replaced. -/
def textOfBytes (bytes : List UInt8) : String :=
  String.ofList (Text.unifyNewlines (Text.Utf8.decode bytes))

namespace Files

/-- The program files of a folder, in alphabetical order. -/
def programsOf (settings : Settings) (path : Path) (names : List String) : List Path :=
  ((names.mergeSort fun a b => decide (a ≤ b)).map path.child).filter (Path.isProgram settings)

/-- The files that a path stands for: the program files of a folder, and else only itself. -/
def expand (files : Files) (settings : Settings) (path : Path) : List Path :=
  match files.find? path with
  | some (.folder names) => programsOf settings path names
  | _ => [path]

/-- The text of the program file at a path. -/
def readProgram (files : Files) (path : String) : Except FileError String :=
  if (Text.trim path.toList).isEmpty then .error .blankPath
  else
    match files.find? (Path.ofString path) with
    | some (.file bytes) => .ok (textOfBytes bytes)
    | _ => .error (.notFound (Path.ofString path))

/-- A file at a path that is not blank is read, whatever its bytes are. -/
theorem readProgram_of_file {files : Files} {path : String} {bytes : List UInt8}
    (hpath : Text.trim path.toList ≠ [])
    (hfile : files.find? (Path.ofString path) = some (.file bytes)) :
    files.readProgram path = .ok (textOfBytes bytes) := by
  rw [readProgram, hfile, if_neg (by simpa using hpath)]

end Files

end Toolpath
