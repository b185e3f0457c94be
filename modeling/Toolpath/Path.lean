/-
**Paths of files.**

A path is a row of names, from the working folder or from the root.  Empty names and single dots
are left out; double dots are kept, since the folder before them need not be a plain one.

Main definitions:

* `Toolpath.Path` — the names of a path;
* `Toolpath.Path.ofString`, `Toolpath.Path.text` — how a path is written;
* `Toolpath.Path.suffix` — the last part of the last name, with its point;
* `Toolpath.Path.isProgram` — the suffix is one of those of program files.
-/

import Toolpath.Settings
import Toolpath.Text.Case

set_option relaxedAutoImplicit false
set_option autoImplicit false

namespace Toolpath

/-- Where a path starts. -/
inductive Anchor where
  /-- At the working folder. -/
  | here
  /-- At the root. -/
  | root
  /-- At the other root, which two slashes name. -/
  | otherRoot
  deriving DecidableEq

namespace Anchor

/-- What a path with this number of slashes at its start starts at. -/
def ofSlashes : Nat → Anchor
  | 0 => here
  | 2 => otherRoot
  | _ => root

/-- The slashes at the start of a path. -/
def text : Anchor → String
  | here => ""
  | root => "/"
  | otherRoot => "//"

end Anchor

/-- The names of a path. -/
structure Path where
  anchor : Anchor
  names : List String
  deriving DecidableEq

namespace Path

/-- The pieces of a text between slashes. -/
def pieces : List Char → List (List Char)
  | [] => [[]]
  | c :: rest =>
      if c = '/' then [] :: pieces rest
      else
        match pieces rest with
        | [] => [[c]]
        | piece :: others => (c :: piece) :: others

/-- A piece between slashes is a name: neither empty nor a single dot. -/
def isName (piece : List Char) : Bool := !piece.isEmpty && piece != ['.']

/-- The path that a text writes. -/
def ofString (text : String) : Path where
  anchor := Anchor.ofSlashes (text.toList.takeWhile (· == '/')).length
  names := ((pieces text.toList).filter isName).map String.ofList

/-- How a path is written; the working folder is a single dot. -/
def text (path : Path) : String :=
  if path.anchor = .here ∧ path.names = [] then "."
  else path.anchor.text ++ "/".intercalate path.names

/-- The path of a file in the folder of a path. -/
def child (path : Path) (name : String) : Path := { path with names := path.names ++ [name] }

/-- The last part of a name from its last point on.  There is none where the point is the first
or the last character. -/
def suffixOf (name : List Char) : List Char :=
  let last := (name.reverse.takeWhile (· != '.')).reverse
  match name.reverse.dropWhile (· != '.') with
  | point :: _ :: _ => if last.isEmpty then [] else point :: last
  | _ => []

/-- The suffix of the last name of a path. -/
def suffix (path : Path) : List Char := suffixOf (path.names.getLast?.getD "").toList

/-- The suffix of a path, in small letters, is one of those of program files. -/
def isProgram (settings : Settings) (path : Path) : Bool :=
  settings.extensions.contains (String.ofList (Text.smalls path.suffix))

end Path

end Toolpath
