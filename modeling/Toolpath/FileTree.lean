/-
**Files in folders.**

The files are those below the working folder.  Nothing is known of what lies outside of it, except
that the folders above it are folders.

Main definitions:

* `Toolpath.FileTree` — the files and folders below the working folder;
* `Toolpath.FileTree.walk` — what the names of a path lead to;
* `Toolpath.FileTree.files` — what is at every path.
-/

import Toolpath.Files

set_option relaxedAutoImplicit false
set_option autoImplicit false

namespace Toolpath

/-! ### Folders -/

/-- A folder: one at or below the working folder, or one of which nothing is known. -/
inductive Folder where
  | inside (names : List String)
  | outside
  deriving DecidableEq

namespace Folder

/-- The folder above. -/
def parent : Folder → Folder
  | inside [] => outside
  | inside (name :: names) => inside (name :: names).dropLast
  | outside => outside

/-- The folder that paths start at. -/
def ofAnchor : Anchor → Folder
  | .here => inside []
  | _ => outside

end Folder

/-! ### Trees -/

/-- A file below the working folder. -/
structure File where
  /-- The names of the folders that the file is in, and its own. -/
  names : List String
  bytes : List UInt8

/-- The files and folders below the working folder.  A folder with a file in it need not be
listed. -/
structure FileTree where
  entries : List File := []
  folders : List (List String) := []

namespace FileTree

/-- There is a folder with these names: it is listed, or something is in it. -/
def hasFolder (tree : FileTree) (names : List String) : Bool :=
  tree.folders.any (fun folder => names.isPrefixOf folder) ||
    tree.entries.any fun file => names.isPrefixOf file.names.dropLast

/-- The bytes of the file with these names. -/
def bytes? (tree : FileTree) (names : List String) : Option (List UInt8) :=
  (tree.entries.find? fun file => file.names == names).map File.bytes

/-- The names of the files in a folder. -/
def namesIn (tree : FileTree) : Folder → List String
  | .outside => []
  | .inside names =>
      (tree.entries.filter fun file => file.names.dropLast == names).filterMap fun file =>
        file.names.getLast?

/-- What the names of a path lead to from a folder.  Double dots lead to the folder above, and
only a folder leads on. -/
def walk (tree : FileTree) : Folder → List String → Option Node
  | folder, [] => some (.folder (tree.namesIn folder))
  | folder, name :: rest =>
      if name = ".." then tree.walk folder.parent rest
      else
        match folder with
        | .outside => none
        | .inside names =>
            if tree.hasFolder (names ++ [name]) then tree.walk (.inside (names ++ [name])) rest
            else if rest.isEmpty then (tree.bytes? (names ++ [name])).map Node.file
            else none

/-- What is at every path. -/
def files (tree : FileTree) : Files where
  find? path := tree.walk (Folder.ofAnchor path.anchor) path.names

end FileTree

end Toolpath
