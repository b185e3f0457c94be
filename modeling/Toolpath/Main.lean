/-
**The command line.**

The program reads the files that its arguments name, and prints the reports about them and the
log.
-/

import Toolpath.Session

set_option relaxedAutoImplicit false
set_option autoImplicit false

namespace Toolpath

/-- What is at a path of the file system and, for a folder, at the files in it. -/
def loadPath (path : Path) : IO (List (Path × Node)) := do
  try
    let place ← IO.FS.realPath path.text
    if ← place.isDir then
      let mut names := []
      let mut found := []
      for entry in ← place.readDir do
        if !(← entry.path.isDir) then
          let bytes ← IO.FS.readBinFile entry.path
          names := names ++ [entry.fileName]
          found := found ++ [(path.child entry.fileName, Node.file bytes.toList)]
      return (path, .folder names) :: found
    else
      return [(path, .file (← IO.FS.readBinFile place).toList)]
  catch _ => return []

/-- The files among those that were found. -/
def Files.ofFound (found : List (Path × Node)) : Files where
  find? path := (found.find? fun entry => entry.1 == path).map Prod.snd

end Toolpath

open Toolpath

/-- Reports on the program files that the arguments name. -/
def main (arguments : List String) : IO UInt32 := do
  let found ← arguments.mapM fun text => loadPath (Path.ofString text)
  let response := @Session.respond .standard (Files.ofFound found.flatten) arguments
  match response with
  | .finished _ output log =>
      IO.eprint (Session.textOfLines log)
      IO.print (Session.textOfLines output)
  | .rejected => IO.eprintln "The arguments are not understood."
  | .help => IO.println "Analyze CNC G-code files"
  | .aborted (.time _) => IO.eprintln "The run time cannot be told."
  | .aborted .blankLimit => IO.eprintln "The number of diagnostics is missing."
  return response.status.toUInt32
