/-
  The command line of the program.

  The files below the working directory, the settings files above it and the files that arguments
  name are read into a tree; the session works on that tree, and its reply is written out.
-/
import Retouch.Command.Session
import Retouch.Shell.Launcher

namespace Retouch

/-- The tree with the file at an absolute path, if it can be read. -/
def addRealFile (tree : Tree) (path : String) : IO Tree := do
  try
    let bytes ← IO.FS.readBinFile path
    return tree.addFile (Octets.ofString path) (Octets.ofBytes bytes.toList)
  catch _ => return tree

/-- The tree with what the working directory and the directories above it hold. -/
def realTree (directory : String) (args : List String) : IO Tree := do
  let place := Path.clean (Octets.ofString directory)
  let mut tree := Shell.systemTree.makeDirectories place
  for path in ← (← IO.currentDir).walkDir do
    if ← path.isDir then
      tree := tree.makeDirectories (Path.clean (Octets.ofString path.toString))
    else tree ← addRealFile tree path.toString
  for n in List.range place.length do
    let above := Octets.toText (Place.path (place.take n))
    tree ← addRealFile tree (String.ofList (Path.join above Settings.fileName))
  for a in args do
    if Path.isAbsolute a.toList then tree ← addRealFile tree a
  return tree

end Retouch

open Retouch in
/-- Runs the program. -/
def main (args : List String) : IO UInt32 := do
  let directory := (← IO.currentDir).toString
  let tree ← realTree directory args
  let surroundings : Command.Surroundings :=
    ⟨tree, Path.clean (Octets.ofString directory), Shell.launcher⟩
  let reply := Command.execute surroundings (args.map String.toList)
  IO.print (String.ofList reply.stdout)
  IO.eprint (String.ofList reply.stderr)
  return reply.exitCode.toUInt32
