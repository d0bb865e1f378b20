/-
  Programs: how a name leads to a program.

  A name without a slash is looked for in the directories of the search path.  A file that can be
  executed is a program of the system, or names the program that interprets it in its first line.
-/
import Retouch.Files.Tree

namespace Retouch.Shell

/-- Why a program cannot be started. -/
inductive StartFault where
  | missing
  | denied
  | badFormat
deriving Repr, DecidableEq

/-- What files that are programs start with. -/
def programMark : Octets := "\x7fELF".toList

/-- The content of the file of a program of the system. -/
def programContent (name : Octets) : Octets := programMark ++ name

/-- The name of the program of the system that a file is. -/
def programName? (content : Octets) : Option Octets :=
  if programMark.isPrefixOf content then some (content.drop programMark.length) else none

/-- The interpreter that the first line of a file names, with its argument. -/
def interpreter? (content : Octets) : Option (Octets × List Octets) :=
  match content with
  | '#' :: '!' :: t =>
    let line := (t.takeWhile (· != '\n')).dropWhile Text.isPadding
    let path := line.takeWhile fun c => !Text.isPadding c
    let arg := Text.dropEndWhile Text.isPadding ((line.drop path.length).dropWhile Text.isPadding)
    if path.isEmpty then none else some (path, if arg.isEmpty then [] else [arg])
  | _ => none

/-- A program of the system that is about to be started: its own name, the name by which it is called,
    and its arguments. -/
structure Started where
  program : Octets
  name : Octets
  args : List Octets

/-- How many interpreters of interpreters are followed. -/
def interpreterDepth : Nat := 5

/-- The program of the system that the file at a path leads to, through the interpreters of files;
    `depth` bounds their number. -/
def resolve (tree : Tree) (cwd : Place) :
    (depth : Nat) → (path : Octets) → List Octets → Except StartFault Started
  | 0, _, _ => .error .missing
  | depth + 1, path, args =>
    match tree.get cwd path with
    | .ok (.file content info) =>
      if info.mode &&& 0o111 == 0 then .error .denied
      else
        match programName? content, interpreter? content with
        | some name, _ => .ok ⟨name, path, args⟩
        | none, some (interpreter, more) => resolve tree cwd depth interpreter (more ++ path :: args)
        | none, none => .error .badFormat
    | .ok _ => .error .denied
    | .error .denied => .error .denied
    | .error _ => .error .missing

/-- The paths at which a name is looked for. -/
def searchPaths (path name : Octets) : List Octets :=
  (path.splitOnP (· == ':')).map fun dir => if dir.isEmpty then name else Path.join dir name

/-- The path of the program with a name, which is looked for along a search path unless there is a
    slash in it. -/
def findProgram (tree : Tree) (cwd : Place) (path name : Octets) : Except StartFault Octets :=
  if name.contains '/' then .ok name
  else
    let found := (searchPaths path name).filterMap fun p =>
      match tree.get cwd p with
      | .ok n => some (p, n)
      | .error _ => none
    let isProgram (n : Node) : Bool :=
      match n with
      | .file _ info => info.mode &&& 0o111 != 0
      | _ => false
    match found.find? fun f => isProgram f.2 with
    | some (p, _) => .ok p
    | none => .error (if found.isEmpty then .missing else .denied)

end Retouch.Shell
