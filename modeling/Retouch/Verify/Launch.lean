/-
  Launching of programs: what a launcher is asked for, and what it gives back.

  A launcher starts a program in a directory of a tree of files and waits for it, at most for a time
  limit.  It gives the tree that the program leaves behind.
-/
import Retouch.Files.Tree
import Retouch.Verify.Outcome

namespace Retouch

/-- A program to be started.  The limit is in milliseconds. -/
structure Launch where
  program : Octets
  args : List Octets
  directory : Place
  limit : Nat

/-- What a program that ended has written, as bytes.  The exit code is missing if a signal ended it;
    times are in microseconds. -/
structure Finished where
  stdout : Octets
  stderr : Octets
  exitCode : Option Int
  elapsed : Nat
deriving Repr, DecidableEq

/-- Whether the program ended well. -/
def Finished.success (f : Finished) : Bool := f.exitCode == some 0

/-- What became of a program that was started. -/
inductive Bounded where
  | finished (f : Finished)
  | overtime
deriving Repr, DecidableEq

/-- Starts programs. -/
abbrev Launcher := Tree → Launch → Except LaunchFault (Tree × Bounded)

end Retouch
