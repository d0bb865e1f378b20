/-
  Paths of files: names separated by slashes.

  Names that are empty or a single dot count for nothing.  `clean` gives the place that a path leads
  to, `join` a path seen from a directory.
-/
import Retouch.Text.Basic

namespace Retouch.Path

/-- The names of a path, without those that count for nothing. -/
def names (p : Text) : List Text :=
  (p.splitOnP (· == '/')).filter fun n => !n.isEmpty && n != ['.']

/-- Whether a path starts at the root. -/
def isAbsolute (p : Text) : Bool := p.head? == some '/'

/-- A path seen from the directory `dir`. -/
def join (dir p : Text) : Text :=
  if isAbsolute p then p
  else if dir.isEmpty ∨ dir.getLast? = some '/' then dir ++ p
  else dir ++ ['/'] ++ p

/-- The last name of a path, unless it leads upwards. -/
def fileName? (p : Text) : Option Text :=
  match (names p).getLast? with
  | some n => if n = ['.', '.'] then none else some n
  | none => none

/-- What follows the last dot of the last name; a name that starts by its only dot has none. -/
def extension? (p : Text) : Option Text := do
  let n ← fileName? p
  let back := n.reverse.takeWhile (· != '.')
  if n.length ≤ back.length + 1 then none else some back.reverse

/-- A step along a path, upwards for two dots. -/
def step (place : List Text) (n : Text) : List Text :=
  if n = ['.', '.'] then place.dropLast else place ++ [n]

/-- The place that an absolute path leads to, as the names from the root. -/
def clean (p : Text) : List Text := (names p).foldl step []

/-- A path in reverse, without the slashes and single dots at its end. -/
def trimEndRev : Text → Text
  | ['/'] => ['/']
  | '/' :: r => trimEndRev r
  | '.' :: '/' :: r => trimEndRev ('/' :: r)
  | r => r

/-- A path without the slashes and single dots at its start. -/
def trimStart : Text → Text
  | '/' :: r => trimStart r
  | '.' :: '/' :: r => trimStart r
  | ['.'] => []
  | r => r

/-- A path that starts by the path of a directory, seen from that directory. -/
def relative? (dir p : Text) : Option Text :=
  if dir.isPrefixOf p then some (trimStart (p.drop dir.length)) else none

/-- The directory above a path: the path without its last name. -/
def parent? (p : Text) : Option Text :=
  if (names p).isEmpty then none
  else
    let r := (trimEndRev p.reverse).dropWhile (· != '/')
    some (trimEndRev r).reverse

end Retouch.Path
