/-
  Utilities on paths, and what utilities on files share.
-/
import Retouch.Shell.Utility.Basic

namespace Retouch.Shell.Utility

/-! ## Paths as they are written -/

/-- A path with a last name added. -/
def inside (dir name : Octets) : Octets := Path.join dir name

/-- The last name of a path as it is written; of slashes only, a single one. -/
def lastName (path : Octets) : Octets :=
  let p := Text.dropEndWhile (· == '/') path
  if p.isEmpty then (if path.isEmpty then [] else ['/'])
  else (p.reverse.takeWhile (· != '/')).reverse

/-- The directory of a path as it is written. -/
def directoryOf (path : Octets) : Octets :=
  let p := Text.dropEndWhile (· == '/') path
  if p.isEmpty then (if path.isEmpty then ['.'] else ['/'])
  else
    let d := p.reverse.dropWhile (· != '/')
    if d.isEmpty then ['.']
    else
      let d := d.dropWhile (· == '/')
      if d.isEmpty then ['/'] else d.reverse

/-- The end of a line of output: a newline, or a null character. -/
def lineMark (o : Options) : Octets := if o.has 'z' then ['\x00'] else ['\n']

/-- The names of paths without their directories, and without an ending. -/
def basename : Utility Unit := do
  let o ← options {
    plain := "az", valued := "s", inFront := true
    long := [("multiple", 'a'), ("suffix", 's'), ("zero", 'z')] }
  let bare (ending p : Octets) : Utility Unit := do
    let n := lastName p
    let cut := if n = ending then n else (Text.dropSuffix? ending n).getD n
    say (cut ++ lineMark o)
  if o.operands.isEmpty then misuse "missing operand".toList 1
  if o.has 'a' || o.has 's' then o.operands.forM (bare ((o.value? 's').getD []))
  else
    match o.operands with
    | [p] => bare [] p
    | [p, ending] => bare ending p
    | _ :: _ :: extra :: _ => misuse ("extra operand ".toList ++ quote extra) 1
    | [] => pure ()

/-- The directories of paths. -/
def dirname : Utility Unit := do
  let o ← options { plain := "z", long := [("zero", 'z')] }
  if o.operands.isEmpty then misuse "missing operand".toList 1
  o.operands.forM fun p => say (directoryOf p ++ lineMark o)

/-! ## What is at a path -/

/-- What a path leads to. -/
def nodeAt (path : Octets) : Utility (Except FileFault Node) := do
  let cwd := (← read).cwd
  return (← get).tree.get cwd path

/-- What a path leads to, a link being something too. -/
def linkAt (path : Octets) : Utility (Except FileFault Node) := do
  let cwd := (← read).cwd
  return (← get).tree.getLink cwd path

/-- The place that a path leads to. -/
def placeOf (path : Octets) : Utility (Except FileFault Place) := do
  let cwd := (← read).cwd
  return (← get).tree.locate cwd path

/-- The place of the last name of a path. -/
def linkPlaceOf (path : Octets) : Utility (Except FileFault Place) := do
  let cwd := (← read).cwd
  return (← get).tree.locateLink cwd path

/-- Whether a path leads to a directory. -/
def isDirectory (path : Octets) : Utility Bool := do
  match ← nodeAt path with
  | .ok (.directory _) => return true
  | _ => return false

/-- Changes the tree in a way that cannot fail. -/
def alter (f : Tree → Tree) : Utility Unit := modify fun w => { w with tree := f w.tree }

/-- Asks whether to do something, and tells whether the answer is yes. -/
def confirm (question : Octets) : Utility Bool := do
  warn ((← read).name ++ ": ".toList ++ question ++ "? ".toList)
  let t ← input
  let line := t.takeWhile (· != '\n')
  let rest := t.drop (line.length + 1)
  modify fun w => { w with left := some rest }
  return line.head? = some 'y' || line.head? = some 'Y'

/-- The place that the names of a path give, without a look at links. -/
def literalPlace (path : Octets) : Utility Place := do
  let cwd := (← read).cwd
  return (Path.names path).foldl Path.step (if Path.isAbsolute path then [] else cwd)

/-! ## Links -/

/-- The target of a link. -/
def readlink : Utility Unit := do
  let o ← options {
    plain := "fenmqsvz"
    long := [("canonicalize", 'f'), ("canonicalize-existing", 'e'), ("canonicalize-missing", 'm'),
      ("no-newline", 'n'), ("quiet", 'q'), ("silent", 's'), ("verbose", 'v'), ("zero", 'z')] }
  if o.operands.isEmpty then misuse "missing operand".toList 1
  let ending : Octets := if o.has 'n' && o.operands.length = 1 then [] else lineMark o
  o.operands.forM fun p => do
    let failed (fault : FileFault) : Utility Unit := do
      if o.has 'v' then complain (about p fault) 1 else setStatus 1
    match o.last? "fem" with
    | some kind =>
      match ← placeOf p with
      | .ok place =>
        if kind = 'e' && ((← get).tree.node? place).isNone then failed .missing
        else say (Place.path place ++ ending)
      | .error fault =>
        if kind = 'm' then say (Place.path (← literalPlace p) ++ ending)
        else failed fault
    | none =>
      match ← linkAt p with
      | .ok (.link target) => say (target ++ ending)
      | .ok _ => failed .invalid
      | .error fault => failed fault

/-- A place as it is seen from another one. -/
def seenFrom (base place : Place) : Octets :=
  let common := ((base.zip place).takeWhile fun (a, b) => a == b).length
  let names := List.replicate (base.length - common) ['.', '.'] ++ place.drop common
  if names.isEmpty then ['.'] else List.intercalate ['/'] names

/-- The absolute paths of files, without links. -/
def realpath : Utility Unit := do
  let o ← options {
    plain := "eEmLPqsz", valued := "TB"
    long := [("canonicalize-existing", 'e'), ("canonicalize-missing", 'm'), ("logical", 'L'),
      ("physical", 'P'), ("quiet", 'q'), ("strip", 's'), ("no-symlinks", 's'), ("zero", 'z'),
      ("relative-to", 'T'), ("relative-base", 'B')] }
  if o.operands.isEmpty then misuse "missing operand".toList 1
  o.operands.forM fun p => do
    let found ← if o.has 's' then (do return Except.ok (← literalPlace p)) else placeOf p
    let found ← match found with
      | .error fault => if o.has 'm' then (do return Except.ok (← literalPlace p)) else pure (.error fault)
      | .ok place =>
        if o.has 'e' && ((← get).tree.node? place).isNone then pure (.error .missing)
        else pure (.ok place)
    match found with
    | .error fault => if o.has 'q' then setStatus 1 else complain (about p fault) 1
    | .ok place =>
      match o.value? 'T' with
      | some base =>
        let base ← match ← placeOf base with
          | .ok b => pure b
          | .error _ => literalPlace base
        say (seenFrom base place ++ lineMark o)
      | none => say (Place.path place ++ lineMark o)

/-- Writes the directory. -/
def pwd : Utility Unit := do
  let o ← options { plain := "LP", long := [("logical", 'L'), ("physical", 'P')] }
  let call ← read
  let route := (call.environment.find? (·.1 == "PWD".toList)).map (·.2)
  sayLine (if o.last? "LP" = some 'L' then route.getD (Place.path call.cwd) else Place.path call.cwd)

end Retouch.Shell.Utility
