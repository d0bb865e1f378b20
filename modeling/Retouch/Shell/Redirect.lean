/-
  Redirections: descriptors that are connected to files, channels and other descriptors.
-/
import Retouch.Shell.Expansion

namespace Retouch.Shell

/-- The process with a descriptor connected to a target. -/
def Process.connect (p : Process) (descriptor : Nat) (t : Target) : Process :=
  { p with descriptors := (descriptor, t) :: p.descriptors.filter (·.1 != descriptor) }

/-- What is wrong with a file that is opened, in words. -/
def openFault (create : Bool) : FileFault → String
  | .missing | .notDirectory => if create then "Directory nonexistent" else "No such file"
  | f => f.text

/-- The descriptor that a path names by its number or its name. -/
def descriptorPath? (path : Octets) : Option Nat :=
  match String.ofList path with
  | "/dev/stdin" => some 0
  | "/dev/stdout" => some 1
  | "/dev/stderr" => some 2
  | _ =>
    let number (lead : String) : Option Nat :=
      if lead.toList.isPrefixOf path then Text.natBelow? 256 (path.drop lead.length) else none
    match number "/dev/fd/" with
    | some n => some n
    | none => number "/proc/self/fd/"

/-- The message for a file that cannot be opened. -/
def unopenedMessage (create : Bool) (path : Octets) (f : FileFault) : Octets :=
  (if create then "cannot create " else "cannot open ").toList ++ path ++ ": ".toList ++
    (openFault create f).toList

/-- Opens a file for output; one that is there is not replaced if `keep`. -/
def openOutput (path : Octets) (append keep : Bool) : Act (Except Octets Target) := do
  let refuse (f : FileFault) : Except Octets Target := .error (unopenedMessage true path f)
  match descriptorPath? path with
  | some n =>
    match ← target? n with
    | some t => return .ok t
    | none => return refuse .missing
  | none =>
    let s ← get
    match s.world.tree.locate s.process.directory path with
    | .error f => return refuse f
    | .ok place =>
      match s.world.tree.node? place with
      | some (.device d) =>
        match d with
        | .full => return .ok .full
        | .terminal => return .error ("cannot create ".toList ++ path ++ ": No such device or address".toList)
        | _ => return .ok .null
      | some (.file _ _) => if keep then return refuse .taken
      | _ => pure ()
      let mode := 0o666 &&& (0o7777 ^^^ s.process.umask)
      match s.world.tree.edit place mode (if append then id else fun _ => []) with
      | .error f => return refuse f
      | .ok tree =>
        modifyWorld fun w => { w with tree := tree }
        return .ok (.file place)

/-- A new channel with the content of a file. -/
def fileChannel (content : Octets) (endless : Bool) : Act Target := do
  let i ← newChannel content
  modifyWorld fun w =>
    { w with channels := w.channels.modify i fun c => { c with isFile := true, endless } }
  return .channel i

/-- How much there is of a device without an end. -/
def deviceSize : Nat := 1048576

/-- Opens a file for input. -/
def openInput (path : Octets) : Act (Except Octets Target) := do
  match descriptorPath? path with
  | some n =>
    match ← target? n with
    | some t => return .ok t
    | none => return .error (unopenedMessage false path .missing)
  | none =>
    let s ← get
    match s.world.tree.get s.process.directory path with
    | .ok (.file content _) => return .ok (← fileChannel content false)
    | .ok (.device .null) => return .ok .null
    | .ok (.device .terminal) =>
      return .error ("cannot open ".toList ++ path ++ ": No such device or address".toList)
    | .ok (.device _) => return .ok (← fileChannel (List.replicate deviceSize '\x00') true)
    | .ok _ => return .ok .null
    | .error f => return .error (unopenedMessage false path f)

/-- Carries out a redirection, or gives a message. -/
def redirect (capture : Capture) (r : Redirection) : Act (Option Octets) := do
  let connect (descriptor : Nat) (t : Except Octets Target) : Act (Option Octets) := do
    match t with
    | .ok t =>
      modifyProcess (·.connect descriptor t)
      return none
    | .error m => return some m
  match r with
  | .input fd path => connect fd (← openInput (← expandText capture path))
  | .output fd append clobber path =>
    let keep := (← process).options.contains 'C' && !append && !clobber
    connect fd (← openOutput (← expandText capture path) append keep)
  | .update fd path =>
    let path ← expandText capture path
    match ← openOutput path true false with
    | .error m => connect fd (.error m)
    | .ok t => if fd = 0 then connect fd (← openInput path) else connect fd (.ok t)
  | .here fd content =>
    connect fd (.ok (.channel (← newChannel (← expandText capture content))))
  | .copy fd word =>
    let t ← expandText capture word
    if t = ['-'] then
      modifyProcess fun p => { p with descriptors := p.descriptors.filter (·.1 != fd) }
      return none
    else
      match Text.natBelow? 10 t with
      | none => return some "Bad fd number".toList
      | some n =>
        match ← target? n with
        | some target => connect fd (.ok target)
        | none => return some (Text.ofNat n ++ ": Bad file descriptor".toList)

/-- Carries out redirections in order, up to one that fails; tells whether all went well. -/
def redirectAll (capture : Capture) : List Redirection → Act Bool
  | [] => return true
  | r :: rs => do
    match ← redirect capture r with
    | none => redirectAll capture rs
    | some message =>
      report message
      setStatus 2
      return false

/-- Runs something with redirections, which are undone after it; tells whether they went well. -/
def redirected (capture : Capture) (rs : List Redirection) (act : Act Unit) : Act Bool := do
  if rs.isEmpty then
    act
    return true
  let before := (← process).descriptors
  restoring (fun p => { p with descriptors := before }) do
    let went ← redirectAll capture rs
    if went then act
    return went

end Retouch.Shell
