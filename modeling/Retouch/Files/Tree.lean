/-
  Trees of files.

  A tree maps places, which are the names from the root on, to files, directories, links and devices.
  A path is followed name by name from a directory (`locate`); each directory on the way has to be
  there.  Operations that change the tree give the new tree or say why they fail.
-/
import Retouch.Files.Path
import Retouch.Text.Octets

namespace Retouch

/-- What is known of a file or a directory beside its content: the bits of its permissions, and when
    it was changed last, in microseconds. -/
structure Info where
  mode : Nat
  changed : Nat := 0
deriving Repr, DecidableEq

/-- The permissions of a new file. -/
def fileMode : Nat := 0o644

/-- The permissions of a new directory, and of a file that can be executed. -/
def openMode : Nat := 0o755

/-- Files that hold no content of their own. -/
inductive Device where
  | null
  | zero
  | full
  | random
  | terminal
deriving Repr, DecidableEq

/-- What a tree holds at a place. -/
inductive Node where
  | file (content : Octets) (info : Info)
  | directory (info : Info)
  | link (target : Octets)
  | device (device : Device)
deriving Repr, DecidableEq

namespace Node

/-- Whether this is a directory. -/
def isDirectory : Node → Bool
  | directory _ => true
  | _ => false

/-- What is known beside the content. -/
def info : Node → Info
  | file _ info | directory info => info
  | link _ => ⟨0o777, 0⟩
  | device _ => ⟨0o666, 0⟩

/-- Whether this can be executed. -/
def isExecutable (n : Node) : Bool := n.info.mode &&& 0o111 != 0

/-- The node with other permissions. -/
def withMode (mode : Nat) : Node → Node
  | file content info => file content { info with mode }
  | directory info => directory { info with mode }
  | n => n

/-- The node as changed at a time. -/
def changedAt (time : Nat) : Node → Node
  | file content info => file content { info with changed := time }
  | directory info => directory { info with changed := time }
  | n => n

end Node

/-- Why an operation on files fails. -/
inductive FileFault where
  | missing
  | denied
  | taken
  | notDirectory
  | isDirectory
  | nameTooLong
  | notEmpty
  | tooManyLinks
  | invalid
deriving Repr, DecidableEq

namespace FileFault

/-- The fault in words. -/
def text : FileFault → String
  | missing => "No such file or directory"
  | denied => "Permission denied"
  | taken => "File exists"
  | notDirectory => "Not a directory"
  | isDirectory => "Is a directory"
  | nameTooLong => "File name too long"
  | notEmpty => "Directory not empty"
  | tooManyLinks => "Too many levels of symbolic links"
  | invalid => "Invalid argument"

/-- The number of the fault. -/
def code : FileFault → Nat
  | missing => 2
  | denied => 13
  | taken => 17
  | notDirectory => 20
  | isDirectory => 21
  | nameTooLong => 36
  | notEmpty => 39
  | tooManyLinks => 40
  | invalid => 22

/-- The message of the operating system. -/
def message (f : FileFault) : Text :=
  f.text.toList ++ " (os error ".toList ++ Text.ofNat f.code ++ [')']

end FileFault

/-- Why the text of a file cannot be had. -/
inductive ReadFault where
  | file (fault : FileFault)
  /-- The path holds a null character, which no system takes. -/
  | nullInPath
  | invalidUtf8
deriving Repr, DecidableEq

/-- The fault in words. -/
def ReadFault.message : ReadFault → Text
  | .file fault => fault.message
  | .nullInPath => "file name contained an unexpected NUL byte".toList
  | .invalidUtf8 => "stream did not contain valid UTF-8".toList

/-- The names from the root on. -/
abbrev Place := List Octets

/-- The absolute path of a place. -/
def Place.path (p : Place) : Octets := '/' :: List.intercalate ['/'] p

/-- What there is by place, apart from the root, and the time of the changes that are made. -/
structure Tree where
  nodes : List (Place × Node) := []
  now : Nat := 0
deriving Repr

namespace Tree

/-- What is at a place. -/
def node? (t : Tree) (p : Place) : Option Node :=
  if p.isEmpty then some (.directory ⟨openMode, 0⟩) else (t.nodes.find? (·.1 == p)).map (·.2)

/-- Whether there is a directory at a place. -/
def isDirectory (t : Tree) (p : Place) : Bool := (t.node? p).any Node.isDirectory

/-- The tree with a node at a place. -/
def put (t : Tree) (p : Place) (n : Node) : Tree :=
  { t with
    nodes :=
      if t.nodes.any (·.1 == p) then t.nodes.map fun e => if e.1 == p then (p, n) else e
      else t.nodes ++ [(p, n)] }

/-- The tree without a place and all below it. -/
def erase (t : Tree) (p : Place) : Tree :=
  { t with nodes := t.nodes.filter fun e => !p.isPrefixOf e.1 }

/-- The names in a directory, in order of their bytes. -/
def list (t : Tree) (p : Place) : List Octets :=
  let names := t.nodes.filterMap fun e =>
    if p.isPrefixOf e.1 ∧ e.1.length = p.length + 1 then e.1.getLast? else none
  names.mergeSort Text.upTo

/-! ## Paths -/

/-- The longest name, in bytes. -/
def nameLimit : Nat := 255

/-- Paths are shorter than this, in bytes. -/
def pathLimit : Nat := 4096

/-- How many links are followed on the way along a path. -/
def linkLimit : Nat := 40

/-- Follows names from a place, through directories only.  Behind a link `follow` goes on; with
    `keep`, a link at the end is not followed. -/
def walkWith (t : Tree) (keep : Bool) (follow : Place → List Octets → Except FileFault Place) :
    Place → List Octets → Except FileFault Place
  | place, [] => .ok place
  | place, n :: names =>
    if !(t.node? place).isSome then .error .missing
    else if !t.isDirectory place then .error .notDirectory
    else if nameLimit < n.length then .error .nameTooLong
    else
      match t.node? (Path.step place n) with
      | some (.link target) =>
        if keep && names.isEmpty then .ok (place ++ [n])
        else follow (if Path.isAbsolute target then [] else place) (Path.names target ++ names)
      | _ => walkWith t keep follow (Path.step place n) names

/-- Follows names and at most `links` links from a place. -/
def walk (t : Tree) (keep : Bool) : (links : Nat) → Place → List Octets → Except FileFault Place
  | 0, place, names => t.walkWith keep (fun _ _ => .error .tooManyLinks) place names
  | links + 1, place, names => t.walkWith keep (walk t keep links) place names

/-- The place that a path leads to from a directory.  Nothing needs to be there.  With `keep`, a link
    at the end is not followed. -/
def locateWith (t : Tree) (keep : Bool) (cwd : Place) (path : Octets) : Except FileFault Place :=
  if path.isEmpty then .error .missing
  else if pathLimit ≤ path.length then .error .nameTooLong
  else do
    let slash := path.getLast? = some '/'
    let place ← t.walk (keep && !slash) linkLimit (if Path.isAbsolute path then [] else cwd)
      (Path.names path)
    if slash && (t.node? place).isSome && !t.isDirectory place then .error .notDirectory
    else .ok place

/-- The place that a path leads to from a directory. -/
def locate (t : Tree) (cwd : Place) (path : Octets) : Except FileFault Place :=
  t.locateWith false cwd path

/-- The place of the last name of a path, even if it is a link. -/
def locateLink (t : Tree) (cwd : Place) (path : Octets) : Except FileFault Place :=
  t.locateWith true cwd path

/-- What is at the place that has been found. -/
def at_ (t : Tree) (place : Except FileFault Place) : Except FileFault Node := do
  match t.node? (← place) with
  | some n => .ok n
  | none => .error .missing

/-- What a path leads to. -/
def get (t : Tree) (cwd : Place) (path : Octets) : Except FileFault Node := t.at_ (t.locate cwd path)

/-- What a path leads to, a link being something too. -/
def getLink (t : Tree) (cwd : Place) (path : Octets) : Except FileFault Node :=
  t.at_ (t.locateLink cwd path)

/-! ## Content -/

/-- The content of the file that a path leads to. -/
def read (t : Tree) (cwd : Place) (path : Octets) : Except FileFault Octets := do
  match ← t.get cwd path with
  | .file content _ => .ok content
  | .directory _ => .error .isDirectory
  | _ => .ok []

/-- The text of the file that a path leads to. -/
def readText (t : Tree) (cwd : Place) (path : Text) : Except ReadFault Text :=
  if path.contains '\x00' then .error .nullInPath
  else
    match t.read cwd (Octets.ofText path) with
    | .error fault => .error (.file fault)
    | .ok content =>
      match Octets.toText? content with
      | none => .error .invalidUtf8
      | some text => .ok text

/-- Whether a path leads to a file. -/
def isFile (t : Tree) (cwd : Place) (path : Octets) : Bool :=
  match t.get cwd path with
  | .ok (.file _ _) => true
  | _ => false

/-- Whether something new can be put at a place. -/
def checkNew (t : Tree) (place : Place) : Except FileFault Unit :=
  match t.node? place.dropLast with
  | some (.directory _) => .ok ()
  | some _ => .error .notDirectory
  | none => .error .missing

/-- The tree with the content of the file at a place changed by `f`; a new file is empty before and
    gets the permissions `mode`. -/
def edit (t : Tree) (place : Place) (mode : Nat) (f : Octets → Octets) : Except FileFault Tree :=
  match t.node? place with
  | some (.directory _) => .error .isDirectory
  | some (.file content info) => .ok (t.put place (.file (f content) { info with changed := t.now }))
  | some _ => .ok t
  | none => do
    t.checkNew place
    .ok (t.put place (.file (f []) ⟨mode, t.now⟩))

/-- The tree with a new directory at a place. -/
def makeDirectory (t : Tree) (place : Place) (mode : Nat) : Except FileFault Tree := do
  if (t.node? place).isSome then .error .taken
  else
    t.checkNew place
    .ok (t.put place (.directory ⟨mode, t.now⟩))

/-- The tree with a directory at a place and at every place above it. -/
def makeDirectories (t : Tree) (place : Place) : Tree :=
  (List.range (place.length + 1)).foldl
    (fun t n =>
      if (t.node? (place.take n)).isSome then t
      else t.put (place.take n) (.directory ⟨openMode, t.now⟩)) t

/-- The tree with a file at a path from the root, and the directories on the way to it. -/
def addFile (t : Tree) (path content : Octets) : Tree :=
  let place := Path.clean path
  (t.makeDirectories place.dropLast).put place (.file content ⟨fileMode, t.now⟩)

end Tree

end Retouch
