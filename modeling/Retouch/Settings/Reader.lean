/-
  Reading of settings files.

  A settings file has the sections `oracle`, `retrieval` and `pipeline`, each with its own keys and no
  others.  A section is a table, or an array of values in the order of its keys.  The file that counts
  is the nearest one in a directory or above it (`find?`); without one the settings are the default.
-/
import Retouch.Files.Tree
import Retouch.Settings.Basic
import Retouch.Toml.Reader

namespace Retouch.Settings

/-! ## Sections -/

/-- The values of the keys of a section, in their order. -/
def sectionValues? (keys : List Text) : Toml → Option (List (Option Toml))
  | .table _ fields =>
    if fields.all fun f => keys.contains f.1 then
      some (keys.map fun k => (fields.find? (·.1 == k)).map (·.2))
    else none
  | .arr items => some ((List.range keys.length).map (items[·]?))
  | .tables items =>
    some ((List.range keys.length).map fun i => (items.reverse[i]?).map (.table .headed ·))
  | _ => none

/-- A text. -/
def text? : Toml → Option Text
  | .str t => some t
  | _ => none

/-- A list of texts. -/
def texts? : Toml → Option (List Text)
  | .arr items => items.mapM text?
  | _ => none

/-- A number that is not negative. -/
def natural? : Toml → Option Nat
  | .int n => if 0 ≤ n then some n.toNat else none
  | _ => none

/-- A number. -/
def number? : Toml → Option Float
  | .int n => some (if n < 0 then -Float.ofNat n.natAbs else Float.ofNat n.natAbs)
  | .float x => some x
  | _ => none

/-- A value that may be left out. -/
def optional? {α : Type} (f : Toml → Option α) : Option (Option Toml) → Option (Option α)
  | some (some v) => (f v).map some
  | _ => some none

/-- The settings with what the section `oracle` says. -/
def readOracle? (s : Settings) (v : Toml) : Option Settings := do
  let vs ← sectionValues? ["compiler".toList, "args".toList, "compile_timeout_ms".toList,
    "run_timeout_ms".toList, "workspace_root".toList] v
  return { s with
    compiler := ← optional? text? vs[0]?
    args := ← optional? texts? vs[1]?
    compileTimeoutMs := ← optional? natural? vs[2]?
    runTimeoutMs := ← optional? natural? vs[3]?
    workspaceRoot := ← optional? text? vs[4]? }

/-- The settings with what the section `retrieval` says. -/
def readRetrieval? (s : Settings) (v : Toml) : Option Settings := do
  let vs ← sectionValues? ["corpus".toList, "min_similarity".toList] v
  return { s with
    corpus := ← optional? text? vs[0]?
    minSimilarity := ← optional? number? vs[1]? }

/-- The settings with what the section `pipeline` says. -/
def readPipeline? (s : Settings) (v : Toml) : Option Settings := do
  let vs ← sectionValues? ["extra_passes".toList] v
  return { s with extraPasses := (← optional? texts? vs[0]?).getD [] }

/-- The settings with what a section says. -/
def readSection? (s : Settings) (field : Text × Toml) : Option Settings :=
  if field.1 = "oracle".toList then readOracle? s field.2
  else if field.1 = "retrieval".toList then readRetrieval? s field.2
  else if field.1 = "pipeline".toList then readPipeline? s field.2
  else none

/-- The settings in a text. -/
def parse? (t : Text) : Option Settings := do
  let fields ← Toml.parse? (Text.dropByteOrderMark t)
  fields.foldlM readSection? {}

/-! ## Files -/

/-- Why settings cannot be loaded from a path. -/
inductive Fault where
  | read (path : Text) (fault : ReadFault)
  | parse (path : Text)
  | invalid (fault : Invalid)

/-- The settings in the file that a path leads to. -/
def load (t : Tree) (cwd : Place) (path : Text) : Except Fault Settings := do
  let text ← (t.readText cwd path).mapError (.read path)
  match parse? text with
  | none => .error (.parse path)
  | some s =>
    match s.invalid? with
    | some fault => .error (.invalid fault)
    | none => .ok { s with rootDir := Path.parent? path }

/-- The nearest settings file in a directory or above it; `fuel` bounds the directories. -/
def findFrom (t : Tree) : (fuel : Nat) → (dir : Text) → Option Text
  | 0, _ => none
  | fuel + 1, dir =>
    let candidate := Path.join dir fileName
    if t.isFile [] (Octets.ofText candidate) then some candidate
    else
      match Path.parent? dir with
      | some up => findFrom t fuel up
      | none => none

/-- The nearest settings file in the directory `dir`, given from the root, or above it. -/
def find? (t : Tree) (dir : Text) : Option Text := findFrom t (dir.length + 1) dir

/-- The settings in the nearest file, or the default ones. -/
def discover (t : Tree) (dir : Text) : Except Fault Settings :=
  match find? t dir with
  | some path => load t [] path
  | none => .ok {}

end Retouch.Settings
