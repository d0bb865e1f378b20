/-
  Utilities that copy, move, remove and make files and directories.
-/
import Retouch.Shell.Calendar
import Retouch.Shell.Utility.Modes
import Retouch.Shell.Utility.Texts

namespace Retouch.Shell.Utility

/-! ## Copies -/

/-- Which sources go to which target, and whether the target is a directory. -/
structure Targets where
  sources : List Octets
  target : Octets
  into : Bool

/-- The sources and the target among operands; `t` names a directory, `T` takes a target as it is. -/
def targetsOf (o : Options) : Utility Targets := do
  match o.value? 't' with
  | some dir =>
    if o.operands.isEmpty then misuse "missing file operand".toList 1
    match ← nodeAt dir with
    | .ok (.directory _) => return ⟨o.operands, dir, true⟩
    | .ok _ => refuse ("target directory ".toList ++ about (quoteName dir) .notDirectory) 1
    | .error fault => refuse ("target directory ".toList ++ about (quoteName dir) fault) 1
  | none =>
    match o.operands.reverse with
    | [] => misuse "missing file operand".toList 1
    | [p] => misuse ("missing destination file operand after ".toList ++ quoteName p) 1
    | target :: sources =>
      if o.has 'T' then
        match sources with
        | [s] => return ⟨[s], target, false⟩
        | _ => misuse ("extra operand ".toList ++ quoteName (o.operands[2]?.getD [])) 1
      else
        let into ← isDirectory target
        if sources.length > 1 && !into then
          let fault := match ← nodeAt target with | .ok _ => FileFault.notDirectory | .error f => f
          refuse ("target ".toList ++ about (quoteName target) fault) 1
        return ⟨sources.reverse, target, into⟩

/-- Does something for each source and the path that it goes to. -/
def forTargets (t : Targets) (f : Octets → Octets → Utility Unit) : Utility Unit :=
  t.sources.forM fun s => f s (if t.into then inside t.target (lastName s) else t.target)

/-- Says that two paths are one file. -/
def sameFile (s t : Octets) : Utility Unit :=
  complain (quoteName s ++ " and ".toList ++ quoteName t ++ " are the same file".toList) 1

/-- Tells which path goes where. -/
def tell (o : Options) (s t : Octets) : Utility Unit := do
  if o.has 'v' then sayLine (quoteName s ++ " -> ".toList ++ quoteName t)

/-- Whether a target that is there already is to be replaced. -/
def replaces (o : Options) (source target : Octets) : Utility Bool := do
  match ← linkAt target with
  | .error _ => return true
  | .ok new =>
    match o.last? "nif" with
    | some 'n' => return false
    | some 'i' => if ← confirm ("overwrite ".toList ++ quoteName target) then return true else
        setStatus 1
        return false
    | _ =>
      if o.has 'u' then
        match ← nodeAt source with
        | .ok old => return new.info.changed < old.info.changed
        | .error _ => return true
      else return true

/-- Puts a content at a path: a file that is there keeps its permissions, unless they are given. -/
def putFile (target : Octets) (content : Octets) (mode : Nat) (exact : Bool) (changed : Option Nat) :
    Utility (Option FileFault) := do
  let cwd := (← read).cwd
  let new ← newMode mode
  change fun t => do
    let place ← t.locate cwd target
    let stamp := changed.getD t.now
    match t.node? place with
    | some (.directory _) => .error .isDirectory
    | some (.file _ info) =>
      .ok (t.put place (.file content ⟨if exact then mode else info.mode, stamp⟩))
    | some _ => .ok t
    | none =>
      if target.getLast? = some '/' && t.isDirectory place.dropLast then .error .notDirectory
      else do
        t.checkNew place
        .ok (t.put place (.file content ⟨if exact then mode else new, stamp⟩))

/-- How files are copied. -/
structure Copying where
  recursive : Bool
  /-- Links are copied as links. -/
  links : Bool
  /-- Permissions and times are kept. -/
  keeps : Bool

/-- Copies what is at a path to another one; `depth` bounds the directories in directories. -/
def copyTo (o : Options) (c : Copying) : (depth : Nat) → Octets → Octets → Utility Unit
  | 0, _, _ => pure ()
  | depth + 1, source, target => do
    let node ← if c.links then linkAt source else nodeAt source
    let same := (← placeOf source).toOption == (← placeOf target).toOption
    match node with
    | .error fault => blame "cannot stat " source fault 1
    | .ok (.directory info) =>
      if !c.recursive then
        complain ("-r not specified; omitting directory ".toList ++ quoteName source) 1
      else
        match ← placeOf source, ← placeOf target with
        | .ok from_, .ok place =>
          if from_.isPrefixOf place then
            complain ("cannot copy a directory, ".toList ++ quoteName source ++ ", into itself, ".toList ++
              quoteName target) 1
          else
            let names := (← get).tree.list from_
            let fault ← match (← get).tree.node? place with
              | some (.directory _) => pure none
              | some _ =>
                complain ("cannot overwrite non-directory ".toList ++ quoteName target ++
                  " with directory ".toList ++ quoteName source) 1
                throw ()
              | none => do
                tell o source target
                let mode ← if c.keeps then pure info.mode else newMode info.mode
                change fun t => t.makeDirectory place mode
            match fault with
            | some fault => blame "cannot create directory " target fault 1
            | none => names.forM fun n => copyTo o c depth (inside source n) (inside target n)
        | .error fault, _ => blame "cannot stat " source fault 1
        | _, .error fault => blame "cannot create directory " target fault 1
    | .ok (.link to_) =>
      if ← replaces o source target then
        let cwd := (← read).cwd
        match ← change fun t => do
          let place ← t.locateLink cwd target
          t.checkNew place
          .ok (t.put place (.link to_)) with
        | none => tell o source target
        | some fault => blame "cannot create symbolic link " target fault 1
    | .ok n =>
      if same then sameFile source target
      else if ← isDirectory target then
        complain ("cannot overwrite directory ".toList ++ quoteName target ++ " with non-directory".toList) 1
      else if ← replaces o source target then
        match ← nodeAt target, ← placeOf target with
        | .error fault@.notDirectory, _ => blame "cannot stat " target fault 1
        | _, _ =>
          match ← linkAt target with
          | .ok (.link _) =>
            if (← nodeAt target).toOption.isNone then
              refuse ("not writing through dangling symlink ".toList ++ quoteName target) 1
          | _ => pure ()
          if o.has 'f' then pure ()
          match ← content source with
          | .error fault => complain ("cannot open ".toList ++ about (quoteName source) fault) 1
          | .ok t =>
            exhaust
            let changed := if c.keeps then some n.info.changed else none
            let mode := match n with | .file _ info => info.mode | _ => 0o666
            match ← putFile target t mode c.keeps changed with
            | none => tell o source target
            | some fault => blame "cannot create regular file " target fault 1

/-- How deep directories are copied. -/
def copyDepth : Nat := 200

/-- Copies files. -/
def cp : Utility Unit := do
  let o ← options {
    plain := "abdfiHlLnpPrRsTuvx", valued := "tS"
    long := [("archive", 'a'), ("force", 'f'), ("interactive", 'i'), ("no-clobber", 'n'),
      ("recursive", 'r'), ("update", 'u'), ("verbose", 'v'), ("target-directory", 't'),
      ("no-target-directory", 'T'), ("symbolic-link", 's'), ("link", 'l'), ("dereference", 'L'),
      ("no-dereference", 'P'), ("preserve", 'p')] }
  if o.has 'n' then
    complain ("warning: behavior of -n is non-portable and may change in future; " ++
      "use --update=none instead").toList 0
  let recursive := o.has 'r' || o.has 'R' || o.has 'a'
  let links := match o.last? "LPda" with
    | some 'L' => false
    | some _ => true
    | none => recursive
  let targets ← targetsOf o
  forTargets targets fun s t => do
    if o.has 's' || o.has 'l' then
      let cwd := (← read).cwd
      let node := if o.has 's' then (fun (_ : Node) => Node.link s) else id
      match ← nodeAt s with
      | .error fault => blame "cannot stat " s fault 1
      | .ok n =>
        match ← change fun tree => do
          let place ← tree.locateLink cwd t
          if (tree.node? place).isSome && !o.has 'f' then .error .taken
          else .ok (tree.put place (node n)) with
        | none => tell o s t
        | some fault =>
          blame (if o.has 's' then "cannot create symbolic link " else "cannot create hard link ") t fault 1
    else copyTo o { recursive, links, keeps := o.has 'p' || o.has 'a' } copyDepth s t

/-- Copies files and sets their permissions. -/
def install : Utility Unit := do
  let o ← options {
    plain := "bcCdDpsTv", valued := "gmotS"
    long := [("directory", 'd'), ("mode", 'm'), ("verbose", 'v'), ("target-directory", 't'),
      ("no-target-directory", 'T'), ("owner", 'o'), ("group", 'g'), ("compare", 'C'), ("strip", 's'),
      ("preserve-timestamps", 'p')] }
  let modeText := (o.value? 'm').getD "755".toList
  let mode ← match applyMode? modeText 0 false 0 with
    | some m => pure m
    | none => refuse ("invalid mode ".toList ++ quote modeText) 1
  if o.has 'd' then
    if o.operands.isEmpty then misuse "missing file operand".toList 1
    o.operands.forM fun p => do
      let place ← literalPlace p
      if o.has 'v' && !(← isDirectory p) then sayLine ("install: creating directory ".toList ++ quoteName p)
      alter fun t =>
        let t := t.makeDirectories place
        match t.node? place with
        | some n => t.put place (n.withMode mode)
        | none => t
  else
    if o.has 'D' && !o.has 't' && o.operands.length = 2 then
      let target := o.operands[1]?.getD []
      let place ← literalPlace (directoryOf target)
      alter (·.makeDirectories place)
    let targets ← targetsOf o
    forTargets targets fun s t => do
      match ← nodeAt s with
      | .ok (.directory _) => complain ("omitting directory ".toList ++ quoteName s) 1
      | .error fault => blame "cannot stat " s fault 1
      | .ok _ =>
        if (← placeOf s).toOption == (← placeOf t).toOption then sameFile s t
        else
          match ← content s with
          | .error fault => complain ("cannot open ".toList ++ about (quoteName s) fault) 1
          | .ok text =>
            match ← putFile t text mode true none with
            | none => tell o s t
            | some fault => blame "cannot create regular file " t fault 1

/-- Makes links. -/
def ln : Utility Unit := do
  let o ← options {
    plain := "bdfFiLnPrsTv", valued := "tS"
    long := [("symbolic", 's'), ("force", 'f'), ("interactive", 'i'), ("no-dereference", 'n'),
      ("verbose", 'v'), ("target-directory", 't'), ("no-target-directory", 'T'), ("relative", 'r'),
      ("logical", 'L'), ("physical", 'P')] }
  if o.operands.isEmpty then misuse "missing file operand".toList 1
  let targets ← if o.operands.length = 1 && !o.has 't' && !o.has 'T' then
      pure ⟨o.operands, ['.'], true⟩
    else targetsOf o
  -- A link to a directory is a target of its own if links are not followed.
  let isLink := match ← linkAt targets.target with | .ok (.link _) => true | _ => false
  let targets := { targets with into := targets.into && !(o.has 'n' && isLink) }
  forTargets targets fun s t => do
    let cwd := (← read).cwd
    let kind := if o.has 's' then "failed to create symbolic link " else "failed to create hard link "
    match ← nodeAt s with
    | .error fault =>
      if o.has 's' then pure ()
      else
        blame "failed to access " s fault 1
        throw ()
    | .ok (.directory _) =>
      if o.has 's' then pure ()
      else
        complain (s ++ ": hard link not allowed for directory".toList) 1
        throw ()
    | .ok _ => pure ()
    let old := (← get).tree
    let fault ← change fun tree => do
      let place ← tree.locateLink cwd t
      tree.checkNew place
      let taken := (tree.node? place).isSome
      if taken && !o.has 'f' then .error .taken
      else if o.has 's' then .ok (tree.put place (.link s))
      else .ok (tree.put place (← old.get cwd s))
    match fault with
    | none =>
      if o.has 'v' then
        sayLine (quoteName t ++ (if o.has 's' then " -> " else " => ").toList ++ quoteName s)
    | some fault => blame kind t fault 1

/-- The tree with what is at a place put at another one, with all below it. -/
def graft (t : Tree) (source target : Place) : Tree :=
  (t.nodes.filter fun e => source.isPrefixOf e.1).foldl
    (fun t e => t.put (target ++ e.1.drop source.length) e.2) t

/-- Moves files. -/
def mv : Utility Unit := do
  let o ← options {
    plain := "bfinTuvZ", valued := "tS"
    long := [("force", 'f'), ("interactive", 'i'), ("no-clobber", 'n'), ("verbose", 'v'), ("update", 'u'),
      ("target-directory", 't'), ("no-target-directory", 'T')] }
  let targets ← targetsOf o
  forTargets targets fun s t => do
    let tree := (← get).tree
    let moved (fault : FileFault) : Utility Unit :=
      complain ("cannot move ".toList ++ quoteName s ++ " to ".toList ++ about (quoteName t) fault) 1
    match ← linkAt s, ← linkPlaceOf s, ← linkPlaceOf t with
    | .error fault, _, _ | _, .error fault, _ => blame "cannot stat " s fault 1
    | _, _, .error fault => moved fault
    | .ok n, .ok source, .ok target =>
      let old := tree.node? target
      if source == target then
        if n.isDirectory then
          complain ("cannot move ".toList ++ quoteName s ++ " to a subdirectory of itself, ".toList ++
            quoteName t) 1
        else sameFile s t
      else if source.isPrefixOf target then
        complain ("cannot move ".toList ++ quoteName s ++ " to a subdirectory of itself, ".toList ++
          quoteName t) 1
      else if old.isSome && n.isDirectory && !(old.any Node.isDirectory) then
        complain ("cannot overwrite non-directory ".toList ++ quoteName t ++ " with directory ".toList ++
          quoteName s) 1
      else if old.any Node.isDirectory && !n.isDirectory then
        complain ("cannot overwrite directory ".toList ++ quoteName t ++ " with non-directory".toList) 1
      else if old.any Node.isDirectory && !(tree.list target).isEmpty then
        complain ("cannot overwrite ".toList ++ about (quoteName t) .notEmpty) 1
      else if old.isSome && o.last? "nif" = some 'n' then
        complain ("not replacing ".toList ++ quoteName t) 1
      else if ← replaces o s t then
        match tree.checkNew target with
        | .error fault => moved fault
        | .ok () =>
          if t.getLast? = some '/' && !n.isDirectory then moved .notDirectory
          else
            alter fun tr => (graft (tr.erase target) source target).erase source
            if o.has 'v' then sayLine ("renamed ".toList ++ quoteName s ++ " -> ".toList ++ quoteName t)

/-! ## Removal -/

/-- The kind of a node in words. -/
def kindName : Node → String
  | .file content _ => if content.isEmpty then "regular empty file" else "regular file"
  | .directory _ => "directory"
  | .link _ => "symbolic link"
  | .device _ => "character special file"

/-- Removes what is at a place. -/
def removeNode (o : Options) (place : Place) (shown : Octets) (n : Node) : Utility Unit := do
  let agreed ← if o.last? "fi" = some 'i' then
      confirm ("remove ".toList ++ (kindName n).toList ++ ' ' :: quoteName shown)
    else pure true
  if agreed then
    if n.isDirectory && !((← get).tree.list place).isEmpty then
      blame "cannot remove " shown .notEmpty 1
    else
      alter (·.erase place)
      if o.has 'v' then
        sayLine ((if n.isDirectory then "removed directory " else "removed ").toList ++ quoteName shown)

/-- Removes files. -/
def rm : Utility Unit := do
  let o ← options {
    plain := "dfiIrRv"
    long := [("recursive", 'r'), ("force", 'f'), ("dir", 'd'), ("verbose", 'v'), ("interactive", 'i')] }
  let recursive := o.has 'r' || o.has 'R'
  if o.operands.isEmpty && !o.has 'f' then misuse "missing operand".toList 1
  o.operands.forM fun p => do
    let name := lastName p
    match ← linkAt p, ← linkPlaceOf p with
    | .ok n, .ok place =>
      if n.isDirectory && !recursive && !o.has 'd' then blame "cannot remove " p .isDirectory 1
      else if n.isDirectory && (name = ['.'] || name = ['.', '.']) then
        complain ("refusing to remove '.' or '..' directory: skipping ".toList ++ quoteName p) 1
      else if place.isEmpty then
        complain "it is dangerous to operate recursively on '/'".toList 1
        complain "use --no-preserve-root to override this failsafe".toList 1
      else if recursive && n.isDirectory then
        if o.has 'i' || o.has 'v' then
          let parts := below (← get).tree place p
          parts.reverse.forM fun (q, shown) => do
            match (← get).tree.node? q with
            | some n => removeNode o q shown n
            | none => pure ()
          removeNode o place p n
        else alter (·.erase place)
      else removeNode o place p n
    | .error fault, _ | _, .error fault =>
      if !(o.has 'f' && (fault == .missing || fault == .notDirectory)) then
        blame "cannot remove " p fault 1

/-- Removes one name for a file. -/
def unlink : Utility Unit := do
  let o ← options {}
  match o.operands with
  | [] => misuse "missing operand".toList 1
  | [p] =>
    match ← linkAt p, ← linkPlaceOf p with
    | .ok n, .ok place =>
      if n.isDirectory then blame "cannot unlink " p .isDirectory 1 else alter (·.erase place)
    | .error fault, _ | _, .error fault => blame "cannot unlink " p fault 1
  | _ :: extra :: _ => misuse ("extra operand ".toList ++ quote extra) 1

/-- A path and its directories as long as they are written, the longest first; `fuel` bounds them. -/
def ancestors : (fuel : Nat) → Octets → List Octets
  | 0, _ => []
  | fuel + 1, p =>
    let p := if p.length > 1 then Text.dropEndWhile (· == '/') p else p
    if p.isEmpty || p = ['.'] || p = ['/'] then [] else p :: ancestors fuel (directoryOf p)

/-- Removes directories with nothing in them. -/
def rmdir : Utility Unit := do
  let o ← options {
    plain := "pvi"
    long := [("parents", 'p'), ("verbose", 'v'), ("ignore-fail-on-non-empty", 'i')] }
  if o.operands.isEmpty then misuse "missing operand".toList 1
  o.operands.forM fun p => do
    let paths := if o.has 'p' then ancestors (p.length + 1) p else [p]
    let mut going := true
    for q in paths do
      if going then
        if o.has 'v' then sayLine ("rmdir: removing directory, ".toList ++ quoteName q)
        let failed (fault : FileFault) : Utility Unit := do
          if !(o.has 'i' && fault == .notEmpty) then
            blame (if q = p then "failed to remove " else "failed to remove directory ") q fault 1
        match ← linkAt q, ← linkPlaceOf q with
        | .ok (.directory _), .ok place =>
          if lastName q = ['.'] then
            failed .invalid
            going := false
          else if ((← get).tree.list place).isEmpty then alter (·.erase place)
          else
            failed .notEmpty
            going := false
        | .ok _, _ =>
          failed .notDirectory
          going := false
        | .error fault, _ =>
          failed fault
          going := false

/-! ## Creation -/

/-- Makes a directory and those on the way to it; gives the path at which that fails. -/
def makeParents (o : Options) (path : Octets) : Utility (Option (Octets × FileFault)) := do
  let paths := (ancestors (path.length + 1) path).reverse
  let mode ← newMode 0o777
  let mut failed : Option (Octets × FileFault) := none
  for q in paths do
    if failed.isNone then
      match ← nodeAt q with
      | .ok (.directory _) => pure ()
      | .ok _ => failed := some (q, if q = path then .taken else .notDirectory)
      | .error .missing =>
        let cwd := (← read).cwd
        match ← change fun t => do t.makeDirectory (← t.locate cwd q) mode with
        | none => if o.has 'v' then sayLine ("mkdir: created directory ".toList ++ quoteName q)
        | some fault => failed := some (q, fault)
      | .error fault => failed := some (q, fault)
  return failed

/-- Makes directories. -/
def mkdir : Utility Unit := do
  let o ← options {
    plain := "pvZ", valued := "m"
    long := [("parents", 'p'), ("verbose", 'v'), ("mode", 'm')] }
  if o.operands.isEmpty then misuse "missing operand".toList 1
  let umask := (← read).umask
  let mode ← match o.value? 'm' with
    | none => newMode 0o777
    | some t =>
      match applyMode? t umask true 0o777 with
      | some m => pure m
      | none => refuse ("invalid mode ".toList ++ quote t) 1
  o.operands.forM fun p => do
    let cwd := (← read).cwd
    if o.has 'p' then
      match ← makeParents o p with
      | none => pure ()
      | some (q, fault) => blame "cannot create directory " q fault 1
    else
      match ← change fun t => do t.makeDirectory (← t.locate cwd p) mode with
      | none => if o.has 'v' then sayLine ("mkdir: created directory ".toList ++ quoteName p)
      | some fault => blame "cannot create directory " p fault 1
    if o.has 'p' && o.has 'm' then
      match ← placeOf p with
      | .ok place => alter fun t =>
        match t.node? place with
        | some n => t.put place (n.withMode mode)
        | none => t
      | .error _ => pure ()

/-- The time now. -/
def now : Utility Calendar.Moment := do
  let micros := (← get).tree.now
  return { seconds := micros / 1000000, nanos := micros % 1000000 * 1000 }

/-- The moment that ten or more digits with an ending stand for: month, day, hour and minute, with a
    year in front and seconds behind a point. -/
def stamp? (year : Int) (t : Octets) : Option Int := do
  let digits := t.takeWhile Char.isDigit
  let seconds ← match t.drop digits.length with
    | [] => some 0
    | '.' :: s => if s.length = 2 then Text.natBelow? 61 s else none
    | _ => none
  let lead := digits.length - 8
  let two (i : Nat) : Nat := Text.digitsValue ((digits.drop (lead + i)).take 2)
  let year ← match lead, digits.length with
    | 0, 8 => some year
    | 2, _ =>
      let y := Text.digitsValue (digits.take 2)
      some (if y < 69 then 2000 + y else 1900 + y)
    | 4, _ => some (Text.digitsValue (digits.take 4) : Int)
    | _, _ => none
  let date ← Calendar.checked? year (two 0) (two 2)
  if two 4 < 24 ∧ two 6 < 60 then
    some (date.number * 86400 + two 4 * 3600 + two 6 * 60 + seconds)
  else none

/-- Makes files that are not there, and sets the times of files. -/
def touch : Utility Unit := do
  let o ← options {
    plain := "acfhm", valued := "drt"
    long := [("no-create", 'c'), ("date", 'd'), ("reference", 'r'), ("no-dereference", 'h'),
      ("time", 'x')] }
  let time ← now
  let stamp : Option Nat ← match o.last? "drt" with
    | some 'd' =>
      let t := (o.value? 'd').getD []
      match Calendar.parse? time t with
      | some m => pure (some ((m.seconds * 1000000).toNat + m.nanos / 1000))
      | none => refuse ("invalid date format ".toList ++ quote t) 1
    | some 't' =>
      let t := (o.value? 't').getD []
      match stamp? time.date.year t with
      | some s => pure (some (s * 1000000).toNat)
      | none => refuse ("invalid date format ".toList ++ quote t) 1
    | some _ =>
      let p := (o.value? 'r').getD []
      match ← nodeAt p with
      | .ok n => pure (some n.info.changed)
      | .error fault => refuse ("failed to get attributes of ".toList ++ about (quoteName p) fault) 1
    | none => pure none
  if o.operands.isEmpty then misuse "missing file operand".toList 1
  let mode ← newMode 0o666
  o.operands.forM fun p => do
    let cwd := (← read).cwd
    let fault ← change fun t => do
      let place ← t.locate cwd p
      match t.node? place with
      | some n => .ok (t.put place (n.changedAt (stamp.getD t.now)))
      | none =>
        if o.has 'c' then .ok t
        else
          t.checkNew place
          .ok (t.put place (.file [] ⟨mode, stamp.getD t.now⟩))
    match fault with
    | none => pure ()
    | some fault => if !(o.has 'c' && fault == .missing) then blame "cannot touch " p fault 1

/-- Letters of a name that is made up from a number. -/
def randomLetters (seed : Nat) (count : Nat) : Octets :=
  let letters := "abcdefghijklmnopqrstuvwxyzABCDEFGHIJKLMNOPQRSTUVWXYZ0123456789".toList
  (List.range count).map fun i =>
    letters[(seed * 7919 + i * 104729 + seed / Nat.pow 62 (i % 8)) % 62]?.getD 'x'

/-- Makes a file or a directory with a new name. -/
def mktemp : Utility Unit := do
  let o ← options {
    plain := "dqut", valued := "ps"
    long := [("directory", 'd'), ("quiet", 'q'), ("dry-run", 'u'), ("tmpdir", 'p'), ("suffix", 's')] }
  if o.operands.length > 1 then misuse "too many templates".toList 1
  let call ← read
  let home := ((call.environment.find? (·.1 == "TMPDIR".toList)).map (·.2)).getD "/tmp".toList
  let home := if home.isEmpty then "/tmp".toList else home
  let template := o.operands.headD "tmp.XXXXXXXXXX".toList
  let ending := (o.value? 's').getD []
  let (stem, ending) : Octets × Octets :=
    if o.has 's' then (template, ending)
    else
      let tail := (template.reverse.takeWhile (· != 'X')).reverse
      (template.take (template.length - tail.length), tail)
  let marks := (stem.reverse.takeWhile (· == 'X')).length
  if marks < 3 then refuse ("too few X's in template ".toList ++ quote template) 1
  let path :=
    if o.has 'p' then inside ((o.value? 'p').getD home) stem
    else if o.has 't' || o.operands.isEmpty then inside home stem
    else stem
  let bare := path.take (path.length - marks)
  let seed := (← get).tree.now + 31 * (← get).tree.nodes.length
  let path := bare ++ randomLetters seed marks ++ ending
  let what := if o.has 'd' then "directory" else "file"
  let fault ← if o.has 'u' then pure none else
    change fun t => do
      let place ← t.locate call.cwd path
      t.checkNew place
      .ok (t.put place (if o.has 'd' then .directory ⟨0o700, t.now⟩ else .file [] ⟨0o600, t.now⟩))
  match fault with
  | none => sayLine path
  | some fault =>
    complain ("failed to create ".toList ++ what.toList ++ " via template ".toList ++
      about (quote template) fault) 1

/-- Cuts files to a size, or fills them up with null characters. -/
def truncate : Utility Unit := do
  let o ← options {
    plain := "co", valued := "rs"
    long := [("no-create", 'c'), ("io-blocks", 'o'), ("reference", 'r'), ("size", 's')] }
  if !o.has 's' && !o.has 'r' then
    misuse "you must specify either '--size' or '--reference'".toList 1
  let reference ← match o.value? 'r' with
    | none => pure none
    | some p =>
      match ← nodeAt p with
      | .ok (.file content _) => pure (some content.length)
      | .ok _ => pure (some 0)
      | .error fault => refuse ("cannot stat ".toList ++ about (quoteName p) fault) 1
  let t := (o.value? 's').getD ['0']
  let sign := t.head?.filter fun c => "+-<>/%".toList.contains c
  let digits := if sign.isSome then t.drop 1 else t
  let n ← match scaledNumber? digits with
    | some n => pure n
    | none => refuse ("Invalid number: ".toList ++ quote t) 1
  let n := if o.has 's' then n else reference.getD 0
  if o.operands.isEmpty then misuse "missing file operand".toList 1
  let size (old : Nat) : Nat :=
    let old := reference.getD old
    match sign with
    | some '+' => old + n
    | some '-' => old - n
    | some '<' => min old n
    | some '>' => max old n
    | some '/' => if n = 0 then old else old / n * n
    | some '%' => if n = 0 then old else (old + n - 1) / n * n
    | _ => n
  o.operands.forM fun p => do
    let cwd := (← read).cwd
    let mode ← newMode 0o666
    let fault ← change fun tree => do
      let place ← tree.locate cwd p
      if o.has 'c' && (tree.node? place).isNone then .ok tree
      else tree.edit place mode fun old =>
        let k := size old.length
        old.take k ++ List.replicate (k - old.length) '\x00'
    match fault with
    | none => pure ()
    | some fault => complain ("cannot open ".toList ++ quoteName p ++ " for writing: ".toList ++ fault.text.toList) 1

/-! ## Facts about files -/

/-- The size of a node. -/
def nodeSize : Node → Nat
  | .file content _ => content.length
  | .directory _ => 4096
  | .link target => target.length
  | .device _ => 0

/-- The number of names of a node. -/
def nodeLinks (t : Tree) (place : Place) : Node → Nat
  | .directory _ => 2 + ((t.list place).filter fun n => t.isDirectory (place ++ [n])).length
  | _ => 1

/-- The number of a kind of node among the bits of its mode. -/
def kindBits : Node → Nat
  | .file _ _ => 0o100000
  | .directory _ => 0o040000
  | .link _ => 0o120000
  | .device _ => 0o020000

/-- A fact about a file that a letter names. -/
def fact? (t : Tree) (place : Place) (path : Octets) (n : Node) (c : Char) : Option Octets :=
  let micros := n.info.changed
  let m : Calendar.Moment := { seconds := micros / 1000000, nanos := micros % 1000000 * 1000 }
  let time := Calendar.strftime m "%Y-%m-%d %H:%M:%S.%N %z".toList
  match c with
  | 'a' => some (Nat.toDigits 8 n.info.mode)
  | 'A' => some (kindLetter n :: modeLetters n.info.mode)
  | 'b' => some (Text.ofNat (if n.isDirectory then 8 else (nodeSize n + 4095) / 4096 * 8))
  | 'B' => some "512".toList
  | 'd' | 'D' | 'i' | 't' | 'T' | 'u' | 'g' => some ['0']
  | 'f' => some (Nat.toDigits 16 (kindBits n + n.info.mode))
  | 'F' => some (kindName n).toList
  | 'U' | 'G' => some "root".toList
  | 'h' => some (Text.ofNat (nodeLinks t place n))
  | 'm' => some ['/']
  | 'n' => some path
  | 'N' => some (match n with
    | .link target => quoteName path ++ " -> ".toList ++ quoteName target
    | _ => quoteName path)
  | 'o' => some "4096".toList
  | 's' => some (Text.ofNat (nodeSize n))
  | 'w' | 'x' | 'y' | 'z' => some time
  | 'W' | 'X' | 'Y' | 'Z' => some (Text.ofNat (micros / 1000000))
  | '%' => some ['%']
  | _ => none

/-- The facts that a format asks for; `fuel` bounds its length. -/
def factsText (fact : Char → Option Octets) (escapes : Bool) : (fuel : Nat) → Octets → Octets
  | 0, _ => []
  | _, [] => []
  | fuel + 1, '%' :: t =>
    let flags := t.takeWhile fun c => "-+ #0'".toList.contains c
    let r := t.drop flags.length
    let width := r.takeWhile Char.isDigit
    match r.drop width.length with
    | c :: r =>
      let s := (fact c).getD ['?']
      let fill := List.replicate (Text.digitsValue width - s.length)
        (if flags.contains '0' && !flags.contains '-' then '0' else ' ')
      (if flags.contains '-' then s ++ fill else fill ++ s) ++ factsText fact escapes fuel r
    | [] => ['%']
  | fuel + 1, '\\' :: t =>
    if !escapes then '\\' :: factsText fact escapes fuel t
    else
      match Format.escape? t with
      | some (c, n) => c :: factsText fact escapes fuel (t.drop n)
      | none => '\\' :: factsText fact escapes fuel t
  | fuel + 1, c :: t => c :: factsText fact escapes fuel t

/-- Shows facts about files. -/
def stat : Utility Unit := do
  let o ← options {
    plain := "Lft", valued := "cp"
    long := [("dereference", 'L'), ("file-system", 'f'), ("terse", 't'), ("format", 'c'), ("printf", 'p')] }
  if o.operands.isEmpty then misuse "missing operand".toList 1
  o.operands.forM fun p => do
    let keep := !o.has 'L'
    let node ← if keep then linkAt p else nodeAt p
    let place ← if keep then linkPlaceOf p else placeOf p
    match node, place with
    | .ok n, .ok place =>
      let tree := (← get).tree
      let fact := fact? tree place p n
      match o.value? 'c', o.value? 'p' with
      | some f, _ => sayLine (factsText fact false (f.length + 1) f)
      | none, some f => say (factsText fact true (f.length + 1) f)
      | none, none =>
        let f := if o.has 't' then "%n %s %b %f %u %g %D %i %h %t %T %X %Y %Z %W %o"
          else "  File: %N\n  Size: %-10s\tBlocks: %-10b IO Block: %-6o %F\n" ++
            "Device: 0,0\tInode: %-11i Links: %h\nAccess: (%04a/%10.10A)  Uid: (%5u/%8U)   " ++
            "Gid: (%5g/%8G)\nAccess: %x\nModify: %y\nChange: %z\n Birth: %w"
        sayLine (factsText fact false (f.length + 1) f.toList)
    | .error fault, _ | _, .error fault => blame "cannot statx " p fault 1

end Retouch.Shell.Utility
