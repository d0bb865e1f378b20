/-
  Permissions of files: how modes are written, changed and shown.
-/
import Retouch.Shell.Format
import Retouch.Shell.Utility.Paths

namespace Retouch.Shell.Utility

/-! ## Changes of modes -/

/-- A change of permissions: the bits it is about, its sign and its letters. -/
structure ModeChange where
  who : Octets
  sign : Char
  letters : Octets

/-- The signs and letters behind a group of users; `fuel` bounds their number. -/
def readActions (who : Octets) : (fuel : Nat) → Octets → Option (List ModeChange)
  | 0, _ => none
  | _, [] => some []
  | fuel + 1, sign :: t =>
    if !"+-=".toList.contains sign then none
    else
      let letters := t.takeWhile fun c => "rwxXst".toList.contains c
      let copied := t.takeWhile fun c => "ugo".toList.contains c
      let letters := if letters.isEmpty then copied.take 1 else letters
      return ⟨who, sign, letters⟩ :: (← readActions who fuel (t.drop letters.length))

/-- The changes that a text such as `u+x,go=r` stands for. -/
def readChanges? (t : Octets) : Option (List ModeChange) := do
  let clauses ← (t.splitOnP (· == ',')).mapM fun clause =>
    let who := clause.takeWhile fun c => "ugoa".toList.contains c
    let actions := clause.drop who.length
    if actions.isEmpty then none else readActions who (actions.length + 1) actions
  return clauses.flatten

/-- The bits of a class of users, out of the lowest three. -/
def spreadBits (who : Octets) (bits : Nat) : Nat :=
  let all := who.isEmpty || who.contains 'a'
  (if all || who.contains 'u' then bits * 64 else 0) |||
    (if all || who.contains 'g' then bits * 8 else 0) ||| (if all || who.contains 'o' then bits else 0)

/-- All bits that a change is about. -/
def ModeChange.reach (c : ModeChange) : Nat :=
  let all := c.who.isEmpty || c.who.contains 'a'
  spreadBits c.who 7 ||| (if all || c.who.contains 'u' then 0o4000 else 0) |||
    (if all || c.who.contains 'g' then 0o2000 else 0) ||| (if all then 0o1000 else 0)

/-- The bits that the letters of a change stand for. -/
def ModeChange.bits (c : ModeChange) (directory : Bool) (before : Nat) : Nat :=
  let all := c.who.isEmpty || c.who.contains 'a'
  let of (letter : Char) : Nat :=
    match letter with
    | 'r' => spreadBits c.who 4
    | 'w' => spreadBits c.who 2
    | 'x' => spreadBits c.who 1
    | 'X' => if directory || before &&& 0o111 != 0 then spreadBits c.who 1 else 0
    | 's' =>
      (if all || c.who.contains 'u' then 0o4000 else 0) |||
        (if all || c.who.contains 'g' then 0o2000 else 0)
    | 't' => if all then 0o1000 else 0
    | 'u' => spreadBits c.who (before / 64 % 8)
    | 'g' => spreadBits c.who (before / 8 % 8)
    | _ => spreadBits c.who (before % 8)
  c.letters.foldl (fun n l => n ||| of l) 0

/-- The permissions after a change; without a class of users, those that new files do not get are
    left alone. -/
def ModeChange.apply (umask : Nat) (directory : Bool) (before : Nat) (c : ModeChange) : Nat :=
  let keep := if c.who.isEmpty then 0o7777 ^^^ umask else 0o7777
  let bits := c.bits directory before &&& keep
  match c.sign with
  | '+' => before ||| bits
  | '-' => before &&& (0o7777 ^^^ bits)
  | _ =>
    let special := if directory then 0o6000 else 0
    let reach := c.reach &&& (0o7777 ^^^ special) ||| bits
    (before &&& (0o7777 ^^^ reach)) ||| bits

/-- The permissions after the change that a text stands for; none if it stands for no change. -/
def applyMode? (mode : Octets) (umask : Nat) (directory : Bool) (before : Nat) : Option Nat :=
  if !mode.isEmpty && mode.all Format.isOctal then
    let n := mode.foldl (fun v d => 8 * v + (d.toNat - 48)) 0
    if 0o7777 < n then none else some n
  else (readChanges? mode).map fun cs => cs.foldl (ModeChange.apply umask directory) before

/-! ## Texts of modes -/

/-- Nine letters for the permissions. -/
def modeLetters (mode : Nat) : Octets :=
  let triple (shift special : Nat) (set unset : Char) : Octets :=
    let bits := mode / shift % 8
    let x := bits % 2 == 1
    [if bits / 4 == 1 then 'r' else '-', if bits / 2 % 2 == 1 then 'w' else '-',
      if mode &&& special != 0 then (if x then set else unset) else if x then 'x' else '-']
  triple 64 0o4000 's' 'S' ++ triple 8 0o2000 's' 'S' ++ triple 1 0o1000 't' 'T'

/-- The letter for the kind of a node. -/
def kindLetter : Node → Char
  | .file _ _ => '-'
  | .directory _ => 'd'
  | .link _ => 'l'
  | .device _ => 'c'

/-- Four digits for the permissions. -/
def modeDigits (mode : Nat) : Octets :=
  let digits := Nat.toDigits 8 mode
  List.replicate (4 - digits.length) '0' ++ digits

/-! ## Changing modes -/

/-- The arguments with modes that start with a dash set apart from options. -/
def partModes : List Octets → List Octets × List Octets
  | [] => ([], [])
  | a :: args =>
    let (modes, others) := partModes args
    match a with
    | ['-', '-'] => ([], a :: args)
    | '-' :: c :: _ =>
      if "rwxXstugoa,+=".toList.contains c || c.isDigit then (a :: modes, others) else (modes, a :: others)
    | _ => (modes, a :: others)

/-- Changes the permissions of what is at a place, and tells of it. -/
def changeMode (o : Options) (place : Place) (shown : Octets) (new : Node → Option Nat) : Utility Unit := do
  match (← get).tree.node? place with
  | none => pure ()
  | some n =>
    match new n with
    | none => pure ()
    | some mode =>
      let before := n.info.mode
      alter fun t => t.put place (n.withMode mode)
      let both (m : Nat) : Octets := modeDigits m ++ " (".toList ++ modeLetters m ++ [')']
      if before ≠ mode ∧ (o.has 'v' || o.has 'c') then
        sayLine ("mode of ".toList ++ quoteName shown ++ " changed from ".toList ++ both before ++
          " to ".toList ++ both mode)
      else if o.has 'v' then
        sayLine ("mode of ".toList ++ quoteName shown ++ " retained as ".toList ++ both mode)

/-- The places below one, with their paths as they are written, each directory before what is in it. -/
def below (t : Tree) (place : Place) (shown : Octets) : List (Place × Octets) :=
  let entries := (t.nodes.map (·.1)).filter fun p => place.isPrefixOf p && p.length != place.length
  let entries := entries.mergeSort fun a b => !decide (b < a)
  entries.map fun p => (p, (p.drop place.length).foldl inside shown)

/-- Changes the permissions of files. -/
def chmod : Utility Unit := do
  let (modes, others) := partModes (← read).args
  let o ← optionsOf {
    plain := "Rfvc", valued := "r"
    long := [("recursive", 'R'), ("silent", 'f'), ("quiet", 'f'), ("verbose", 'v'), ("changes", 'c'),
      ("reference", 'r')] } others
  let operands := modes ++ o.operands
  let reference ← match o.value? 'r' with
    | none => pure none
    | some p =>
      match ← nodeAt p with
      | .ok n => pure (some n.info.mode)
      | .error fault => refuse ("failed to get attributes of ".toList ++ about (quoteName p) fault) 1
  if operands.isEmpty then misuse "missing operand".toList 1
  let mode := operands.headD []
  let files := if reference.isSome then operands else operands.drop 1
  if files.isEmpty then misuse ("missing operand after ".toList ++ quote mode) 1
  if reference.isNone && (applyMode? mode 0 false 0).isNone then
    misuse ("invalid mode: ".toList ++ quote mode) 1
  let umask := (← read).umask
  let new (n : Node) : Option Nat :=
    match reference with
    | some m => some m
    | none => applyMode? mode umask n.isDirectory n.info.mode
  files.forM fun p => do
    match ← nodeAt p, ← placeOf p with
    | .ok _, .ok place =>
      changeMode o place p new
      if o.has 'R' then
        (below (← get).tree place p).forM fun (place, shown) => changeMode o place shown new
    | .error fault, _ | _, .error fault =>
      if o.has 'f' then setStatus 1 else blame "cannot access " p fault 1

end Retouch.Shell.Utility
