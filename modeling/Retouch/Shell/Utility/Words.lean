/-
  Utilities that the shell has commands of its own for, which other programs call.
-/
import Retouch.Shell.Condition
import Retouch.Shell.Format
import Retouch.Shell.Utility.Basic

namespace Retouch.Shell.Utility

/-- Ends well. -/
def succeed : Utility Unit := pure ()

/-- Ends badly. -/
def fail : Utility Unit := setStatus 1

/-- Whether a text is an option of `echo`. -/
def isEchoOption (t : Octets) : Bool :=
  match t with
  | '-' :: c :: r => (c :: r).all fun c => c == 'n' || c == 'e' || c == 'E'
  | _ => false

/-- Writes its arguments. -/
def echo : Utility Unit := do
  let args := (← read).args
  let flags := args.takeWhile isEchoOption
  let letters := flags.flatten.filter (· != '-')
  let text := List.intercalate [' '] (args.drop flags.length)
  let escapes := (letters.filter (· != 'n')).getLast? = some 'e'
  let (text, cut) := if escapes then Format.unescape text else (text, false)
  say (if letters.contains 'n' || cut then text else text ++ ['\n'])

/-- Writes its arguments by a format. -/
def printf : Utility Unit := do
  match (← read).args with
  | [] => misuse "missing operand".toList 1
  | ['-', '-'] :: [] => misuse "missing operand".toList 1
  | args =>
    let args := if args.head? = some ['-', '-'] then args.drop 1 else args
    let p := Format.printf .program (args.headD []) (args.drop 1)
    p.faults.forM fun m => complain m 1
    say p.output
    setStatus p.status

/-- Looks at a condition. -/
def test (bracket : Bool) : Utility Unit := do
  let call ← read
  let tree := (← get).tree
  let args := call.args
  if bracket && args.getLast? ≠ some [']'] then refuse "missing ']'".toList 2
  match Condition.eval ⟨tree, call.cwd⟩ (if bracket then args.dropLast else args) with
  | .ok b => setStatus (if b then 0 else 1)
  | .error m => complain m 2

/-- Shows variables that programs see. -/
def printenv : Utility Unit := do
  let o ← options { plain := "0", long := [("null", '0')], status := 2 }
  let mark : Octets := if o.has '0' then ['\x00'] else ['\n']
  let vars := (← read).environment
  if o.operands.isEmpty then vars.forM fun v => say (v.1 ++ '=' :: v.2 ++ mark)
  else
    o.operands.forM fun n => do
      match vars.find? (·.1 == n) with
      | some v => say (v.2 ++ mark)
      | none => setStatus 1

end Retouch.Shell.Utility
