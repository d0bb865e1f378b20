/-
  Signals: their names, and what they do to a process that does not catch them.
-/
import Retouch.Text.Octets

namespace Retouch.Shell.Signal

/-- The signals by name, from number one on; a few numbers have no name. -/
def names : List String :=
  ["HUP", "INT", "QUIT", "ILL", "TRAP", "ABRT", "BUS", "FPE", "KILL", "USR1", "SEGV", "USR2", "PIPE",
    "ALRM", "TERM", "", "CHLD", "CONT", "STOP", "TSTP", "TTIN", "TTOU", "URG", "XCPU", "XFSZ", "VTALRM",
    "PROF", "WINCH", "IO", "PWR", "SYS", "", "", "RTMIN"] ++
    ((List.range 15).map fun i => "RTMIN+" ++ toString (i + 1)) ++
    ((List.range 14).map fun i => "RTMAX-" ++ toString (14 - i)) ++ ["RTMAX"]

/-- The greatest number. -/
def greatest : Nat := 64

/-- The name of a signal; zero is the end of a script, and one without a name is called by its
    number. -/
def name (n : Nat) : String :=
  if n = 0 then "EXIT"
  else
    match names[n - 1]? with
    | some s => if s = "" then toString n else s
    | none => toString n

/-- The number of the signal that a text names, by name or number; zero is the end of a script. -/
def number? (t : Octets) : Option Nat :=
  match Text.natBelow? (greatest + 1) t with
  | some n => some n
  | none =>
    let bare := if "SIG".toList.isPrefixOf t then t.drop 3 else t
    let upper := bare.map Char.toUpper
    if upper = "EXIT".toList then some 0
    else if bare.isEmpty then none
    else (names.findIdx? fun n => n.toList == upper).map (· + 1)

/-- Whether a signal does nothing by itself. -/
def isHarmless (n : Nat) : Bool := [0, 17, 18, 23, 28].contains n

/-- Whether a signal stops a process without ending it. -/
def isStopping (n : Nat) : Bool := [19, 20, 21, 22].contains n

/-- Whether a signal cannot be caught. -/
def isSure (n : Nat) : Bool := n = 9 || n = 19

/-- What is said of a process that a signal has ended. -/
def death (n : Nat) : String :=
  match name n with
  | "HUP" => "Hangup"
  | "INT" | "PIPE" => ""
  | "QUIT" => "Quit"
  | "ILL" => "Illegal instruction"
  | "TRAP" => "Trace/breakpoint trap"
  | "ABRT" => "Aborted"
  | "BUS" => "Bus error"
  | "FPE" => "Floating point exception"
  | "KILL" => "Killed"
  | "USR1" => "User defined signal 1"
  | "SEGV" => "Segmentation fault"
  | "USR2" => "User defined signal 2"
  | "ALRM" => "Alarm clock"
  | "TERM" => "Terminated"
  | "16" => "Stack fault"
  | "XCPU" => "CPU time limit exceeded"
  | "XFSZ" => "File size limit exceeded"
  | "VTALRM" => "Virtual timer expired"
  | "PROF" => "Profiling timer expired"
  | "IO" => "I/O possible"
  | "PWR" => "Power failure"
  | "SYS" => "Bad system call"
  | _ => if 34 ≤ n then "Real-time signal " ++ toString (n - 34) else ""

end Retouch.Shell.Signal
