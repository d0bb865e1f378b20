/-
  The launcher whose programs are the utilities, the shell and the scripts in the tree.
-/
import Retouch.Shell.Run
import Retouch.Verify.Launch

namespace Retouch.Shell

/-- How deep commands and functions may be nested when they run. -/
def runDepth : Nat := 5000

/-- Runs commands and scripts. -/
def runner : Runner := ⟨run runDepth⟩

/-- Why a program cannot be launched. -/
def StartFault.toLaunch : StartFault → LaunchFault
  | .missing => .notFound
  | .denied => .permissionDenied
  | .badFormat => .badFormat

/-- Where programs are looked for. -/
def searchPath : Octets := "/usr/local/sbin:/usr/local/bin:/usr/sbin:/usr/bin:/sbin:/bin".toList

/-- Variables that programs find. -/
def initialVariables (directory : Place) : List (Octets × Octets) :=
  [("HOME".toList, "/root".toList), ("PATH".toList, searchPath), ("PWD".toList, Place.path directory)]

/-- The state in which a program starts: its outputs are the first two channels. -/
def initialState (tree : Tree) (launch : Launch) : State where
  world :=
    { tree := tree
      channels := #[{}, {}]
      deadline := 1000 * launch.limit
      lastProcess := 1000
      alive := [1000] }
  process :=
    { number := 1000
      identity := 1000
      parent := 999
      name := launch.program
      bindings := (initialVariables launch.directory).reverse
      exported := (initialVariables launch.directory).map (·.1)
      directory := launch.directory
      route := launch.directory
      descriptors := [(0, .null), (1, .channel 0), (2, .channel 1)] }

/-- What became of a program, from why it was left and the last state.  Whoever reads its outputs also
    waits for the jobs that have a hold on them. -/
def ending (leave : Except Leave Unit) (s : State) : Bounded :=
  let holders := s.world.jobs.filter fun j => j.holds 0 || j.holds 1
  let elapsed := (holders.filterMap (·.ended)).foldl (fun t e => max t e.time) s.world.clock
  let finished (code : Option Int) : Bounded :=
    if s.world.deadline < elapsed || (s.world.channels.take 2).any (·.endless) then .overtime
    else .finished {
      stdout := (s.world.channels[0]?.map Channel.content).getD []
      stderr := (s.world.channels[1]?.map Channel.content).getD []
      exitCode := code
      elapsed := elapsed }
  match leave with
  | .error .overtime => .overtime
  | .error (.killed _ _) => finished none
  | _ => finished (some s.process.status)

/-- Directories of a system. -/
def systemDirectories : List (List String) :=
  [["dev"], ["etc"], ["home"], ["root"], ["tmp"], ["usr", "bin"], ["usr", "local", "bin"], ["var"]]

/-- Devices of a system. -/
def systemDevices : List (String × Device) :=
  [("null", .null), ("zero", .zero), ("full", .full), ("random", .random), ("urandom", .random),
    ("tty", .terminal)]

/-- The files of a system with its programs. -/
def systemTree : Tree :=
  let t : Tree := systemDirectories.foldl (fun t p => t.makeDirectories (p.map String.toList)) {}
  let t := t.put ["bin".toList] (.link "usr/bin".toList)
  let t := systemDevices.foldl (fun t d => t.put ["dev".toList, d.1.toList] (.device d.2)) t
  Runner.systemPrograms.foldl
    (fun t n =>
      t.put ["usr".toList, "bin".toList, n.toList] (.file (programContent n.toList) { mode := openMode }))
    t

/-- Launches a program. -/
def launcher : Launcher := fun tree launch =>
  let found : Except StartFault Started := do
    let path ← findProgram tree launch.directory searchPath launch.program
    let started ← resolve tree launch.directory interpreterDepth path launch.args
    return if started.name = path then { started with name := launch.program } else started
  match found with
  | .error fault => .error fault.toLaunch
  | .ok started =>
    let act : Act Unit := do
      let left ← tryCatch
        (do
          pass startTime
          runner.start Runner.programDepth started
          return none)
        fun e => return some e
      if left ≠ some .overtime then finishJobs runner.job
      match left with
      | some e => throw e
      | none => return ()
    let (leave, s) := act.run (initialState tree launch)
    .ok (s.world.tree, ending leave s)

end Retouch.Shell
