/-
  Processes in the background.

  A job is put aside when it is started.  It is run, from its start on, when something depends on it:
  when the script waits for it, or when so much time passes that it has ended or has sent a signal
  (`catchUp`).  When that will be is found out by running it and undoing all that it did
  (`Job.foresee`).
-/
import Retouch.Shell.State

namespace Retouch.Shell

/-- Runs a command of a job. -/
abbrev RunCommand := Command → Act Unit

/-! ## Running jobs -/

/-- Changes the job with a number. -/
def modifyJob (number : Nat) (f : Job → Job) : Act Unit :=
  modifyWorld fun w => { w with jobs := w.jobs.map fun j => if j.number = number then f j else j }

/-- Runs a job on its own time; gives how it ends. -/
def Job.run (run : RunCommand) (j : Job) : Act Ending := do
  let before ← process
  let now ← clock
  let alive := (← get).world.alive
  modifyProcess fun _ => j.self
  setClock j.started
  let ending ← tryCatch
    (do
      let signal ← asProcess j.number Process.part (run j.command)
      return { time := ← clock, status := ← status, signal })
    fun e =>
      match e with
      | .overtime => return { time := (← get).world.deadline + 1, status := 0 }
      | e => throw e
  modifyProcess fun _ => before
  modifyWorld fun w => { w with alive }
  setClock now
  return ending

/-- Runs a job and keeps what it did. -/
def Job.commit (run : RunCommand) (j : Job) : Act Unit := do
  modifyJob j.number fun k => { k with ended := some ⟨j.started, 0, none⟩ }
  let ending ← j.run run
  modifyJob j.number fun k => { k with ended := some ending }

/-- When a job will end, and when it will send a first signal to another process. -/
def Job.foresee (run : RunCommand) (j : Job) : Act (Nat × Option Nat) := do
  match j.forecast with
  | some f => return f
  | none =>
    let before ← get
    modifyJob j.number fun k => { k with ended := some ⟨j.started, 0, none⟩ }
    let ending ← j.run run
    let after := (← get).world.sent
    set before
    let new := after.filter fun m => m.process != j.number && !before.world.sent.contains m
    let first := (new.map (·.time)).foldl (fun least t => some (min t (least.getD t))) none
    modifyJob j.number fun k => { k with forecast := some (ending.time, first) }
    return (ending.time, first)

/-- The jobs that have not been run, the first one first. -/
def pendingJobs : Act (List Job) := do
  return ((← get).world.jobs.filter (·.ended.isNone)).reverse

/-- Runs the jobs that have ended by a time, or have sent a signal. -/
def catchUp (run : RunCommand) (time : Nat) : Act Unit := do
  (← pendingJobs).forM fun j => do
    if j.started ≤ time then
      let (ending, first) ← j.foresee run
      if ending ≤ time || first.any (· ≤ time) then j.commit run

/-- Lets time pass while a process sleeps; a signal may end it on the way. -/
def pause (run : RunCommand) (micros : Nat) : Act Unit := do
  let goal := (← clock) + micros
  catchUp run goal
  let s ← get
  let fatal := s.world.sent.filter fun m =>
    m.process == s.process.identity && m.time ≤ goal && endsProcess s.process m.signal
  match fatal.mergeSort fun a b => a.time ≤ b.time with
  | m :: _ =>
    setClock (max s.world.clock m.time)
    pass 0
    die m.signal
  | [] => pass micros

/-! ## Waiting -/

/-- Whether a job has a hold on a channel: one of its descriptors leads there, and its command does
    not connect it elsewhere. -/
def Job.holds (j : Job) (channel : Nat) : Bool :=
  let held := (j.self.descriptors.filter (·.2 == .channel channel)).map (·.1)
  !(j.command.redirections.foldl Redirection.stillHeld held).isEmpty

/-- How many jobs are waited for at most. -/
def jobLimit : Nat := 10000

/-- Runs the jobs that have a hold on a channel, and waits for them. -/
def finishHolders (run : RunCommand) (channel : Nat) : Act Unit := do
  let step (_ : Unit) : Act (Unit × Bool) := do
    match (← pendingJobs).find? (·.holds channel) with
    | some j =>
      j.commit run
      return ((), false)
    | none => return ((), true)
  iterate step jobLimit ()
  let ends := ((← get).world.jobs.filter (·.holds channel)).filterMap (·.ended)
  let last := (ends.map (·.time)).foldl max (← clock)
  pass (last - (← clock))

/-- Runs all jobs that are left.  One that is known to go on beyond the deadline need not be run. -/
def finishJobs (run : RunCommand) : Act Unit := do
  let step (_ : Unit) : Act (Unit × Bool) := do
    match ← pendingJobs with
    | j :: _ =>
      let deadline := (← get).world.deadline
      match j.forecast with
      | some (time, _) =>
        if deadline < time then modifyJob j.number fun k => { k with ended := some ⟨time, 0, none⟩ }
        else j.commit run
      | none => j.commit run
      return ((), false)
    | [] => return ((), true)
  iterate step jobLimit ()

/-- Waits until a time; a signal that is caught ends the waiting. -/
def waitUntil (time : Nat) : Act Bool := do
  let s ← get
  let mine := s.world.sent.filter fun m =>
    m.process == s.process.identity && m.time ≤ time && !Signal.isHarmless m.signal &&
      !s.process.traps.any fun t => t.1 == m.signal && t.2.isEmpty && !Signal.isSure m.signal
  match mine.mergeSort fun a b => a.time ≤ b.time with
  | m :: _ =>
    setClock (max s.world.clock m.time)
    pass 0
    if endsProcess s.process m.signal then die m.signal
    setStatus (128 + m.signal)
    return false
  | [] =>
    pass (time - s.world.clock)
    return true

/-- Forgets the job with a number. -/
def forgetJob (number : Nat) : Act Unit :=
  modifyWorld fun w => { w with jobs := w.jobs.filter (·.number != number) }

/-- The jobs of the running process. -/
def ownJobs : Act (List Job) := do
  let p ← process
  return ((← get).world.jobs.filter (·.owner == p.identity)).reverse

/-- Waits for all jobs of the running process. -/
def waitForAll (run : RunCommand) : Act Unit := do
  (← ownJobs).forM fun j => do
    if j.ended.isNone then j.commit run
  let jobs ← ownJobs
  let last := (jobs.filterMap (·.ended)).foldl (fun t e => max t e.time) (← clock)
  if ← waitUntil last then
    setStatus 0
    jobs.forM fun j => forgetJob j.number

/-- Waits for a job, and takes its status. -/
def waitFor (run : RunCommand) (number : Nat) : Act Unit := do
  match (← ownJobs).find? (·.number == number) with
  | none => setStatus 127
  | some j =>
    if j.ended.isNone then j.commit run
    let ending := (((← ownJobs).find? (·.number == number)).bind (·.ended)).getD ⟨← clock, 0, none⟩
    if ← waitUntil ending.time then
      match ending.signal with
      | some signal => if (← process).waited < ending.time then tellDeath signal
      | none => pure ()
      setStatus ending.status
      forgetJob number

/-- Puts a command aside as a job. -/
def startJob (c : Command) : Act Unit := do
  let number ← newProcess
  let p ← process
  let started := (← clock) + startTime
  let descriptors := (0, Target.null) :: p.descriptors.filter (·.1 != 0)
  let job : Job :=
    { number, owner := p.identity, started, command := c
      self := { p with descriptors, loops := 0, tested := false } }
  modifyWorld fun w => { w with jobs := job :: w.jobs }
  modifyProcess (·.assign ['!'] (Text.ofNat number))
  setStatus 0

end Retouch.Shell
