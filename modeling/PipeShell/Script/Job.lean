import PipeShell.Script.State

/-!
# Processes of a script

How a script makes processes and waits for them, and what it does about signals meanwhile.

* `spawn` lets a computation run in a process of its own.
* `waitFor` waits for processes and gives the status of the last one.
-/

namespace PipeShell.Script

/-- The wordings of the deaths by the named signals, in the order of their numbers. -/
def deathTexts : List String :=
  ["Hangup", "Interrupt", "Quit", "Illegal instruction", "Trace/breakpoint trap", "Aborted",
    "Bus error", "Floating point exception", "Killed", "User defined signal 1",
    "Segmentation fault", "User defined signal 2", "Broken pipe", "Alarm clock", "Terminated",
    "Stack fault", "Child exited", "Continued", "Stopped (signal)", "Stopped",
    "Stopped (tty input)", "Stopped (tty output)", "Urgent I/O condition",
    "CPU time limit exceeded", "File size limit exceeded", "Virtual timer expired",
    "Profiling timer expired", "Window changed", "I/O possible", "Power failure",
    "Bad system call"]

/-- The wording of a death by a signal. -/
def deathText (number : Nat) : String :=
  match deathTexts[number - 1]? with
  | some text => text
  | none =>
    let n := number - 34
    s!"Real-time signal {n}"

/-- The status that an ending stands for. -/
def statusOf : Ending → Nat
  | .exited status => status
  | .killed signal => 128 + signal

/-- Whether the script does something of its own about a signal. -/
def hasTraps : Step Bool := do
  return (← get).traps.any fun (_, action) => !action.isEmpty

/-- What is different in a process that a script makes. -/
structure Apart where
  /-- Whether nobody waits for it; then it is not interrupted. -/
  isBackground : Bool := false
  /-- Whether it does not read the input. -/
  readsNothing : Bool := false

/-- Lets a computation go on in a process of its own, which leaves at its end; `leave` is what a
process does last. What the script does about signals is not done there. -/
def spawn (apart : Apart) (leave : Step Unit) (body : Step Unit) : Step Nat := do
  match ← act .fork with
  | .error _ => fail "Cannot fork" 2
  | .ok (some pid) => return pid
  | .ok none =>
    let whole : Step Unit := do
      (← get).traps.forM fun (number, action) => do
        if number ≠ 0 && !action.isEmpty then act (.attempt (.react number .usual))
      modify fun s =>
        { s with traps := s.traps.filter fun (_, action) => action.isEmpty, jobs := [] }
      if apart.isBackground then
        act (.attempt (.react Signal.int.number .ignored))
        act (.attempt (.react Signal.quit.number .ignored))
      if apart.readsNothing then
        act (.close 0)
        let _ ← act (.openFile "/dev/null" .read)
      tryCatch body fun _ => pure ()
      leave
    fun s => do
      let (_, s) ← whole.run s
      Program.exit s.status

/-! ### Waiting -/

/-- Waits for one process, however often signals interrupt that. -/
def waitOne (pid : Nat) : Program (Option Ending) :=
  Program.loop () fun _ => do
    match ← Program.wait (some pid) none with
    | .ok (_, how) => return .inr (some how)
    -- the signal stays collected until the command is over
    | .error .eintr => return .inl ()
    | .error _ => return .inr none

/-- Tells of a violent death. -/
def tellDeath : Ending → Step Unit
  | .killed signal =>
    if signal ≠ Signal.int.number && signal ≠ Signal.pipe.number then
      act (.complain (deathText signal ++ "\n"))
    else pure ()
  | .exited _ => pure ()

/-- Looks which processes of a job have ended meanwhile. -/
def lookAtJob (job : Job) : Step Job := do
  let processes ← job.processes.mapM fun (pid, known) => do
    match known with
    | some how => return (pid, some how)
    | none => return (pid, ((← act (.wait (some pid) (some 0))).toOption.map Prod.snd))
  return { job with processes }

/-- Looks which processes of the jobs have ended meanwhile. -/
def lookAtJobs : Step Unit := do
  let jobs ← (← get).jobs.mapM lookAtJob
  modify fun s => { s with jobs }

namespace State

/-- The number that the next job gets: the least one that no job has, or whose job has been waited
for. -/
def nextJobNumber (s : State) : Nat :=
  let isFree (n : Nat) : Bool := s.jobs.all fun job => job.number ≠ n || job.isDone && job.isWaited
  ((List.range (s.jobs.length + 1)).map (· + 1)).find? isFree |>.getD 1

/-- Forgets a job. -/
def dropJob (s : State) (number : Nat) : State :=
  { s with jobs := s.jobs.filter fun job => job.number ≠ number }

/-- Puts a job in place of what it was. -/
def updateJob (s : State) (job : Job) : State :=
  { s with jobs := s.jobs.map fun other => if other.number = job.number then job else other }

end State

/-- Waits for processes, tells of violent deaths, and gives the status of the last one. -/
def waitFor (pids : List Nat) : Step Nat := do
  modify fun s => s.dropJob s.nextJobNumber
  let status ← pids.foldlM (fun _ pid => do
    match ← act (waitOne pid) with
    | none => return 0
    | some how =>
      tellDeath how
      return statusOf how) 0
  lookAtJobs
  return status

/-- Makes processes a job that nobody waits for. -/
def noteJob (pids : List Nat) : Step Unit :=
  modify fun s =>
    let number := s.nextJobNumber
    let s := s.dropJob number
    { s with
      lastBackground := pids.getLast?
      jobs := { number, processes := pids.map fun pid => (pid, none) } :: s.jobs }

/-! ### Signals -/

/-- How many signals there are, with zero. -/
def signalCount : Nat := 65

/-- Notices the signals that have been collected, `fuel` of them at most. -/
def noticeSignals : Nat → Step Unit
  | 0 => return
  | fuel + 1 => do
    let reply ← act (.request .takeSignal fun
      | .signal number => some number
      | _ => none)
    match reply with
    | .ok (some number) =>
      modify fun s => { s with noticed := s.noticed ++ [number] }
      noticeSignals fuel
    | _ => return

end PipeShell.Script
