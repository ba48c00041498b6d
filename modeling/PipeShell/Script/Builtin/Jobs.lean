import PipeShell.Script.Builtin.Usage

/-!
# Commands about jobs

The commands of a script that list the processes that have been left to themselves, wait for them,
or would bring them to the front.
-/

namespace PipeShell.Script

/-- The job that an argument names, the latest one without any. -/
def jobOf? (jobs : List Job) (name : Option String) : Except String Job :=
  let shown := name.getD "(null)"
  let orElse (message : String) (job : Option Job) : Except String Job :=
    match job with
    | some job => .ok job
    | none => .error message
  match name.map String.toList with
  | none => orElse "No current job" jobs.head?
  | some ['%'] => orElse "No current job" jobs.head?
  | some ['%', '+'] => orElse "No current job" jobs.head?
  | some ['%', '%'] => orElse "No current job" jobs.head?
  | some ['%', '-'] => orElse "No previous job" (jobs.drop 1).head?
  | some ('%' :: rest) =>
    let number := Text.digits? (String.ofList rest)
    orElse s!"No such job: {shown}" (jobs.find? fun job => some job.number = number)
  | _ => .error s!"No such job: {shown}"

/-- The job that an argument names. -/
def findJob (name : Option String) : Step Job := do
  match jobOf? (← get).jobs name with
  | .ok job => return job
  | .error message => fail message 2

/-! ### Listing -/

/-- How a job is doing. -/
def Job.shownState (job : Job) : String :=
  if !job.isDone then "Running"
  else match job.ending? with
    | some (.exited 0) => "Done"
    | some (.exited status) => s!"Done({status})"
    | some (.killed signal) => deathText signal
    | none => "Running"

/-- The line about a job. `mark` says whether it is the latest one or the one before; `withNumber`
shows the number of every process, each on a line of its own. -/
def Job.shown (job : Job) (mark : Char) (withNumber : Bool) : String :=
  let pad (text : String) (width : Nat) : String :=
    text ++ String.ofList (List.replicate (max 1 (width - text.length)) ' ')
  let number := job.number
  let front := s!"[{number}] {mark} "
  match job.processes.map Prod.fst with
  | [] => ""
  | first :: rest =>
    if withNumber then
      let head := pad (front ++ toString first ++ " " ++ job.shownState) 33
      String.join (head :: rest.map fun pid =>
        let margin := String.ofList (List.replicate front.length ' ')
        " |\n" ++ pad (margin ++ toString pid ++ " ") 33) ++ "\n"
    else pad (front ++ job.shownState) 33 ++ String.join (rest.map fun _ => " | ") ++ "\n"

/-- Lists jobs. Those that are over are forgotten then. -/
def listJobs (arguments : List String) : Step Nat := do
  let given ← options { plain := ['l', 'p'] } arguments
  lookAtJobs
  let all := (← get).jobs
  let chosen ← match given.operands with
    | [] => pure all
    | names => names.mapM fun name => findJob (some name)
  chosen.foldlM (fun _ job => do
    let jobs := (← get).jobs
    let mark := if jobs.head?.any fun other => other.number = job.number then '+'
      else if (jobs.drop 1).head?.any fun other => other.number = job.number then '-' else ' '
    let first := ((job.processes.head?.map Prod.fst).map toString).getD ""
    let status ← say (if given.has 'p' then first ++ "\n" else job.shown mark (given.has 'l'))
    if !given.has 'p' && job.isDone then modify fun s => s.dropJob job.number
    return status) 0

/-! ### Waiting -/

/-- Waits for the processes of a job; the result is a signal that has interrupted that. Violent
deaths are told if `tells`. -/
def waitForProcesses (tells : Bool) :
    List (Nat × Option Ending) → Step (List (Nat × Option Ending) × Option Nat)
  | [] => return ([], none)
  | (pid, some how) :: rest => do
    let (rest, interrupted) ← waitForProcesses tells rest
    return ((pid, some how) :: rest, interrupted)
  | (pid, none) :: rest => do
    match ← act (.wait (some pid) none) with
    | .ok (_, how) =>
      if tells then tellDeath how
      let (rest, interrupted) ← waitForProcesses tells rest
      return ((pid, some how) :: rest, interrupted)
    | .error .eintr =>
      noticeSignals signalCount
      return ((pid, none) :: rest, (← get).noticed.getLast?)
    | .error _ =>
      let (rest, interrupted) ← waitForProcesses tells rest
      return ((pid, some (.exited 0)) :: rest, interrupted)

/-- Waits for a job; the result is a signal that has interrupted that. -/
def waitForJob (tells : Bool) (job : Job) : Step (Option Nat) := do
  let (processes, interrupted) ← waitForProcesses tells job.processes
  modify fun s => s.updateJob { job with processes, isWaited := interrupted.isNone }
  return interrupted

/-- Waits for all jobs, the latest one first. -/
def waitForAll : List Job → Step Nat
  | [] => return 0
  | job :: rest => do
    match ← waitForJob false job with
    | some signal => return 128 + signal
    | none => waitForAll rest

/-- Waits for the jobs that arguments name, by a number or by a process. -/
def waitForNamed : List String → Nat → Step Nat
  | [], status => return status
  | name :: rest, _ => do
    let job ← if name.startsWith "%" then (findJob (some name)).map some
      else do
        let pid ← wholeNumber name
        pure ((← get).jobs.find? fun job => job.lastProcess = pid)
    match job with
    | none => waitForNamed rest 127
    | some job =>
      match ← waitForJob true job with
      | some signal => return 128 + signal
      | none =>
        let job := (← get).jobs.find? fun other => other.number = job.number
        waitForNamed rest (((job.bind Job.ending?).map statusOf).getD 127)

/-- Waits for jobs. -/
def waitCommand (arguments : List String) : Step Nat := do
  match ← operands arguments with
  | [] => waitForAll (← get).jobs
  | names => waitForNamed names 127

/-- Would bring a job to the front, but no job is watched. -/
def bringForward (arguments : List String) : Step Nat := do
  let given ← operands arguments
  let _ ← findJob given.head?
  let shown := given.head?.getD "(null)"
  fail s!"job {shown} not created under job control" 2

end PipeShell.Script
