import PipeShell.Command.Line
import PipeShell.Pipeline.Launch
import PipeShell.Pipeline.Report

/-!
# Running a line

The order is fixed: read the line, make the pipes, launch every stage, close the shell's pipe
ends, and only then wait. A shell that waited earlier could keep a reader waiting for an end that
the shell itself holds open. If a stage cannot be launched, the ends are closed and the stages
already running are ended and collected.

* `execute` runs a line and tells what happened.
* `run` also puts failures on the error stream.
-/

namespace PipeShell

/-- How lines are run. -/
structure Runner where
  /-- The limits and toggles. -/
  settings : Settings := {}
  /-- The outer streams. -/
  outer : Outer := {}
  deriving Repr

/-- What became of a line. -/
inductive Execution where
  /-- There was nothing to do. -/
  | idle
  /-- The line asks the shell to stop. -/
  | terminate (status : Option Int)
  /-- Every stage was launched and waited for. -/
  | completed (report : Report)
  deriving DecidableEq, Repr

/-- What is to be done after a line. -/
inductive Control where
  /-- Nothing has changed. -/
  | idle
  /-- Go on; this is how the line did. -/
  | next (outcome : Outcome)
  /-- Stop, with this status if one was given. -/
  | terminate (status : Option Int)
  deriving DecidableEq, Repr

/-- Waits for the processes in their order and adds what they tell to the report. -/
def waitAll (r : Report) : List Handle → Interaction Report
  | [] => .done r
  | h :: rest => .persist (.wait h.pid) fun answer =>
    waitAll (r.record h.index h.pid (answer.bind StageStatus.ofEnding)) rest

/-- Launches the stages behind those that run already. All the shell's pipe ends are closed
before the first wait, and also when a stage cannot be launched. -/
def launchAll (l : Launcher) (w : Wiring) (handles : List Handle) :
    List Stage → Interaction (Except LaunchError Execution)
  | [] => do
    w.release
    return .ok (.completed (← waitAll {} handles))
  | stage :: rest => do
    match ← l.launch w stage with
    | .ok (.started h) => launchAll l w (handles ++ [h]) rest
    | .ok (.terminate status) =>
      w.release
      return .ok (.terminate status)
    | .error e =>
      w.release
      cull handles
      return .error e

namespace Runner

/-- How the stages of a line are launched. -/
def launcher (r : Runner) : Launcher :=
  ⟨r.settings.terminator, r.outer⟩

/-- Runs stages that have been read. -/
def start (r : Runner) (stages : List Stage) : Interaction (Except LaunchError Execution) :=
  if stages.isEmpty then .done (.ok .idle)
  else do
    match ← Wiring.make stages.length with
    | .ok w => launchAll r.launcher w [] stages
    | .error e => return .error e

/-- Runs a line and tells what became of it. -/
def execute (r : Runner) (line : String) : Interaction (Except PipelineError Execution) := do
  let parsed := parse r.settings line
  .complainAll parsed.trace
  match parsed.stages with
  | .error e => return .error (.line e)
  | .ok stages => return (← r.start stages).mapError .launch

/-- How a message of the shell is shown. -/
def notice (message : String) : String :=
  s!"pipesh: {message}\n"

/-- Runs a line, shows failures on the error stream, and tells what is to be done next. -/
def run (r : Runner) (line : String) : Interaction Control := do
  match ← r.execute line with
  | .ok .idle => return .idle
  | .ok (.terminate status) => return .terminate status
  | .ok (.completed report) =>
    .complainAll (report.waitErrors.map fun e => notice e.message)
    return .next report.outcome
  | .error e =>
    .complain (notice e.message)
    return .next .failure

end Runner

end PipeShell
