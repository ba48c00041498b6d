import PipeShell.Command.Error
import PipeShell.System.Errno

/-!
# Lines that cannot be run

A line that is well formed may still fail: a pipe or a process may be refused by the system, and
a process may be lost while the shell waits for it. `PipelineError` is everything that stops a
line before its stages are waited for.
-/

namespace PipeShell

/-- Why the pipes or processes of a line could not be made. -/
inductive LaunchError where
  /-- A pipe was refused. -/
  | pipe (cause : Errno)
  /-- A process was refused. -/
  | fork (index : Nat) (cause : Errno)
  /-- The stage has no words. -/
  | emptyStage (index : Nat)
  deriving DecidableEq, Repr

namespace LaunchError

/-- The wording of a failed launch. -/
def message : LaunchError → String
  | pipe cause => s!"cannot create pipe: {cause.message}"
  | fork index cause => s!"cannot create process for command {index}: {cause.message}"
  | emptyStage index => s!"refusing to launch empty command {index}"

/-- The cause that the system gave, if the system is to blame. -/
def cause? : LaunchError → Option Errno
  | pipe cause => some cause
  | fork _ cause => some cause
  | emptyStage _ => none

end LaunchError

/-- A process could not be waited for. -/
structure WaitError where
  /-- The process. -/
  pid : Nat
  /-- The cause that the system gave. -/
  cause : Errno
  deriving DecidableEq, Repr

/-- The wording of a failed wait. -/
def WaitError.message (e : WaitError) : String :=
  s!"waiting for process {e.pid} failed: {e.cause.message}"

/-- Why a line stopped before its stages were waited for. -/
inductive PipelineError where
  /-- The line is malformed. -/
  | line (error : LineError)
  /-- The system refused something. -/
  | launch (error : LaunchError)
  deriving DecidableEq, Repr

namespace PipelineError

/-- The wording of the cause. -/
def message : PipelineError → String
  | line error => error.message
  | launch error => error.message

/-- The cause that the system gave, if the system is to blame. -/
def cause? : PipelineError → Option Errno
  | line _ => none
  | launch error => error.cause?

end PipelineError

end PipeShell
