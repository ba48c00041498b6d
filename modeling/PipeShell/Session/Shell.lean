import PipeShell.Pipeline.Run

/-!
# The shell between two lines

A shell remembers how its last line did. A blank line and a line that stops the shell leave that
as it is; every other line sets it.

`Shell.runLine` runs a line and tells whether the shell is to stop, and with what status.
-/

namespace PipeShell

/-- A shell. -/
structure Shell where
  /-- How lines are run. -/
  runner : Runner := {}
  /-- The status of the last line. -/
  last : Int := 0
  deriving Repr

namespace Shell

/-- The shell behind a line, and the status to stop with, if the line asks for that. -/
def after (shell : Shell) : Control → Shell × Option Int
  | .idle => (shell, none)
  | .next outcome => ({ shell with last := outcome.exitCode }, none)
  | .terminate status => (shell, some (status.getD shell.last))

/-- Runs a line. -/
def runLine (shell : Shell) (line : String) : Interaction (Shell × Option Int) := do
  return shell.after (← shell.runner.run line)

end Shell

/-- Whether a request to stop has come in. -/
def takeStop : Interaction Bool :=
  .once .takeStop fun
    | .ok (some _) => .done true
    | _ => .done false

end PipeShell
