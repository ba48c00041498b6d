import PipeShell.Command.Stage
import PipeShell.Pipeline.Wiring

/-!
# Launching stages

A stage is launched by making a process with the plan that the wiring gives it. The terminator
is special only when it is the whole line: then no process is made, and the status that it asks
for is the result. Anywhere else it is a process that leaves at once with status zero.

* `launch` launches one stage.
* `cull` ends and collects the processes of a line that cannot be completed: all are sent the
  signal before the first is waited for.
-/

namespace PipeShell

/-- A process that runs a stage. -/
structure Handle where
  /-- The position of the stage. -/
  index : Nat
  /-- The process. -/
  pid : Pid
  deriving DecidableEq, Repr

/-- What launching a stage gives. -/
inductive Launched where
  /-- A process. -/
  | started (handle : Handle)
  /-- Nothing was started: the line is the terminator alone. -/
  | terminate (status : Option Int)
  deriving DecidableEq, Repr

/-- How stages are launched. -/
structure Launcher where
  /-- The word that stops the shell when it is the whole line. -/
  terminator : String
  /-- The outer streams. -/
  outer : Outer := {}
  deriving Repr

namespace Launcher

/-- What the process of a stage does before its program runs. -/
def plan (l : Launcher) (w : Wiring) (stage : Stage) : Child :=
  if stage.isTerminator l.terminator then [.exit 0]
  else
    let ends := w.endsWithin l.outer stage.index
    Child.plan ends.stdin ends.stdout (w.fds ++ l.outer.toList) stage.words

/-- Launches a stage. -/
def launch (l : Launcher) (w : Wiring) (stage : Stage) :
    Interaction (Except LaunchError Launched) :=
  if stage.words.isEmpty then .done (.error (.emptyStage stage.index))
  else if stage.isTerminator l.terminator && w.stages == 1 then
    .done (.ok (.terminate (stage.exitStatus.toOption.join)))
  else .persist (.fork (l.plan w stage)) fun
    | .ok pid => .done (.ok (.started ⟨stage.index, pid⟩))
    | .error cause => .done (.error (.fork stage.index cause))

end Launcher

/-- Waits for each of the processes, without looking at how they end. -/
def collectAll : List Handle → Interaction Unit
  | [] => .done ()
  | h :: rest => .persist (.wait h.pid) fun _ => collectAll rest

/-- Ends all of the processes and waits for them. -/
def cull (handles : List Handle) : Interaction Unit := do
  .performAll (handles.map fun h => .kill h.pid .kill)
  collectAll handles

end PipeShell
