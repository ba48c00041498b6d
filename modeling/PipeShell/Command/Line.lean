import PipeShell.Text.Escaped
import PipeShell.Command.Stage
import PipeShell.Settings

/-!
# Lines

A line is split, every command is read, and a lone terminator must ask for a valid status. The
first fault from the left of each step is the one reported.

* `readStages` does the first two steps; what it gives is what the trace shows.
* `checkStatus` does the last one.
* `Line.parse` is the whole, with the trace.
-/

namespace PipeShell

/-- Reads the commands of a line one after another. -/
def readAll (most : Nat) : Nat → List String → Except LineError (List Stage)
  | _, [] => .ok []
  | index, text :: rest => do
    let stage ← Stage.read index text most
    let stages ← readAll most (index + 1) rest
    return stage :: stages

/-- Splits a line and reads its commands. -/
def readStages (settings : Settings) (line : String) : Except LineError (List Stage) := do
  readAll settings.maxWords 0 (← split settings.maxStages line)

/-- Refuses a line that is a terminator alone and asks for an invalid status. -/
def checkStatus (settings : Settings) (stages : List Stage) : Except LineError (List Stage) :=
  match stages with
  | [stage] =>
    if stage.isTerminator settings.terminator then stage.exitStatus.map fun _ => stages
    else .ok stages
  | _ => .ok stages

/-- How the trace shows a stage. -/
def Stage.trace (stage : Stage) : String :=
  s!"Command {stage.index}: {stage.text} {Text.escapeList stage.words}\n"

/-- A line that has been read. -/
structure Parsed where
  /-- What the trace shows, one piece for each stage. -/
  trace : List String
  /-- The stages, or why the line cannot be run. -/
  stages : Except LineError (List Stage)

/-- Reads a line. The trace comes once all commands have been read, before the status check. -/
def parse (settings : Settings) (line : String) : Parsed :=
  match readStages settings line with
  | .error fault => ⟨[], .error fault⟩
  | .ok stages =>
    ⟨if settings.trace then stages.map Stage.trace else [], checkStatus settings stages⟩

end PipeShell
