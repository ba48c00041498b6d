import PipeShell.Machine.Run
import PipeShell.Options
import PipeShell.Programs.Loading

/-!
# The command line

Runs the session that the arguments ask for, on a machine whose files are the installed ones. The
input is read in one go: as what has been typed, if it comes from a terminal, and as a file
otherwise. What the session writes is shown when it is over.
-/

namespace PipeShell

/-- Reads a stream to its end. -/
partial def readToEnd (stream : IO.FS.Stream) (done : ByteArray) : IO ByteArray := do
  let block ← stream.read 65536
  if block.isEmpty then return done
  readToEnd stream (done ++ block)

/-- How many steps a session may take. -/
def stepLimit : Nat := 1000000000

/-- The machine that a session of the command line runs on. -/
def commandMachine (input : Bytes) (isTerminal : Bool) : Machine (Program Unit) :=
  { table := .ofList [⟨0, false⟩, ⟨1, false⟩, ⟨2, false⟩]
    files := #[if isTerminal then .terminal else .source input 0, .sink [], .sink []]
    terminal := .ofTyped (input ++ [Terminal.endOfFileKey, Terminal.endOfFileKey])
    tree := { root := .directory installed } }

end PipeShell

open PipeShell in
/-- Runs the session that the arguments ask for, and leaves with its exit code. -/
def main (arguments : List String) : IO UInt32 := do
  let environment : Environment :=
    { trace := ← IO.getEnv "SHELL_DEBUG", terminal := some "dumb" }
  let stdin ← IO.getStdin
  let input ← readToEnd stdin .empty
  let machine := commandMachine input.toList (← stdin.isTty)
  let run := machine.repeatRun repertoire Session.turn stepLimit stepLimit
    (.ofArguments arguments environment)
  let machine := run.machine.settle repertoire stepLimit
  (← IO.getStdout).write ⟨(machine.written 1).toArray⟩
  (← IO.getStderr).write ⟨(machine.written 2).toArray⟩
  return match run with
    | .finished status _ => UInt32.ofNat (exitCode status)
    | .killed signal _ => UInt32.ofNat (128 + signal)
    | .stuck _ => 1
