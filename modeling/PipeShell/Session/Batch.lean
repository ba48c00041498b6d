import PipeShell.Session.LineReader
import PipeShell.Session.Shell

/-!
# Lines from a file

Without a terminal every line of the input runs, without prompt or greeting, until the input
ends, a line stops the shell, or a request to stop has come in while a line was running. Octets
that are no text are replaced, never refused.

`Batch.turn` is one round of the loop.
-/

namespace PipeShell

/-- A shell that takes its lines from a file. -/
structure Batch where
  /-- The shell. -/
  shell : Shell
  /-- The input. -/
  reader : LineReader := {}
  deriving Repr

namespace Batch

/-- Runs a line. -/
def runLine (b : Batch) (line : Bytes) : Interaction (Batch ⊕ Int) := do
  let (shell, stop) ← b.shell.runLine (Text.decodeLossy line)
  match stop with
  | some status => return .inr status
  | none =>
    if ← takeStop then return .inr shell.last
    else return .inl { b with shell }

/-- One round: a line is run, or a block is read. The result is the status of the session. -/
def turn (b : Batch) : Interaction (Batch ⊕ Int) := do
  let (reader, reading) ← b.reader.next
  let b := { b with reader }
  match reading with
  | .line line => b.runLine line
  | .more => return .inl b
  | .ended => return .inr b.shell.last
  | .failed cause =>
    .complain (Runner.notice cause.ioMessage)
    return .inr 1

end Batch

end PipeShell
