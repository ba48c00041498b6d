import PipeShell.System.Interaction
import PipeShell.Text.Lines

/-!
# Reading lines

Octets are read in blocks and handed over in lines. What lies behind the line that is handed over
is kept for the next one. Each attempt reads at most one block, so a line that spans many blocks
takes as many attempts.

`LineReader.next` is one attempt.
-/

namespace PipeShell

/-- What has been read and not been handed over. -/
structure LineReader where
  /-- The octets, in the order in which they were read. -/
  pending : Bytes := []
  deriving DecidableEq, Repr

/-- What an attempt to read a line comes to. -/
inductive LineRead where
  /-- A line, with its line feed unless the input ends without one. -/
  | line (bytes : Bytes)
  /-- Something was read, but no line is complete. -/
  | more
  /-- There is no further input. -/
  | ended
  /-- Reading failed; what was pending is lost. -/
  | failed (cause : Errno)
  deriving DecidableEq, Repr

namespace LineReader

/-- How many octets are read at once. -/
def blockSize : Nat := 8192

/-- Hands over a line that is complete already, or reads one block. -/
def next (r : LineReader) : Interaction (LineReader × LineRead) :=
  match Text.cutLine r.pending with
  | some (line, rest) => .done (⟨rest⟩, .line line)
  | none => .persist (.read Fd.stdin blockSize) fun
    | .ok [] => .done ({}, if r.pending.isEmpty then .ended else .line r.pending)
    | .ok (block : Bytes) => .done (⟨r.pending ++ block⟩, .more)
    | .error cause => .done ({}, .failed cause)

end LineReader

end PipeShell
