import PipeShell.Pipeline.Error
import PipeShell.System.Interaction

/-!
# The wiring of a pipeline

A pipeline of `n` stages has `n - 1` pipes, and stage `i` reads from pipe `i - 1` and writes to
pipe `i`. All pipes are made before the first process, and if one is refused, those made before
it are closed again.

* `Wiring.make` makes the pipes, `Wiring.release` closes the shell's ends of them.
* `Wiring.ends` says what a stage reads from and writes to; `Wiring.endsWithin` puts the outer
  streams at the two ends of the chain.
-/

namespace PipeShell

/-- The two ends of a pipe. -/
structure PipeEnds where
  /-- Where the pipe is read. -/
  read : Fd
  /-- Where the pipe is written. -/
  write : Fd
  deriving DecidableEq, Repr

/-- Both ends, the one for reading first. -/
def PipeEnds.toList (p : PipeEnds) : List Fd :=
  [p.read, p.write]

/-- What a stage has in place of the shell's own streams. -/
structure Ends where
  /-- What the stage reads from. -/
  stdin : Option Fd := none
  /-- What the stage writes to. -/
  stdout : Option Fd := none
  deriving DecidableEq, Repr

/-- The streams at the two ends of a pipeline, where they are not the shell's own. -/
structure Outer where
  /-- What the first stage reads from. -/
  source : Option Fd := none
  /-- What the last stage writes to. -/
  sink : Option Fd := none
  deriving DecidableEq, Repr

/-- The descriptors of the outer streams. -/
def Outer.toList (outer : Outer) : List Fd :=
  outer.source.toList ++ outer.sink.toList

/-- The pipes of a pipeline. -/
structure Wiring where
  /-- How many stages the pipeline has. -/
  stages : Nat
  /-- The pipes, in the order of the stages. -/
  pipes : List PipeEnds
  deriving DecidableEq, Repr

namespace Wiring

/-- What stage `index` has by the pipes alone. -/
def ends (w : Wiring) (index : Nat) : Ends where
  stdin := match index with
    | 0 => none
    | previous + 1 => w.pipes[previous]?.map PipeEnds.read
  stdout := w.pipes[index]?.map PipeEnds.write

/-- What stage `index` has when the outer streams stand at the two ends of the chain. -/
def endsWithin (w : Wiring) (outer : Outer) (index : Nat) : Ends where
  stdin := (w.ends index).stdin.or (if index = 0 then outer.source else none)
  stdout := (w.ends index).stdout.or (if index + 1 = w.stages then outer.sink else none)

/-- All ends, in the order in which they were made. -/
def fds (w : Wiring) : List Fd :=
  w.pipes.flatMap PipeEnds.toList

/-- Closes the shell's ends. -/
def release (w : Wiring) : Interaction Unit :=
  .performAll (w.fds.map .close)

/-- Makes `count` more pipes behind those of `w`; if one is refused, all are closed. -/
def extend (w : Wiring) : Nat → Interaction (Except LaunchError Wiring)
  | 0 => .done (.ok w)
  | count + 1 => .persist .pipe fun
    | .ok (read, write) => extend { w with pipes := w.pipes ++ [⟨read, write⟩] } count
    | .error cause => do
      w.release
      return .error (.pipe cause)

/-- Makes the pipes of a pipeline of `stages` stages. -/
def make (stages : Nat) : Interaction (Except LaunchError Wiring) :=
  extend ⟨stages, []⟩ (stages - 1)

end Wiring

end PipeShell
