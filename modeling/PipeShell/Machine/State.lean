import PipeShell.Machine.Editor
import PipeShell.Machine.Program

/-!
# Machines

The state of a machine on which one shell and the processes that it made run side by side. Every
process has a table of descriptors, a descriptor refers to an open file, and an open file may be
an end of a pipe. A pipe holds a bounded number of octets, first in and first out.

Whether a pipe has readers or writers is not counted anywhere: it is read off the tables of all
processes, so it cannot be out of step with them.
-/

namespace PipeShell

/-- The ends of a pipe. -/
inductive Side where
  | read
  | write
  deriving DecidableEq, Repr

/-- A pipe. -/
structure Pipe where
  /-- How many octets the pipe can hold. -/
  capacity : Nat
  /-- The octets that have been written and not been read. -/
  content : Bytes := []
  deriving DecidableEq, Repr

/-- A file that some descriptor refers to. -/
inductive OpenFile where
  /-- An end of a pipe. -/
  | pipeEnd (pipe : Nat) (side : Side)
  /-- A file that is read, and how far it has been read. -/
  | source (content : Bytes) (offset : Nat)
  /-- A file that is written at its end; its octets, the last one first. -/
  | sink (reversed : Bytes)
  /-- A file of the tree, given by its number, and where the next octet is read or written. -/
  | stored (number : Nat) (access : Access) (offset : Nat)
  /-- The file that swallows everything. -/
  | null
  /-- The file that holds zeros without end. -/
  | zeros
  /-- A directory. -/
  | directory
  /-- The terminal. -/
  | terminal
  deriving DecidableEq, Repr

/-- What a file that is written holds. -/
def OpenFile.written : OpenFile → Bytes
  | sink reversed => reversed.reverse
  | _ => []

/-- What is to be learnt about an open file. -/
def OpenFile.kind (tree : FileTree) : OpenFile → NodeKind
  | source content _ => .file false content.length 0
  | sink reversed => .file false reversed.length 0
  | stored number _ _ => .file false (tree.held number).size number
  | directory => .directory
  | _ => .device

/-- How far a process has come. -/
inductive Life (σ : Type) where
  /-- Following its plan. -/
  | preparing (todo : Child)
  /-- Running a program. -/
  | running (program : σ)
  /-- Over, and not waited for. -/
  | ended (how : Ending)
  /-- Over, and waited for. -/
  | collected
  deriving Repr

/-- Who has made a process, and may wait for it. -/
inductive Maker where
  /-- The shell. -/
  | shell
  /-- Another process. -/
  | process (pid : Pid)
  /-- Somebody who is gone. -/
  | nobody
  deriving DecidableEq, Repr

/-- A process that the shell, or another process, has made. -/
structure Process (σ : Type) where
  /-- Its descriptors. -/
  table : DescriptorTable
  /-- How far it has come. -/
  life : Life σ
  /-- Who has made it. -/
  maker : Maker := .shell
  /-- The names that lead to its working directory. -/
  directory : List String := []
  /-- The signals that it ignores. -/
  ignored : List Nat := [Signal.pipe.number]
  /-- The signals that it collects. -/
  collects : List Nat := []
  /-- The signals that it has collected and not looked at, oldest first. -/
  pending : List Nat := []
  /-- Whether one of them has not interrupted anything yet. -/
  interrupts : Bool := false
  /-- Whether a signal has stopped it. -/
  stopped : Bool := false
  /-- When it wakes up, if it waits for a time. -/
  wake : Option Nat := none
  deriving Repr

/-- How a process has ended, if it has and `pid` has made it. -/
def Process.endingFor {σ : Type} (pid : Pid) (child : Process σ) : Option Ending :=
  match child.life with
  | .ended how => if child.maker = .process pid then some how else none
  | _ => none

/-- A machine. The processes that have been made are numbered from zero. -/
structure Machine (σ : Type) where
  /-- The shell's descriptors. -/
  table : DescriptorTable := {}
  /-- The processes that have been made, in that order. -/
  children : Array (Process σ) := #[]
  /-- The pipes, by number. -/
  pipes : Array Pipe := #[]
  /-- The open files, by number. -/
  files : Array OpenFile := #[]
  /-- How many octets a pipe can hold. -/
  pipeCapacity : Nat := 65536
  /-- The shell's descriptors stay below this number, if there is a limit. -/
  descriptorLimit : Option Nat := none
  /-- How many processes may be there that have not been waited for, if there is a limit. -/
  processLimit : Option Nat := none
  /-- Whether processes of the shell that are over vanish without being waited for. -/
  discardsEnded : Bool := false
  /-- How much has been taken of the text that the shell is writing. -/
  taken : Nat := 0
  /-- The terminal. -/
  terminal : Terminal := {}
  /-- The line editor of the shell. -/
  editor : Editor := {}
  /-- The files. -/
  tree : FileTree := {}
  /-- What programs that the shell starts find in their environment. -/
  environment : List Bytes := []
  /-- Whether the shell collects requests to stop. -/
  catchesStops : Bool := false
  /-- The requests to stop that the shell has not looked at, oldest first. -/
  stops : List Signal := []
  /-- The signals that the shell ignores. -/
  ignored : List Nat := [Signal.pipe.number]
  /-- The signals that the shell survives once. -/
  survives : List Nat := [Signal.bus.number, Signal.segv.number]
  /-- The number of the signal that has ended the shell, if one has. -/
  shellKilledBy : Option Nat := none
  /-- The time, in milliseconds. -/
  clock : Nat := 0

/-- The number of the shell, as programs know it. -/
def shellNumber : Nat := 1000

/-- The number of a process, as programs know it. -/
def processNumber (pid : Pid) : Nat := shellNumber + 1 + pid

/-- The process with a number that programs know. -/
def pidOf? (number : Nat) : Option Pid :=
  if shellNumber < number then some (number - shellNumber - 1) else none

namespace Life

variable {σ : Type}

/-- Whether the process can still do something. -/
def isActive : Life σ → Bool
  | preparing _ => true
  | running _ => true
  | _ => false

/-- Whether the process still counts against a limit. -/
def isUncollected : Life σ → Bool
  | collected => false
  | _ => true

end Life

namespace Machine

variable {σ : Type}

/-- Whether an open file is the given end of a pipe. -/
def isEnd (m : Machine σ) (pipe : Nat) (side : Side) (file : Nat) : Bool :=
  m.files[file]? == some (.pipeEnd pipe side)

/-- Whether some process, or the shell, holds the given end of a pipe. -/
def isHeld (m : Machine σ) (pipe : Nat) (side : Side) : Bool :=
  m.table.anyFile (m.isEnd pipe side) ||
    m.children.any fun child => child.table.anyFile (m.isEnd pipe side)

/-- The open file that a descriptor of a table refers to. -/
def file? (m : Machine σ) (table : DescriptorTable) (fd : Fd) : Option (Nat × OpenFile) :=
  (table.get? fd).bind fun entry => m.files[entry.file]?.map fun file => (entry.file, file)

/-- What has been written to an open file, given by its number. -/
def written (m : Machine σ) (number : Nat) : Bytes :=
  (m.files[number]?.map OpenFile.written).getD []

/-- Changes one process. -/
def setChild (m : Machine σ) (pid : Pid) (child : Process σ) : Machine σ :=
  { m with children := m.children.setIfInBounds pid child }

/-- Changes one open file. -/
def setFile (m : Machine σ) (number : Nat) (file : OpenFile) : Machine σ :=
  { m with files := m.files.setIfInBounds number file }

/-- Adds an open file, which gets the next number. -/
def addFile (m : Machine σ) (file : OpenFile) : Machine σ :=
  { m with files := m.files.push file }

/-- How many processes have not been waited for. -/
def uncollected (m : Machine σ) : Nat :=
  m.children.countP fun child => child.life.isUncollected

/-- Whether a process that is over leaves its ending for somebody who may wait for it. -/
def leavesEnding (m : Machine σ) (child : Process σ) : Bool :=
  match child.maker with
  | .shell => !m.discardsEnded
  | .process pid => (m.children[pid]?.map fun maker => maker.life.isActive).getD false
  | .nobody => false

/-- What becomes of a process when the one that has made it is gone. -/
def orphan (pid : Pid) (child : Process σ) : Process σ :=
  if child.maker = .process pid then
    { child with
      maker := .nobody
      life := match child.life with
        | .ended _ => .collected
        | life => life }
  else child

/-- Tells the process that has made another one that this is over, if it wants to know. -/
def notice (m : Machine σ) (maker : Maker) : Machine σ :=
  match maker with
  | .process pid =>
    match m.children[pid]? with
    | none => m
    | some child =>
      if child.collects.contains Signal.chld.number then
        let pending := child.pending ++ [Signal.chld.number]
        m.setChild pid { child with pending, interrupts := true }
      else m
  | _ => m

/-- Ends a process: its descriptors are closed, the one that has made it can learn how it ended,
and nobody waits any more for those that it has made itself. -/
def finish (m : Machine σ) (pid : Pid) (how : Ending) : Machine σ :=
  match m.children[pid]? with
  | none => m
  | some child =>
    let m := (m.setChild pid
      { child with
        table := {}
        stopped := false
        life := if m.leavesEnding child then .ended how else .collected }).notice child.maker
    if m.children.any fun other => other.maker = .process pid then
      { m with children := m.children.map (orphan pid) }
    else m

end Machine

end PipeShell
