import PipeShell.Machine.FileTree
import PipeShell.System.Descriptor
import PipeShell.System.Signal

/-!
# Programs

To the machine a program is a state with a next act and a way to go on with the reply. What the
states are is left open: a statement about machines may be made for all programs.

* `Act` lists what a program asks for, `Reply` what it may get.
* `Repertoire` says which programs there are and what they do.
-/

namespace PipeShell

/-- How a file is opened. -/
inductive Access where
  /-- For reading. -/
  | read
  /-- For writing; what the file held is gone. -/
  | overwrite
  /-- For writing behind what the file holds. -/
  | append
  /-- For reading and writing. -/
  | update
  /-- For writing, if there is no such file yet. -/
  | fresh
  deriving DecidableEq, Repr

/-- What a process does about a signal. -/
inductive Reaction where
  /-- What is usual for the signal. -/
  | usual
  /-- Nothing. -/
  | ignored
  /-- The signal is kept until the program looks at it. -/
  | collected
  deriving DecidableEq, Repr

/-- A change to the files. -/
inductive Change where
  /-- Make a directory. -/
  | makeDirectory
  /-- Remove an empty directory. -/
  | removeDirectory
  /-- Remove a file. -/
  | remove
  /-- Give a file another path. -/
  | rename (path : String)
  /-- Give a file a second path. -/
  | link (path : String)
  /-- Choose whether a file may be started as a program. -/
  | setExecutable (executable : Bool)
  deriving DecidableEq, Repr

/-- What a program asks for next. -/
inductive Act where
  /-- Read from a descriptor, this many octets at most. -/
  | read (fd : Fd) (size : Nat)
  /-- Write to a descriptor. -/
  | write (fd : Fd) (bytes : Bytes)
  /-- Give back octets that were read last. -/
  | giveBack (fd : Fd) (count : Nat)
  /-- Open a file. -/
  | openFile (path : String) (access : Access)
  /-- Close a descriptor. -/
  | close (fd : Fd)
  /-- Make a descriptor refer to what another one refers to. -/
  | duplicate (fd : Fd) (target : Nat)
  /-- Let the first free number from a given one on refer to what a descriptor refers to, until a
  program starts. -/
  | save (fd : Fd) (least : Nat)
  /-- Make a pipe. -/
  | pipe
  /-- Make a process that goes on like this one. -/
  | fork
  /-- Start a program in place of this one. -/
  | exec (argv environment : List Bytes)
  /-- Wait for the end of a process that this one has made, or of any; and only until a time has
  passed, if one is given in milliseconds. -/
  | wait (pid : Option Nat) (limit : Option Nat)
  /-- Send a signal to a process. -/
  | signal (pid number : Nat)
  /-- Choose what is done about a signal. -/
  | react (number : Nat) (reaction : Reaction)
  /-- Look at the oldest signal that has been collected. -/
  | takeSignal
  /-- Learn the numbers of this process and of the one that made it. -/
  | identify
  /-- Learn whether a descriptor is a terminal. -/
  | isTerminal (fd : Fd)
  /-- List a directory. -/
  | list (path : String)
  /-- Learn what stands at a path. -/
  | examine (path : String)
  /-- Learn what a descriptor refers to. -/
  | inspect (fd : Fd)
  /-- Make a directory the working directory. -/
  | enter (path : String)
  /-- Learn the path of the working directory. -/
  | whereabouts
  /-- Change the files. -/
  | change (path : String) (change : Change)
  /-- Let time pass, in milliseconds. -/
  | sleep (duration : Nat)
  /-- Nothing. -/
  | pause
  /-- Leave with a status. -/
  | exit (status : Nat)
  deriving DecidableEq, Repr

/-- Whether an act is about the two standard streams, or the end. -/
def Act.isPlain : Act → Bool
  | read fd _ => fd == Fd.stdin
  | write fd _ => fd == Fd.stdout
  | exit _ => true
  | _ => false

/-- What a program gets. -/
inductive Reply where
  /-- It has been done. -/
  | done
  /-- What was read; nothing at the end. -/
  | data (bytes : Bytes)
  /-- How many octets were written. -/
  | written (count : Nat)
  /-- The descriptor of the file. -/
  | opened (fd : Fd)
  /-- The ends of the pipe. -/
  | ends (read write : Fd)
  /-- The number of the new process; none in the new process itself. -/
  | forked (pid : Option Nat)
  /-- A process is over. -/
  | ended (pid : Nat) (how : Ending)
  /-- A signal, if there was one. -/
  | signal (number : Option Nat)
  /-- The numbers of this process and of the one that made it. -/
  | identity (own maker : Nat)
  /-- Whether it is so. -/
  | answer (yes : Bool)
  /-- The names in the directory. -/
  | names (names : List String)
  /-- What stands at the path, or what the descriptor refers to. -/
  | node (kind : NodeKind)
  /-- A path. -/
  | path (path : String)
  /-- It could not be done. -/
  | failed (cause : Errno)
  deriving DecidableEq, Repr

/-- The programs of a machine, with states from `σ`. -/
structure Repertoire (σ : Type) where
  /-- Starts a program, given its environment and the list of its name and arguments. -/
  load : FileTree → (environment argv : List Bytes) → Except Errno σ
  /-- What a program asks for next. -/
  act : σ → Act
  /-- How a program goes on with a reply. -/
  resume : σ → Reply → σ

end PipeShell
